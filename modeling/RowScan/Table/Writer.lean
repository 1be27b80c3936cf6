/-!
Writing tables. A field that holds a comma, a quote or a character of a line ending is written
between quotes, with its own quotes doubled; every row ends with an LF.
-/

namespace RowScan

namespace Writer

def needsQuotes (field : String) : Bool :=
  field.toList.any fun char => char == ',' || char == '"' || char == '\n' || char == '\r'

def doubleQuotes : List Char → List Char
  | [] => []
  | char :: rest =>
    if char = '"' then '"' :: '"' :: doubleQuotes rest else char :: doubleQuotes rest

def fieldPieces (field : String) : List String :=
  if needsQuotes field then ["\"", String.ofList (doubleQuotes field.toList), "\""] else [field]

def laterPieces (fields : List String) : List String :=
  fields.flatMap fun field => "," :: fieldPieces field

def rowPieces : List String → List String
  | [] => ["\n"]
  | field :: rest => fieldPieces field ++ laterPieces rest ++ ["\n"]

def rowText (fields : List String) : String := String.join (rowPieces fields)

def text (rows : List (List String)) : String := String.join (rows.map rowText)

end Writer

end RowScan
