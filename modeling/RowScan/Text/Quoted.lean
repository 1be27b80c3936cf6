import RowScan.Text.Obscure

/-!
Texts as messages show them: between double quotes, with every character that would not be seen as
itself written as an escape.
-/

namespace RowScan.Quoted

def numbered (char : Char) : List Char :=
  '\\' :: 'u' :: '\x7b' :: Nat.toDigits 16 char.toNat ++ ['\x7d']

def escape (char : Char) : List Char :=
  if char = '\x00' then ['\\', '0']
  else if char = '\t' then ['\\', 't']
  else if char = '\n' then ['\\', 'n']
  else if char = '\r' then ['\\', 'r']
  else if char = '"' then ['\\', '"']
  else if char = '\\' then ['\\', '\\']
  else if Obscure.isObscure char then numbered char
  else [char]

def quote (text : String) : String :=
  String.ofList ('"' :: text.toList.flatMap escape ++ ['"'])

end RowScan.Quoted
