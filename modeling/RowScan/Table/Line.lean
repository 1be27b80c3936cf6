/-!
The physical lines of a table. Bytes are cut after each LF; a piece that is UTF-8 is a line of text,
any other piece is a broken line.
-/

namespace RowScan

def cutAfterNewline (pieces : Array ByteArray × ByteArray) (byte : UInt8) :
    Array ByteArray × ByteArray :=
  let current := pieces.2.push byte
  if byte = 10 then (pieces.1.push current, .empty) else (pieces.1, current)

/-- The bytes cut after each LF. Only the last piece may lack an LF, and no piece is empty. -/
def physicalLines (bytes : ByteArray) : List ByteArray :=
  let (closed, last) := bytes.data.foldl cutAfterNewline (#[], .empty)
  if last.isEmpty then closed.toList else (closed.push last).toList

inductive Line where
  | text (chars : List Char)
  | broken
  deriving Repr, DecidableEq

namespace Line

def ofBytes (bytes : ByteArray) : Line :=
  match String.fromUTF8? bytes with
  | some decoded => .text decoded.toList
  | none => .broken

/-- Drops the LF at the end of a line and one CR before it. A CR without an LF stays. -/
def withoutEnding (chars : List Char) : List Char :=
  match chars.reverse with
  | '\n' :: '\r' :: rest => rest.reverse
  | '\n' :: rest => rest.reverse
  | _ => chars

def withoutMark : List Char → List Char
  | '\ufeff' :: rest => rest
  | chars => chars

/-- What line `number` of an input says: its characters without their ending, and without the byte
order mark on the first line. -/
def content (number : Nat) (chars : List Char) : List Char :=
  if number = 1 then withoutMark (withoutEnding chars) else withoutEnding chars

end Line

end RowScan
