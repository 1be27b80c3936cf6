import RowScan.Number.Reading
import RowScan.Violation

/-!
Rows of a table and the values in their fields.
-/

namespace RowScan

/-- The fields of a row and the line, counted from 1, on which the row starts. -/
structure Row where
  line : Nat
  fields : List String
  deriving Repr, DecidableEq

structure MissingField where
  count : Nat
  index : Nat
  deriving Repr, DecidableEq

def MissingField.message (missing : MissingField) : String :=
  "index out of bounds: the len is " ++ Natural.text missing.count ++ " but the index is " ++
    Natural.text missing.index

namespace Row

def field (row : Row) (index : Nat) : Except MissingField String :=
  match row.fields[index]? with
  | some field => .ok field
  | none => .error ⟨row.fields.length, index⟩

def expectArity (row : Row) (input : String) (arity : Nat) : Except Violation Unit :=
  if row.fields.length = arity then .ok ()
  else .error (.record input row.line (.arity arity row.fields.length))

def natural (row : Row) (input column field : String) : Except Violation UInt64 :=
  match Natural.read Natural.limit64 field with
  | .ok number => .ok (UInt64.ofNat number)
  | .error _ => .error (.record input row.line (.notNatural column field))

def number (row : Row) (input column field : String) : Except Violation Float :=
  match Reading.float? field with
  | some number => .ok number
  | none => .error (.record input row.line (.notNumber column field))

end Row

end RowScan
