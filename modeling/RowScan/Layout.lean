import RowScan.Arithmetic
import RowScan.Number.Reading
import RowScan.Text.Blank
import RowScan.Violation

/-!
The physical layout of a bit-sliced index: the constants estimates are calibrated with. A layout
comes from named variables, each of which overrides one default, and is valid when its rows have
cache lines and address slots and its density is a probability.
-/

namespace RowScan

structure Layout (R : Type) where
  /-- Cache lines scanned when a row is read in full. -/
  cachelinesPerRow : UInt32
  /-- The fraction of set bits assumed of a shared row. -/
  density : R
  /-- Independent draws of a document into a row. -/
  addressSlotsPerRow : UInt32
  /-- Rows of every term that hold no postings. -/
  reservedRows : UInt32
  deriving Repr

namespace Layout

def reference : Layout Float where
  cachelinesPerRow := 60
  density := 0.1
  addressSlotsPerRow := 512
  reservedRows := 1

def cachelinesVariable : String := "ROWCOST_CACHELINES_PER_ROW"

def densityVariable : String := "ROWCOST_DENSITY"

def slotsVariable : String := "ROWCOST_ADDRESS_SLOTS_PER_ROW"

def reservedVariable : String := "ROWCOST_RESERVED_ROWS"

def variableNames : List String :=
  [cachelinesVariable, densityVariable, slotsVariable, reservedVariable]

def isProbability [Arithmetic R] (number : R) : Bool := 0 ≤ number ∧ number ≤ 1

def validate (layout : Layout Float) : Except Violation Unit :=
  if layout.cachelinesPerRow = 0 then .error (.config .noCachelines)
  else if layout.addressSlotsPerRow = 0 then .error (.config .noSlots)
  else if isProbability layout.density then .ok ()
  else .error (.config (.density layout.density))

def word? (text : String) : Option UInt32 :=
  (Natural.read Natural.limit32 text).toOption.map UInt32.ofNat

def variableValue (lookup : String → Option String) (name : String) (read : String → Option α)
    (default : α) : Except Violation α :=
  match lookup name with
  | none => .ok default
  | some text =>
    match read (Blank.trim text) with
    | some value => .ok value
    | none => .error (.config (.notValue name text))

def ofLookup (lookup : String → Option String) : Except Violation (Layout Float) := do
  let cachelines ← variableValue lookup cachelinesVariable word? reference.cachelinesPerRow
  let density ← variableValue lookup densityVariable Reading.float? reference.density
  let slots ← variableValue lookup slotsVariable word? reference.addressSlotsPerRow
  let reserved ← variableValue lookup reservedVariable word? reference.reservedRows
  let layout : Layout Float := ⟨cachelines, density, slots, reserved⟩
  layout.validate
  return layout

end Layout

end RowScan
