import RowScan.Event
import RowScan.Text.Alphanumeric
import RowScan.Text.Blank
import RowScan.Text.Pattern

/-!
Directives: each names a greatest level for the events of all sources or of those whose source
starts with some text, such as `reader=debug`. Between brackets a directive may ask for more: the
name of a span around the event, and a field the event has, with or without the value of that field,
such as `reader[load{line}]=debug`.
-/

namespace RowScan

structure FieldTest where
  name : String
  value : Option String
  deriving Repr, DecidableEq

structure Directive where
  source : Option String
  span : Option String
  field : Option FieldTest
  rank : Nat
  deriving Repr, DecidableEq

namespace Directive

def openRank : Nat := Level.trace.rank

def rank? (text : String) : Option Nat :=
  match Natural.read Natural.limit64 text with
  | .ok number => if number ≤ openRank then some number else none
  | .error _ =>
    match String.ofList (text.toList.map Char.toLower) with
    | "off" => some 0
    | "error" => some Level.error.rank
    | "warn" => some Level.warn.rank
    | "info" => some Level.info.rank
    | "debug" => some Level.debug.rank
    | "trace" => some Level.trace.rank
    | _ => none

inductive Part where
  | start
  | word (first : Nat)
  | span (first : Nat)
  | field (first : Nat)
  | fieldEnd
  | behind
  | level (first : Nat)
  deriving Repr, DecidableEq

structure Draft where
  part : Part
  source : Option String
  span : Option String
  field : Option FieldTest
  deriving Repr, DecidableEq

def slice (text : List Char) (first last : Nat) : String :=
  String.ofList ((text.take last).drop first)

def beginsWord (char : Char) : Bool :=
  char == '-' || char == ':' || char == '_' || Alphanumeric.isAlphanumeric char

/-- A field's name, with its value behind an equals sign: a number or a pattern. What follows a
second equals sign does not count. -/
def fieldTest? (text : String) : Option FieldTest :=
  match text.splitOn "=" with
  | name :: value :: _ =>
    if (Reading.float? value).isSome ∨ Pattern.isValid value then some ⟨name, some value⟩ else none
  | names => some ⟨names.headD "", none⟩

def Draft.step (text : List Char) (draft : Draft) : Char × Nat → Option Draft
  | (char, position) =>
    match draft.part with
    | .start =>
      if char = '[' then some { draft with part := .span (position + 1) }
      else if beginsWord char then some { draft with part := .word position }
      else none
    | .word first =>
      let source := some (slice text first position)
      if char = '=' then some { draft with part := .level (position + 1), source := source }
      else if char = '[' then some { draft with part := .span (position + 1), source := source }
      else some draft
    | .span first =>
      let name := slice text first position
      if char = ']' then some { draft with part := .behind, span := some name }
      else if char = '\x7b' then
        let span := if name = "" then none else some name
        some { draft with part := .field (position + 1), span := span }
      else some draft
    | .field first =>
      if char = '\x7d' then
        let name := slice text first position
        if name = "" then none
        else
          (fieldTest? name).map fun field => { draft with part := .fieldEnd, field := some field }
      else some draft
    | .fieldEnd => if char = ']' then some { draft with part := .behind } else none
    | .behind => if char = '=' then some { draft with part := .level (position + 1) } else none
    | .level _ => some draft

def Draft.finish (text : List Char) (draft : Draft) : Option Directive :=
  let withRank (rank : Nat) : Directive := ⟨draft.source, draft.span, draft.field, rank⟩
  match draft.part with
  | .start | .span _ | .field _ | .fieldEnd => none
  | .word first =>
    let word := slice text first text.length
    match rank? word with
    | some rank => some (withRank rank)
    | none => some ⟨some word, draft.span, draft.field, openRank⟩
  | .behind => some (withRank openRank)
  | .level first =>
    match slice text first text.length with
    | "" => some (withRank openRank)
    | level => (rank? level).map withRank

/-- Reads a directive. The positions of its parts are counted in the text without the white space at
its ends, and the parts are cut out of the text with it; so a directive with white space before or
behind it asks for something else than one without. -/
def ofText? (text : String) : Option Directive := do
  let positions := (Blank.trimList text.toList).zipIdx
  let draft ← positions.foldlM (Draft.step text.toList) ⟨.start, none, none, none⟩
  draft.finish text.toList

def isPlain (directive : Directive) : Bool :=
  directive.span.isNone && (directive.field.bind FieldTest.value).isNone

def fieldName (directive : Directive) : String := (directive.field.map FieldTest.name).getD ""

def covers (directive : Directive) (event : Event) : Bool :=
  (directive.source.all fun source => event.source.startsWith source) &&
    directive.field.all fun field => event.fieldNames.contains field.name

def sourceReach (directive : Directive) : Nat :=
  match directive.source with
  | some source => source.length + 1
  | none => 0

def outranks (directive other : Directive) : Bool :=
  other.sourceReach < directive.sourceReach ||
    (other.sourceReach == directive.sourceReach && !(directive.fieldName < other.fieldName))

end Directive

end RowScan
