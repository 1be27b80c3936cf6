import RowScan.CommandLine.Directive

/-!
Which events are shown. A filter is a list of directives; for an event the most specific of those
that cover it decides, and without one the event is not shown. The program has no spans and no event
is judged by the values of its fields, so only plain directives count.
-/

namespace RowScan

abbrev Filter := List Directive

namespace Filter

def standard : Filter := [⟨none, none, none, Level.info.rank⟩]

def ofText? (text : String) : Option Filter :=
  ((text.splitOn ",").filter (· ≠ "")).mapM Directive.ofText?

def ofVariable (value : Option String) : Filter := (value.bind ofText?).getD standard

/-- The more specific of two directives, the second of equally specific ones. -/
def preferred (best : Option Directive) (directive : Directive) : Option Directive :=
  match best with
  | none => some directive
  | some other => if directive.outranks other then some directive else some other

def directiveFor? (filter : Filter) (event : Event) : Option Directive :=
  (filter.filter fun directive => directive.isPlain && directive.covers event).foldl preferred none

def shows (filter : Filter) (event : Event) : Bool :=
  match filter.directiveFor? event with
  | some directive => event.level.rank ≤ directive.rank
  | none => false

end Filter

end RowScan
