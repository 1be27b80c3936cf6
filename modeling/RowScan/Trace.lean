import RowScan.Event
import RowScan.Table.Reader

/-!
Traces of query terms: how many rows each term has and what its match touched. Each row of a trace
is decoded on its own, so a reader of records goes on after a row that cannot be used.
-/

namespace RowScan

structure Timings where
  parse : String
  plan : String
  matching : String
  deriving Repr, DecidableEq

structure TermRecord where
  line : Nat
  term : String
  /-- Physical rows of the term, reserved rows included. -/
  rows : UInt64
  matched : UInt64
  quadwords : UInt64
  cachelines : UInt64
  timings : Timings
  deriving Repr, DecidableEq

namespace Trace

def columns : List String :=
  ["query", "rows", "matches", "quadwords", "cachelines", "parse", "plan", "match"]

def recordOfRow (input : String) (row : Row) : Except Violation TermRecord :=
  match row.fields with
  | [term, rows, matched, quadwords, cachelines, parse, plan, matching] => do
    let rows ← row.natural input "rows" rows
    let matched ← row.natural input "matches" matched
    let quadwords ← row.natural input "quadwords" quadwords
    let cachelines ← row.natural input "cachelines" cachelines
    return ⟨row.line, term, rows, matched, quadwords, cachelines, ⟨parse, plan, matching⟩⟩
  | fields => .error (.record input row.line (.arity columns.length fields.length))

def openTable (input : String) (bytes : ByteArray) : Except Violation Reader :=
  match (Reader.ofBytes input bytes).header columns with
  | (.error violation, _) => .error violation
  | (.ok (), reader) => .ok reader

def next (reader : Reader) : Except Violation (Option TermRecord) × Reader :=
  match reader.next with
  | (.error violation, rest) => (.error violation, rest)
  | (.ok none, rest) => (.ok none, rest)
  | (.ok (some row), rest) => ((recordOfRow reader.input row).map some, rest)

def answers (reader : Reader) : List (Except Violation TermRecord) :=
  reader.answers.map fun answer => answer.bind (recordOfRow reader.input)

def readAll (reader : Reader) : List Event × Except Violation (List TermRecord) :=
  match (answers reader).mapM id with
  | .error violation => ([], .error violation)
  | .ok records => ([.traceRead reader.input records.length], .ok records)

def load (input : String) (bytes : ByteArray) :
    List Event × Except Violation (List TermRecord) :=
  match openTable input bytes with
  | .error violation => ([], .error violation)
  | .ok reader => readAll reader

end Trace

end RowScan
