import RowScan.Table.Writer
import RowScan.Violation

/-!
Sinks that hold a limited number of bytes. A piece that does not fit is written as far as it fits,
and then the write fails.
-/

namespace RowScan

structure Sink where
  bytes : ByteArray
  room : Nat

namespace Sink

def ofCapacity (capacity : Nat) : Sink := ⟨.empty, capacity⟩

def write (sink : Sink) (piece : ByteArray) : Except IoFault Unit × Sink :=
  let fitting := piece.extract 0 sink.room
  let filled : Sink := ⟨sink.bytes ++ fitting, sink.room - fitting.size⟩
  (if piece.size ≤ sink.room then .ok () else .error .sinkFull, filled)

def writePieces (sink : Sink) : List String → Except IoFault Unit × Sink
  | [] => (.ok (), sink)
  | piece :: rest =>
    match sink.write piece.toUTF8 with
    | (.ok (), filled) => filled.writePieces rest
    | (.error fault, filled) => (.error fault, filled)

def writeRow (sink : Sink) (fields : List String) : Except IoFault Unit × Sink :=
  sink.writePieces (Writer.rowPieces fields)

def writeRows (sink : Sink) : List (List String) → Except IoFault Unit × Sink
  | [] => (.ok (), sink)
  | row :: rest =>
    match sink.writeRow row with
    | (.ok (), filled) => filled.writeRows rest
    | (.error fault, filled) => (.error fault, filled)

/-- Tries every row, whatever became of those before it. -/
def tryRows (sink : Sink) : List (List String) → List (Except IoFault Unit) × Sink
  | [] => ([], sink)
  | row :: rest =>
    let (status, filled) := sink.writeRow row
    let (statuses, last) := filled.tryRows rest
    (status :: statuses, last)

end Sink

end RowScan
