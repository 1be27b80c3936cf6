import Mathlib
import RowScan.Comparison

/-!
What a sink of limited room holds. However a text is cut into pieces, the sink takes its bytes up to
the room it has, and once a write has failed it is full: no byte of a later row gets in.
-/

namespace RowScan

namespace Sink

def fill (sink : Sink) (text : ByteArray) : Sink :=
  ⟨sink.bytes ++ text.extract 0 sink.room, sink.room - text.size⟩

def status (sink : Sink) (size : Nat) : Except IoFault Unit :=
  if size ≤ sink.room then .ok () else .error .sinkFull

def written (sink : Sink) (text : ByteArray) : Except IoFault Unit × Sink :=
  (sink.status text.size, sink.fill text)

theorem status_eq_ok (sink : Sink) (size : Nat) :
    sink.status size = .ok () ↔ size ≤ sink.room := by
  unfold status
  split <;> simp_all

theorem status_of_excess (sink : Sink) {size : Nat} (exceeds : ¬ size ≤ sink.room) :
    sink.status size = .error .sinkFull :=
  if_neg exceeds

theorem fill_fill (sink : Sink) (first second : ByteArray) :
    (sink.fill first).fill second = sink.fill (first ++ second) := by
  simp only [fill, ByteArray.extract_append, ByteArray.append_assoc, ByteArray.size_append,
    Nat.zero_sub, Nat.sub_sub]

theorem fill_of_full (sink : Sink) (text : ByteArray) (full : sink.room = 0) :
    sink.fill text = sink := by
  cases sink
  simp_all [fill]

theorem written_empty (sink : Sink) : sink.written .empty = (.ok (), sink) := by
  have nothing : ByteArray.empty.extract 0 sink.room = .empty := by
    rw [← ByteArray.size_eq_zero_iff, ByteArray.size_extract, ByteArray.size_empty, Nat.min_zero]
  simp [written, status, fill, nothing]

/-- A text that fits counts in full, and so does one that does not when something follows it. -/
theorem status_fill (sink : Sink) (text : ByteArray) (size : Nat)
    (counts : text.size ≤ sink.room ∨ 0 < size) :
    (sink.fill text).status size = sink.status (text.size + size) := by
  have fits : size ≤ sink.room - text.size ↔ text.size + size ≤ sink.room := by omega
  simp only [status, fill, fits]

theorem written_append (sink : Sink) (first second : ByteArray)
    (next : Sink → Except IoFault Unit × Sink)
    (goesOn : next (sink.fill first) = (sink.fill first).written second) :
    (match sink.written first with
      | (.ok (), filled) => next filled
      | (.error fault, filled) => (.error fault, filled)) = sink.written (first ++ second) := by
  rw [written, written, ← fill_fill, ByteArray.size_append]
  by_cases fits : first.size ≤ sink.room
  · rw [← status_fill sink first _ (Or.inl fits), (status_eq_ok sink _).mpr fits]
    exact goesOn
  · have full : (sink.fill first).room = 0 := Nat.sub_eq_zero_of_le (Nat.le_of_not_le fits)
    have beyond : ¬ first.size + second.size ≤ sink.room := by omega
    rw [fill_of_full _ _ full, status_of_excess sink fits, status_of_excess sink beyond]

theorem write_eq (sink : Sink) (piece : ByteArray) : sink.write piece = sink.written piece := by
  have room : sink.room - min sink.room piece.size = sink.room - piece.size := by omega
  simp only [write, written, status, fill, ByteArray.size_extract, Nat.sub_zero, room]

theorem writePieces_eq (sink : Sink) (pieces : List String) :
    sink.writePieces pieces = sink.written (String.join pieces).toUTF8 := by
  induction pieces generalizing sink with
  | nil => exact sink.written_empty.symm
  | cons piece rest ih =>
      have joined : (String.join (piece :: rest)).toUTF8 =
          piece.toUTF8 ++ (String.join rest).toUTF8 := by
        simp
      rw [joined, writePieces, write_eq]
      exact written_append sink _ _ (fun filled => filled.writePieces rest) (ih _)

theorem writeRow_eq (sink : Sink) (fields : List String) :
    sink.writeRow fields = sink.written (Writer.rowText fields).toUTF8 :=
  sink.writePieces_eq (Writer.rowPieces fields)

theorem toUTF8_text_cons (fields : List String) (rows : List (List String)) :
    (Writer.text (fields :: rows)).toUTF8 =
      (Writer.rowText fields).toUTF8 ++ (Writer.text rows).toUTF8 := by
  simp [Writer.text]

theorem writeRows_eq (sink : Sink) (rows : List (List String)) :
    sink.writeRows rows = sink.written (Writer.text rows).toUTF8 := by
  induction rows generalizing sink with
  | nil => exact sink.written_empty.symm
  | cons fields rest ih =>
      rw [toUTF8_text_cons, writeRows, writeRow_eq]
      exact written_append sink _ _ (fun filled => filled.writeRows rest) (ih _)

/-! A row is never empty, for it ends with an LF, so none fits behind one that did not. -/

theorem size_rowText_pos (fields : List String) : 0 < (Writer.rowText fields).toUTF8.size := by
  have ending : 0 < (String.join ["\n"]).toUTF8.size := by decide
  cases fields with
  | nil => exact ending
  | cons field rest =>
      simp only [Writer.rowText, Writer.rowPieces, String.join_append,
        String.toUTF8_eq_toByteArray, String.toByteArray_append, ByteArray.size_append] at ending ⊢
      omega

theorem size_text_take_pos {rows : List (List String)} {index : Nat}
    (inside : index < rows.length) : 0 < (Writer.text (rows.take (index + 1))).toUTF8.size := by
  cases rows with
  | nil => simp at inside
  | cons fields rest =>
      rw [List.take_succ_cons, toUTF8_text_cons, ByteArray.size_append]
      have ended := size_rowText_pos fields
      omega

theorem tryRows_eq (sink : Sink) (rows : List (List String)) :
    sink.tryRows rows =
      ((List.range rows.length).map fun index =>
          sink.status (Writer.text (rows.take (index + 1))).toUTF8.size,
        sink.fill (Writer.text rows).toUTF8) := by
  induction rows generalizing sink with
  | nil => exact Prod.ext rfl (congrArg Prod.snd sink.written_empty).symm
  | cons fields rest ih =>
      have first : (Writer.text ((fields :: rest).take 1)).toUTF8 =
          (Writer.rowText fields).toUTF8 := by
        simp [Writer.text]
      have later : ∀ index ∈ List.range rest.length,
          (sink.fill (Writer.rowText fields).toUTF8).status
              (Writer.text (rest.take (index + 1))).toUTF8.size =
            sink.status (Writer.text ((fields :: rest).take (index + 1 + 1))).toUTF8.size := by
        intro index member
        have inside := List.mem_range.mp member
        rw [status_fill _ _ _ (Or.inr (size_text_take_pos inside)), List.take_succ_cons,
          toUTF8_text_cons, ByteArray.size_append]
      simp only [tryRows, writeRow_eq, written, ih, fill_fill, ← toUTF8_text_cons]
      rw [List.map_congr_left later, List.length_cons, List.range_succ_eq_map, List.map_cons,
        List.map_map, Nat.zero_add, first]
      rfl

theorem writeTable_eq (sink : Sink) (comparisons : List (Comparison Float)) :
    Comparison.writeTable sink comparisons =
      ((sink.status (Comparison.tableText comparisons).toUTF8.size).mapError .io,
        sink.fill (Comparison.tableText comparisons).toUTF8) := by
  rw [Comparison.writeTable, writeRows_eq]
  rfl

theorem bytes_fill_of_fit (sink : Sink) {text : ByteArray} (fits : text.size ≤ sink.room) :
    (sink.fill text).bytes = sink.bytes ++ text := by
  have whole := ByteArray.extract_zero_max_size (a := text) (i := sink.room)
  rw [Nat.max_eq_left fits] at whole
  rw [fill, whole]

theorem bytes_fill (capacity : Nat) (text : ByteArray) :
    ((ofCapacity capacity).fill text).bytes = text.extract 0 capacity :=
  ByteArray.empty_append

/-- Rows that are tried one after the other leave the front of their text in a sink, as much of it
as there is room for. A row succeeds exactly if the text up to its end fits, and behind a row that
was cut off no later one adds a byte. A table fails as a whole if it does not fit, and otherwise
leaves the room that it does not need. -/
theorem front_of_text_held (capacity : Nat) :
    (∀ rows : List (List String),
      let text := (Writer.text rows).toUTF8
      let (statuses, sink) := (ofCapacity capacity).tryRows rows
      sink.bytes = text.extract 0 capacity ∧
        sink.bytes.size = min capacity text.size ∧
        statuses = (List.range rows.length).map (fun index =>
          if (Writer.text (rows.take (index + 1))).toUTF8.size ≤ capacity then .ok ()
          else .error .sinkFull) ∧
        ∀ later, capacity < text.size →
          ((ofCapacity capacity).tryRows (rows ++ later)).2 = sink) ∧
    ∀ comparisons : List (Comparison Float),
      let text := (Comparison.tableText comparisons).toUTF8
      let (status, sink) := Comparison.writeTable (ofCapacity capacity) comparisons
      status = (if text.size ≤ capacity then .ok () else .error (.io .sinkFull)) ∧
        sink.bytes = text.extract 0 capacity ∧
        sink.room = capacity - text.size := by
  constructor
  · intro rows text
    simp only [tryRows_eq]
    refine ⟨bytes_fill capacity text, ?_, rfl, ?_⟩
    · rw [bytes_fill, ByteArray.size_extract, Nat.sub_zero]
    · intro later beyond
      have full : ((ofCapacity capacity).fill text).room = 0 :=
        Nat.sub_eq_zero_of_le (Nat.le_of_lt beyond)
      have split : (Writer.text (rows ++ later)).toUTF8 = text ++ (Writer.text later).toUTF8 := by
        simp [text, Writer.text]
      rw [split, ← fill_fill, fill_of_full _ _ full]
  · intro comparisons text
    simp only [writeTable_eq]
    refine ⟨?_, bytes_fill capacity text, rfl⟩
    by_cases fits : text.size ≤ capacity
    · rw [if_pos fits, (status_eq_ok _ _).mpr fits]
      rfl
    · rw [if_neg fits, status_of_excess _ fits]
      rfl

def cutRows : List (List String) := [["a", "b,c"], ["d"], []]

theorem front_of_text_held_cut :
    let (statuses, sink) := (ofCapacity 9).tryRows cutRows
    sink.bytes = "a,\"b,c\"\nd".toUTF8 ∧
      statuses = [.ok (), .error .sinkFull, .error .sinkFull] ∧
      9 < (Writer.text cutRows).toUTF8.size ∧
      ((ofCapacity 9).tryRows (cutRows ++ [["e"]])).2 = sink := by
  have exceeds : 9 < (Writer.text cutRows).toUTF8.size := by decide
  obtain ⟨bytes, _, statuses, later⟩ := (front_of_text_held 9).1 cutRows
  exact ⟨bytes.trans (by decide), statuses.trans (by rfl), exceeds, later [["e"]] exceeds⟩

end Sink

end RowScan
