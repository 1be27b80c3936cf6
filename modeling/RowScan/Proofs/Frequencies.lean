import Mathlib
import RowScan.Frequencies
import RowScan.Proofs.Table.Violations

/-!
A table of frequencies that loads gives every term the probability of the last row for it; any other
fails with the first of its violations.
-/

namespace RowScan

theorem Row.number_eq_ok (row : Row) (input column field : String) (value : Float) :
    row.number input column field = .ok value ↔ Reading.float? field = some value := by
  unfold number
  cases Reading.float? field <;> simp

theorem Row.place_of_number {row : Row} {input column field : String} {violation : Violation}
    (refused : row.number input column field = .error violation) :
    violation.place? = some (input, row.line) := by
  unfold number at refused
  split at refused
  · simp at refused
  · obtain rfl := Except.error.inj refused
    rfl

namespace Frequencies

variable [Arithmetic R]

theorem lookup_insert (frequencies : Frequencies R) (entry : FrequencyEntry R) (term : String) :
    (frequencies.insert entry).lookup term =
      if entry.term = term then entry.probability else frequencies.lookup term := by
  simp [lookup, insert, Std.HashMap.getD_insert]

theorem lookup_insertAll (entries : List (FrequencyEntry R)) (frequencies : Frequencies R)
    (term : String) :
    (∃ earlier entry later, entries = earlier ++ entry :: later ∧ entry.term = term ∧
        (∀ other ∈ later, other.term ≠ term) ∧
        (entries.foldl insert frequencies).lookup term = entry.probability) ∨
      (∀ entry ∈ entries, entry.term ≠ term) ∧
        (entries.foldl insert frequencies).lookup term = frequencies.lookup term := by
  induction entries generalizing frequencies with
  | nil => simp
  | cons first rest ih =>
      rw [List.foldl_cons]
      -- The first entry counts only when no later one is for the same term.
      rcases ih (frequencies.insert first) with
        ⟨earlier, entry, later, split, found⟩ | ⟨absent, kept⟩
      · exact Or.inl ⟨first :: earlier, entry, later, by rw [split, List.cons_append], found⟩
      · rw [lookup_insert] at kept
        by_cases same : first.term = term
        · rw [if_pos same] at kept
          exact Or.inl ⟨[], first, rest, rfl, same, absent, kept⟩
        · rw [if_neg same] at kept
          exact Or.inr ⟨by simpa [same] using absent, kept⟩

theorem entryOfRow_eq_ok (input : String) (row : Row) (entry : FrequencyEntry Float) :
    entryOfRow input row = .ok entry ↔
      ∃ hash gram stream text, row.fields = [hash, gram, stream, text, entry.term] ∧
        Reading.float? text = some entry.probability ∧
        Layout.isProbability entry.probability = true := by
  constructor
  · intro decoded
    unfold entryOfRow at decoded
    split at decoded
    · rename_i hash gram stream text term shape
      simp only [bind_eq_ok, Row.number_eq_ok] at decoded
      obtain ⟨probability, read, accepted⟩ := decoded
      split at accepted
      · rename_i valid
        obtain rfl : ⟨term, probability⟩ = entry := by simpa [pure, Except.pure] using accepted
        exact ⟨hash, gram, stream, text, shape, read, valid⟩
      · simp [throw, throwThe, MonadExceptOf.throw] at accepted
    · simp at decoded
  · rintro ⟨hash, gram, stream, text, shape, read, valid⟩
    simp only [entryOfRow, shape, bind_eq_ok, Row.number_eq_ok]
    exact ⟨entry.probability, read, by simp [valid, pure, Except.pure]⟩

theorem addRows_eq_ok (input : String) (frequencies : Frequencies Float) (events : Array Event)
    (answers : List (Except Violation Row)) (table : Frequencies Float)
    (added : (addRows input frequencies events answers).2 = .ok table) :
    ∃ (rows : List Row) (entries : List (FrequencyEntry Float)), answers = rows.map .ok ∧
      rows.map (entryOfRow input) = entries.map .ok ∧ table = entries.foldl insert frequencies := by
  induction answers generalizing frequencies events with
  | nil => exact ⟨[], [], rfl, rfl, by simpa [addRows, eq_comm] using added⟩
  | cons answer rest ih =>
      cases answer with
      | error violation => simp [addRows] at added
      | ok row =>
          cases decoded : entryOfRow input row with
          | error violation => simp [addRows, decoded] at added
          | ok entry =>
              simp only [addRows, decoded] at added
              obtain ⟨rows, entries, rfl, decodedAll, rfl⟩ := ih _ _ added
              exact ⟨row :: rows, entry :: entries, rfl, by simp [decoded, decodedAll], rfl⟩

theorem addRows_of_decoded (input : String) (frequencies : Frequencies Float)
    (events : Array Event) (rows : List Row) (entries : List (FrequencyEntry Float))
    (decoded : rows.map (entryOfRow input) = entries.map .ok) :
    (addRows input frequencies events (rows.map .ok)).2 =
      .ok (entries.foldl insert frequencies) := by
  induction rows generalizing frequencies events entries with
  | nil =>
      obtain rfl : entries = [] := by simpa [eq_comm] using decoded
      rfl
  | cons row rest ih =>
      rw [List.map_cons] at decoded
      obtain ⟨entry, later, rfl, first, others⟩ := List.map_eq_cons_iff.mp decoded.symm
      rw [List.map_cons, addRows, ← first, List.foldl_cons]
      exact ih _ _ later others.symm

/-- The probability that the rows of a table give a term. -/
inductive Gives (rows : List Row) (term : String) : Float → Prop where
  | last {earlier later : List Row} {row : Row} {hash gram stream text : String}
      {probability : Float} (split : rows = earlier ++ row :: later)
      (shape : row.fields = [hash, gram, stream, text, term])
      (read : Reading.float? text = some probability)
      (final : ∀ other ∈ later, other.fields[4]? ≠ some term) : Gives rows term probability
  | unknown (absent : ∀ row ∈ rows, row.fields[4]? ≠ some term) : Gives rows term 0

theorem lookup_empty (term : String) : (empty : Frequencies Float).lookup term = 0 := by
  have zero : (Zero.zero : Float) = 0 := by decide +kernel
  rw [lookup, empty, Std.HashMap.getD_empty]
  exact zero

theorem term_of_entryOfRow {input : String} {row : Row} {entry : FrequencyEntry Float}
    (decoded : entryOfRow input row = .ok entry) : row.fields[4]? = some entry.term := by
  obtain ⟨hash, gram, stream, text, shape, _⟩ := (entryOfRow_eq_ok input row entry).mp decoded
  rw [shape]
  rfl

theorem absent_of_decoded {input term : String} {rows : List Row}
    {entries : List (FrequencyEntry Float)}
    (decoded : rows.map (entryOfRow input) = entries.map .ok)
    (absent : ∀ entry ∈ entries, entry.term ≠ term) : ∀ row ∈ rows, row.fields[4]? ≠ some term := by
  intro row member found
  have listed : entryOfRow input row ∈ entries.map .ok := by
    rw [← decoded]
    exact List.mem_map_of_mem member
  obtain ⟨entry, inside, same⟩ := List.mem_map.mp listed
  rw [term_of_entryOfRow same.symm] at found
  exact absent entry inside (Option.some.inj found)

theorem gives_lookup (input : String) (rows : List Row) (entries : List (FrequencyEntry Float))
    (decoded : rows.map (entryOfRow input) = entries.map .ok) (term : String) :
    Gives rows term ((entries.foldl insert empty).lookup term) := by
  rcases lookup_insertAll entries empty term with
    ⟨earlier, entry, later, rfl, same, final, found⟩ | ⟨absent, kept⟩
  · rw [List.map_append, List.map_cons, List.map_eq_append_iff] at decoded
    obtain ⟨before, behind, rfl, _, split⟩ := decoded
    obtain ⟨row, after, rfl, first, others⟩ := List.map_eq_cons_iff.mp split
    obtain ⟨hash, gram, stream, text, shape, read, _⟩ :=
      (entryOfRow_eq_ok input row entry).mp first
    rw [found]
    exact .last rfl (by rw [shape, same]) read (absent_of_decoded others final)
  · rw [kept, lookup_empty]
    exact .unknown (absent_of_decoded decoded absent)

theorem load_eq_ofEntries (input : String) (bytes : ByteArray) (frequencies : Frequencies Float)
    (loaded : (load input bytes).2 = .ok frequencies) :
    ∃ (line : Nat) (rows : List Row) (entries : List (FrequencyEntry Float)),
      (Reader.ofBytes input bytes).answers = .ok ⟨line, columns⟩ :: rows.map .ok ∧
        rows.map (entryOfRow input) = entries.map .ok ∧ frequencies = ofEntries entries := by
  unfold load at loaded
  rcases passed : (Reader.ofBytes input bytes).header columns with ⟨violation | done, reader⟩
  · simp [passed] at loaded
  · obtain ⟨_, line, whole⟩ := Reader.answers_of_header _ reader columns (by decide) passed
    simp only [passed] at loaded
    rcases added : addRows input empty #[] reader.answers with ⟨events, violation | table⟩
    · simp [added] at loaded
    · obtain rfl : table = frequencies := by simpa [added] using loaded
      obtain ⟨rows, entries, answered, decoded, same⟩ :=
        addRows_eq_ok input empty #[] reader.answers table (by rw [added])
      exact ⟨line, rows, entries, by rw [whole, answered], decoded, same⟩

theorem load_eq_ok (input : String) (bytes : ByteArray) (frequencies : Frequencies Float)
    (loaded : (load input bytes).2 = .ok frequencies) :
    ∃ (line : Nat) (rows : List Row),
      (Reader.ofBytes input bytes).answers = .ok ⟨line, columns⟩ :: rows.map .ok ∧
        ∀ term, Gives rows term (frequencies.lookup term) := by
  obtain ⟨line, rows, entries, answered, decoded, rfl⟩ :=
    load_eq_ofEntries input bytes frequencies loaded
  exact ⟨line, rows, answered, gives_lookup input rows entries decoded⟩

theorem load_of_answers (input : String) (bytes : ByteArray) (line : Nat) (rows : List Row)
    (entries : List (FrequencyEntry Float))
    (answered : (Reader.ofBytes input bytes).answers = .ok ⟨line, columns⟩ :: rows.map .ok)
    (decoded : rows.map (entryOfRow input) = entries.map .ok) :
    (load input bytes).2 = .ok (ofEntries entries) := by
  obtain ⟨rest, passed, _, others⟩ := Reader.header_of_answers _ columns line _ answered
  have added := addRows_of_decoded input empty #[] rows entries decoded
  rw [← others] at added
  rcases found : addRows input empty #[] rest.answers with ⟨events, result⟩
  obtain rfl : result = .ok (entries.foldl insert empty) := by simpa [found] using added
  simp only [load, passed, found]
  rfl

theorem place_of_entryOfRow (input : String) (row : Row) (violation : Violation)
    (refused : entryOfRow input row = .error violation) :
    violation.place? = some (input, row.line) := by
  unfold entryOfRow at refused
  split at refused
  · rw [bind_eq_error] at refused
    rcases refused with number | ⟨probability, _, outside⟩
    · exact Row.place_of_number number
    · split at outside
      · simp [pure, Except.pure] at outside
      · obtain rfl := Except.error.inj outside
        rfl
  · obtain rfl := Except.error.inj refused
    rfl

theorem fault?_addRows (input : String) (frequencies : Frequencies Float) (events : Array Event)
    (answers : List (Except Violation Row)) :
    fault? (addRows input frequencies events answers).2 =
      (answers.filterMap fun answer => fault? (answer.bind (entryOfRow input))).head? := by
  induction answers generalizing frequencies events with
  | nil => rfl
  | cons answer rest ih =>
      cases answer with
      | error violation => rfl
      | ok row =>
          cases decoded : entryOfRow input row with
          | error violation => simp [addRows, decoded, Except.bind]
          | ok entry =>
              simp only [addRows, decoded, List.filterMap_cons, Except.bind, fault?_ok]
              exact ih _ _

theorem fault?_load (input : String) (bytes : ByteArray) :
    fault? (load input bytes).2 =
      (Table.violations input columns (entryOfRow input) (linesOf bytes)).head? := by
  have header := Table.head?_violations_header input columns (entryOfRow input) bytes (by decide)
  unfold load
  rcases passed : (Reader.ofBytes input bytes).header columns with ⟨violation | done, reader⟩
  · rw [passed] at header
    exact header.symm
  · rw [passed] at header
    obtain ⟨same, first⟩ := header
    rw [first, ← fault?_addRows input empty #[]]
    simp only
    rcases addRows input empty #[] reader.answers with ⟨duplicates, violation | frequencies⟩ <;> rfl

end Frequencies

end RowScan
