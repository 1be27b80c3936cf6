import Mathlib
import RowScan.Proofs.Frequencies
import RowScan.Proofs.Number.Reading
import RowScan.Proofs.Table.Reading

/-!
Which tables of frequencies load, and what a loaded one holds. A table loads when its first row is
the header and every other row lists a term with a probability. It then holds the terms that are
listed, each with the last of its probabilities, and reports how many rows gave way to later ones.
-/

namespace RowScan

namespace Frequencies

/-! What entries put in a table. -/

section Entries

variable {R : Type}

theorem contains_insert (frequencies : Frequencies R) (entry : FrequencyEntry R) (term : String) :
    (frequencies.insert entry).contains term = true ↔
      entry.term = term ∨ frequencies.contains term = true := by
  simp [contains, insert, Std.HashMap.contains_insert]

theorem size_insert (frequencies : Frequencies R) (entry : FrequencyEntry R) :
    (frequencies.insert entry).size =
      if frequencies.contains entry.term then frequencies.size else frequencies.size + 1 := by
  simp [contains, size, insert, Std.HashMap.size_insert]

theorem ofEntries_append (entries : List (FrequencyEntry R)) (last : FrequencyEntry R) :
    ofEntries (entries ++ [last]) = (ofEntries entries).insert last := by
  rw [ofEntries, List.foldl_append]
  rfl

theorem contains_ofEntries (entries : List (FrequencyEntry R)) (term : String) :
    (ofEntries entries).contains term = true ↔ term ∈ entries.map FrequencyEntry.term := by
  induction entries using List.reverseRecOn with
  | nil => simp [ofEntries, empty, contains]
  | append_singleton entries last ih =>
      rw [ofEntries_append, contains_insert, ih, List.map_append, List.mem_append, or_comm]
      simp [eq_comm]

theorem size_ofEntries (entries : List (FrequencyEntry R)) :
    (ofEntries entries).size = (entries.map FrequencyEntry.term).toFinset.card := by
  induction entries using List.reverseRecOn with
  | nil => simp [ofEntries, empty, size]
  | append_singleton entries last ih =>
      have listed : (ofEntries entries).contains last.term = true ↔
          last.term ∈ (entries.map FrequencyEntry.term).toFinset := by
        rw [contains_ofEntries, List.mem_toFinset]
      rw [ofEntries_append, size_insert, ih, List.map_append, List.toFinset_append,
        List.map_singleton, List.toFinset_cons, List.toFinset_nil, insert_empty_eq,
        Finset.union_singleton]
      by_cases known : (ofEntries entries).contains last.term = true
      · rw [if_pos known, Finset.insert_eq_of_mem (listed.mp known)]
      · rw [if_neg known, Finset.card_insert_of_notMem (mt listed.mpr known)]

end Entries

/-! What rows list. -/

def IsListing (row : Row) : Prop :=
  ∃ hash gram stream text term probability, row.fields = [hash, gram, stream, text, term] ∧
    Reading.float? text = some probability ∧ 0 ≤ probability ∧ probability ≤ 1

def terms (rows : List Row) : List String := rows.filterMap fun row => row.fields[4]?

/-- One event for each row whose term a row before it has. -/
def overrides (rows : List Row) : List Event :=
  rows.zipIdx.filterMap fun (row, index) =>
    (row.fields[4]?.filter (· ∈ terms (rows.take index))).map fun term =>
      .duplicateTerm term row.line

theorem isListing_iff (input : String) (row : Row) :
    IsListing row ↔ ∃ entry, entryOfRow input row = .ok entry := by
  simp only [entryOfRow_eq_ok, Layout.isProbability_float]
  constructor
  · rintro ⟨hash, gram, stream, text, term, probability, shape, read, valid⟩
    exact ⟨⟨term, probability⟩, hash, gram, stream, text, shape, read, valid⟩
  · rintro ⟨entry, hash, gram, stream, text, shape, read, valid⟩
    exact ⟨hash, gram, stream, text, entry.term, entry.probability, shape, read, valid⟩

theorem isListing_all_iff (input : String) (rows : List Row) :
    (∀ row ∈ rows, IsListing row) ↔
      ∃ entries : List (FrequencyEntry Float), rows.map (entryOfRow input) = entries.map .ok := by
  simp only [isListing_iff input, ← mapM_eq_ok]
  refine ⟨exists_mapM_eq_ok, ?_⟩
  rintro ⟨entries, decoded⟩ row member
  obtain ⟨entry, _, same⟩ := List.mem_map.mp
    ((mapM_eq_ok _ _ _).mp decoded ▸ List.mem_map_of_mem member)
  exact ⟨entry, same.symm⟩

theorem terms_of_decoded {input : String} {rows : List Row}
    {entries : List (FrequencyEntry Float)}
    (decoded : rows.map (entryOfRow input) = entries.map .ok) :
    terms rows = entries.map FrequencyEntry.term := by
  induction rows generalizing entries with
  | nil =>
      obtain rfl : entries = [] := by simpa [eq_comm] using decoded
      rfl
  | cons row rest ih =>
      rw [List.map_cons] at decoded
      obtain ⟨entry, later, rfl, first, others⟩ := List.map_eq_cons_iff.mp decoded.symm
      have term := term_of_entryOfRow first.symm
      have tail := ih others.symm
      simp only [terms, List.filterMap_cons, term, List.map_cons] at tail ⊢
      rw [tail]

theorem terms_append (rows : List Row) (row : Row) {term : String}
    (shown : row.fields[4]? = some term) : terms (rows ++ [row]) = terms rows ++ [term] := by
  simp [terms, shown]

/-! What is reported of rows that give way to later ones. -/

theorem overrides_append (rows : List Row) (row : Row) {term : String}
    (shown : row.fields[4]? = some term) :
    overrides (rows ++ [row]) =
      overrides rows ++ if term ∈ terms rows then [.duplicateTerm term row.line] else [] := by
  unfold overrides
  rw [List.zipIdx_append, List.filterMap_append]
  congr 1
  · apply List.filterMap_congr
    rintro ⟨other, index⟩ member
    have inside : index ≤ rows.length := by
      have := List.snd_lt_of_mem_zipIdx member
      omega
    simp only [List.take_append_of_le_length inside]
  · by_cases known : term ∈ terms rows <;> simp [shown, known, Option.filter]

theorem length_overrides (rows : List Row) (listed : ∀ row ∈ rows, IsListing row) :
    (overrides rows).length + (terms rows).toFinset.card = rows.length := by
  induction rows using List.reverseRecOn with
  | nil => rfl
  | append_singleton rows row ih =>
      obtain ⟨hash, gram, stream, text, term, probability, shape, _⟩ := listed row (by simp)
      have shown : row.fields[4]? = some term := by
        rw [shape]
        rfl
      have earlier := ih fun other member => listed other (List.mem_append_left _ member)
      rw [overrides_append rows row shown, terms_append rows row shown, List.toFinset_append,
        List.toFinset_cons, List.toFinset_nil, insert_empty_eq, Finset.union_singleton,
        List.length_append, List.length_append, List.length_singleton]
      by_cases known : term ∈ terms rows
      · rw [if_pos known, Finset.insert_eq_of_mem (List.mem_toFinset.mpr known),
          List.length_singleton]
        omega
      · rw [if_neg known, Finset.card_insert_of_notMem (by rwa [List.mem_toFinset]),
          List.length_nil]
        omega

theorem events_addRows (input : String) (earlier later : List Row)
    (frequencies : Frequencies Float) (entries : List (FrequencyEntry Float))
    (held : ∀ term, frequencies.contains term = true ↔ term ∈ terms earlier)
    (decoded : later.map (entryOfRow input) = entries.map .ok) :
    (addRows input frequencies (overrides earlier).toArray (later.map .ok)).1 =
      (overrides (earlier ++ later)).toArray := by
  induction later generalizing earlier frequencies entries with
  | nil => simp [addRows]
  | cons row rest ih =>
      rw [List.map_cons] at decoded
      obtain ⟨entry, entries, rfl, first, others⟩ := List.map_eq_cons_iff.mp decoded.symm
      have shown := term_of_entryOfRow first.symm
      have reported : (if frequencies.contains entry.term then
            (overrides earlier).toArray.push (.duplicateTerm entry.term row.line)
          else (overrides earlier).toArray) = (overrides (earlier ++ [row])).toArray := by
        rw [overrides_append earlier row shown]
        by_cases known : frequencies.contains entry.term = true
        · simp [known, (held _).mp known]
        · simp [known, mt (held _).mpr known]
      have heldNext (term : String) : (frequencies.insert entry).contains term = true ↔
          term ∈ terms (earlier ++ [row]) := by
        rw [contains_insert, held, terms_append earlier row shown, List.mem_append,
          List.mem_singleton, or_comm, eq_comm]
      have whole := ih (earlier ++ [row]) _ entries heldNext others.symm
      rw [List.append_assoc, List.singleton_append] at whole
      simp only [List.map_cons, addRows, ← first, reported]
      exact whole

theorem load_of_listings (input : String) (bytes : ByteArray) (line : Nat) (rows : List Row)
    (entries : List (FrequencyEntry Float))
    (answered : (Reader.ofBytes input bytes).answers = .ok ⟨line, columns⟩ :: rows.map .ok)
    (decoded : rows.map (entryOfRow input) = entries.map .ok) :
    load input bytes =
      (loadEvents input (ofEntries entries) (overrides rows).toArray, .ok (ofEntries entries)) := by
  obtain ⟨rest, passed, _, others⟩ := Reader.header_of_answers _ columns line _ answered
  have held (term : String) : (empty : Frequencies Float).contains term = true ↔
      term ∈ terms [] := by
    simp [empty, contains, terms]
  have added : addRows input empty #[] rest.answers =
      ((overrides rows).toArray, .ok (ofEntries entries)) := by
    rw [others]
    exact Prod.ext (events_addRows input [] rows empty entries held decoded)
      (addRows_of_decoded input empty #[] rows entries decoded)
  simp only [load, passed, added]

theorem loadEvents_overrides (input : String) (frequencies : Frequencies Float) (rows : List Row)
    {count : Nat} (counted : (overrides rows).length = count) :
    loadEvents input frequencies (overrides rows).toArray =
      overrides rows ++ (if count = 0 then [] else [.duplicatesKept input count]) ++
        [.frequenciesLoaded input frequencies.size] := by
  subst counted
  simp [loadEvents]

theorem IsListing.probability {row : Row} (listing : IsListing row) {text : String}
    {number : Float} (shown : row.fields[3]? = some text)
    (read : Reading.float? text = some number) : 0 ≤ number ∧ number ≤ 1 := by
  obtain ⟨_, _, _, found, _, _, shape, foundRead, valid⟩ := listing
  rw [shape] at shown
  obtain rfl : found = text := Option.some.inj shown
  rw [read, Option.some.injEq] at foundRead
  rwa [foundRead]

theorem probability_of_gives {rows : List Row} (listed : ∀ row ∈ rows, IsListing row)
    {term : String} {probability : Float} (gives : Gives rows term probability) :
    0 ≤ probability ∧ probability ≤ 1 := by
  cases gives with
  | @last _ _ row _ _ _ _ _ split shape read _ =>
      have listing := listed row (by simp [split])
      exact listing.probability (by rw [shape]; rfl) read
  | unknown => decide +kernel

/-! The first three fields of a row make no difference. -/

theorem entryOfRow_of_drop {input otherInput : String} {row other : Row}
    {entry : FrequencyEntry Float} (decoded : entryOfRow input row = .ok entry)
    (same : other.fields.drop 3 = row.fields.drop 3) :
    entryOfRow otherInput other = .ok entry := by
  obtain ⟨_, _, _, text, shape, read, valid⟩ := (entryOfRow_eq_ok input row entry).mp decoded
  rw [shape] at same
  obtain ⟨hash, gram, stream, otherShape⟩ :
      ∃ hash gram stream, other.fields = [hash, gram, stream, text, entry.term] := by
    rcases fields : other.fields with _ | ⟨hash, _ | ⟨gram, _ | ⟨stream, rest⟩⟩⟩ <;>
      simp_all
  exact (entryOfRow_eq_ok otherInput other entry).mpr
    ⟨hash, gram, stream, text, otherShape, read, valid⟩

theorem decoded_of_drop {input otherInput : String} {rows others : List Row}
    {entries : List (FrequencyEntry Float)}
    (decoded : rows.map (entryOfRow input) = entries.map .ok)
    (same : others.map (fun row => row.fields.drop 3) = rows.map fun row => row.fields.drop 3) :
    others.map (entryOfRow otherInput) = entries.map .ok := by
  rw [← decoded]
  apply List.ext_getElem?
  intro index
  have here := congrArg (fun answers => answers[index]?) decoded
  have alike := congrArg (fun parts => parts[index]?) same
  simp only [List.getElem?_map] at here alike ⊢
  cases listed : entries[index]? with
  | none => simp_all
  | some entry =>
      rw [listed, Option.map_some, Option.map_eq_some_iff] at here
      obtain ⟨row, found, first⟩ := here
      rw [found, Option.map_some, Option.map_eq_some_iff] at alike
      obtain ⟨other, otherFound, parts⟩ := alike
      rw [found, otherFound, Option.map_some, Option.map_some, first,
        entryOfRow_of_drop first parts]

theorem load_text_eq_ok_iff (input text : String) :
    (∃ frequencies, (load input text.toUTF8).2 = .ok frequencies) ↔
      ∃ (line : Nat) (rows : List Row),
        Grammar.answers input text.toList = .ok ⟨line, columns⟩ :: rows.map .ok ∧
          ∀ row ∈ rows, IsListing row := by
  rw [← Reader.answers_ofBytes]
  constructor
  · rintro ⟨frequencies, succeeded⟩
    obtain ⟨line, rows, entries, answered, decoded, _⟩ :=
      load_eq_ofEntries input text.toUTF8 frequencies succeeded
    exact ⟨line, rows, answered, (isListing_all_iff input rows).mpr ⟨entries, decoded⟩⟩
  · rintro ⟨line, rows, answered, listed⟩
    obtain ⟨entries, decoded⟩ := (isListing_all_iff input rows).mp listed
    exact ⟨_, load_of_answers input text.toUTF8 line rows entries answered decoded⟩

theorem entries_of_load {input text : String} {frequencies : Frequencies Float} {line : Nat}
    {rows : List Row} (loaded : (load input text.toUTF8).2 = .ok frequencies)
    (answered : Grammar.answers input text.toList = .ok ⟨line, columns⟩ :: rows.map .ok) :
    ∃ entries : List (FrequencyEntry Float),
      rows.map (entryOfRow input) = entries.map .ok ∧ frequencies = ofEntries entries := by
  obtain ⟨_, others, entries, answeredOthers, decoded, same⟩ :=
    load_eq_ofEntries input text.toUTF8 frequencies loaded
  rw [Reader.answers_ofBytes, answered, List.cons.injEq] at answeredOthers
  obtain rfl : rows = others :=
    List.map_injective_iff.mpr (fun _ _ => Except.ok.inj) answeredOthers.2
  exact ⟨entries, decoded, same⟩

/-- A text loads exactly if its first row is the header and each other row lists a term with a
probability. The table then holds the listed terms, each with the number between zero and one in the
last of its rows, and gives zero for all others; no number that is infinite or none at all gets in,
and the first three fields make no difference. As many rows are reported as duplicates as there are
rows beyond one for each term. -/
theorem load_last_listing_wins (input text : String) :
    let loaded := load input text.toUTF8
    let answers := Grammar.answers input text.toList
    ((∃ frequencies, loaded.2 = .ok frequencies) ↔
      ∃ (line : Nat) (rows : List Row),
        answers = .ok ⟨line, columns⟩ :: rows.map .ok ∧ ∀ row ∈ rows, IsListing row) ∧
    ∀ (frequencies : Frequencies Float) (line : Nat) (rows : List Row),
      loaded.2 = .ok frequencies → answers = .ok ⟨line, columns⟩ :: rows.map .ok →
      let duplicates := rows.length - frequencies.size
      (∀ term, (frequencies.contains term = true ↔ term ∈ terms rows) ∧
        Gives rows term (frequencies.lookup term) ∧
        0 ≤ frequencies.lookup term ∧ frequencies.lookup term ≤ 1) ∧
      (∀ row ∈ rows, ∀ text number, row.fields[3]? = some text →
        Reading.float? text = some number →
          ∃ negative magnitude, Double.ofFloat number = .finite negative magnitude) ∧
      frequencies.size = (terms rows).toFinset.card ∧
      (overrides rows).length = duplicates ∧
      loaded.1 = overrides rows ++
        (if duplicates = 0 then [] else [.duplicatesKept input duplicates]) ++
          [.frequenciesLoaded input frequencies.size] ∧
      ∀ (otherInput otherText : String) (otherLine : Nat) (others : List Row),
        Grammar.answers otherInput otherText.toList =
          .ok ⟨otherLine, columns⟩ :: others.map .ok →
        others.map (fun row => row.fields.drop 3) = rows.map (fun row => row.fields.drop 3) →
        (load otherInput otherText.toUTF8).2 = .ok frequencies := by
  intro loaded answers
  refine ⟨load_text_eq_ok_iff input text, ?_⟩
  intro frequencies line rows succeeded answered duplicates
  obtain ⟨entries, decoded, rfl⟩ := entries_of_load succeeded answered
  have listed := (isListing_all_iff input rows).mpr ⟨entries, decoded⟩
  have size : (ofEntries entries).size = (terms rows).toFinset.card := by
    rw [size_ofEntries, terms_of_decoded decoded]
  have counted : (overrides rows).length = duplicates := by
    have := length_overrides rows listed
    omega
  refine ⟨?_, ?_, size, counted, ?_, ?_⟩
  · intro term
    have gives := gives_lookup input rows entries decoded term
    refine ⟨?_, gives, probability_of_gives listed gives⟩
    rw [contains_ofEntries, terms_of_decoded decoded]
  · intro row member text number shown read
    have unit := (listed row member).probability shown read
    exact Layout.finite_of_isProbability number ((Layout.isProbability_float number).mpr unit)
  · have reported := load_of_listings input text.toUTF8 line rows entries
      ((Reader.answers_ofBytes input text).trans answered) decoded
    rw [← loadEvents_overrides input _ rows counted]
    exact congrArg Prod.fst reported
  · intro otherInput otherText otherLine others otherAnswered parts
    exact load_of_answers otherInput otherText.toUTF8 otherLine others entries
      ((Reader.answers_ofBytes otherInput otherText).trans otherAnswered)
      (decoded_of_drop decoded parts)

def listingText : String :=
  "hash,gramSize,streamId,frequency,text\n1,1,0,0.5,dog\n\n2,\",\",0,0.25,\"cat\nfish\"\n" ++
    "3,1,0,0.75,dog\n"

def listingRows : List Row :=
  [⟨2, ["1", "1", "0", "0.5", "dog"]⟩, ⟨4, ["2", ",", "0", "0.25", "cat\nfish"]⟩,
    ⟨6, ["3", "1", "0", "0.75", "dog"]⟩]

def bareText : String :=
  "hash,gramSize,streamId,frequency,text\n,,,0.5,dog\n,,,0.25,\"cat\nfish\"\n,,,0.75,dog\n"

def bareRows : List Row :=
  [⟨2, ["", "", "", "0.5", "dog"]⟩, ⟨3, ["", "", "", "0.25", "cat\nfish"]⟩,
    ⟨5, ["", "", "", "0.75", "dog"]⟩]

theorem answers_of_read {input text : String} {header : Row} {rows : List Row}
    (read : ((Grammar.answers input text.toList).mapM id).toOption = some (header :: rows)) :
    Grammar.answers input text.toList = .ok header :: rows.map .ok := by
  rwa [toOption_eq_some, mapM_eq_ok, List.map_id] at read

theorem load_last_listing_wins_dog :
    Grammar.answers "f" listingText.toList = .ok ⟨1, columns⟩ :: listingRows.map .ok ∧
      ∃ frequencies, (load "f" listingText.toUTF8).2 = .ok frequencies ∧
        frequencies.contains "dog" = true ∧
        Gives listingRows "dog" (frequencies.lookup "dog") ∧ frequencies.size = 2 ∧
        overrides listingRows = [.duplicateTerm "dog" 6] ∧
        (load "f" listingText.toUTF8).1 =
          [.duplicateTerm "dog" 6, .duplicatesKept "f" 1, .frequenciesLoaded "f" 2] ∧
        (load "g" bareText.toUTF8).2 = .ok frequencies := by
  have answered : Grammar.answers "f" listingText.toList =
      .ok ⟨1, columns⟩ :: listingRows.map .ok := answers_of_read (by decide +kernel)
  have bare : Grammar.answers "g" bareText.toList = .ok ⟨1, columns⟩ :: bareRows.map .ok :=
    answers_of_read (by decide +kernel)
  have loads : (load "f" listingText.toUTF8).2.toOption.isSome = true := by decide +kernel
  obtain ⟨frequencies, found⟩ := Option.isSome_iff_exists.mp loads
  have loaded := (toOption_eq_some _ _).mp found
  obtain ⟨_, holds⟩ := load_last_listing_wins "f" listingText
  obtain ⟨each, _, size, _, events, others⟩ := holds frequencies 1 listingRows loaded answered
  have two : frequencies.size = 2 := size
  have dog : overrides listingRows = [.duplicateTerm "dog" 6] := rfl
  refine ⟨answered, frequencies, loaded, (each "dog").1.mpr (by decide), (each "dog").2.1, two, dog,
    ?_, others "g" bareText 1 bareRows bare rfl⟩
  rw [events, two, dog]
  rfl

end Frequencies

end RowScan
