import Mathlib
import RowScan.Proofs.Layout
import RowScan.Proofs.Number.Reading

/-!
The layout that variables give. Every variable that is set is read first, in their order; the ranges
of the values are checked only when all of them have been read, in an order of their own. A layout
written into its variables is read back, whatever white space stands around the values.
-/

namespace RowScan

namespace Blank

def Pads (padded text : String) : Prop :=
  ∃ front back : List Char, padded.toList = front ++ text.toList ++ back ∧
    (∀ char ∈ front, isBlank char = true) ∧ ∀ char ∈ back, isBlank char = true

theorem isBlank_of_isDigit {char : Char} (digit : char.isDigit = true) : isBlank char = false := by
  simp only [Char.isDigit, Bool.and_eq_true, decide_eq_true_eq, UInt32.le_iff_toNat_le] at digit
  have code : 48 ≤ char.toNat ∧ char.toNat ≤ 57 := digit
  simp only [isBlank, Bool.or_eq_false_iff, Bool.and_eq_false_iff, decide_eq_false_iff_not,
    beq_eq_false_iff_ne]
  omega

theorem dropWhile_solid {text : List Char} (solid : ∀ char ∈ text, isBlank char = false) :
    text.dropWhile isBlank = text := by
  rw [List.dropWhile_eq_self_iff]
  intro filled
  simp [solid _ (List.getElem_mem filled)]

theorem trimList_pad {front text back : List Char} (before : ∀ char ∈ front, isBlank char = true)
    (behind : ∀ char ∈ back, isBlank char = true)
    (solid : ∀ char ∈ text, isBlank char = false) : trimList (front ++ text ++ back) = text := by
  have reversed : ∀ char ∈ text.reverse, isBlank char = false := by simpa using solid
  rw [trimList, List.append_assoc, List.dropWhile_append_of_pos before, List.dropWhile_append,
    dropWhile_solid solid]
  split
  · rename_i empty
    have nothing : back.dropWhile isBlank = [] := List.dropWhile_eq_nil_iff.mpr behind
    rw [nothing, List.isEmpty_iff.mp empty]
    rfl
  · rw [List.reverse_append, List.dropWhile_append_of_pos (by simpa using behind),
      dropWhile_solid reversed, List.reverse_reverse]

theorem trim_of_pads {padded text : String} (pads : Pads padded text)
    (solid : ∀ char ∈ text.toList, isBlank char = false) : trim padded = text := by
  obtain ⟨front, back, split, before, behind⟩ := pads
  rw [trim, split, trimList_pad before behind solid, String.ofList_toList]

end Blank

namespace Layout

/-- What a variable gives: the default when it is unset, else the value that its text spells without
the white space around it. -/
inductive Gives {α : Type} (lookup : String → Option String) (name : String)
    (spells : String → α → Prop) (default : α) : α → Prop
  | unset (absent : lookup name = none) : Gives lookup name spells default default
  | set {text : String} {value : α} (found : lookup name = some text)
      (spelled : spells (Blank.trim text) value) : Gives lookup name spells default value

def SpellsWord (text : String) (word : UInt32) : Prop := Natural.Spells text word.toNat

def SpellsDouble (text : String) (number : Float) : Prop := Reading.float? text = some number

structure Reads (lookup : String → Option String) (layout : Layout Float) : Prop where
  cachelines : Gives lookup cachelinesVariable SpellsWord reference.cachelinesPerRow
    layout.cachelinesPerRow
  density : Gives lookup densityVariable SpellsDouble reference.density layout.density
  slots : Gives lookup slotsVariable SpellsWord reference.addressSlotsPerRow
    layout.addressSlotsPerRow
  reserved : Gives lookup reservedVariable SpellsWord reference.reservedRows layout.reservedRows

structure IsValid (layout : Layout Float) : Prop where
  cachelines : 1 ≤ layout.cachelinesPerRow
  slots : 1 ≤ layout.addressSlotsPerRow
  number : Double.ofFloat layout.density ≠ .notNumber
  density : 0 ≤ layout.density ∧ layout.density ≤ 1

def Accepts (name text : String) : Prop :=
  if name = densityVariable then ∃ number, SpellsDouble text number
  else ∃ word, SpellsWord text word

/-- The first value of a layout that is out of its range. The density is checked last. -/
inductive OutOfRange (layout : Layout Float) : ConfigDefect → Prop
  | cachelines (none : layout.cachelinesPerRow = 0) : OutOfRange layout .noCachelines
  | slots (filled : layout.cachelinesPerRow ≠ 0) (none : layout.addressSlotsPerRow = 0) :
      OutOfRange layout .noSlots
  | density (filled : layout.cachelinesPerRow ≠ 0) (slotted : layout.addressSlotsPerRow ≠ 0)
      (outside : ¬ (0 ≤ layout.density ∧ layout.density ≤ 1)) :
      OutOfRange layout (.density layout.density)

/-- The first of several variables that does not take its text, with the whole of that text. -/
inductive FirstUnread (lookup : String → Option String) : List String → ConfigDefect → Prop
  | here {name text : String} {later : List String} (found : lookup name = some text)
      (refused : ¬ Accepts name (Blank.trim text)) :
      FirstUnread lookup (name :: later) (.notValue name text)
  | behind {name : String} {later : List String} {defect : ConfigDefect}
      (taken : Meets lookup name (Accepts name)) (unread : FirstUnread lookup later defect) :
      FirstUnread lookup (name :: later) defect

/-- What is wrong with variables. The ranges of the values matter only when all can be read. -/
inductive Refused (lookup : String → Option String) : ConfigDefect → Prop
  | unread {defect : ConfigDefect} (first : FirstUnread lookup variableNames defect) :
      Refused lookup defect
  | range {layout : Layout Float} {defect : ConfigDefect} (reads : Reads lookup layout)
      (outside : OutOfRange layout defect) : Refused lookup defect

theorem variableValue_eq_ok {α : Type} {lookup : String → Option String} {name : String}
    {read : String → Option α} {default : α} {spells : String → α → Prop}
    (agrees : ∀ text value, read text = some value ↔ spells text value) (value : α) :
    variableValue lookup name read default = .ok value ↔
      Gives lookup name spells default value := by
  unfold variableValue
  constructor
  · intro given
    split at given
    · rename_i absent
      obtain rfl := Except.ok.inj given
      exact .unset absent
    · rename_i text found
      split at given
      · rename_i result known
        obtain rfl := Except.ok.inj given
        exact .set found ((agrees _ _).mp known)
      · simp at given
  · rintro (absent | ⟨found, spelled⟩)
    · simp [absent]
    · simp [found, (agrees _ _).mpr spelled]

theorem reads_iff (lookup : String → Option String) (layout : Layout Float) :
    Reads lookup layout ↔
      variableValue lookup cachelinesVariable word? reference.cachelinesPerRow =
        .ok layout.cachelinesPerRow ∧
      variableValue lookup densityVariable Reading.float? reference.density =
        .ok layout.density ∧
      variableValue lookup slotsVariable word? reference.addressSlotsPerRow =
        .ok layout.addressSlotsPerRow ∧
      variableValue lookup reservedVariable word? reference.reservedRows =
        .ok layout.reservedRows := by
  have doubles : ∀ text number, Reading.float? text = some number ↔ SpellsDouble text number :=
    fun _ _ => Iff.rfl
  simp only [variableValue_eq_ok word?_eq_some, variableValue_eq_ok doubles]
  exact ⟨fun ⟨lines, density, slots, reserved⟩ => ⟨lines, density, slots, reserved⟩,
    fun ⟨lines, density, slots, reserved⟩ => ⟨lines, density, slots, reserved⟩⟩

theorem ofLookup_of_reads {lookup : String → Option String} {layout : Layout Float}
    (reads : Reads lookup layout) : ofLookup lookup = layout.validate.map fun _ => layout := by
  obtain ⟨lines, density, slots, reserved⟩ := (reads_iff lookup layout).mp reads
  simp only [ofLookup, lines, density, slots, reserved]
  change (layout.validate >>= fun _ => pure layout) = _
  cases layout.validate <;> rfl

theorem isValid_iff (layout : Layout Float) : layout.IsValid ↔ layout.validate = .ok () := by
  have positive (word : UInt32) : 1 ≤ word ↔ word ≠ 0 := by
    rw [UInt32.le_iff_toNat_le, Ne, ← UInt32.toNat_inj]
    exact Nat.one_le_iff_ne_zero
  rw [validate_eq_ok, isProbability_float, ← positive, ← positive]
  constructor
  · rintro ⟨filled, slotted, _, probable⟩
    exact ⟨filled, slotted, probable⟩
  · rintro ⟨filled, slotted, probable⟩
    obtain ⟨negative, magnitude, finite⟩ :=
      finite_of_isProbability layout.density ((isProbability_float _).mpr probable)
    exact ⟨filled, slotted, by simp [finite], probable⟩

theorem validate_of_outOfRange {layout : Layout Float} {defect : ConfigDefect}
    (outside : OutOfRange layout defect) : layout.validate = .error (.config defect) := by
  cases outside with
  | cachelines none => simp [validate, none]
  | slots filled none => simp [validate, filled, none]
  | density filled slotted outside =>
      simp [validate, filled, slotted, isProbability_float, outside]

theorem isValid_or_outOfRange (layout : Layout Float) :
    layout.IsValid ∨ ∃ defect, OutOfRange layout defect := by
  by_cases filled : layout.cachelinesPerRow = 0
  · exact Or.inr ⟨_, .cachelines filled⟩
  by_cases slotted : layout.addressSlotsPerRow = 0
  · exact Or.inr ⟨_, .slots filled slotted⟩
  by_cases probable : 0 ≤ layout.density ∧ layout.density ≤ 1
  · rw [isValid_iff, validate_eq_ok, isProbability_float]
    exact Or.inl ⟨filled, slotted, probable⟩
  · exact Or.inr ⟨_, .density filled slotted probable⟩

section

variable {lookup : String → Option String} {name : String}

def Suits {α : Type} (name : String) (read : String → Option α) : Prop :=
  ∀ text, Accepts name text ↔ ∃ value, read text = some value

theorem suits_density : Suits densityVariable Reading.float? := by
  intro text
  rw [Accepts, if_pos rfl]
  rfl

theorem suits_word (other : name ≠ densityVariable) : Suits name word? := by
  intro text
  simp only [Accepts, if_neg other, word?_eq_some]
  rfl

theorem Suits.exists_value {α : Type} {read : String → Option α} (suits : Suits name read)
    (default : α) (taken : Meets lookup name (Accepts name)) :
    ∃ value, variableValue lookup name read default = .ok value := by
  have taken_iff := exists_variableValue lookup name read default (fun _ => True) trivial
  simp only [and_true, ← suits _] at taken_iff
  exact taken_iff.mpr taken

theorem Suits.refused {α : Type} {read : String → Option α} (suits : Suits name read)
    (default : α) {text : String} (found : lookup name = some text)
    (refused : ¬ Accepts name (Blank.trim text)) :
    variableValue lookup name read default = .error (.config (.notValue name text)) := by
  have unread : read (Blank.trim text) = none := by
    rw [suits] at refused
    exact Option.eq_none_iff_forall_ne_some.mpr fun value known => refused ⟨value, known⟩
  simp [variableValue, found, unread]

theorem exists_reads (taken : ∀ name ∈ variableNames, Meets lookup name (Accepts name)) :
    ∃ layout, Reads lookup layout := by
  simp only [variableNames, List.forall_mem_cons] at taken
  obtain ⟨lines, density, slots, reserved, _⟩ := taken
  obtain ⟨_, lines⟩ := (suits_word (by decide)).exists_value reference.cachelinesPerRow lines
  obtain ⟨_, density⟩ := suits_density.exists_value reference.density density
  obtain ⟨_, slots⟩ := (suits_word (by decide)).exists_value reference.addressSlotsPerRow slots
  obtain ⟨_, reserved⟩ := (suits_word (by decide)).exists_value reference.reservedRows reserved
  exact ⟨⟨_, _, _, _⟩, (reads_iff lookup _).mpr ⟨lines, density, slots, reserved⟩⟩

theorem taken_or_unread (lookup : String → Option String) (names : List String) :
    (∀ name ∈ names, Meets lookup name (Accepts name)) ∨
      ∃ defect, FirstUnread lookup names defect := by
  induction names with
  | nil => exact Or.inl (by simp)
  | cons name later ih =>
      by_cases taken : Meets lookup name (Accepts name)
      · rcases ih with all | ⟨defect, unread⟩
        · exact Or.inl (List.forall_mem_cons.mpr ⟨taken, all⟩)
        · exact Or.inr ⟨defect, .behind taken unread⟩
      · simp only [Meets, not_forall] at taken
        obtain ⟨text, found, refused⟩ := taken
        exact Or.inr ⟨_, .here found refused⟩

theorem bind_of_unread {α β : Type} {read : String → Option α} (suits : Suits name read)
    (default : α) {next : α → Except Violation β} {later : List String} {defect : ConfigDefect}
    (unread : FirstUnread lookup (name :: later) defect)
    (stopped : FirstUnread lookup later defect → ∀ value, next value = .error (.config defect)) :
    (variableValue lookup name read default >>= next) = .error (.config defect) := by
  rw [bind_eq_error]
  cases unread with
  | here found refused => exact Or.inl (suits.refused default found refused)
  | behind taken unread =>
      obtain ⟨value, given⟩ := suits.exists_value default taken
      exact Or.inr ⟨value, given, stopped unread value⟩

theorem ofLookup_of_unread {defect : ConfigDefect}
    (unread : FirstUnread lookup variableNames defect) :
    ofLookup lookup = .error (.config defect) := by
  apply bind_of_unread (suits_word (by decide)) _ unread
  intro unread _
  apply bind_of_unread suits_density _ unread
  intro unread _
  apply bind_of_unread (suits_word (by decide)) _ unread
  intro unread _
  apply bind_of_unread (suits_word (by decide)) _ unread
  intro unread _
  cases unread

theorem ofLookup_of_refused {defect : ConfigDefect} (refused : Refused lookup defect) :
    ofLookup lookup = .error (.config defect) := by
  cases refused with
  | unread first => exact ofLookup_of_unread first
  | range reads outside =>
      rw [ofLookup_of_reads reads, validate_of_outOfRange outside]
      rfl

theorem ofLookup_of_valid {layout : Layout Float} (reads : Reads lookup layout)
    (valid : layout.IsValid) : ofLookup lookup = .ok layout := by
  rw [ofLookup_of_reads reads, (isValid_iff layout).mp valid]
  rfl

theorem valid_or_refused (lookup : String → Option String) :
    (∃ layout, Reads lookup layout ∧ layout.IsValid) ∨ ∃ defect, Refused lookup defect := by
  rcases taken_or_unread lookup variableNames with taken | ⟨defect, unread⟩
  · obtain ⟨layout, reads⟩ := exists_reads taken
    rcases layout.isValid_or_outOfRange with valid | ⟨defect, outside⟩
    · exact Or.inl ⟨layout, reads, valid⟩
    · exact Or.inr ⟨defect, .range reads outside⟩
  · exact Or.inr ⟨defect, .unread unread⟩

/-! A layout written into its variables. -/

def settings (layout : Layout Float) : List (String × String) :=
  [(cachelinesVariable, Natural.text layout.cachelinesPerRow.toNat),
    (densityVariable, Notation.plain.text layout.density),
    (slotsVariable, Natural.text layout.addressSlotsPerRow.toNat),
    (reservedVariable, Natural.text layout.reservedRows.toNat)]

def Shows (lookup : String → Option String) (layout : Layout Float) : Prop :=
  ∀ setting ∈ layout.settings,
    ∃ padded, lookup setting.1 = some padded ∧ Blank.Pads padded setting.2

theorem gives_of_pads {α : Type} {spells : String → α → Prop} {padded text : String} {value : α}
    (default : α) (found : lookup name = some padded) (pads : Blank.Pads padded text)
    (solid : ∀ char ∈ text.toList, Blank.isBlank char = false) (spelled : spells text value) :
    Gives lookup name spells default value := by
  rw [← Blank.trim_of_pads pads solid] at spelled
  exact .set found spelled

theorem gives_word (default word : UInt32)
    (shown : ∃ padded, lookup name = some padded ∧ Blank.Pads padded (Natural.text word.toNat)) :
    Gives lookup name SpellsWord default word := by
  obtain ⟨padded, found, pads⟩ := shown
  have below : word.toNat < Natural.limit32 := word.toNat_lt
  have spelled := (Natural.read_eq_ok _ _ _ (by decide)).mp (Natural.read_text below)
  refine gives_of_pads default found pads ?_ spelled.1
  intro char member
  rw [Natural.text, String.toList_ofList] at member
  exact Blank.isBlank_of_isDigit (Nat.isDigit_of_mem_toDigits (by decide) (by decide) member)

theorem gives_double (default number : Float) (probable : isProbability number = true)
    (shown : ∃ padded, lookup name = some padded ∧
      Blank.Pads padded (Notation.plain.text number)) :
    Gives lookup name SpellsDouble default number := by
  obtain ⟨padded, found, pads⟩ := shown
  obtain ⟨negative, magnitude, finite⟩ := finite_of_isProbability number probable
  refine gives_of_pads default found pads ?_ (float?_text number negative magnitude finite)
  intro char member
  rcases mem_plain_text number negative magnitude finite char member with digit | mark
  · exact Blank.isBlank_of_isDigit digit
  · simp only [List.mem_cons, List.not_mem_nil, or_false] at mark
    rcases mark with rfl | rfl <;> rfl

theorem reads_of_shows {layout : Layout Float} (valid : layout.IsValid)
    (shown : Shows lookup layout) : Reads lookup layout := by
  have probable := (isProbability_float layout.density).mpr valid.density
  simp only [Shows, settings, List.forall_mem_cons] at shown
  obtain ⟨lines, density, slots, reserved, _⟩ := shown
  exact ⟨gives_word _ _ lines, gives_double _ _ probable density, gives_word _ _ slots,
    gives_word _ _ reserved⟩

end

/-- Variables are accepted exactly when those that are set spell values, white space around them
aside, that make a valid layout with the defaults of the others, and this layout is what they give.
Otherwise they are refused for the first of them that is not read, in the order cache lines,
density, slots, reserved rows, and if all are read for the first value out of its range. A valid
layout is given by its own texts. -/
theorem variables_accepted_iff (lookup : String → Option String) :
    (∀ layout, ofLookup lookup = .ok layout ↔ Reads lookup layout ∧ layout.IsValid) ∧
      (∀ violation, ofLookup lookup = .error violation ↔
        ∃ defect, violation = .config defect ∧ Refused lookup defect) ∧
      ∀ layout, layout.IsValid → Shows lookup layout → ofLookup lookup = .ok layout := by
  refine ⟨?_, ?_, fun layout valid shown => ofLookup_of_valid (reads_of_shows valid shown) valid⟩
  · intro layout
    refine ⟨?_, fun ⟨reads, valid⟩ => ofLookup_of_valid reads valid⟩
    intro given
    rcases valid_or_refused lookup with ⟨other, reads, valid⟩ | ⟨defect, refused⟩
    · rw [ofLookup_of_valid reads valid] at given
      obtain rfl := Except.ok.inj given
      exact ⟨reads, valid⟩
    · simp [ofLookup_of_refused refused] at given
  · intro violation
    refine ⟨?_, ?_⟩
    · intro failed
      rcases valid_or_refused lookup with ⟨layout, reads, valid⟩ | ⟨defect, refused⟩
      · simp [ofLookup_of_valid reads valid] at failed
      · rw [ofLookup_of_refused refused] at failed
        exact ⟨defect, (Except.error.inj failed).symm, refused⟩
    · rintro ⟨defect, rfl, refused⟩
      exact ofLookup_of_refused refused

def spacedLayout : Layout Float := ⟨32, Double.toFloat true 0, 64, 0⟩

def spacedEnvironment (name : String) : Option String :=
  (spacedLayout.settings.map fun (name, text) =>
    (name, "\u2003 " ++ text ++ "\t\u3000")).lookup name

/-- No cache lines, but before that is found the density, and behind it the reserved rows, cannot be
read. -/
def muddledEnvironment (name : String) : Option String :=
  [(cachelinesVariable, "+00"), (densityVariable, " dense\t"), (reservedVariable, "-1")].lookup name

theorem variables_accepted_iff_spaced :
    spacedLayout.IsValid ∧ Shows spacedEnvironment spacedLayout ∧
      ofLookup spacedEnvironment = .ok spacedLayout ∧
      Refused muddledEnvironment (.notValue densityVariable " dense\t") ∧
      ofLookup muddledEnvironment = .error (.config (.notValue densityVariable " dense\t")) ∧
      (Violation.config (.notValue densityVariable " dense\t")).message =
        "Invalid configuration: ROWCOST_DENSITY=\" dense\\t\" is not a valid value" := by
  have valid : spacedLayout.IsValid := ⟨by decide, by decide, by decide +kernel, by decide +kernel⟩
  have shown : Shows spacedEnvironment spacedLayout := by
    have pads (text : String) : Blank.Pads ("\u2003 " ++ text ++ "\t\u3000") text :=
      ⟨"\u2003 ".toList, "\t\u3000".toList, by simp, List.all_eq_true.mp (by decide),
        List.all_eq_true.mp (by decide)⟩
    simp only [Shows, settings, List.forall_mem_cons]
    exact ⟨⟨_, rfl, pads _⟩, ⟨_, rfl, pads _⟩, ⟨_, rfl, pads _⟩, ⟨_, rfl, pads _⟩, by simp⟩
  have unread : Refused muddledEnvironment (.notValue densityVariable " dense\t") := by
    refine .unread (.behind ?_ (.here rfl ?_))
    · intro text found
      obtain rfl := Option.some.inj found
      exact ((suits_word (by decide)) _).mpr ⟨0, by decide +kernel⟩
    · rw [suits_density]
      rintro ⟨number, known⟩
      have none : Reading.float? (Blank.trim " dense\t") = none := by decide +kernel
      simp [none] at known
  obtain ⟨_, refusals, _⟩ := variables_accepted_iff muddledEnvironment
  obtain ⟨_, _, written⟩ := variables_accepted_iff spacedEnvironment
  exact ⟨valid, shown, written spacedLayout valid shown, unread, (refusals _).mpr ⟨_, rfl, unread⟩,
    by decide +kernel⟩

end Layout

end RowScan
