import Mathlib

/-!
When a computation that can fail succeeds: every step of it has. A traversal that fails does so at
the first item that cannot be answered, and `fault?` of it is the first of their faults.
-/

namespace RowScan

theorem mapError_eq_ok {α β ε : Type} (answer : Except ε α) (wrap : ε → β) (value : α) :
    answer.mapError wrap = .ok value ↔ answer = .ok value := by
  cases answer <;> simp [Except.mapError]

theorem bind_eq_ok {α β ε : Type} (answer : Except ε α) (next : α → Except ε β) (value : β) :
    (answer >>= next) = .ok value ↔ ∃ first, answer = .ok first ∧ next first = .ok value := by
  cases answer <;> simp [bind, Except.bind]

theorem bind_eq_error {α β ε : Type} (answer : Except ε α) (next : α → Except ε β) (fault : ε) :
    (answer >>= next) = .error fault ↔
      answer = .error fault ∨ ∃ first, answer = .ok first ∧ next first = .error fault := by
  cases answer <;> simp [bind, Except.bind]

theorem unless_eq_ok {α β ε : Type} (refused : Prop) [Decidable refused] (fault : ε)
    (next : β → Except ε α) (answer : Except ε α) (value : α) :
    (if refused then (throw fault : Except ε β) >>= next else answer) = .ok value ↔
      ¬ refused ∧ answer = .ok value := by
  split <;> simp_all [bind_eq_ok, throw, throwThe, MonadExceptOf.throw]

theorem mapM_eq_ok {α β ε : Type} (step : α → Except ε β) (items : List α) (results : List β) :
    items.mapM step = .ok results ↔ items.map step = results.map .ok := by
  induction items generalizing results with
  | nil =>
      rw [List.mapM_nil, List.map_nil, List.nil_eq, List.map_eq_nil_iff]
      simp [pure, Except.pure, eq_comm]
  | cons item rest ih =>
      simp only [List.mapM_cons, bind_eq_ok, ih, List.map_cons]
      constructor
      · rintro ⟨first, answered, later, others, same⟩
        obtain rfl : first :: later = results := by simpa [pure, Except.pure] using same
        rw [answered, others, List.map_cons]
      · intro same
        cases results with
        | nil => simp at same
        | cons first later =>
            obtain ⟨answered, others⟩ := List.cons_eq_cons.mp same
            exact ⟨first, answered, later, others, rfl⟩

theorem exists_mapM_eq_ok {α β ε : Type} {step : α → Except ε β} {items : List α}
    (each : ∀ item ∈ items, ∃ result, step item = .ok result) :
    ∃ results, items.mapM step = .ok results := by
  induction items with
  | nil => exact ⟨[], rfl⟩
  | cons item rest ih =>
      obtain ⟨first, answered⟩ := each item List.mem_cons_self
      obtain ⟨later, others⟩ := ih fun other member => each other (List.mem_cons_of_mem item member)
      rw [List.mapM_cons, answered, others]
      exact ⟨first :: later, rfl⟩

theorem mapM_eq_error {α β ε : Type} {step : α → Except ε β} {items : List α} {index : Nat}
    {item : α} {fault : ε} (found : items[index]? = some item) (failed : step item = .error fault)
    (first : ∀ earlier < index, ∀ other, items[earlier]? = some other →
      ∃ result, step other = .ok result) : items.mapM step = .error fault := by
  induction items generalizing index with
  | nil => simp at found
  | cons head rest ih =>
      rw [List.mapM_cons]
      cases index with
      | zero =>
          obtain rfl : head = item := by simpa using found
          rw [failed]
          rfl
      | succ index =>
          obtain ⟨result, answered⟩ := first 0 (Nat.succ_pos index) head rfl
          have later : rest.mapM step = .error fault := by
            apply ih (by simpa using found)
            intro earlier before other listed
            exact first (earlier + 1) (Nat.succ_lt_succ before) other (by simpa using listed)
          rw [answered, later]
          rfl

theorem mapM_congr {α β ε : Type} {first second : α → Except ε β} {items : List α}
    (same : ∀ item ∈ items, first item = second item) : items.mapM first = items.mapM second := by
  have answers : items.map first = items.map second := List.map_congr_left same
  have traversal (step : α → Except ε β) : items.mapM step = (items.map step).mapM id := by
    rw [List.mapM_map]
    rfl
  rw [traversal, traversal, answers]

theorem mapM_map_step {α β γ ε : Type} (step : α → Except ε β) (change : β → γ) (items : List α) :
    items.mapM (fun item => (step item).map change) =
      (items.mapM step).map (List.map change) := by
  induction items with
  | nil => rfl
  | cons item rest ih =>
      rw [List.mapM_cons, List.mapM_cons, ih]
      cases step item with
      | error fault => rfl
      | ok first => cases rest.mapM step <;> rfl

theorem getElem?_map_ok {α β ε : Type} {step : α → Except ε β} {items : List α} {results : List β}
    (answered : items.map step = results.map .ok) {index : Nat} {result : β}
    (found : results[index]? = some result) : ∃ item, items[index]? = some item ∧
      step item = .ok result := by
  have same := congrArg (fun answers => answers[index]?) answered
  simpa [found] using same

theorem map_bind_eq_ok {α β ε : Type} (decode : α → Except ε β) (answers : List (Except ε α))
    (results : List β) :
    answers.map (fun answer => answer.bind decode) = results.map .ok ↔
      ∃ items : List α, answers = items.map .ok ∧ items.map decode = results.map .ok := by
  constructor
  · intro same
    induction answers generalizing results with
    | nil => exact ⟨[], rfl, same⟩
    | cons answer rest ih =>
        cases results with
        | nil => simp at same
        | cons result later =>
            obtain ⟨first, others⟩ := List.cons_eq_cons.mp same
            obtain ⟨item, rfl, decoded⟩ := (bind_eq_ok answer decode result).mp first
            obtain ⟨items, rfl, decodedAll⟩ := ih later others
            exact ⟨item :: items, rfl, by simp [decoded, decodedAll]⟩
  · rintro ⟨items, rfl, decoded⟩
    rw [← decoded, List.map_map]
    rfl

theorem toOption_eq_some {α ε : Type} (answer : Except ε α) (value : α) :
    answer.toOption = some value ↔ answer = .ok value := by
  cases answer <;> simp [Except.toOption]

def fault? {α ε : Type} : Except ε α → Option ε
  | .ok _ => none
  | .error fault => some fault

@[simp] theorem fault?_ok {α ε : Type} (value : α) : fault? (.ok value : Except ε α) = none := rfl

@[simp] theorem fault?_error {α ε : Type} (fault : ε) :
    fault? (.error fault : Except ε α) = some fault := rfl

theorem fault?_eq_some {α ε : Type} (answer : Except ε α) (fault : ε) :
    fault? answer = some fault ↔ answer = .error fault := by
  cases answer <;> simp

theorem fault?_eq_none {α ε : Type} (answer : Except ε α) :
    fault? answer = none ↔ ∃ value, answer = .ok value := by
  cases answer <;> simp

theorem fault?_mapM {α β ε : Type} (step : α → Except ε β) (items : List α) :
    fault? (items.mapM step) = (items.filterMap fun item => fault? (step item)).head? := by
  induction items with
  | nil => rfl
  | cons item rest ih =>
      rw [List.mapM_cons, List.filterMap_cons]
      cases step item with
      | error fault => rfl
      | ok value =>
          cases later : rest.mapM step with
          | error fault =>
              rw [later] at ih
              exact ih
          | ok values =>
              rw [later] at ih
              exact ih

theorem map_some_ne_none {α ε : Type} (answer : Except ε α) : answer.map some ≠ .ok none := by
  cases answer <;> simp [Except.map]

end RowScan
