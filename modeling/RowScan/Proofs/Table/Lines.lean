import Mathlib
import RowScan.Table.Line

/-!
The physical lines of a text. Cutting the bytes of a text behind each LF gives the same lines as
cutting its characters, and each of them is UTF-8: no other character has the byte of an LF.
-/

namespace RowScan

def cutBehind (ends : α → Bool) : List α → List (List α)
  | [] => []
  | first :: rest =>
      if ends first then [first] :: cutBehind ends rest
      else
        match cutBehind ends rest with
        | [] => [[first]]
        | piece :: pieces => (first :: piece) :: pieces

def glue (start : List α) : List (List α) → List (List α)
  | [] => if start = [] then [] else [start]
  | piece :: pieces => (start ++ piece) :: pieces

@[simp] theorem glue_nil (pieces : List (List α)) : glue [] pieces = pieces := by
  cases pieces <;> simp [glue]

theorem cutBehind_cons_of_not (ends : α → Bool) (first : α) (rest : List α)
    (inside : ends first = false) :
    cutBehind ends (first :: rest) = glue [first] (cutBehind ends rest) := by
  rw [cutBehind, if_neg (by simp [inside])]
  cases cutBehind ends rest <;> simp [glue]

theorem glue_glue (start middle : List α) (pieces : List (List α)) :
    glue start (glue middle pieces) = glue (start ++ middle) pieces := by
  cases pieces with
  | nil => by_cases empty : middle = [] <;> simp [glue, empty]
  | cons piece pieces => simp [glue]

theorem cutBehind_append (ends : α → Bool) (start rest : List α)
    (inside : ∀ element ∈ start, ends element = false) :
    cutBehind ends (start ++ rest) = glue start (cutBehind ends rest) := by
  induction start with
  | nil => simp
  | cons first start ih =>
      rw [List.cons_append, cutBehind_cons_of_not _ _ _ (inside first (by simp)),
        ih fun element member => inside element (by simp [member]), glue_glue]
      rfl

theorem cutBehind_line (ends : α → Bool) (line rest : List α) (last : α)
    (inside : ∀ element ∈ line, ends element = false) (closed : ends last = true) :
    cutBehind ends (line ++ last :: rest) = (line ++ [last]) :: cutBehind ends rest := by
  rw [cutBehind_append ends line _ inside, cutBehind, if_pos closed, glue]

theorem cutBehind_open (ends : α → Bool) (line : List α)
    (inside : ∀ element ∈ line, ends element = false) :
    cutBehind ends line = if line = [] then [] else [line] := by
  simpa [cutBehind, glue] using cutBehind_append ends line [] inside

theorem cutBehind_cons_of_closed (ends : α → Bool) (first : α) (rest : List α)
    (closes : ends first = true) :
    cutBehind ends (first :: rest) = [first] :: cutBehind ends rest := by
  rw [cutBehind, if_pos closes]

theorem flatten_glue (start : List α) (pieces : List (List α)) :
    (glue start pieces).flatten = start ++ pieces.flatten := by
  cases pieces with
  | nil => by_cases empty : start = [] <;> simp [glue, empty]
  | cons piece pieces => simp [glue]

theorem flatten_cutBehind (ends : α → Bool) (elements : List α) :
    (cutBehind ends elements).flatten = elements := by
  induction elements with
  | nil => rfl
  | cons first rest ih =>
      by_cases closes : ends first = true
      · rw [cutBehind_cons_of_closed _ _ _ closes, List.flatten_cons, ih, List.singleton_append]
      · rw [cutBehind_cons_of_not _ _ _ (by simpa using closes), flatten_glue, ih,
          List.singleton_append]

theorem cutBehind_flatten (ends : α → Bool) (elements : List α) (first later : List (List α))
    (cut : cutBehind ends elements = first ++ later) : cutBehind ends first.flatten = first := by
  induction elements generalizing first with
  | nil =>
      obtain ⟨rfl, _⟩ := List.append_eq_nil_iff.mp cut.symm
      rfl
  | cons element rest ih =>
      cases first with
      | nil => rfl
      | cons piece pieces =>
          by_cases closes : ends element = true
          · rw [cutBehind_cons_of_closed _ _ _ closes, List.cons_append, List.cons.injEq] at cut
            obtain ⟨rfl, behind⟩ := cut
            rw [List.flatten_cons, List.singleton_append, cutBehind_cons_of_closed _ _ _ closes,
              ih pieces behind]
          · rw [cutBehind_cons_of_not _ _ _ (by simpa using closes)] at cut
            cases pieceRest : cutBehind ends rest with
            | nil =>
                simp only [pieceRest, glue, List.cons_append, reduceCtorEq, if_false,
                  List.cons.injEq, List.nil_eq, List.append_eq_nil_iff] at cut
                obtain ⟨rfl, rfl, _⟩ := cut
                simp [cutBehind]
            | cons start others =>
                simp only [pieceRest, glue, List.cons_append, List.cons.injEq] at cut
                obtain ⟨rfl, rfl⟩ := cut
                have whole := ih (start :: pieces) pieceRest
                rw [List.flatten_cons] at whole
                rw [List.flatten_cons, List.cons_append, List.nil_append,
                  cutBehind_cons_of_not _ _ _ (by simpa using closes), whole, glue,
                  List.singleton_append]

theorem cutBehind_flatten_behind (ends : α → Bool) (elements : List α)
    (first later : List (List α)) (cut : cutBehind ends elements = first ++ later) :
    cutBehind ends later.flatten = later := by
  induction elements generalizing first with
  | nil =>
      obtain ⟨_, rfl⟩ := List.append_eq_nil_iff.mp cut.symm
      rfl
  | cons element rest ih =>
      cases first with
      | nil => rw [← List.nil_append later, ← cut, flatten_cutBehind]
      | cons piece pieces =>
          by_cases closes : ends element = true
          · rw [cutBehind_cons_of_closed _ _ _ closes, List.cons_append, List.cons.injEq] at cut
            exact ih pieces cut.2
          · rw [cutBehind_cons_of_not _ _ _ (by simpa using closes)] at cut
            cases pieceRest : cutBehind ends rest with
            | nil =>
                simp only [pieceRest, glue, List.cons_append, reduceCtorEq, if_false,
                  List.cons.injEq, List.nil_eq, List.append_eq_nil_iff] at cut
                rw [cut.2.2]
                rfl
            | cons start others =>
                simp only [pieceRest, glue, List.cons_append, List.cons.injEq] at cut
                exact ih (start :: pieces) (by rw [pieceRest, cut.2, List.cons_append])

theorem nil_notMem_cutBehind (ends : α → Bool) (elements : List α) :
    [] ∉ cutBehind ends elements := by
  induction elements with
  | nil => simp [cutBehind]
  | cons first rest ih =>
      rw [cutBehind]
      split
      · simpa using ih
      · split <;> simp_all

/-- As many pieces as there are ends, and one more for what stands behind the last end. -/
theorem length_cutBehind (ends : α → Bool) (elements : List α) :
    (cutBehind ends elements).length =
      elements.countP ends + elements.getLast?.elim 0 fun last => if ends last then 0 else 1 := by
  induction elements with
  | nil => rfl
  | cons first rest ih =>
      by_cases closes : ends first = true
      · rw [cutBehind_cons_of_closed _ _ _ closes, List.length_cons, ih,
          List.countP_cons_of_pos closes]
        cases rest with
        | nil => simp [closes]
        | cons next rest =>
            rw [List.getLast?_cons_cons]
            omega
      · rw [cutBehind_cons_of_not _ _ _ (by simpa using closes), List.countP_cons_of_neg closes]
        cases rest with
        | nil => simp [cutBehind, glue, closes]
        | cons next rest =>
            rw [List.getLast?_cons_cons, ← ih, cutBehind]
            repeat' split
            all_goals rfl

theorem cutBehind_closed (ends : α → Bool) (start rest : List α)
    (closed : ∀ last ∈ start.getLast?, ends last = true) :
    cutBehind ends (start ++ rest) = cutBehind ends start ++ cutBehind ends rest := by
  induction start with
  | nil => rfl
  | cons first start ih =>
      rw [List.cons_append]
      cases start with
      | nil =>
          have closes : ends first = true := closed first rfl
          rw [cutBehind_cons_of_closed _ _ _ closes, cutBehind_cons_of_closed _ _ _ closes]
          rfl
      | cons next start =>
          have whole := ih (by simpa using closed)
          by_cases closes : ends first = true
          · rw [cutBehind_cons_of_closed _ _ _ closes, cutBehind_cons_of_closed _ _ _ closes, whole,
              List.cons_append]
          · have inside : ends first = false := by simpa using closes
            rw [cutBehind_cons_of_not _ _ _ inside, cutBehind_cons_of_not _ _ _ inside, whole]
            have cut : cutBehind ends (next :: start) ≠ [] := by
              rw [cutBehind]
              repeat' split
              all_goals simp
            obtain ⟨piece, pieces, found⟩ := List.exists_cons_of_ne_nil cut
            rw [found]
            rfl

theorem foldl_cutAfterNewline (bytes : List UInt8) (closed : Array ByteArray)
    (current : List UInt8) :
    let (lines, last) := bytes.foldl cutAfterNewline (closed, current.toByteArray)
    (if last.isEmpty then lines.toList else (lines.push last).toList) =
      closed.toList ++ (glue current (cutBehind (· = 10) bytes)).map List.toByteArray := by
  induction bytes generalizing closed current with
  | nil =>
      by_cases empty : current = []
      · simp [empty, cutBehind, glue, ByteArray.isEmpty]
      · simp [empty, cutBehind, glue, ByteArray.isEmpty]
  | cons byte rest ih =>
      have pushed : current.toByteArray.push byte = (current ++ [byte]).toByteArray := by
        rw [List.toByteArray_append]
        simp
      rw [List.foldl_cons, cutAfterNewline, pushed]
      by_cases newline : byte = 10
      · rw [if_pos newline]
        have later := ih (closed.push (current ++ [byte]).toByteArray) []
        rw [glue_nil] at later
        simpa [cutBehind, newline, glue] using later
      · rw [if_neg newline]
        have later := ih closed (current ++ [byte])
        rwa [← glue_glue, ← cutBehind_cons_of_not (· = 10) byte rest (by simp [newline])] at later

theorem physicalLines_eq (bytes : ByteArray) :
    physicalLines bytes = (cutBehind (· = 10) bytes.data.toList).map List.toByteArray := by
  have folded := foldl_cutAfterNewline bytes.data.toList #[] []
  simp only [glue_nil, List.nil_append, Array.foldl_toList] at folded
  exact folded

theorem byte_ne_newline (value : Nat) (small : value < 256) (other : value ≠ 10) :
    UInt8.ofNat value ≠ 10 := by
  intro same
  have bytes := congrArg UInt8.toNat same
  simp only [UInt8.toNat_ofNat', UInt8.reduceToNat] at bytes
  omega

theorem utf8_without_newline (char : Char) (other : char ≠ '\n') :
    ∀ byte ∈ String.utf8EncodeChar char, decide (byte = 10) = false := by
  intro byte member
  rw [decide_eq_false_iff_not]
  have code : char.val.toNat ≠ 10 := by
    intro same
    exact other (Char.ext (UInt32.toNat_inj.mp same))
  simp only [String.utf8EncodeChar] at member
  repeat' split at member
  all_goals
    simp only [List.mem_cons, List.not_mem_nil, or_false] at member
    rcases member with rfl | rfl | rfl | rfl
  all_goals
    apply byte_ne_newline
    all_goals omega

def charLines (chars : List Char) : List (List Char) := cutBehind (· = '\n') chars

theorem exists_line (chars : List Char) : ∃ line behind, chars = line ++ behind ∧ '\n' ∉ line ∧
    (behind = [] ∨ ∃ rest, behind = '\n' :: rest) := by
  induction chars with
  | nil => exact ⟨[], [], rfl, by simp, Or.inl rfl⟩
  | cons char rest ih =>
      by_cases newline : char = '\n'
      · subst char
        exact ⟨[], '\n' :: rest, rfl, by simp, Or.inr ⟨rest, rfl⟩⟩
      · obtain ⟨line, behind, rfl, inside, ended⟩ := ih
        exact ⟨char :: line, behind, rfl, by simp [inside, Ne.symm newline], ended⟩

theorem charLines_newline (rest : List Char) :
    charLines ('\n' :: rest) = ['\n'] :: charLines rest := by
  simp [charLines, cutBehind]

theorem charLines_cons (char : Char) (rest : List Char) (other : char ≠ '\n') :
    charLines (char :: rest) = glue [char] (charLines rest) :=
  cutBehind_cons_of_not _ _ _ (by simpa using other)

theorem cutBehind_utf8 (chars : List Char) :
    cutBehind (· = 10) (chars.flatMap String.utf8EncodeChar) =
      (charLines chars).map fun line => line.flatMap String.utf8EncodeChar := by
  induction chars with
  | nil => rfl
  | cons char rest ih =>
      rw [List.flatMap_cons]
      by_cases newline : char = '\n'
      · subst newline
        have encoded : String.utf8EncodeChar '\n' = [10] := by decide
        simp [encoded, charLines_newline, cutBehind, ih]
      · rw [cutBehind_append _ _ _ (utf8_without_newline char newline), ih,
          charLines_cons char rest newline]
        cases charLines rest <;> simp [glue]

theorem Line.ofBytes_utf8Encode (chars : List Char) :
    Line.ofBytes chars.utf8Encode = .text chars := by
  have decoded : String.fromUTF8 chars.utf8Encode ByteArray.isValidUTF8_utf8Encode =
      String.ofList chars := by
    rw [← String.toByteArray_inj, String.toByteArray_ofList]
    rfl
  simp only [Line.ofBytes, String.fromUTF8?, dif_pos ByteArray.isValidUTF8_utf8Encode, decoded,
    String.toList_ofList]

theorem lines_of_text (text : String) :
    (physicalLines text.toUTF8).map Line.ofBytes = (charLines text.toList).map .text := by
  have bytes : text.toUTF8.data.toList = text.toList.flatMap String.utf8EncodeChar := by
    rw [String.toUTF8_eq_toByteArray, ← String.utf8Encode_toList]
    exact List.toList_data_toByteArray
  rw [physicalLines_eq, bytes, cutBehind_utf8, List.map_map, List.map_map]
  exact List.map_congr_left fun line _ => Line.ofBytes_utf8Encode line

def linesOf (bytes : ByteArray) : List Line := (physicalLines bytes).map Line.ofBytes

/-- Bytes behind which a line starts: none or those that end with an LF. -/
def EndsLine (bytes : ByteArray) : Prop := ∀ last ∈ bytes.data.toList.getLast?, last = 10

theorem linesOf_append (start rest : ByteArray)
    (closed : EndsLine start) :
    linesOf (start ++ rest) = linesOf start ++ linesOf rest := by
  have bytes : (start ++ rest).data.toList = start.data.toList ++ rest.data.toList := by
    rw [ByteArray.data_append, Array.toList_append]
  simp only [linesOf, physicalLines_eq, bytes]
  rw [cutBehind_closed _ _ _ fun last member => by simpa using closed last member,
    List.map_append, List.map_append]

theorem Line.ofBytes_eq_text (bytes : ByteArray) (chars : List Char)
    (decoded : Line.ofBytes bytes = .text chars) : bytes = chars.utf8Encode := by
  unfold ofBytes at decoded
  split at decoded
  · rename_i text found
    obtain rfl : text.toList = chars := by simpa using decoded
    rw [String.utf8Encode_toList]
    unfold String.fromUTF8? at found
    split at found
    · obtain rfl := Option.some.inj found
      rfl
    · simp at found
  · simp at decoded

theorem pieces_of_texts (pieces : List (List UInt8)) (texts : List (List Char))
    (decoded : pieces.map (Line.ofBytes ∘ List.toByteArray) = texts.map .text) :
    pieces = texts.map fun line => line.flatMap String.utf8EncodeChar := by
  induction texts generalizing pieces with
  | nil => exact List.map_eq_nil_iff.mp decoded
  | cons chars texts ih =>
      obtain ⟨piece, rest, rfl, first, others⟩ := List.map_eq_cons_iff.mp decoded
      have bytes := Line.ofBytes_eq_text _ chars first
      have same : piece = chars.flatMap String.utf8EncodeChar := by
        have lists := congrArg (fun bytes => bytes.data.toList) bytes
        simpa [List.utf8Encode] using lists
      rw [List.map_cons, same, ih rest others]

theorem charLines_of_between (bytes : ByteArray) (before : List Line) (texts : List (List Char))
    (tail : List Line) (split : linesOf bytes = before ++ (texts.map .text ++ tail)) :
    charLines texts.flatten = texts := by
  rw [linesOf, physicalLines_eq, List.map_map, List.map_eq_append_iff] at split
  obtain ⟨first, later, cut, _, decodedLater⟩ := split
  obtain ⟨middle, last, rfl, decoded, _⟩ := List.map_eq_append_iff.mp decodedLater
  -- The bytes of the lines are those of their text, and cut into the same lines.
  have pieces := pieces_of_texts middle texts decoded
  have text : middle.flatten = texts.flatten.flatMap String.utf8EncodeChar := by
    rw [pieces, ← List.flatMap_def, List.flatten_eq_flatMap, List.flatMap_assoc]
    rfl
  have whole := cutBehind_flatten _ _ middle last (cutBehind_flatten_behind _ _ first _ cut)
  rw [text, cutBehind_utf8] at whole
  have lines := congrArg (List.map (Line.ofBytes ∘ List.toByteArray)) whole
  rw [decoded, List.map_map] at lines
  apply List.map_injective_iff.mpr (fun _ _ same => Line.text.inj same)
  rw [← lines]
  exact List.map_congr_left fun line _ => (Line.ofBytes_utf8Encode line).symm

theorem charLines_of_linesOf (bytes : ByteArray) (texts : List (List Char)) (tail : List Line)
    (split : linesOf bytes = texts.map .text ++ tail) : charLines texts.flatten = texts :=
  charLines_of_between bytes [] texts tail split

theorem length_linesOf (bytes : ByteArray) (closed : EndsLine bytes) :
    (linesOf bytes).length = bytes.data.toList.count 10 := by
  rw [linesOf, physicalLines_eq, List.length_map, List.length_map, length_cutBehind,
    List.count_eq_countP]
  cases found : bytes.data.toList.getLast? with
  | none => rfl
  | some last =>
      obtain rfl : last = 10 := closed last found
      rfl

end RowScan
