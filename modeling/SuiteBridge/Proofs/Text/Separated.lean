import SuiteBridge.Proofs.Text.Blank

/-!
# Texts cut and joined

Cutting a text at a character and joining texts with this character undo each other
(`join_splitAt`, `splitAt_join`), the one way for every text, the other way for texts that the
character does not stand in.
-/

namespace SuiteBridge.Text

variable {separator : Char} {mark s part : String} {parts : List String}

theorem splitAt_ne_nil (separator : Char) (s : String) : splitAt separator s ≠ [] :=
  mt List.map_eq_nil_iff.mp (List.splitOn_ne_nil separator s.toList)

/-- The character at which a text is cut stands in none of the parts. -/
theorem not_mem_of_mem_splitOn {cs piece : List Char} (member : piece ∈ cs.splitOn separator) :
    separator ∉ piece := by
  induction cs generalizing piece with
  | nil =>
      rw [List.splitOn_nil, List.mem_singleton] at member
      exact member ▸ List.not_mem_nil
  | cons c cs ih =>
      rw [List.splitOn_cons_eq_if_modifyHead] at member
      obtain ⟨head, others, pieces⟩ :=
        List.exists_cons_of_ne_nil (List.splitOn_ne_nil separator cs)
      split at member
      · rcases List.mem_cons.mp member with rfl | later
        · exact List.not_mem_nil
        · exact ih later
      · rename_i different
        rw [pieces, List.modifyHead_cons] at member
        rcases List.mem_cons.mp member with rfl | later
        · have free : separator ∉ head := ih (pieces ▸ List.mem_cons_self)
          rw [List.mem_cons, not_or]
          exact ⟨fun same => different (beq_iff_eq.mpr same.symm), free⟩
        · exact ih (pieces ▸ List.mem_cons_of_mem _ later)

theorem not_mem_of_mem_splitAt (member : part ∈ splitAt separator s) :
    separator ∉ part.toList := by
  obtain ⟨piece, cut, rfl⟩ := List.mem_map.mp member
  rw [String.toList_ofList]
  exact not_mem_of_mem_splitOn cut

section Join

variable (single : mark.toList = [separator])
include single

/-- The parts of a text make the text again. -/
theorem join_splitAt (s : String) : join mark (splitAt separator s) = s := by
  have pieces : (splitAt separator s).map String.toList = s.toList.splitOn separator := by
    simp [splitAt, Function.comp_def]
  rw [join, pieces, single, List.intercalate_splitOn, String.ofList_toList]

/-- The texts that make a text are its parts. -/
theorem splitAt_join (free : ∀ part ∈ parts, separator ∉ part.toList) (filled : parts ≠ []) :
    splitAt separator (join mark parts) = parts := by
  have cut : (join mark parts).toList.splitOn separator = parts.map String.toList := by
    rw [join, String.toList_ofList, single]
    exact List.splitOn_intercalate separator (List.forall_mem_map.mpr free)
      (mt List.map_eq_nil_iff.mp filled)
  simp [splitAt, cut, Function.comp_def]

end Join

theorem splitAt_eq_singleton (free : separator ∉ s.toList) : splitAt separator s = [s] := by
  rw [splitAt, List.splitOn_eq_singleton free, List.map_singleton, String.ofList_toList]

/-- A text that is a single part is that part. -/
theorem eq_of_splitAt_eq_singleton (single : splitAt separator s = [part]) : s = part := by
  have made := join_splitAt (String.toList_singleton separator) s
  rw [single, join, List.map_singleton, List.intercalate_singleton, String.ofList_toList] at made
  exact made.symm

/-- Where the separator is to be seen, a text is blank if it is a single part and this is blank. -/
theorem isBlank_iff_splitAt (seen : isSpace separator = false) :
    isBlank s = true ↔ ∃ part, splitAt separator s = [part] ∧ isBlank part = true := by
  constructor
  · intro blank
    refine ⟨s, splitAt_eq_singleton fun member => ?_, blank⟩
    rw [isBlank, List.all_eq_true] at blank
    rw [blank separator member] at seen
    cases seen
  · rintro ⟨part, single, blank⟩
    rwa [eq_of_splitAt_eq_singleton single]

/-- The characters before a suffix are all but the suffix. -/
theorem dropSuffix?_eq_some_iff {suffix cs rest : List Char} :
    dropSuffix? suffix cs = some rest ↔ cs = rest ++ suffix := by
  unfold dropSuffix?
  constructor
  · intro found
    split at found
    · rename_i ends
      obtain ⟨start, rfl⟩ := List.isSuffixOf_iff_suffix.mp ends
      cases found
      simp
    · cases found
  · rintro rfl
    have ends : suffix.isSuffixOf (rest ++ suffix) = true :=
      List.isSuffixOf_iff_suffix.mpr (List.suffix_append rest suffix)
    simp [ends]

end SuiteBridge.Text
