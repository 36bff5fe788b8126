import SuiteBridge.Proofs.Text.Blank
import SuiteBridge.Text.Letters

/-!
# Texts in upper and in lower case

A change of case touches letters only, and letters become letters. So what is no letter stays where
it is, be it white space at the end of a text or a comma in it, and a text without letters stays as
it is.
-/

namespace SuiteBridge.Text

/-- The letters are the small and the capital ones. -/
theorem isAlpha_iff {c : Char} :
    c.isAlpha = true ↔ 65 ≤ c.toNat ∧ c.toNat ≤ 90 ∨ 97 ≤ c.toNat ∧ c.toNat ≤ 122 := by
  have capital : c.isUpper = true ↔ 65 ≤ c.toNat ∧ c.toNat ≤ 90 :=
    decide_eq_true_iff.trans (and_congr UInt32.le_iff_toNat_le UInt32.le_iff_toNat_le)
  have small : c.isLower = true ↔ 97 ≤ c.toNat ∧ c.toNat ≤ 122 :=
    Bool.and_eq_true_iff.trans (and_congr (decide_eq_true_iff.trans UInt32.le_iff_toNat_le)
      (decide_eq_true_iff.trans UInt32.le_iff_toNat_le))
  exact Bool.or_eq_true_iff.trans (or_congr capital small)

/-- A letter is no white space. -/
theorem isSpace_of_isAlpha {c : Char} (letter : c.isAlpha = true) : isSpace c = false := by
  have code := isAlpha_iff.mp letter
  exact isSpace_eq_false (by omega) (by omega)

/-- A small letter becomes a capital one, and everything else is kept. -/
theorem toUpper_cases (c : Char) :
    (97 ≤ c.toNat ∧ c.toNat ≤ 122) ∧ 65 ≤ c.toUpper.toNat ∧ c.toUpper.toNat ≤ 90 ∨
      c.toUpper = c := by
  unfold Char.toUpper
  split
  · rename_i small
    have low : 97 ≤ c.toNat := UInt32.le_iff_toNat_le.mp small.1
    have high : c.toNat ≤ 122 := UInt32.le_iff_toNat_le.mp small.2
    -- the distance of the two rows of letters is negative, and taken modulo the size of a word
    have moved : (c.val + ('A'.val - 'a'.val)).toNat = (c.toNat + (2 ^ 32 - 32)) % 2 ^ 32 :=
      UInt32.toNat_add _ _
    refine Or.inl ⟨⟨low, high⟩, ?_⟩
    change 65 ≤ (c.val + ('A'.val - 'a'.val)).toNat ∧ (c.val + ('A'.val - 'a'.val)).toNat ≤ 90
    omega
  · exact Or.inr rfl

theorem toUpper_of_isAlpha_eq_false {c : Char} (other : c.isAlpha = false) : c.toUpper = c := by
  rcases toUpper_cases c with ⟨small, -⟩ | kept
  · have letter := isAlpha_iff.mpr (Or.inr small)
    cases letter.symm.trans other
  · exact kept

theorem toLower_of_isAlpha_eq_false {c : Char} (other : c.isAlpha = false) : c.toLower = c := by
  unfold Char.toLower
  refine dif_neg fun capital => ?_
  have letter := isAlpha_iff.mpr
    (Or.inl ⟨UInt32.le_iff_toNat_le.mp capital.1, UInt32.le_iff_toNat_le.mp capital.2⟩)
  cases letter.symm.trans other

theorem isAlpha_toUpper (c : Char) : c.toUpper.isAlpha = c.isAlpha := by
  rcases toUpper_cases c with ⟨small, capital⟩ | kept
  · rw [isAlpha_iff.mpr (Or.inl capital), isAlpha_iff.mpr (Or.inr small)]
  · rw [kept]

theorem toUpper_toUpper (c : Char) : c.toUpper.toUpper = c.toUpper := by
  rcases toUpper_cases c with ⟨-, capital⟩ | kept
  · rcases toUpper_cases c.toUpper with ⟨small, -⟩ | kept
    · omega
    · exact kept
  · rw [kept, kept]

/-- What is no letter comes from itself only. -/
theorem eq_of_toUpper_eq {c d : Char} (same : c.toUpper = d) (other : d.isAlpha = false) :
    c = d := by
  have plain : c.isAlpha = false := by rw [← isAlpha_toUpper, same, other]
  rw [← same, toUpper_of_isAlpha_eq_false plain]

theorem isSpace_toUpper (c : Char) : isSpace c.toUpper = isSpace c := by
  cases letter : c.isAlpha with
  | true => rw [isSpace_of_isAlpha letter, isSpace_of_isAlpha ((isAlpha_toUpper c).trans letter)]
  | false => rw [toUpper_of_isAlpha_eq_false letter]

theorem toList_upper (s : String) : (upper s).toList = s.toList.map Char.toUpper :=
  String.toList_ofList

theorem upper_upper (s : String) : upper (upper s) = upper s := by
  rw [upper, toList_upper, List.map_map, upper]
  congr 2
  exact funext toUpper_toUpper

theorem isBlank_upper (s : String) : isBlank (upper s) = isBlank s := by
  simp [isBlank, toList_upper, Function.comp_def, isSpace_toUpper]

theorem isTight_map_toUpper {cs : List Char} : IsTight (cs.map Char.toUpper) ↔ IsTight cs := by
  have ends : ∀ found : Option Char, (∀ c ∈ found.map Char.toUpper, isSpace c = false) ↔
      ∀ c ∈ found, isSpace c = false := by
    rintro (_ | c) <;> simp [isSpace_toUpper]
  constructor
  · rintro ⟨first, last⟩
    rw [List.head?_map, ends] at first
    rw [List.getLast?_map, ends] at last
    exact ⟨first, last⟩
  · rintro ⟨first, last⟩
    constructor
    · rwa [List.head?_map, ends]
    · rwa [List.getLast?_map, ends]

/-- White space goes before the change of case as well as after it. -/
theorem trim_upper (s : String) : trim (upper s) = upper (trim s) := by
  rw [trim, toList_upper, upper, trim, String.toList_ofList, String.ofList_inj]
  obtain ⟨before, behind, blank, also, made⟩ := pads_trimChars s.toList
  have spaces : ∀ cs : List Char, (∀ c ∈ cs, isSpace c = true) →
      ∀ c ∈ cs.map Char.toUpper, isSpace c = true := by
    intro cs all
    simpa [isSpace_toUpper] using all
  refine trimChars_eq_iff.mpr ⟨⟨before.map Char.toUpper, behind.map Char.toUpper,
    spaces before blank, spaces behind also, ?_⟩, ?_⟩
  · rw [← List.map_append, ← List.map_append, ← made]
  · exact isTight_map_toUpper.mpr (isTight_trimChars s.toList)

/-- A comma, or whatever else is no letter, stands in a text exactly if it stands there in upper
case. -/
theorem mem_toList_upper_iff {c : Char} (other : c.isAlpha = false) {s : String} :
    c ∈ (upper s).toList ↔ c ∈ s.toList := by
  rw [toList_upper, List.mem_map]
  constructor
  · rintro ⟨d, member, same⟩
    exact eq_of_toUpper_eq same other ▸ member
  · intro member
    exact ⟨c, member, toUpper_of_isAlpha_eq_false other⟩

theorem lower_eq_self {s : String} (plain : ∀ c ∈ s.toList, c.isAlpha = false) : lower s = s := by
  have kept : ∀ c ∈ s.toList, c.toLower = c := fun c member =>
    toLower_of_isAlpha_eq_false (plain c member)
  rw [lower, List.map_congr_left kept, List.map_id', String.ofList_toList]

end SuiteBridge.Text
