import Mathlib.Data.List.TakeWhile
import SuiteBridge.Text.Blank
import SuiteBridge.Text.Separated

/-!
# Blank texts

A text is blank exactly if nothing is left of it without the white space at either end, and then
every part of it is blank too. What white space is put around a text is what is taken from it again
(`trimChars_append`), so what is left of a text is the one row of characters without white space at
its ends that the text is made of (`trimChars_eq_iff`).
-/

namespace SuiteBridge.Text

theorem trim_eq_empty_iff {s : String} : trim s = "" ↔ isBlank s = true := by
  have emptied : trim s = "" ↔ trimChars s.toList = [] := by
    rw [trim, ← String.ofList_nil, String.ofList_inj]
  have spaces : trimChars s.toList = [] ↔ ∀ c ∈ trimStart s.toList, isSpace c = true := by
    simp [trimChars, trimEnd, List.dropWhile_eq_nil_iff]
  rw [emptied, spaces, isBlank, List.all_eq_true]
  constructor
  · intro rest c member
    rw [← List.takeWhile_append_dropWhile (p := isSpace) (l := s.toList)] at member
    rcases List.mem_append.mp member with before | behind
    · exact List.mem_takeWhile_imp before
    · exact rest c behind
  · exact fun all c member => all c ((List.dropWhile_sublist _).subset member)

/-- A character of ASCII that one can see is no white space. -/
theorem isSpace_eq_false {c : Char} (least : 0x21 ≤ c.toNat) (most : c.toNat ≤ 0x7E) :
    isSpace c = false := by
  simp [isSpace, spaceCodes]
  omega

theorem dropWhile_eq_self_of_head? {mark : Char → Bool} {cs : List Char}
    (first : ∀ c ∈ cs.head?, mark c = false) : cs.dropWhile mark = cs := by
  cases cs with
  | nil => rfl
  | cons c cs => exact List.dropWhile_cons_of_neg (by simp [first c rfl])

/-- White space around a text that has none at either end is dropped. -/
theorem trimChars_append {before core behind : List Char} (blank : ∀ c ∈ before, isSpace c = true)
    (also : ∀ c ∈ behind, isSpace c = true) (first : ∀ c ∈ core.head?, isSpace c = false)
    (last : ∀ c ∈ core.getLast?, isSpace c = false) :
    trimChars (before ++ core ++ behind) = core := by
  unfold trimChars trimEnd trimStart
  rw [List.append_assoc, List.dropWhile_append_of_pos blank]
  cases core with
  | nil => simp [List.dropWhile_eq_nil_iff.mpr also]
  | cons c core =>
      have started : (c :: core ++ behind).dropWhile isSpace = c :: core ++ behind :=
        dropWhile_eq_self_of_head? (fun d head => first d (by simpa using head))
      have ended : (c :: core).reverse.dropWhile isSpace = (c :: core).reverse :=
        dropWhile_eq_self_of_head? (fun d head => last d (by rwa [List.head?_reverse] at head))
      have spaces : ∀ d ∈ behind.reverse, isSpace d = true :=
        fun d member => also d (List.mem_reverse.mp member)
      rw [started, List.reverse_append, List.dropWhile_append_of_pos spaces, ended,
        List.reverse_reverse]

/-- There is no white space at either end. -/
structure IsTight (cs : List Char) : Prop where
  first : ∀ c ∈ cs.head?, isSpace c = false
  last : ∀ c ∈ cs.getLast?, isSpace c = false

/-- `Pads core cs`: the characters `cs` are `core` with white space around it, or with none. -/
def Pads (core cs : List Char) : Prop :=
  ∃ before behind, (∀ c ∈ before, isSpace c = true) ∧ (∀ c ∈ behind, isSpace c = true) ∧
    cs = before ++ core ++ behind

section Trim

variable {core cs : List Char}

theorem Pads.refl (cs : List Char) : Pads cs cs :=
  ⟨[], [], nofun, nofun, by simp⟩

theorem Pads.trans {padded : List Char} (inner : Pads core padded) (outer : Pads padded cs) :
    Pads core cs := by
  obtain ⟨before, behind, blank, also, rfl⟩ := inner
  obtain ⟨start, rest, white, too, rfl⟩ := outer
  refine ⟨start ++ before, behind ++ rest, ?_, ?_, by simp⟩
  · exact List.forall_mem_append.mpr ⟨white, blank⟩
  · exact List.forall_mem_append.mpr ⟨also, too⟩

theorem isTight_of_forall (seen : ∀ c ∈ cs, isSpace c = false) : IsTight cs :=
  ⟨fun c head => seen c (List.mem_of_mem_head? head),
    fun c last => seen c (List.mem_of_getLast? last)⟩

theorem pads_trimChars (cs : List Char) : Pads (trimChars cs) cs := by
  refine ⟨cs.takeWhile isSpace, ((trimStart cs).reverse.takeWhile isSpace).reverse, ?_, ?_, ?_⟩
  · exact fun c member => List.mem_takeWhile_imp member
  · exact fun c member => List.mem_takeWhile_imp (List.mem_reverse.mp member)
  · have ended : trimEnd (trimStart cs) ++ ((trimStart cs).reverse.takeWhile isSpace).reverse =
        trimStart cs := by
      rw [trimEnd, ← List.reverse_append, List.takeWhile_append_dropWhile, List.reverse_reverse]
    rw [trimChars, List.append_assoc, ended, trimStart, List.takeWhile_append_dropWhile]

theorem isSpace_of_mem_head?_dropWhile {c : Char} (head : c ∈ (cs.dropWhile isSpace).head?) :
    isSpace c = false := by
  have stopped := List.head?_dropWhile_not isSpace cs
  rw [Option.mem_def.mp head] at stopped
  exact stopped

theorem isTight_trimChars (cs : List Char) : IsTight (trimChars cs) := by
  refine ⟨fun c head => ?_, fun c last => ?_⟩
  · -- what is left begins like the text without its leading white space, if anything is left
    have start : trimEnd (trimStart cs) <+: trimStart cs := by
      rw [trimEnd, ← List.reverse_suffix, List.reverse_reverse]
      exact List.dropWhile_suffix isSpace
    obtain ⟨rest, whole⟩ := start
    have begins : c ∈ (trimStart cs).head? := by
      rw [← whole, List.head?_append, ← trimChars, Option.mem_def.mp head]
      rfl
    exact isSpace_of_mem_head?_dropWhile begins
  · rw [trimChars, trimEnd, List.getLast?_reverse] at last
    exact isSpace_of_mem_head?_dropWhile last

/-- What is left of a text without the white space at either end. -/
theorem trimChars_eq_iff : trimChars cs = core ↔ Pads core cs ∧ IsTight core := by
  constructor
  · rintro rfl
    exact ⟨pads_trimChars cs, isTight_trimChars cs⟩
  · rintro ⟨⟨before, behind, blank, also, rfl⟩, tight⟩
    exact trimChars_append blank also tight.first tight.last

/-- White space around a text makes no difference to what is left of it. -/
theorem Pads.trimChars_eq (padded : Pads core cs) : trimChars cs = trimChars core :=
  trimChars_eq_iff.mpr ⟨(pads_trimChars core).trans padded, isTight_trimChars core⟩

theorem trimChars_eq_self (tight : IsTight cs) : trimChars cs = cs :=
  trimChars_eq_iff.mpr ⟨.refl cs, tight⟩

theorem trim_eq_self {s : String} (tight : IsTight s.toList) : trim s = s := by
  rw [trim, trimChars_eq_self tight, String.ofList_toList]

theorem isTight_trim (s : String) : IsTight (trim s).toList := by
  rw [trim, String.toList_ofList]
  exact isTight_trimChars s.toList

theorem mem_of_mem_trim {s : String} {c : Char} (member : c ∈ (trim s).toList) : c ∈ s.toList := by
  rw [trim, String.toList_ofList] at member
  obtain ⟨before, behind, -, -, made⟩ := pads_trimChars s.toList
  rw [made]
  exact List.mem_append_left _ (List.mem_append_right _ member)

end Trim

/-- The characters of a part stand in the text that was cut. -/
theorem mem_of_mem_splitOn {separator : Char} {cs part : List Char} {c : Char}
    (member : part ∈ cs.splitOn separator) (inside : c ∈ part) : c ∈ cs := by
  induction cs generalizing part with
  | nil =>
      rw [List.splitOn_nil, List.mem_singleton] at member
      exact member ▸ inside
  | cons first cs ih =>
      rw [List.splitOn, List.splitOnP_cons_eq_if_modifyHead] at member
      split at member
      · rcases List.mem_cons.mp member with rfl | later
        · cases inside
        · exact List.mem_cons_of_mem _ (ih later inside)
      · obtain ⟨head, others, parts⟩ := List.exists_cons_of_ne_nil
          (List.splitOnP_ne_nil (· == separator) cs)
        rw [parts, List.modifyHead_cons] at member
        have kept : ∀ other ∈ head :: others, c ∈ other → c ∈ cs := fun other also within =>
          ih (by rwa [List.splitOn, parts]) within
        rcases List.mem_cons.mp member with rfl | later
        · rcases List.mem_cons.mp inside with rfl | within
          · exact List.mem_cons_self
          · exact List.mem_cons_of_mem _ (kept head List.mem_cons_self within)
        · exact List.mem_cons_of_mem _ (kept part (List.mem_cons_of_mem _ later) inside)

/-- Every part of a blank text is blank. -/
theorem isBlank_of_mem_splitAt {separator : Char} {s part : String} (blank : isBlank s = true)
    (member : part ∈ splitAt separator s) : isBlank part = true := by
  obtain ⟨cs, cut, rfl⟩ := List.mem_map.mp member
  rw [isBlank, List.all_eq_true] at blank ⊢
  intro c inside
  rw [String.toList_ofList] at inside
  exact blank c (mem_of_mem_splitOn cut inside)

end SuiteBridge.Text
