import SuiteBridge.Proofs.Url.Path

/-!
# Paths that stay below another

A call begins with three words. Whatever the segments behind them are, they are added below the
first two: a segment may be skipped, or empty the one before it, but something always stays there
(`Below.foldl_push`, `below_extend`). Nothing that is left can be taken for a step either: what is
written for a text stands for that text, and so not for one or two dots (`isDots_encoded`).
-/

namespace SuiteBridge

namespace Url

/-! ## Steps -/

/-- What is no small letter comes from itself only. -/
theorem eq_of_toLower_eq {c d : Char} (same : c.toLower = d) (other : ¬ ('a' ≤ d ∧ d ≤ 'z')) :
    c = d := by
  unfold Char.toLower at same
  split at same
  · rename_i capital
    exfalso
    apply other
    subst same
    have low : 65 ≤ c.toNat := UInt32.le_iff_toNat_le.mp capital.1
    have high : c.toNat ≤ 90 := UInt32.le_iff_toNat_le.mp capital.2
    simp only [Char.le_def, UInt32.le_iff_toNat_le]
    simp
    omega
  · exact same

theorem eq_or_eq_of_toLower_eq {c : Char} (same : c.toLower = 'e') : c = 'e' ∨ c = 'E' := by
  unfold Char.toLower at same
  split at same
  · rename_i capital
    right
    have code := congrArg (fun c : Char => c.val.toNat) same
    apply Char.ext
    rw [← UInt32.toNat_inj]
    simp [UInt32.le_iff_toNat_le] at code capital ⊢
    omega
  · exact Or.inl same

/-- A segment that may be taken for a step: one that stands for itself or for the one above. -/
def isDots (segment : String) : Bool :=
  isSingleDot segment || isDoubleDot segment

/-- The ways to write a dot, with small letters. -/
def dotForms : List (List Char) :=
  [['.'], ['%', '2', 'e']]

/-- However a dot is written, it stands for its byte. -/
theorem decode_of_dotForms {cs form rest : List Char} (dot : form ∈ dotForms)
    (written : cs.map Char.toLower = form ++ rest) :
    ∃ more, more.map Char.toLower = rest ∧
      Text.Percent.decode cs = 46 :: Text.Percent.decode more := by
  simp only [dotForms, List.mem_cons, List.not_mem_nil, or_false] at dot
  obtain ⟨head, more, rfl, same, behind⟩ := List.map_eq_append_iff.mp written
  refine ⟨more, behind, ?_⟩
  rcases dot with rfl | rfl
  · obtain ⟨c, rfl, plain⟩ := List.map_eq_singleton_iff.mp same
    obtain rfl := eq_of_toLower_eq plain (by decide)
    exact Text.Percent.decodeBytes_cons (by decide) _
  · have three : head.length = 3 := by simpa using congrArg List.length same
    obtain ⟨mark, high, low, rfl⟩ := List.length_eq_three.mp three
    simp only [List.map_cons, List.map_nil, List.cons.injEq] at same
    obtain ⟨percent, two, letter, -⟩ := same
    obtain rfl := eq_of_toLower_eq percent (by decide)
    obtain rfl := eq_of_toLower_eq two (by decide)
    rcases eq_or_eq_of_toLower_eq letter with rfl | rfl
    · rfl
    · rfl

/-- A step stands for one dot or for two. -/
theorem decode_of_isDots {segment : String} (dots : isDots segment = true) :
    Text.Percent.decode segment.toList = [46] ∨
      Text.Percent.decode segment.toList = [46, 46] := by
  obtain ⟨first, one, second, two, same⟩ : ∃ first ∈ dotForms, ∃ second ∈ [] :: dotForms,
      segment.toList.map Char.toLower = first ++ second := by
    have lower : segment.toList.map Char.toLower ∈
        [['.'], ['%', '2', 'e'], ['.', '.'], ['.', '%', '2', 'e'], ['%', '2', 'e', '.'],
          ['%', '2', 'e', '%', '2', 'e']] := by
      simpa [isDots, isSingleDot, isDoubleDot, ← String.toList_inj, or_assoc] using dots
    generalize segment.toList.map Char.toLower = cs at lower ⊢
    revert cs
    decide
  obtain ⟨more, behind, start⟩ := decode_of_dotForms one same
  rcases List.mem_cons.mp two with rfl | two
  · cases List.map_eq_nil_iff.mp behind
    exact Or.inl start
  · rw [← List.append_nil second] at behind
    obtain ⟨none, nothing, next⟩ := decode_of_dotForms two behind
    cases List.map_eq_nil_iff.mp nothing
    rw [next] at start
    exact Or.inr start

/-- What is written for a text other than one or two dots is no step. -/
theorem isDots_encoded {cs : List Char} (one : cs ≠ ['.']) (two : cs ≠ ['.', '.']) :
    isDots (encoded (String.ofList cs)) = false := by
  rw [Bool.eq_false_iff]
  intro dots
  have back : Text.Percent.decode (encoded (String.ofList cs)).toList = Text.Utf8.encode cs := by
    rw [decode_encoded, String.toList_ofList]
  rcases decode_of_isDots dots with single | double
  · have same : Text.Utf8.encode cs = Text.Utf8.encode ['.'] := back.symm.trans single
    exact one (Text.Utf8.encode_inj same)
  · have same : Text.Utf8.encode cs = Text.Utf8.encode ['.', '.'] := back.symm.trans double
    exact two (Text.Utf8.encode_inj same)

/-! ## Staying below -/

/-- A path that goes on behind another, with nothing there to be taken for a step. -/
def Below (root path : List String) : Prop :=
  ∃ rest, path = root ++ rest ∧ rest ≠ [] ∧ ∀ segment ∈ rest, isDots segment = false

namespace Below

variable {root path : List String}

theorem long (deep : 2 ≤ root.length) (below : Below root path) : 2 ≤ path.length := by
  obtain ⟨rest, rfl, -, -⟩ := below
  rw [List.length_append]
  omega

theorem concat (below : Below root path) {segment : String} (straight : isDots segment = false) :
    Below root (path ++ [segment]) := by
  obtain ⟨rest, rfl, -, free⟩ := below
  refine ⟨rest ++ [segment], List.append_assoc .., by simp, ?_⟩
  intro other member
  rcases List.mem_append.mp member with former | last
  · exact free other former
  · rw [List.mem_singleton.mp last]
    exact straight

/-- Emptying the last segment leaves the ones above it alone. -/
theorem shorten (deep : 2 ≤ root.length) (below : Below root path) :
    Below root (shorten path) := by
  have long := below.long deep
  obtain ⟨rest, rfl, filled, free⟩ := below
  obtain ⟨before, last, rfl⟩ := (List.eq_nil_or_concat rest).resolve_left filled
  rw [List.concat_eq_append] at *
  have empty : isDots "" = false := by decide
  unfold Url.shorten
  rw [if_neg (ne_rootPath long), ← List.append_assoc, List.getLast?_concat]
  dsimp only
  split
  · refine concat ⟨before ++ [last], List.append_assoc .., by simp, free⟩ empty
  · rw [List.dropLast_concat]
    refine ⟨before ++ [""], List.append_assoc .., by simp, ?_⟩
    intro segment member
    rcases List.mem_append.mp member with former | final
    · exact free segment (List.mem_append_left _ former)
    · rw [List.mem_singleton.mp final]
      exact empty

/-- One more segment stays below, whatever it is. -/
theorem push (deep : 2 ≤ root.length) (below : Below root path) (segment : String) :
    Below root (push path segment) := by
  have long := below.long deep
  rw [push_eq]
  by_cases dots : segment = "." ∨ segment = ".."
  · rw [if_pos dots]
    exact below
  · rw [if_neg dots]
    by_cases double : keptOf segment = ['.', '.']
    · rw [if_pos double]
      exact below.shorten deep
    · rw [if_neg double]
      by_cases single : keptOf segment = ['.']
      · rw [if_pos single, append_eq long]
        exact below.concat (by decide)
      · rw [if_neg single, append_eq long]
        exact below.concat (isDots_encoded single double)

/-- Any number of segments stay below. -/
theorem foldl_push (deep : 2 ≤ root.length) (below : Below root path) (segments : List String) :
    Below root (segments.foldl Url.push path) := by
  induction segments generalizing path with
  | nil => exact below
  | cons segment segments ih =>
      rw [List.foldl_cons]
      exact ih (below.push deep segment)

end Below

/-- A call that starts with three plain words stays below the first two of them. -/
theorem below_extend {first second third : String} (plain : isPlainWord first = true)
    (also : isPlainWord second = true) (last : isPlainWord third = true)
    (path rest : List String) :
    Below (stem path ++ [first, second]) (extend path (first :: second :: third :: rest)) := by
  have deep : 2 ≤ (stem path ++ [first, second]).length := by
    simp
  obtain ⟨-, upright, itself⟩ := isPlainWord_iff.mp last
  have straight : isDots third = false := by
    have ends : third.toList ≠ ['.'] ∧ third.toList ≠ ['.', '.'] := by
      simp only [isUpright, Bool.and_eq_true, bne_iff_ne] at upright
      constructor
      · intro dot
        exact upright.1.1 (String.toList_inj.mp dot)
      · intro dots
        exact upright.1.2 (String.toList_inj.mp dots)
    have written := isDots_encoded ends.1 ends.2
    rwa [String.ofList_toList, itself] at written
  rw [extend_cons_cons plain also, List.foldl_cons, push_of_isUpright upright, itself,
    append_eq deep]
  refine Below.foldl_push deep ?_ rest
  exact ⟨[third], rfl, by simp, by simpa using straight⟩

/-- The text of a path that goes on behind the words of a call has them in it, and a slash behind
them. -/
theorem Below.text {path words whole : List String} (slashless : Slashless path)
    (below : Below (stem path ++ words) whole) :
    (stemText (pathText path) ++ (pathText words ++ "/")).toList <+: (pathText whole).toList ∧
      ∃ rest, pathText whole = stemText (pathText path) ++ (pathText words ++ pathText rest) ∧
        ∀ segment ∈ rest, isDots segment = false := by
  obtain ⟨rest, rfl, filled, free⟩ := below
  have text : pathText (stem path ++ words ++ rest) =
      stemText (pathText path) ++ (pathText words ++ pathText rest) := by
    rw [pathText_append, pathText_append, pathText_stem slashless, String.append_assoc]
  refine ⟨?_, rest, text, free⟩
  obtain ⟨segment, others, rfl⟩ := List.exists_cons_of_ne_nil filled
  refine ⟨segment.toList ++ (pathText others).toList, ?_⟩
  rw [text]
  simp [pathText_cons]

end Url

end SuiteBridge
