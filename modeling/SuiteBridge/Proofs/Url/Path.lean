import Mathlib.Data.List.Flatten
import Mathlib.Data.List.Forall2
import SuiteBridge.Proofs.Json.Distinct
import SuiteBridge.Proofs.Text.Percent
import SuiteBridge.Settings

/-!
# What becomes of segments in a path

A path is a row of segments without slashes, so that its text tells how many there are and which
(`pathText_inj`). A call starts behind the `stem` of the path of a service, which is its text
without a slash at its end (`pathText_stem`).

A segment is `isUpright` if it is no row of one or two dots and holds no tab and no line end.
Upright segments come out as they were given, one by one (`pathText_extend`, `decode_encoded`). Any
other segment is skipped, or something else is written for it: a path that has become longer by as
many segments as were given (`lengthens_of_pathText`), each of which can be read back, was given
upright ones (`isUpright_of_decode`).
-/

namespace SuiteBridge.Url

/-! ## Segments and texts -/

/-- No segment of a path has a slash in it. -/
def Slashless (path : List String) : Prop :=
  ∀ segment ∈ path, '/' ∉ segment.toList

theorem slashless_append {first second : List String} :
    Slashless (first ++ second) ↔ Slashless first ∧ Slashless second :=
  List.forall_mem_append

theorem Slashless.dropLast {path : List String} (slashless : Slashless path) :
    Slashless path.dropLast :=
  fun segment member => slashless segment (path.dropLast_subset member)

theorem slashless_empty : Slashless [""] := by
  simp [Slashless]

theorem pathText_cons (segment : String) (path : List String) :
    (pathText (segment :: path)).toList = '/' :: segment.toList ++ (pathText path).toList := by
  simp [pathText]

theorem pathText_append (first second : List String) :
    pathText (first ++ second) = pathText first ++ pathText second := by
  simp [pathText]

theorem pathText_cons_ne (segment : String) (path : List String) :
    pathText (segment :: path) ≠ pathText [] := by
  intro same
  have texts := congrArg String.toList same
  rw [pathText_cons] at texts
  cases texts

/-- The text of a path ends, or it goes on with a slash. -/
theorem head?_pathText {path : List String} :
    ∀ c ∈ (pathText path).toList.head?, (c != '/') = false := by
  cases path with
  | nil => simp [pathText]
  | cons segment path => simp [pathText_cons]

/-- A text leads back to one path without slashes in its segments. -/
theorem pathText_inj {first second : List String} (one : Slashless first) (other : Slashless second)
    (same : pathText first = pathText second) : first = second := by
  have marked : ∀ {segment : String}, '/' ∉ segment.toList →
      ∀ c ∈ segment.toList, (c != '/') = true := by
    intro segment free c member
    rw [bne_iff_ne]
    rintro rfl
    exact free member
  induction first generalizing second with
  | nil =>
      cases second with
      | nil => rfl
      | cons segment second => exact absurd same.symm (pathText_cons_ne segment second)
  | cons segment first ih =>
      cases second with
      | nil => exact absurd same (pathText_cons_ne segment first)
      | cons another second =>
          obtain ⟨free, others⟩ := List.forall_mem_cons.mp one
          obtain ⟨clean, more⟩ := List.forall_mem_cons.mp other
          have texts := congrArg String.toList same
          rw [pathText_cons, pathText_cons, List.cons_append, List.cons_append] at texts
          obtain ⟨here, behind⟩ := append_inj_of_marks (marked free) (marked clean) head?_pathText
            head?_pathText (List.cons.inj texts).2
          rw [String.toList_inj.mp here, ih others more (String.toList_inj.mp behind)]

/-! ## Where calls start -/

/-- The segments that come before those of a call. -/
def stem (path : List String) : List String :=
  if openPath path = rootPath then [] else openPath path

/-- A path as text, with one slash at its end taken off, and with nothing left when only a slash
is. -/
def stemText (text : String) : String :=
  let shorter :=
    if text.toList.getLast? = some '/' then String.ofList text.toList.dropLast else text
  if shorter = "/" then "" else shorter

theorem Slashless.openPath {path : List String} (slashless : Slashless path) :
    Slashless (openPath path) := by
  unfold Url.openPath
  split
  · exact slashless.dropLast
  · exact slashless

theorem Slashless.stem {path : List String} (slashless : Slashless path) :
    Slashless (stem path) := by
  unfold Url.stem
  split
  · exact List.forall_mem_nil _
  · exact slashless.openPath

theorem pathText_eq_slash_iff {path : List String} (slashless : Slashless path) :
    pathText path = "/" ↔ path = rootPath := by
  constructor
  · intro same
    exact pathText_inj slashless slashless_empty same
  · rintro rfl
    rfl

/-- The text of a path ends in a slash exactly if its last segment is empty. -/
theorem getLast?_pathText {path : List String} (slashless : Slashless path) :
    (pathText path).toList.getLast? = some '/' ↔ path.getLast? = some "" := by
  rcases List.eq_nil_or_concat path with rfl | ⟨before, last, rfl⟩
  · simp [pathText]
  · rw [List.concat_eq_append] at slashless ⊢
    have free : '/' ∉ last.toList := slashless last (by simp)
    have ending : (pathText (before ++ [last])).toList =
        (pathText before).toList ++ '/' :: last.toList := by
      rw [pathText_append, String.toList_append, pathText_cons]
      simp [pathText]
    rw [ending]
    rcases List.eq_nil_or_concat last.toList with empty | ⟨start, c, written⟩
    · have nothing : last = "" := by simpa using empty
      simp [nothing]
    · have other : c ≠ '/' := by
        rintro rfl
        exact free (by simp [written])
      have something : last ≠ "" := by
        rintro rfl
        simp at written
      rw [written, List.concat_eq_append, ← List.cons_append, ← List.append_assoc,
        List.getLast?_concat, List.getLast?_concat]
      simp [other, something]

/-- Without the empty last segment, a text is without the slash at its end. -/
theorem dropLast_pathText {path : List String} (last : path.getLast? = some "") :
    (pathText path).toList.dropLast = (pathText path.dropLast).toList := by
  obtain ⟨before, rfl⟩ := List.getLast?_eq_some_iff.mp last
  rw [List.dropLast_concat, pathText_append, String.toList_append]
  exact List.dropLast_concat

/-- The text before a call is that of the path, without a slash at its end. -/
theorem pathText_stem {path : List String} (slashless : Slashless path) :
    pathText (stem path) = stemText (pathText path) := by
  have root : ∀ {some : List String}, Slashless some →
      pathText (if some = rootPath then [] else some) =
        if pathText some = "/" then "" else pathText some := by
    intro some free
    by_cases bare : some = rootPath
    · rw [if_pos bare, if_pos ((pathText_eq_slash_iff free).mpr bare)]
      rfl
    · rw [if_neg bare, if_neg (mt (pathText_eq_slash_iff free).mp bare)]
  unfold stem stemText
  rw [root slashless.openPath]
  by_cases last : path.getLast? = some ""
  · rw [if_pos ((getLast?_pathText slashless).mpr last), dropLast_pathText last,
      String.ofList_toList]
    by_cases bare : path = rootPath
    -- The root stays as it is, and so nothing is left of it either way.
    · subst bare
      rfl
    · have opened : openPath path = path.dropLast := if_pos ⟨bare, last⟩
      rw [opened]
  · have opened : openPath path = path := if_neg fun both => last both.2
    rw [if_neg (mt (getLast?_pathText slashless).mp last), opened]

/-! ## Adding segments -/

/-- The characters of a segment that count. -/
def keptOf (segment : String) : List Char :=
  segment.toList.filter fun c => !isDropped c

/-- A segment that a path takes as it is: it is no row of one or two dots and holds nothing that is
dropped. -/
def isUpright (segment : String) : Bool :=
  segment != "." && segment != ".." && segment.toList.all fun c => !isDropped c

/-- A segment as it is written. -/
def encoded (segment : String) : String :=
  String.ofList (Text.Percent.encode Text.Percent.inSegment segment.toList)

/-- How a segment is written that makes a path longer: encoded without the characters that are
dropped, or as an empty one. -/
def Lengthens (segment written : String) : Prop :=
  segment ≠ "." ∧ segment ≠ ".." ∧
    (written = encoded (String.ofList (keptOf segment)) ∨
      written = "" ∧ keptOf segment ≠ segment.toList)

theorem keptOf_of_isUpright {segment : String} (upright : isUpright segment = true) :
    keptOf segment = segment.toList := by
  simp only [isUpright, Bool.and_eq_true] at upright
  exact List.filter_eq_self.mpr (List.all_eq_true.mp upright.2)

theorem push_eq (path : List String) (segment : String) :
    push path segment =
      if segment = "." ∨ segment = ".." then path
      else if keptOf segment = ['.', '.'] then shorten path
      else if keptOf segment = ['.'] then append path ""
      else append path (encoded (String.ofList (keptOf segment))) := by
  simp only [push, keptOf, encoded, String.toList_ofList]

theorem push_of_isUpright {segment : String} (upright : isUpright segment = true)
    (path : List String) : push path segment = append path (encoded segment) := by
  have kept := keptOf_of_isUpright upright
  simp only [isUpright, Bool.and_eq_true, bne_iff_ne] at upright
  obtain ⟨⟨one, two⟩, -⟩ := upright
  have single : segment.toList ≠ ['.'] := fun same => one (String.toList_inj.mp same)
  have double : segment.toList ≠ ['.', '.'] := fun same => two (String.toList_inj.mp same)
  rw [push_eq, if_neg (not_or.mpr ⟨one, two⟩), kept, if_neg double, if_neg single,
    String.ofList_toList]

theorem ne_rootPath {path : List String} (long : 2 ≤ path.length) : path ≠ rootPath := by
  rintro rfl
  simp [rootPath] at long

/-- A path that is longer than the root takes every segment at its end. -/
theorem append_eq {path : List String} (long : 2 ≤ path.length) (segment : String) :
    append path segment = path ++ [segment] :=
  if_neg (ne_rootPath long)

theorem shorten_cases {path : List String} (long : 2 ≤ path.length) :
    shorten path = path ++ [""] ∨ (shorten path).length = path.length := by
  have filled : path ≠ [] := by
    rintro rfl
    simp at long
  obtain ⟨last, final⟩ : ∃ last, path.getLast? = some last :=
    ⟨path.getLast filled, List.getLast?_eq_some_getLast filled⟩
  unfold shorten
  rw [if_neg (ne_rootPath long), final]
  by_cases drive : isDrive last = true
  · exact Or.inl (if_pos drive)
  · refine Or.inr ?_
    simp only [if_neg drive, List.length_append, List.length_dropLast, List.length_singleton]
    omega

/-- A segment makes a path longer by one, or not at all. -/
theorem push_cases {path : List String} (long : 2 ≤ path.length) (segment : String) :
    (∃ written, push path segment = path ++ [written] ∧ Lengthens segment written) ∨
      (push path segment).length = path.length := by
  rw [push_eq]
  by_cases dots : segment = "." ∨ segment = ".."
  · rw [if_pos dots]
    exact Or.inr rfl
  · obtain ⟨one, two⟩ := not_or.mp dots
    rw [if_neg dots]
    by_cases double : keptOf segment = ['.', '.']
    · rw [if_pos double]
      refine (shorten_cases long).imp_left fun longer => ⟨"", longer, one, two, Or.inr ⟨rfl, ?_⟩⟩
      intro kept
      exact two (String.toList_inj.mp (kept.symm.trans double))
    · rw [if_neg double]
      by_cases single : keptOf segment = ['.']
      · rw [if_pos single]
        refine Or.inl ⟨"", append_eq long "", one, two, Or.inr ⟨rfl, ?_⟩⟩
        intro kept
        exact one (String.toList_inj.mp (kept.symm.trans single))
      · rw [if_neg single]
        exact Or.inl ⟨_, append_eq long _, one, two, Or.inl rfl⟩

/-- Several segments make a path longer by as many, each by its own, or by fewer. -/
theorem foldl_push_cases {path : List String} (long : 2 ≤ path.length) (segments : List String) :
    (∃ written, segments.foldl push path = path ++ written ∧
      List.Forall₂ Lengthens segments written) ∨
      (segments.foldl push path).length < path.length + segments.length := by
  induction segments generalizing path with
  | nil => exact Or.inl ⟨[], (List.append_nil path).symm, .nil⟩
  | cons segment segments ih =>
      rw [List.foldl_cons, List.length_cons]
      rcases push_cases long segment with ⟨first, longer, lengthens⟩ | same
      · rw [longer]
        have still : 2 ≤ (path ++ [first]).length := by
          rw [List.length_append]
          omega
        rcases ih still with ⟨written, whole, each⟩ | fewer
        · refine Or.inl ⟨first :: written, ?_, .cons lengthens each⟩
          rw [whole, List.append_assoc, List.singleton_append]
        · rw [List.length_append, List.length_singleton] at fewer
          exact Or.inr (by omega)
      · rcases ih (same ▸ long) with ⟨written, whole, each⟩ | fewer
        · refine Or.inr ?_
          rw [whole, List.length_append, same, ← each.length_eq]
          omega
        · exact Or.inr (by omega)

theorem foldl_push_of_isUpright {path segments : List String} (long : 2 ≤ path.length)
    (upright : ∀ segment ∈ segments, isUpright segment = true) :
    segments.foldl push path = path ++ segments.map encoded := by
  induction segments generalizing path with
  | nil => simp
  | cons segment segments ih =>
      obtain ⟨first, others⟩ := List.forall_mem_cons.mp upright
      have still : 2 ≤ (path ++ [encoded segment]).length := by
        rw [List.length_append]
        omega
      rw [List.foldl_cons, push_of_isUpright first, append_eq long, ih still others,
        List.append_assoc, List.map_cons, List.singleton_append]

/-! ### No slash comes in -/

theorem not_mem_encoded (segment : String) : '/' ∉ (encoded segment).toList := by
  rw [encoded, String.toList_ofList]
  intro member
  have plain := (Text.Percent.mem_encode member (by decide)).2
  exact absurd plain (by decide)

theorem Slashless.append {path : List String} {segment : String} (slashless : Slashless path)
    (free : '/' ∉ segment.toList) : Slashless (append path segment) := by
  unfold Url.append
  split
  · simpa [Slashless] using free
  · exact slashless_append.mpr ⟨slashless, by simpa [Slashless] using free⟩

theorem Slashless.shorten {path : List String} (slashless : Slashless path) :
    Slashless (shorten path) := by
  unfold Url.shorten
  split
  · exact slashless_empty
  · split
    · split
      · exact slashless_append.mpr ⟨slashless, slashless_empty⟩
      · exact slashless_append.mpr ⟨slashless.dropLast, slashless_empty⟩
    · exact slashless_empty

theorem Slashless.push {path : List String} (slashless : Slashless path) (segment : String) :
    Slashless (push path segment) := by
  rw [push_eq]
  split
  · exact slashless
  · split
    · exact slashless.shorten
    · split
      · exact slashless.append (by simp)
      · exact slashless.append (not_mem_encoded _)

theorem Slashless.foldl_push {path : List String} (slashless : Slashless path)
    (segments : List String) : Slashless (segments.foldl Url.push path) := by
  induction segments generalizing path with
  | nil => exact slashless
  | cons segment segments ih => exact ih (slashless.push segment)

/-! ### What can be read back -/

theorem decode_encoded (segment : String) :
    Text.Percent.decode (encoded segment).toList = Text.Utf8.encode segment.toList := by
  rw [encoded, String.toList_ofList]
  exact Text.Percent.decode_encode (by decide) _

/-- Leaving characters out leaves bytes out. -/
theorem filter_eq_self_of_length_encode {cs : List Char} {keep : Char → Bool}
    (same : (Text.Utf8.encode (cs.filter keep)).length = (Text.Utf8.encode cs).length) :
    cs.filter keep = cs := by
  have most : ∀ cs : List Char,
      (Text.Utf8.encode (cs.filter keep)).length ≤ (Text.Utf8.encode cs).length :=
    fun cs => (List.filter_sublist.flatMap _).length_le
  induction cs with
  | nil => rfl
  | cons c cs ih =>
      have first : (Text.Utf8.encode (c :: cs)).length =
          c.utf8Size + (Text.Utf8.encode cs).length := by
        simp [Text.Utf8.encode]
      by_cases kept : keep c = true
      · rw [List.filter_cons_of_pos kept] at same ⊢
        have others : (Text.Utf8.encode (cs.filter keep)).length =
            (Text.Utf8.encode cs).length := by
          simpa [Text.Utf8.encode] using same
        rw [ih others]
      · rw [List.filter_cons_of_neg kept, first] at same
        have bound := most cs
        have size := c.utf8Size_pos
        omega

/-- A segment that a path becomes longer by, and that can be read back, is upright. -/
theorem isUpright_of_decode {segment written : String} (lengthens : Lengthens segment written)
    (back : Text.Percent.decode written.toList = Text.Utf8.encode segment.toList) :
    isUpright segment = true := by
  obtain ⟨one, two, came⟩ := lengthens
  have kept : keptOf segment = segment.toList := by
    rcases came with rfl | ⟨rfl, dropped⟩
    · rw [decode_encoded, String.toList_ofList] at back
      exact filter_eq_self_of_length_encode (congrArg List.length back)
    -- Nothing is written, so that there was nothing to drop.
    · have nothing : (Text.Utf8.encode (segment.toList.filter fun _ => false)).length =
          (Text.Utf8.encode segment.toList).length := by
        rw [← back]
        simp [Text.Utf8.encode, Text.Percent.decode, Text.Percent.decodeBytes]
      have empty := filter_eq_self_of_length_encode nothing
      simp only [List.filter_false] at empty
      rw [keptOf, ← empty, List.filter_nil]
  have whole : segment.toList.all (fun c => !isDropped c) = true :=
    List.all_eq_true.mpr (List.filter_eq_self.mp kept)
  simp [isUpright, one, two, whole]

/-! ## Whole calls -/

/-- A word that is written as it is, wherever it comes in a path. -/
def isPlainWord (word : String) : Bool :=
  word != "" && isUpright word && encoded word == word

theorem isPlainWord_iff {word : String} :
    isPlainWord word = true ↔ word ≠ "" ∧ isUpright word = true ∧ encoded word = word := by
  simp [isPlainWord, and_assoc]

theorem concat_ne_rootPath (path : List String) {written : String} (filled : written ≠ "") :
    path ++ [written] ≠ rootPath := by
  intro root
  have last := congrArg List.getLast? root
  rw [List.getLast?_concat] at last
  exact filled (Option.some.inj last)

/-- The first segment takes the place of the root, if that is all there is. -/
theorem append_openPath (path : List String) (written : String) :
    append (openPath path) written = stem path ++ [written] := by
  unfold append stem
  split
  · rfl
  · rfl

/-- Behind the stem of a path, a call starts with its two first words. -/
theorem extend_cons_cons {first second : String} (plain : isPlainWord first = true)
    (also : isPlainWord second = true) (path rest : List String) :
    extend path (first :: second :: rest) = rest.foldl push (stem path ++ [first, second]) := by
  obtain ⟨filled, upright, itself⟩ := isPlainWord_iff.mp plain
  obtain ⟨-, straight, same⟩ := isPlainWord_iff.mp also
  have other : stem path ++ [first] ≠ rootPath := concat_ne_rootPath (stem path) filled
  rw [extend, List.foldl_cons, List.foldl_cons, push_of_isUpright upright, itself, append_openPath,
    push_of_isUpright straight, same, append, if_neg other, List.append_assoc, List.cons_append,
    List.nil_append]

section Calls

variable {path rest : List String} {first second : String}

/-- Upright segments follow the stem, each as it is written. -/
theorem pathText_extend (slashless : Slashless path) (plain : isPlainWord first = true)
    (also : isPlainWord second = true) (upright : ∀ segment ∈ rest, isUpright segment = true) :
    pathText (extend path (first :: second :: rest)) =
      stemText (pathText path) ++ pathText (first :: second :: rest.map encoded) := by
  have long : 2 ≤ (stem path ++ [first, second]).length := by
    simp
  rw [extend_cons_cons plain also, foldl_push_of_isUpright long upright, List.append_assoc,
    pathText_append, pathText_stem slashless]
  rfl

/-- Whenever as many segments follow the stem as were given, each of them made the path longer. -/
theorem lengthens_of_pathText {written : List String} (slashless : Slashless path)
    (plain : isPlainWord first = true) (also : isPlainWord second = true)
    (free : Slashless (first :: second :: written)) (many : written.length = rest.length)
    (text : pathText (extend path (first :: second :: rest)) =
      stemText (pathText path) ++ pathText (first :: second :: written)) :
    List.Forall₂ Lengthens rest written := by
  have long : 2 ≤ (stem path ++ [first, second]).length := by
    simp
  have segments : extend path (first :: second :: rest) =
      stem path ++ first :: second :: written := by
    rw [← pathText_stem slashless, ← pathText_append] at text
    exact pathText_inj (slashless.openPath.foldl_push _)
      (slashless_append.mpr ⟨slashless.stem, free⟩) text
  rw [extend_cons_cons plain also] at segments
  rcases foldl_push_cases long rest with ⟨taken, whole, each⟩ | fewer
  · have same : taken = written := by
      rw [whole, List.append_assoc] at segments
      simpa using segments
    exact same ▸ each
  · rw [segments] at fewer
    simp only [List.length_append, List.length_cons, List.length_nil] at fewer
    omega

end Calls

/-! ## The paths of addresses that are read -/

theorem splitWhere_ne_nil (mark : Char → Bool) (cs : List Char) : splitWhere mark cs ≠ [] := by
  cases cs with
  | nil => simp [splitWhere]
  | cons c cs =>
      rw [splitWhere]
      split
      · simp
      · split <;> simp

/-- The pieces between the characters of a kind hold none of them. -/
theorem not_mark_of_mem_splitWhere {mark : Char → Bool} {cs piece : List Char}
    (member : piece ∈ splitWhere mark cs) : ∀ c ∈ piece, mark c = false := by
  induction cs generalizing piece with
  | nil =>
      cases List.mem_singleton.mp member
      exact List.forall_mem_nil _
  | cons d cs ih =>
      rw [splitWhere] at member
      obtain ⟨first, rest, pieces⟩ := List.exists_cons_of_ne_nil (splitWhere_ne_nil mark cs)
      rw [pieces] at member ih
      dsimp only at member
      by_cases marked : mark d = true
      · rw [if_pos marked] at member
        rcases List.mem_cons.mp member with rfl | former
        · exact List.forall_mem_nil _
        · exact ih former
      · rw [if_neg marked] at member
        rcases List.mem_cons.mp member with rfl | former
        · exact List.forall_mem_cons.mpr ⟨by simpa using marked, ih List.mem_cons_self⟩
        · exact ih (List.mem_cons_of_mem _ former)

theorem Slashless.parent {path : List String} (slashless : Slashless path) :
    Slashless (parent path) := by
  unfold Url.parent
  split
  · split
    · exact slashless
    · exact slashless.dropLast
  · exact List.forall_mem_nil _

theorem Slashless.resolve {path segments : List String} (slashless : Slashless path)
    (free : Slashless segments) : Slashless (resolve path segments) := by
  fun_induction Url.resolve path segments with
  | case1 path => exact slashless
  | case2 path last _ => exact slashless_append.mpr ⟨slashless.parent, slashless_empty⟩
  | case3 path last _ _ => exact slashless_append.mpr ⟨slashless, slashless_empty⟩
  | case4 path last _ _ => exact slashless_append.mpr ⟨slashless, free⟩
  | case5 path segment rest _ _ ih =>
      exact ih slashless.parent (List.forall_mem_cons.mp free).2
  | case6 path segment rest _ _ _ ih => exact ih slashless (List.forall_mem_cons.mp free).2
  | case7 path segment rest _ _ _ ih =>
      obtain ⟨first, others⟩ := List.forall_mem_cons.mp free
      exact ih (slashless_append.mpr ⟨slashless, by simpa [Slashless] using first⟩) others

theorem slashless_pathOf (kind : SchemeKind) (cs : List Char) : Slashless (pathOf kind cs) := by
  unfold pathOf
  refine Slashless.resolve (List.forall_mem_nil _) ?_
  intro segment member
  obtain ⟨piece, there, rfl⟩ := List.mem_map.mp member
  rw [String.toList_ofList]
  intro slash
  have held := (Text.Percent.mem_encode slash (by decide)).1
  have other := not_mark_of_mem_splitWhere there _ held
  simp [SchemeKind.isSlash] at other

theorem resolve_ne_nil {path segments : List String} (filled : segments ≠ []) :
    resolve path segments ≠ [] := by
  fun_induction Url.resolve path segments with
  | case1 path => exact absurd rfl filled
  | case2 path last _ => simp
  | case3 path last _ _ => simp
  | case4 path last _ _ => simp
  | case5 path segment rest more _ ih => exact ih more
  | case6 path segment rest more _ _ ih => exact ih more
  | case7 path segment rest more _ _ ih => exact ih more

/-- A path that is read has a segment, even if that is empty. -/
theorem pathOf_ne_nil (kind : SchemeKind) (cs : List Char) : pathOf kind cs ≠ [] := by
  unfold pathOf
  apply resolve_ne_nil
  rw [ne_eq, List.map_eq_nil_iff]
  exact splitWhere_ne_nil _ _

theorem exists_pathOf_of_hosted {scheme : String} {defaultPort : Nat} {cs : List Char} {url : Url}
    (read : hosted scheme defaultPort cs = .ok url) : ∃ kind path, url.path = pathOf kind path := by
  unfold hosted at read
  dsimp only at read
  split at read
  · cases read
  · cases read
    exact ⟨_, _, rfl⟩

/-- The path of an address that was read is read from a part of it. -/
theorem exists_pathOf_of_parseBase {raw : String} {url : Url}
    (accepted : Settings.parseBase raw = .ok url) : ∃ kind path, url.path = pathOf kind path := by
  have read : parse raw = .ok url := by
    unfold Settings.parseBase at accepted
    split at accepted
    · rename_i found same
      cases accepted
      exact same
    · cases accepted
  unfold parse at read
  split at read
  · cases read
  · dsimp only at read
    split at read
    · split at read <;> cases read
    · split at read <;> cases read
    · split at read
      · cases read
      · rename_i found same
        split at read
        · cases read
          exact exists_pathOf_of_hosted same
        · cases read

/-- The path of an address that was read has no slash within a segment. -/
theorem slashless_of_parseBase {raw : String} {url : Url}
    (accepted : Settings.parseBase raw = .ok url) : Slashless url.path := by
  obtain ⟨kind, path, same⟩ := exists_pathOf_of_parseBase accepted
  rw [same]
  exact slashless_pathOf kind path

end SuiteBridge.Url
