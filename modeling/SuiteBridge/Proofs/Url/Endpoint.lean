import SuiteBridge.Proofs.Text.Utf8
import SuiteBridge.Proofs.Url.Below

/-!
# The addresses of endpoints

A segment is `isNaming` if something other than one or two dots is left of it without its tabs and
line ends. A row of such segments comes behind the stem of a path segment by segment
(`extend_of_isNaming`), and each can be read back from what is written for it
(`carries_writtenOf`). So the address of an endpoint is that of the service with the segments
behind its path, and different rows lead to different addresses (`endpoint_continues`).

No path is empty. Where nothing is left of the path of the service and no segment is given, a slash
stays (`endpoint_stays`).
-/

namespace SuiteBridge.Url

/-! ## Segments that name something -/

/-- A segment of which something other than one or two dots is left without its tabs and line
ends. -/
def isNaming (segment : String) : Bool :=
  keptOf segment != [] && keptOf segment != ['.'] && keptOf segment != ['.', '.']

/-- What is written for a segment that names something. -/
def writtenOf (segment : String) : String :=
  encoded (String.ofList (keptOf segment))

/-- The text that a segment of a path stands for, if it stands for one. -/
def readSegment? (written : String) : Option String :=
  Text.Utf8.decode? (Text.Percent.decode written.toList)

/-- What is written in a path carries a segment: it holds nothing that ends a segment or a path, and
it stands for the segment without its tabs and line ends. -/
structure Carries (segment written : String) : Prop where
  free : ∀ mark ∈ ['/', '?', '#'], mark ∉ written.toList
  stands : readSegment? written = some (String.ofList (keptOf segment))

variable {segment : String}

theorem isNaming_iff : isNaming segment = true ↔
    keptOf segment ≠ [] ∧ keptOf segment ≠ ['.'] ∧ keptOf segment ≠ ['.', '.'] := by
  simp [isNaming, and_assoc]

theorem readSegment?_writtenOf (segment : String) :
    readSegment? (writtenOf segment) = some (String.ofList (keptOf segment)) := by
  rw [readSegment?, writtenOf, decode_encoded, Text.Utf8.decode?_encode, String.toList_ofList]

/-- What is written for a segment carries it, whatever it is. -/
theorem carries_writtenOf (segment : String) : Carries segment (writtenOf segment) where
  free := by
    have reserved : ∀ mark ∈ ['/', '?', '#'],
        mark ∉ Text.Percent.marks ∧ Text.Percent.inSegment mark = false := by
      simp only [List.forall_mem_cons, List.not_mem_nil, false_imp_iff, implies_true, and_true]
      decide
    intro mark ends member
    obtain ⟨other, refused⟩ := reserved mark ends
    rw [writtenOf, encoded, String.toList_ofList] at member
    have plain := (Text.Percent.mem_encode member other).2
    rw [refused] at plain
    cases plain
  stands := readSegment?_writtenOf segment

/-- Something is written for what names something. -/
theorem writtenOf_ne_empty (naming : isNaming segment = true) : writtenOf segment ≠ "" := by
  intro empty
  have read := readSegment?_writtenOf segment
  have nothing : readSegment? "" = some "" := by decide +kernel
  rw [empty, nothing] at read
  exact (isNaming_iff.mp naming).1 (String.ofList_inj.mp (Option.some.inj read)).symm

theorem push_of_isNaming (naming : isNaming segment = true) (path : List String) :
    push path segment = append path (writtenOf segment) := by
  obtain ⟨-, one, two⟩ := isNaming_iff.mp naming
  have dots : ¬ (segment = "." ∨ segment = "..") := by
    rintro (rfl | rfl)
    · exact one (by decide)
    · exact two (by decide)
  rw [push_eq, if_neg dots, if_neg two, if_neg one, writtenOf]

/-! ## Rows of segments -/

variable {path segments others : List String}

/-- A path other than the root goes on with what is written for each segment. -/
theorem foldl_push_of_isNaming (other : path ≠ rootPath)
    (naming : ∀ segment ∈ segments, isNaming segment = true) :
    segments.foldl push path = path ++ segments.map writtenOf := by
  induction segments generalizing path with
  | nil => simp
  | cons segment segments ih =>
      obtain ⟨first, more⟩ := List.forall_mem_cons.mp naming
      have still := concat_ne_rootPath path (writtenOf_ne_empty first)
      rw [List.foldl_cons, push_of_isNaming first, append, if_neg other, ih still more,
        List.append_assoc, List.map_cons, List.singleton_append]

/-- Segments that name something come behind the stem of a path, one by one. -/
theorem extend_of_isNaming (given : segments ≠ [])
    (naming : ∀ segment ∈ segments, isNaming segment = true) (path : List String) :
    extend path segments = stem path ++ segments.map writtenOf := by
  obtain ⟨segment, rest, rfl⟩ := List.exists_cons_of_ne_nil given
  obtain ⟨first, more⟩ := List.forall_mem_cons.mp naming
  have still := concat_ne_rootPath (stem path) (writtenOf_ne_empty first)
  rw [extend, List.foldl_cons, push_of_isNaming first, append_openPath,
    foldl_push_of_isNaming still more, List.append_assoc, List.map_cons, List.singleton_append]

theorem openPath_ne_nil (filled : path ≠ []) : openPath path ≠ [] := by
  unfold openPath
  split
  · rename_i more
    intro nothing
    obtain ⟨before, rfl⟩ := List.getLast?_eq_some_iff.mp more.2
    rw [List.dropLast_concat] at nothing
    rw [nothing] at more
    exact more.1 rfl
  · exact filled

theorem stem_eq_nil_iff (filled : path ≠ []) : stem path = [] ↔ openPath path = rootPath := by
  unfold stem
  split
  · simp [*]
  · simp [*, openPath_ne_nil filled]

theorem pathText_eq_empty_iff : pathText path = "" ↔ path = [] := by
  cases path with
  | nil => exact iff_of_true rfl rfl
  | cons segment path => exact iff_of_false (pathText_cons_ne segment path) nofun

/-- The text of an extended path. Only the root with nothing behind it stays as it is. -/
theorem pathText_extend_of_isNaming (filled : path ≠ []) (slashless : Slashless path)
    (naming : ∀ segment ∈ segments, isNaming segment = true) :
    pathText (extend path segments) =
      if segments = [] ∧ stemText (pathText path) = "" then "/"
      else stemText (pathText path) ++ pathText (segments.map writtenOf) := by
  have bare : stemText (pathText path) = "" ↔ openPath path = rootPath := by
    rw [← pathText_stem slashless, pathText_eq_empty_iff, stem_eq_nil_iff filled]
  by_cases none : segments = []
  · subst none
    by_cases root : openPath path = rootPath
    · rw [if_pos ⟨rfl, bare.mpr root⟩, extend, List.foldl_nil, root]
      rfl
    · have rest : stem path = openPath path := if_neg root
      rw [if_neg fun both => root (bare.mp both.2), extend, List.foldl_nil, ← rest,
        pathText_stem slashless, List.map_nil]
      exact String.append_empty.symm
  · rw [if_neg fun both => none both.1, extend_of_isNaming none naming, pathText_append,
      pathText_stem slashless]

/-! ## Different rows -/

/-- A path with nothing behind it is no path with something behind it. -/
theorem openPath_ne_extend (given : segments ≠ [])
    (naming : ∀ segment ∈ segments, isNaming segment = true) (path : List String) :
    openPath path ≠ extend path segments := by
  rw [extend_of_isNaming given naming]
  obtain ⟨segment, rest, rfl⟩ := List.exists_cons_of_ne_nil given
  have filled := writtenOf_ne_empty (naming segment List.mem_cons_self)
  unfold stem
  split
  · rename_i root
    rw [root, rootPath, List.map_cons, List.nil_append]
    intro same
    exact filled (List.cons.inj same).1.symm
  · intro same
    have none := List.self_eq_append_right.mp same
    cases none

/-- A path tells what was written behind the one it extends. -/
theorem map_writtenOf_of_extend_eq (naming : ∀ segment ∈ segments, isNaming segment = true)
    (also : ∀ segment ∈ others, isNaming segment = true)
    (same : extend path segments = extend path others) :
    segments.map writtenOf = others.map writtenOf := by
  by_cases none : segments = []
  · by_cases nothing : others = []
    · rw [none, nothing]
    · subst none
      exact absurd same (openPath_ne_extend nothing also path)
  · by_cases nothing : others = []
    · subst nothing
      exact absurd same.symm (openPath_ne_extend none naming path)
    · rw [extend_of_isNaming none naming, extend_of_isNaming nothing also] at same
      exact List.append_cancel_left same

/-- Segments without tabs and line ends are read back from what is written for them. -/
theorem map_readSegment?_writtenOf
    (whole : ∀ segment ∈ segments, ∀ c ∈ segment.toList, isDropped c = false) :
    (segments.map writtenOf).map readSegment? = segments.map some := by
  rw [List.map_map]
  refine List.map_congr_left fun segment member => ?_
  have kept : keptOf segment = segment.toList :=
    List.filter_eq_self.mpr fun c inside => by rw [whole segment member c inside]; rfl
  rw [Function.comp_apply, readSegment?_writtenOf, kept, String.ofList_toList]

/-- Addresses that differ in nothing but their paths have texts that tell the paths apart. -/
theorem pathText_eq_of_text_eq {base : Url} {first second : List String}
    (same : ({ base with path := first } : Url).text = ({ base with path := second } : Url).text) :
    pathText first = pathText second := by
  unfold text at same
  rw [String.append_left_inj, String.append_left_inj] at same
  exact (String.append_right_inj _).mp same

/-! ## Endpoints -/

/-- An address continues another by a row of segments: it differs from it in the path alone, which
goes on behind the other's with a slash and what carries it for each segment of the row. Where
nothing is left of the other's path and the row is empty, the path is a slash. -/
structure Continues (base : Url) (segments : List String) (url : Url) : Prop where
  scheme : url.scheme = base.scheme
  username : url.username = base.username
  password : url.password = base.password
  host : url.host = base.host
  port : url.port = base.port
  query : url.query = base.query
  fragment : url.fragment = base.fragment
  path : ∃ added, List.Forall₂ Carries segments added ∧
    pathText url.path =
      if segments = [] ∧ stemText (pathText base.path) = "" then "/"
      else stemText (pathText base.path) ++ pathText added

/-- **The address of an endpoint continues that of the service.** This holds for every address of a
service that is accepted and every row of segments that name something. Rows without tabs and line
ends lead to different addresses if they differ. -/
theorem endpoint_continues {raw : String} {base : Url}
    (accepted : Settings.parseBase raw = .ok base)
    (naming : ∀ segment ∈ segments, isNaming segment = true) :
    Continues base segments (base.endpoint segments) ∧
    ∀ others, (∀ segment ∈ others, isNaming segment = true) →
      (∀ segment ∈ segments ++ others, ∀ c ∈ segment.toList, isDropped c = false) →
      segments ≠ others → (base.endpoint segments).text ≠ (base.endpoint others).text := by
  have slashless := slashless_of_parseBase accepted
  have filled : base.path ≠ [] := by
    obtain ⟨kind, path, same⟩ := exists_pathOf_of_parseBase accepted
    rw [same]
    exact pathOf_ne_nil kind path
  constructor
  · have carried : List.Forall₂ Carries segments (segments.map writtenOf) :=
      List.forall₂_map_right_iff.mpr (List.forall₂_same.mpr fun segment _ =>
        carries_writtenOf segment)
    exact ⟨rfl, rfl, rfl, rfl, rfl, rfl, rfl, _, carried,
      pathText_extend_of_isNaming filled slashless naming⟩
  · intro others also whole differ alike
    apply differ
    have paths : extend base.path segments = extend base.path others :=
      pathText_inj (slashless.openPath.foldl_push _) (slashless.openPath.foldl_push _)
        (pathText_eq_of_text_eq alike)
    have written := map_writtenOf_of_extend_eq naming also paths
    have here := map_readSegment?_writtenOf fun segment member =>
      whole segment (List.mem_append_left others member)
    have there := map_readSegment?_writtenOf fun segment member =>
      whole segment (List.mem_append_right segments member)
    rw [written, there] at here
    exact List.map_injective_iff.mpr (fun _ _ => Option.some.inj) here.symm

/-- A service with everything an address can have. -/
def fullBase : Url :=
  ⟨"http", "u", some "p", "[::1]", some 81, ["proxy", ""], some "k=v", some "top"⟩

/-- A slash, a question mark and a percent sign within segments do not count as marks of the
address. -/
theorem endpoint_continues_fullBase :
    Continues fullBase ["a/b?", "50%", "é"] (fullBase.endpoint ["a/b?", "50%", "é"]) ∧
    (fullBase.endpoint ["a/b?", "50%", "é"]).text =
      "http://u:p@[::1]:81/proxy/a%2Fb%3F/50%25/%C3%A9?k=v#top" ∧
    (fullBase.endpoint ["a/b?", "50%", "é"]).text ≠
      (fullBase.endpoint ["a", "b?", "50%", "é"]).text := by
  have accepted : Settings.parseBase "http://u:p@[::1]:81/proxy/?k=v#top" = .ok fullBase := by
    decide
  obtain ⟨continues, apart⟩ := endpoint_continues accepted
    (show ∀ segment ∈ ["a/b?", "50%", "é"], isNaming segment = true by decide)
  refine ⟨continues, by decide +kernel, apart _ (by decide) (by simp [isDropped]) (by decide)⟩

/-- A service with nothing in its address but a host. -/
def bareBase : Url :=
  ⟨"http", "", none, "[::1]", none, rootPath, none, none⟩

/-- The path of an endpoint without segments is not always that of the service without the slash at
its end: where nothing else is there, the slash stays. -/
theorem endpoint_stays :
    Settings.parseBase "http://[::1]" = .ok bareBase ∧
    (∀ segment ∈ ([] : List String), isNaming segment = true) ∧
    (bareBase.endpoint []).text = "http://[::1]/" ∧
    ∀ added, List.Forall₂ Carries [] added →
      pathText (bareBase.endpoint []).path ≠
        stemText (pathText bareBase.path) ++ pathText added := by
  refine ⟨by decide, by decide, by decide, ?_⟩
  rintro added ⟨⟩
  decide

end SuiteBridge.Url
