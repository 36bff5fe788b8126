import SuiteBridge.Proofs.Text.Percent
import SuiteBridge.Remote.Request

/-!
# What a query says

A query is read as a form: its pieces are pairs of a name and a value (`Url.readPairs`). A pair that
is put at the end of a query is read behind the pairs that were there (`Url.readPairs_appendPair`),
whatever the query was and whatever texts are in the pair.

`Call.add` adds a parameter to a call, if there is one. So a request says what the address of the
service says already, and then what was added, in this order (`query_read_back`).
-/

namespace SuiteBridge

/-- A text is cut at a character that it is put together with. -/
theorem Text.cutAt?_append {mark : Char} {before : List Char} (free : mark ∉ before)
    (after : List Char) : cutAt? mark (before ++ mark :: after) = some (before, after) := by
  have passed : ∀ c ∈ before, (c != mark) = true := by
    intro c member
    rw [bne_iff_ne]
    rintro rfl
    exact free member
  simp [cutAt?, List.dropWhile_append_of_pos passed, List.takeWhile_append_of_pos passed]

namespace Url

open Text.Percent (encodeForm not_mem_encodeForm readForm readForm_encodeForm)

/-- The name and the value in a piece of a query: what stands before and behind its first equals
sign. -/
def readPair (piece : List Char) : String × String :=
  match Text.cutAt? '=' piece with
  | none => (readForm piece, "")
  | some (name, value) => (readForm name, readForm value)

/-- The pairs of a query. Its pieces are parted by ampersands, and empty ones count for nothing. -/
def readPairs (query : Option String) : List (String × String) :=
  (((query.getD "").toList.splitOn '&').filter (· != [])).map readPair

theorem readPair_pairText (pair : String × String) : readPair (pairText pair) = pair := by
  have free : '=' ∉ encodeForm pair.1.toList :=
    not_mem_encodeForm (by decide) (by decide) (by decide) _
  rw [readPair, pairText, Text.cutAt?_append free]
  simp [readForm_encodeForm]

/-- A pair is a single piece, and not an empty one. -/
theorem splitOn_pairText (pair : String × String) :
    (pairText pair).splitOn '&' = [pairText pair] := by
  apply List.splitOn_eq_singleton
  intro member
  rcases List.mem_append.mp member with name | value
  · exact not_mem_encodeForm (by decide) (by decide) (by decide) _ name
  · rcases List.mem_cons.mp value with sign | value
    · cases sign
    · exact not_mem_encodeForm (by decide) (by decide) (by decide) _ value

theorem pairText_ne_nil (pair : String × String) : pairText pair ≠ [] := by
  simp [pairText]

theorem readPairs_pairText (pair : String × String) :
    readPairs (some (String.ofList (pairText pair))) = [pair] := by
  simp [readPairs, splitOn_pairText, pairText_ne_nil, readPair_pairText]

/-- A pair at the end of a query is read behind those that were there. -/
theorem readPairs_appendPair (query : Option String) (pair : String × String) :
    readPairs (appendPair query pair) = readPairs query ++ [pair] := by
  cases query with
  | none => exact readPairs_pairText pair
  | some query =>
      rw [appendPair]
      by_cases empty : query = ""
      · rw [if_pos empty, readPairs_pairText, empty]
        rfl
      · have parted : (query.toList ++ '&' :: pairText pair).splitOn '&' =
            query.toList.splitOn '&' ++ (pairText pair).splitOn '&' :=
          List.splitOnP_append_cons _ _ rfl
        rw [if_neg empty]
        simp [readPairs, parted, splitOn_pairText, pairText_ne_nil, readPair_pairText]

end Url

namespace Remote

/-- What may be added to the query of a call under a name: a text or a list, if there is one. -/
inductive Addition where
  | text (name : String) (value : Option String)
  | list (name : String) (entries : Option (List String))

namespace Addition

/-- The parameters that are added. -/
def parameters : Addition → List (String × String)
  | .text name value => parameter name value
  | .list name entries => listParameter name entries

/-- The name and the value that are added: a text as it is, and a list that has entries with commas
between them. -/
def pair? : Addition → Option (String × String)
  | .text name value => value.map fun value => (name, value)
  | .list name entries =>
    (entries.filter (· ≠ [])).map fun entries => (name, Text.join "," entries)

theorem parameters_eq (addition : Addition) : addition.parameters = addition.pair?.toList := by
  cases addition with
  | text name value => cases value <;> rfl
  | list name entries =>
      cases entries with
      | none => rfl
      | some entries => cases entries <;> rfl

end Addition

namespace Call

/-- The call with a parameter more, if there is one. -/
def add (call : Call) (addition : Addition) : Call :=
  { call with parameters := call.parameters ++ addition.parameters }

variable {settings : Settings} {call : Call}

/-- What is added to a call is read behind what its request said before. -/
theorem readPairs_add (addition : Addition) :
    Url.readPairs ((call.add addition).request settings).query =
      Url.readPairs (call.request settings).query ++ addition.pair?.toList := by
  simp only [request, add, url, Url.endpoint, Addition.parameters_eq, Url.appendPairs,
    List.foldl_append]
  cases addition.pair? with
  | none => simp
  | some pair => exact Url.readPairs_appendPair _ pair

/-- With nothing added, a call stays as it is. -/
theorem add_of_none {addition : Addition} (nothing : addition.pair? = none) :
    call.add addition = call := by
  rw [add, Addition.parameters_eq, nothing, Option.toList_none, List.append_nil]

theorem readPairs_foldl_add (additions : List Addition) :
    Url.readPairs ((additions.foldl add call).request settings).query =
      Url.readPairs (call.request settings).query ++ additions.filterMap Addition.pair? := by
  induction additions generalizing call with
  | nil => simp
  | cons addition additions ih =>
      rw [List.foldl_cons, ih, readPairs_add, List.append_assoc]
      cases given : addition.pair? with
      | none => rw [List.filterMap_cons_none given, Option.toList_none, List.nil_append]
      | some pair => rw [List.filterMap_cons_some given, Option.toList_some, List.singleton_append]

theorem foldl_add_of_none {additions : List Addition}
    (nothing : ∀ addition ∈ additions, addition.pair? = none) :
    additions.foldl add call = call := by
  induction additions with
  | nil => rfl
  | cons addition additions ih =>
      obtain ⟨first, others⟩ := List.forall_mem_cons.mp nothing
      rw [List.foldl_cons, add_of_none first, ih others]

/-- **The query of a request says what the address says, and then what was added.** Each text and
each list that has entries is one pair, in the order in which they were added to a call without
parameters. With none of them, the query of the address is sent as it is. -/
theorem query_read_back (settings : Settings) {call : Call} (bare : call.parameters = [])
    (additions : List Addition) :
    Url.readPairs ((additions.foldl add call).request settings).query =
      Url.readPairs settings.base.query ++ additions.filterMap Addition.pair? ∧
    ((∀ addition ∈ additions, addition.pair? = none) →
      ((additions.foldl add call).request settings).query = settings.base.query) := by
  have plain : (call.request settings).query = settings.base.query := by
    rw [request, bare]
    rfl
  constructor
  · rw [readPairs_foldl_add, plain]
  · intro nothing
    rw [foldl_add_of_none nothing, plain]

/-- A service whose address has a query of its own, with a pair without a value, an empty piece and
bytes that are no text. -/
def queriedSettings : Settings where
  base := ⟨"http", "", none, "[::1]", none, Url.rootPath, some "a=%20b+c&&x&y=%FF", none⟩
  key := "tenant:key"
  timeout := Settings.defaultTimeout

/-- A call that has nothing but a path. -/
def bareCall : Call :=
  ⟨.get, ["v1"], [], none, 200⟩

/-- Marks of a query, spaces and letters outside ASCII come through as they are, and an empty list
is left out. -/
theorem query_read_back_queriedSettings :
    Settings.parseBase "http://[::1]?a=%20b+c&&x&y=%FF" = .ok queriedSettings.base ∧
    Url.readPairs (([.text "이름" (some "a&b=c+ %"), .list "ids" (some []), .list "tag"
        (some ["1", "2"])].foldl add bareCall).request queriedSettings).query =
      [("a", " b c"), ("x", ""), ("y", "\uFFFD"), ("이름", "a&b=c+ %"), ("tag", "1,2")] ∧
    (([.text "page" none, .list "ids" none].foldl add bareCall).request queriedSettings).query =
      some "a=%20b+c&&x&y=%FF" := by
  have own : Url.readPairs queriedSettings.base.query =
      [("a", " b c"), ("x", ""), ("y", "\uFFFD")] := by
    decide +kernel
  have said := (@query_read_back queriedSettings bareCall rfl
    [.text "이름" (some "a&b=c+ %"), .list "ids" (some []), .list "tag" (some ["1", "2"])]).1
  have silent := (@query_read_back queriedSettings bareCall rfl
    [.text "page" none, .list "ids" none]).2
  refine ⟨rfl, ?_, silent (by decide)⟩
  rw [said, own]
  decide

end Call

end Remote

end SuiteBridge
