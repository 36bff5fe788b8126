import SuiteBridge.Proofs.Call.Blankness
import SuiteBridge.Proofs.Text.Separated

/-!
# Lists as lists and as texts

A list can be given as a list of texts or as one text with commas. Either way its entries are the
texts that are not blank, without the white space around them (`Arguments.visible`). An entry of a
text with commas has no comma in it, so the entries are found again in the text that is sent for
them, and reading them a second time changes nothing (`Arguments.list?_normalizes`).
-/

namespace SuiteBridge.Arguments

open Text (isBlank join splitAt trim)

variable {args : Arguments} {name s : String} {texts entries : List String}

/-- The texts that are not blank, without the white space around them. -/
def visible (texts : List String) : List String :=
  (texts.filter fun s => !isBlank s).map trim

/-- An entry that can be sent in a list: there is something in it, no white space at its ends, and
no comma. -/
structure IsEntry (entry : String) : Prop where
  filled : entry ≠ ""
  tight : Text.IsTight entry.toList
  free : ',' ∉ entry.toList

/-! ## What is visible -/

theorem isEntry_of_mem_visible (free : ∀ s ∈ texts, ',' ∉ s.toList) {entry : String}
    (member : entry ∈ visible texts) : IsEntry entry := by
  obtain ⟨s, kept, rfl⟩ := List.mem_map.mp member
  obtain ⟨given, written⟩ := List.mem_filter.mp kept
  refine ⟨fun empty => ?_, Text.isTight_trim s, fun comma => ?_⟩
  · rw [Text.trim_eq_empty_iff.mp empty] at written
    cases written
  · exact free s given (Text.mem_of_mem_trim comma)

/-- Entries are left as they are. -/
theorem visible_eq_self (proper : ∀ entry ∈ entries, IsEntry entry) :
    visible entries = entries := by
  have kept : ∀ entry ∈ entries, (!isBlank entry) = true := by
    intro entry member
    rw [Bool.not_eq_true', Bool.eq_false_iff, ne_eq, ← Text.trim_eq_empty_iff,
      Text.trim_eq_self (proper entry member).tight]
    exact (proper entry member).filled
  have whole : ∀ entry ∈ entries, trim entry = entry :=
    fun entry member => Text.trim_eq_self (proper entry member).tight
  rw [visible, List.filter_eq_self.mpr kept, List.map_congr_left whole, List.map_id']

/-! ## What is listed -/

theorem entriesOfText_eq (s : String) : entriesOfText s = visible (splitAt ',' s) := by
  rw [entriesOfText, visible, List.filter_map]
  congr 1
  refine List.filter_congr fun part _ => ?_
  rw [Function.comp_apply, Bool.eq_iff_iff, bne_iff_ne, Bool.not_eq_true', Bool.eq_false_iff]
  exact not_congr Text.trim_eq_empty_iff

theorem entriesOfText_join (free : ∀ s ∈ texts, ',' ∉ s.toList) :
    entriesOfText (join "," texts) = visible texts := by
  rw [entriesOfText_eq]
  cases texts with
  | nil => rfl
  | cons s texts => rw [Text.splitAt_join rfl free (List.cons_ne_nil _ _)]

theorem entriesOfItems_map_string (texts : List String) :
    entriesOfItems name (texts.map .string) = .ok (visible texts) := by
  induction texts with
  | nil => rfl
  | cons s texts ih =>
      rw [List.map_cons, entriesOfItems, entryOfItem, ih]
      cases blank : isBlank s <;> simp [visible, blank, Except.map]

/-- A list with an item that is neither a text nor a number is refused, wherever the item stands. -/
theorem exists_entriesOfItems_eq_error {items : List Json} {item : Json} (member : item ∈ items)
    (other : item.kindName ∈ ["null", "boolean", "array", "object"]) :
    ∃ fault, entriesOfItems name items = .error fault := by
  have refused : ∃ fault, entryOfItem name item = .error fault := by
    cases item with
    | string => simp [Json.kindName] at other
    | number => simp [Json.kindName] at other
    | null | bool | array | object => exact ⟨_, rfl⟩
  induction items with
  | nil => cases member
  | cons first items ih =>
      rw [entriesOfItems]
      rcases List.mem_cons.mp member with rfl | later
      · obtain ⟨fault, failed⟩ := refused
        exact ⟨fault, by rw [failed]⟩
      -- the fault may also be that of an item before it
      · obtain ⟨fault, failed⟩ := ih later
        cases entryOfItem name first with
        | error early => exact ⟨early, rfl⟩
        | ok entry => exact ⟨fault, by rw [failed]; rfl⟩

/-- What is sent for a list of entries is the list again when it is cut at its commas. -/
theorem listParameter_cases (query : String) (proper : ∀ entry ∈ entries, IsEntry entry) :
    entries = [] ∧ Remote.listParameter query (some entries) = [] ∨
      ∃ sent, Remote.listParameter query (some entries) = [(query, sent)] ∧
        splitAt ',' sent = entries := by
  cases entries with
  | nil => exact Or.inl ⟨rfl, rfl⟩
  | cons entry entries =>
      refine Or.inr ⟨_, rfl, Text.splitAt_join rfl ?_ (List.cons_ne_nil _ _)⟩
      exact fun part member => (proper part member).free

/-! ## What is read -/

section Insert

variable (args) (name)

theorem list?_insert_string (s : String) :
    (args.insert name (.string s)).list? name = .ok (some (entriesOfText s)) := by
  rw [list?, value?_insert_self]

theorem list?_insert_texts (texts : List String) :
    (args.insert name (.texts texts)).list? name = .ok (some (visible texts)) := by
  have found : (args.insert name (.texts texts)).value? name = some (.array (texts.map .string)) :=
    value?_insert rfl
  simp only [list?, found, entriesOfItems_map_string]
  rfl

end Insert

/-- **A list has the same entries in either spelling.** Those of a text with commas are tight and
not empty and have no comma in them, so they are found again in what is sent for them, and read
again from their text or as a list. Texts without a comma in them are read alike as a list and with
commas between them. A list with anything else in it but texts and numbers is refused. -/
theorem list?_normalizes (args : Arguments) (name : String) :
    (∀ s, ∃ entries, (args.insert name (.string s)).list? name = .ok (some entries) ∧
      (∀ entry ∈ entries, IsEntry entry) ∧
      (∀ query, entries = [] ∧ Remote.listParameter query (some entries) = [] ∨
        ∃ sent, Remote.listParameter query (some entries) = [(query, sent)] ∧
          splitAt ',' sent = entries) ∧
      (args.insert name (.string (join "," entries))).list? name = .ok (some entries) ∧
      (args.insert name (.texts entries)).list? name = .ok (some entries)) ∧
    (∀ texts : List String, (∀ s ∈ texts, ',' ∉ s.toList) →
      (args.insert name (.texts texts)).list? name = .ok (some (visible texts)) ∧
      (args.insert name (.string (join "," texts))).list? name = .ok (some (visible texts))) ∧
    ∀ items : List Json, ∀ item ∈ items,
      item.kindName ∈ ["null", "boolean", "array", "object"] →
        ∃ fault, (args.insert name (.array items)).list? name = .error fault ∧
          fault.kind = .validation ∧ fault.code = some ("INVALID_" ++ Text.upper name) := by
  refine ⟨fun s => ?_, fun texts free => ⟨?_, ?_⟩, fun items item member other => ?_⟩
  · have proper : ∀ entry ∈ entriesOfText s, IsEntry entry := by
      rw [entriesOfText_eq]
      exact fun entry => isEntry_of_mem_visible fun _ => Text.not_mem_of_mem_splitAt
    have free : ∀ entry ∈ entriesOfText s, ',' ∉ entry.toList :=
      fun entry member => (proper entry member).free
    refine ⟨entriesOfText s, list?_insert_string args name s, proper,
      fun query => listParameter_cases query proper, ?_, ?_⟩
    · rw [list?_insert_string, entriesOfText_join free, visible_eq_self proper]
    · rw [list?_insert_texts, visible_eq_self proper]
  · exact list?_insert_texts args name texts
  · rw [list?_insert_string, entriesOfText_join free]
  · obtain ⟨fault, refused⟩ := @exists_entriesOfItems_eq_error name items item member other
    have failed : (args.insert name (.array items)).list? name = .error fault := by
      have found : (args.insert name (.array items)).value? name = some (.array items) :=
        value?_insert rfl
      simp only [list?, found, refused]
      rfl
    have unusable := isInvalid_of_list?_eq_error failed
    exact ⟨fault, failed, unusable.kind, unusable.code⟩

/-- Two names are read out of a list with a blank text and white space in it and out of its text; a
list with a truth value behind a name is refused. -/
theorem list?_normalizes_names :
    ((none.insert "to" (.texts ["\u3000ana", "", "bo\n"])).list? "to" = .ok (some ["ana", "bo"]) ∧
      (none.insert "to" (.string "\u3000ana,,bo\n")).list? "to" = .ok (some ["ana", "bo"])) ∧
    ∃ fault, (none.insert "to" (.array [.string "ana", .bool true])).list? "to" = .error fault ∧
      fault.kind = .validation ∧ fault.code = some "INVALID_TO" := by
  have free : ∀ s ∈ ["\u3000ana", "", "bo\n"], ',' ∉ s.toList := by decide +kernel
  have names : visible ["\u3000ana", "", "bo\n"] = ["ana", "bo"] := by decide +kernel
  have written : join "," ["\u3000ana", "", "bo\n"] = "\u3000ana,,bo\n" := by decide +kernel
  have code : "INVALID_" ++ Text.upper "to" = "INVALID_TO" := by decide +kernel
  obtain ⟨-, alike, refused⟩ := list?_normalizes none "to"
  refine ⟨?_, code ▸ refused _ (.bool true) (by simp) (by decide +kernel)⟩
  rw [← names, ← written]
  exact alike _ free

end SuiteBridge.Arguments
