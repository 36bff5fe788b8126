import Mathlib.Data.List.Forall2
import SuiteBridge.Proofs.Entity.Encoding

/-!
# What a channel retains

A channel is decoded from an object and encoded again. Every member comes back as it was, but for
nulls that say of an optional member that there is none (`Channel.stated`) and but for `users`: of
what is under that name only the participants are kept (`Roster.Lists`). So nothing is lost and
nothing added exactly if `users` holds the participants and nothing else (`Channel.retained`).
-/

namespace SuiteBridge

namespace Json

/-- Two values are the same up to the order of members, at every level. -/
inductive Same : Json → Json → Prop
  | refl (value : Json) : Same value value
  | array {items others : List Json} :
    List.Forall₂ Same items others → Same (.array items) (.array others)
  | object {members others : Members} :
    (∀ name, Option.Rel Same (members.lookup name) (others.lookup name)) →
    Same (.object members) (.object others)

namespace Same

variable {members others : Members}

theorem rel_refl (found : Option Json) : Option.Rel Same found found := by
  cases found with
  | none => exact .none
  | some value => exact .some (.refl value)

theorem object_iff :
    Same (.object members) (.object others) ↔
      ∀ name, Option.Rel Same (members.lookup name) (others.lookup name) := by
  constructor
  · intro same
    cases same with
    | refl => exact fun name => rel_refl _
    | object alike => exact alike
  · exact .object

end Same

end Json

open Json (Same Slot)

/-- An object whose only name is this one has all its values under it. -/
theorem Members.eq_of_lookup_eq_none {name : String} {members : Members} {values : List Json}
    (others : ∀ other ≠ name, members.lookup other = none)
    (named : members.named name = values) : members = values.map fun value => (name, value) := by
  have all : ∀ member ∈ members, member.1 = name := by
    intro member kept
    by_contra different
    have absent := List.lookup_eq_none_iff.mp (others member.1 different) member kept
    simp at absent
  have whole : members.filter (fun member => member.1 = name) = members :=
    List.filter_eq_self.mpr fun member kept => decide_eq_true (all member kept)
  rw [← named, Members.named, whole, List.map_map]
  refine (List.map_id _).symm.trans (List.map_congr_left fun member kept => ?_)
  rw [Function.comp_apply, ← all member kept]
  rfl

/-! ## Rosters -/

namespace Roster

/-- What a value says of the participants: the list under that name or in first place, if any. -/
inductive Lists : Json → List Json → Prop
  | named {members : Members} {participants : List Json} :
    members.named "participants" = [.array participants] → Lists (.object members) participants
  | unnamed {members : Members} :
    members.named "participants" = [] → Lists (.object members) []
  | first (participants : List Json) : Lists (.array [.array participants]) participants
  | nothing : Lists (.array []) []

theorem given_eq_ok {values participants : List Json} :
    (⟨"participants", .list .any, some [], none⟩ : Slot _).given values = .ok participants ↔
      values = [.array participants] ∨ values = [] ∧ participants = [] := by
  rcases values with - | ⟨value, - | ⟨second, values⟩⟩
  · simp [Slot.given, eq_comm]
  · simp [Slot.given, Json.list_any_eq_ok]
  · simp [Slot.given]

theorem ofValue_singleton (first : Json) :
    decoder.ofValue (.array [first]) = ((Json.Decoder.list .any).ofValue first).map mk := by
  simp only [decoder, Json.Decoder.record, Json.Form.defaulting, Json.Form.takeItems]
  cases (Json.Decoder.list .any).ofValue first <;> rfl

theorem ofValue_cons_cons (first second : Json) (items : List Json) (roster : Roster) :
    decoder.ofValue (.array (first :: second :: items)) ≠ .ok roster := by
  simp only [decoder, Json.Decoder.record, Json.Form.defaulting, Json.Form.takeItems]
  cases (Json.Decoder.list .any).ofValue first <;> simp [Except.map]

theorem ofValue_object_eq_ok {members : Members} {roster : Roster} :
    decoder.ofValue (.object members) = .ok roster ↔
      Lists (.object members) roster.participants := by
  unfold decoder
  rw [Json.Decoder.record_ofValue_eq_make, Json.map_eq_ok]
  simp only [Prod.exists, Json.Form.make_defaulting, given_eq_ok, Json.Form.make_done]
  constructor
  · rintro ⟨participants, ⟨⟩, ⟨named | ⟨unnamed, rfl⟩, -⟩, rfl⟩
    · exact .named named
    · exact .unnamed unnamed
  · intro lists
    refine ⟨roster.participants, (), ⟨?_, trivial⟩, rfl⟩
    generalize roster.participants = participants at lists ⊢
    cases lists with
    | named named => exact .inl named
    | unnamed unnamed => exact .inr ⟨unnamed, rfl⟩

theorem ofValue_array_eq_ok {items : List Json} {roster : Roster} :
    decoder.ofValue (.array items) = .ok roster ↔ Lists (.array items) roster.participants := by
  obtain ⟨participants⟩ := roster
  rcases items with - | ⟨first, - | ⟨second, items⟩⟩
  · constructor
    · intro decoded
      cases decoded
      exact .nothing
    · intro lists
      cases lists
      rfl
  · rw [ofValue_singleton, Json.map_eq_ok]
    constructor
    · rintro ⟨found, listed, made⟩
      cases made
      rw [Json.list_any_eq_ok.mp listed]
      exact .first participants
    · intro lists
      cases lists
      exact ⟨participants, Json.list_any_eq_ok.mpr rfl, rfl⟩
  · constructor
    · exact fun decoded => absurd decoded (ofValue_cons_cons first second items _)
    · intro lists
      cases lists

/-- A roster is decoded exactly from what lists its participants. -/
theorem ofValue_eq_ok {value : Json} {roster : Roster} :
    decoder.ofValue value = .ok roster ↔ Lists value roster.participants := by
  cases value with
  | object members => exact ofValue_object_eq_ok
  | array items => exact ofValue_array_eq_ok
  | _ =>
      constructor
      · simp [decoder, Json.Decoder.record, Json.refuseValue]
      · intro lists
        cases lists

/-- A roster says the same as what it was decoded from exactly if that says nothing but the
participants, by their name. -/
theorem same_toJson_iff {value : Json} {roster : Roster}
    (lists : Lists value roster.participants) :
    Same roster.toJson value ↔
      ∃ participants, value = .object [("participants", .array participants)] := by
  obtain ⟨own⟩ := roster
  constructor
  · intro same
    cases value with
    | object members =>
        have alike := Same.object_iff.mp same
        have others : ∀ other ≠ "participants", members.lookup other = none := by
          intro other different
          have rel := alike other
          rw [List.lookup_cons, beq_false_of_ne different] at rel
          cases found : members.lookup other with
          | none => rfl
          | some value =>
              rw [found] at rel
              cases rel
        cases lists with
        | named named => exact ⟨own, congrArg _ (Members.eq_of_lookup_eq_none others named)⟩
        | unnamed unnamed =>
            have rel := alike "participants"
            rw [← Members.head?_named, ← Members.head?_named, unnamed] at rel
            cases rel
    | _ => cases same
  · rintro ⟨participants, rfl⟩
    have given : participants = own := by
      cases lists with
      | named named => simpa using named
      | unnamed unnamed => simp at unnamed
    rw [given]
    exact .refl _

end Roster

/-! ## Channels -/

namespace Channel

/-- The names of a channel under which there may be nothing. -/
def optionalNames : List String :=
  ["title", "type", "status", "users", "createdAt", "updatedAt"]

/-- The members of a channel that say something: all but the nulls under optional names. -/
def stated (members : Members) : Members :=
  members.filter fun (name, value) => !(value.isNull && optionalNames.contains name)

variable {members : Members} {name : String} {channel : Channel}

theorem named_stated :
    (stated members).named name =
      (members.named name).filter fun value => !(value.isNull && optionalNames.contains name) := by
  unfold stated Members.named
  rw [List.filter_map, List.filter_filter, List.filter_filter]
  congr 1
  refine List.filter_congr fun member _ => ?_
  by_cases same : member.1 = name <;> simp [same]

theorem lookup_stated_of_notMem (other : name ∉ optionalNames) :
    (stated members).lookup name = members.lookup name := by
  rw [← Members.head?_named, ← Members.head?_named, named_stated]
  simp [other]

/-- Under an optional name the members state what fills its slot, if anything does. -/
theorem stated_of_given {α : Type} {decoder : Json.Decoder α} {found : Option α}
    (listed : name ∈ optionalNames)
    (given : (⟨name, .optional decoder, some none, none⟩ : Slot _).given (members.named name) =
      .ok found) :
    (stated members).lookup name = none ∧ found = none ∨
      ∃ value a, (stated members).lookup name = some value ∧ decoder.ofValue value = .ok a ∧
        found = some a := by
  have kept : (stated members).lookup name =
      ((members.named name).filter fun value => !value.isNull).head? := by
    rw [← Members.head?_named, named_stated]
    simp [listed]
  rw [kept]
  rcases Slot.given_optional.mp given with
    ⟨nothing, missing⟩ | ⟨value, a, alone, stated, decoded, made⟩
  · left
    rcases nothing with absent | null
    · simp [absent, ← missing]
    · simp [null, ← missing, Json.isNull]
  · right
    have visible : value.isNull = false := by
      cases value with
      | null => exact absurd rfl stated
      | _ => rfl
    exact ⟨value, a, by simp [alone, visible], decoded, made.symm⟩

/-- What is stated of a text is the text. -/
theorem lookup_stated_text {found : Option String} (listed : name ∈ optionalNames)
    (given : (⟨name, .optional .text, some none, none⟩ : Slot _).given (members.named name) =
      .ok found) :
    (stated members).lookup name = found.map .string := by
  rcases stated_of_given listed given with ⟨absent, rfl⟩ | ⟨value, s, stated, decoded, rfl⟩
  · exact absent
  · rw [stated, Json.text_eq_ok.mp decoded]
    rfl

namespace MadeOf

theorem isTidy (made : MadeOf members channel) : channel.IsTidy := by
  intro member kept
  rw [← made.extra, Json.Form.others, List.mem_filter] at kept
  simpa using kept.2

theorem lookup_id (made : MadeOf members channel) :
    members.lookup "id" = some (.string channel.id) := by
  obtain ⟨value, alone, decoded⟩ := (Slot.given_eq_ok rfl).mp made.id
  rw [← Members.head?_named, alone, Json.text_eq_ok.mp decoded]
  rfl

theorem lookup_extra_of_not_knows (made : MadeOf members channel)
    (unknown : form.knows name = false) : channel.extra.lookup name = members.lookup name := by
  rw [← Members.head?_named, ← Members.head?_named, ← made.extra]
  congr 1
  unfold Members.named Json.Form.others
  rw [List.filter_filter]
  congr 1
  refine List.filter_congr fun member _ => ?_
  by_cases same : member.1 = name <;> simp [same, unknown]

/-- Every member but the users comes back as it is stated. -/
theorem member?_toJson (made : MadeOf members channel) (other : name ≠ "users") :
    channel.toJson.member? name = (stated members).lookup name := by
  obtain ⟨id, title, kind, status, -, createdAt, updatedAt⟩ :=
    Channel.member?_toJson made.isTidy
  cases known : form.knows name with
  | false =>
      have unlisted : name ∉ optionalNames := by
        intro listed
        cases known.symm.trans (knows_eq_true_iff.mpr (.tail _ listed))
      rw [member?_toJson_of_not_knows known, made.lookup_extra_of_not_knows known,
        lookup_stated_of_notMem unlisted]
  | true =>
      have listed := knows_eq_true_iff.mp known
      simp only [List.mem_cons, List.not_mem_nil, or_false] at listed
      rcases listed with rfl | rfl | rfl | rfl | rfl | rfl | rfl
      · rw [id, lookup_stated_of_notMem (by decide), made.lookup_id]
      · rw [title, lookup_stated_text (by decide) made.title]
      · rw [kind, lookup_stated_text (by decide) made.kind]
      · rw [status, lookup_stated_text (by decide) made.status]
      · exact absurd rfl other
      · rw [createdAt, lookup_stated_text (by decide) made.createdAt]
      · rw [updatedAt, lookup_stated_text (by decide) made.updatedAt]

/-- As the others come back, only the users decide whether the whole does. -/
theorem same_toJson_iff (made : MadeOf members channel) :
    Same channel.toJson (.object (stated members)) ↔
      Option.Rel Same (channel.users.map Roster.toJson) ((stated members).lookup "users") := by
  obtain ⟨-, -, -, -, users, -⟩ := Channel.member?_toJson made.isTidy
  have others : ∀ name, name ≠ "users" →
      channel.toJson.member? name = (stated members).lookup name := fun _ => made.member?_toJson
  obtain ⟨kept, whole⟩ : ∃ kept, channel.toJson = .object kept := ⟨_, rfl⟩
  rw [whole] at others users ⊢
  rw [Same.object_iff, ← users]
  refine ⟨fun alike => alike "users", fun alike name => ?_⟩
  by_cases own : name = "users"
  · rw [own]
    exact alike
  · rw [← others name own]
    exact Same.rel_refl _

end MadeOf

/-- **What comes back of a channel.** Every member but the users is what was stated; of the users
come back the participants, under their name. So the whole is the same up to order exactly if the
users, where there are any, are an object of the participants alone. -/
theorem retained (decoded : decoder.ofValue (.object members) = .ok channel) :
    (∀ name, name ≠ "users" → channel.toJson.member? name = (stated members).lookup name) ∧
    ((stated members).lookup "users" = none → channel.toJson.member? "users" = none) ∧
    (∀ users, (stated members).lookup "users" = some users →
      ∃ participants, Roster.Lists users participants ∧
        channel.toJson.member? "users" = some (.object [("participants", .array participants)])) ∧
    (Same channel.toJson (.object (stated members)) ↔
      ∀ users, (stated members).lookup "users" = some users →
        ∃ participants, users = .object [("participants", .array participants)]) := by
  have made := ofValue_eq_ok.mp decoded
  obtain ⟨-, -, -, -, users, -⟩ := Channel.member?_toJson made.isTidy
  refine ⟨fun _ => made.member?_toJson, ?_⟩
  rw [made.same_toJson_iff, users]
  rcases stated_of_given (by decide) made.users with
    ⟨nothing, missing⟩ | ⟨value, roster, something, ofValue, found⟩
  · rw [nothing, missing]
    exact ⟨fun _ => rfl, nofun, fun _ => nofun, fun _ => .none⟩
  · have lists := Roster.ofValue_eq_ok.mp ofValue
    rw [something, found]
    simp only [reduceCtorEq, false_implies, Option.some.injEq, forall_eq', Option.map_some,
      true_and, Option.rel_some_some]
    exact ⟨⟨_, lists, rfl⟩, Roster.same_toJson_iff lists⟩

/-- A channel with a null for its title and two members that are kept as they are. -/
def privateMembers : Members :=
  [("id", .string "c-1"), ("title", .null), ("type", .string "private"), ("capacity", .nat 100),
    ("me", .object [("role", .string "member")]),
    ("users", .object [("participants", .array [.object [("type", .string "member")]])])]

/-- The channel made of them. -/
def privateChannel : Channel where
  id := "c-1"
  title := none
  kind := some "private"
  status := none
  users := some ⟨[.object [("type", .string "member")]]⟩
  createdAt := none
  updatedAt := none
  extra := [("capacity", .nat 100), ("me", .object [("role", .string "member")])]

theorem retained_privateMembers :
    decoder.ofValue (.object privateMembers) = .ok privateChannel ∧
    privateChannel.toJson.member? "capacity" = (stated privateMembers).lookup "capacity" ∧
    Same privateChannel.toJson (.object (stated privateMembers)) := by
  have decoded : decoder.ofValue (.object privateMembers) = .ok privateChannel := rfl
  obtain ⟨others, -, -, whole⟩ := retained decoded
  refine ⟨decoded, others "capacity" (by decide), whole.mpr fun users stated => ?_⟩
  cases stated
  exact ⟨_, rfl⟩

/-- A channel whose users state their number beside the participants. -/
def countedMembers : Members :=
  [("id", .string "c"), ("users", .object [("participants", .array []), ("total", .nat 3)])]

/-- The channel made of them. -/
def countedChannel : Channel where
  id := "c"
  title := none
  kind := none
  status := none
  users := some ⟨[]⟩
  createdAt := none
  updatedAt := none
  extra := []

/-- The number of the users is lost. -/
theorem unretained_countedMembers :
    decoder.ofValue (.object countedMembers) = .ok countedChannel ∧
    countedChannel.toJson.member? "users" = some (.object [("participants", .array [])]) ∧
    ¬ Same countedChannel.toJson (.object (stated countedMembers)) := by
  refine ⟨rfl, rfl, fun same => ?_⟩
  have users := Same.object_iff.mp same "users"
  have total : Option.Rel Same none (some (.nat 3)) := by
    cases users with
    | some users => exact Same.object_iff.mp users "total"
  cases total

end Channel

end SuiteBridge
