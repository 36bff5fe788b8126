import SuiteBridge.Json.Decoder
import SuiteBridge.Proofs.Json.Written

/-!
# Records from members

The slots of a form do not get in each other's way: a form is filled from the members of an object
exactly if each of its slots is filled from the values under its own name (`Form.make_slot`), none
or one of them.
-/

namespace SuiteBridge

namespace Members

/-- The values under a name, in their order. -/
def named (name : String) (members : Members) : List Json :=
  (members.filter fun member => member.1 = name).map Prod.snd

/-- The members of all other names. -/
def without (name : String) (members : Members) : Members :=
  members.filter fun member => member.1 ≠ name

variable {name other : String} {value : Json} {members : Members}

@[simp] theorem named_nil : named name [] = [] :=
  rfl

@[simp] theorem named_cons_self :
    named name ((name, value) :: members) = value :: named name members := by
  simp [named]

@[simp] theorem named_cons_of_ne (different : other ≠ name) :
    named name ((other, value) :: members) = named name members := by
  simp [named, different]

@[simp] theorem without_cons_self :
    without name ((name, value) :: members) = without name members := by
  simp [without]

@[simp] theorem without_cons_of_ne (different : other ≠ name) :
    without name ((other, value) :: members) = (other, value) :: without name members := by
  simp [without, different]

@[simp] theorem named_without (different : name ≠ other) :
    named name (without other members) = named name members := by
  unfold named without
  rw [List.filter_filter]
  congr 1
  refine List.filter_congr fun member _ => ?_
  by_cases same : member.1 = name <;> simp [same, different]

@[simp] theorem named_append (first second : Members) :
    named name (first ++ second) = named name first ++ named name second := by
  simp [named]

@[simp] theorem named_optional_self (value : Option Json) :
    named name (optional name value) = value.toList := by
  cases value <;> simp [optional]

@[simp] theorem named_optional_of_ne (different : other ≠ name) (value : Option Json) :
    named name (optional other value) = [] := by
  cases value <;> simp [optional, different]

theorem named_eq_nil (absent : ∀ member ∈ members, member.1 ≠ name) : named name members = [] := by
  simpa [named] using absent

theorem head?_named : (named name members).head? = members.lookup name := by
  induction members with
  | nil => rfl
  | cons member members ih =>
      obtain ⟨own, value⟩ := member
      by_cases same : own = name
      · subst same
        simp
      · rw [named_cons_of_ne same, ih]
        simp [List.lookup_cons, beq_false_of_ne (Ne.symm same)]

end Members

namespace Json

/-- What stands in an empty slot, by the values under its name. -/
def Slot.given {β : Type} (slot : Slot β) : List Json → Except Cause β
  | [] =>
    match slot.fallback <|> slot.decoder.absent with
    | none => .error (.missingField slot.name)
    | some b => .ok b
  | [value] => slot.decoder.ofValue value
  | _ :: _ :: _ => .error (.duplicateField slot.name)

/-- A slot that may not be left empty is filled by the one value under its name. -/
theorem Slot.given_eq_ok {β : Type} {slot : Slot β} {values : List Json} {b : β}
    (needed : (slot.fallback <|> slot.decoder.absent) = none) :
    slot.given values = .ok b ↔
      ∃ value, values = [value] ∧ slot.decoder.ofValue value = .ok b := by
  rcases values with - | ⟨value, - | ⟨second, values⟩⟩
  · simp [given, needed]
  · simp [given]
  · simp [given]

/-- A slot that may be left empty or null is empty then, and filled by any other value. -/
theorem Slot.given_optional {β : Type} {name : String} {decoder : Decoder β} {values : List Json}
    {found : Option β} :
    (⟨name, .optional decoder, some none, none⟩ : Slot (Option β)).given values = .ok found ↔
      (values = [] ∨ values = [.null]) ∧ none = found ∨
        ∃ value b, values = [value] ∧ value ≠ .null ∧ decoder.ofValue value = .ok b ∧
          some b = found := by
  rcases values with - | ⟨value, - | ⟨second, values⟩⟩
  · simp [given]
  · cases value with
    | null => simp [given, Decoder.optional]
    | _ => simp [given, Decoder.optional, map_eq_ok]
  · simp [given]

namespace Form

variable {β γ : Type} {slot : Slot β} {rest : Form γ} {b : β} {c : γ}

/-- The values of all slots, from the members of an object. -/
def make (form : Form γ) (members : Members) : Except Cause γ :=
  (form.takeMembers members).bind Form.finish

theorem make_cons (form : Form γ) (name : String) (value : Json) (members : Members) :
    form.make ((name, value) :: members) =
      (form.take name value).bind fun form => form.make members := by
  unfold make
  rw [takeMembers]
  cases form.take name value <;> rfl

/-- A slot that is filled stays so, as long as nothing more comes under its name. -/
theorem make_filled {first : β} (filled : slot.value = some first) (members : Members) :
    (Form.slot slot rest).make members = .ok (b, c) ↔
      first = b ∧ members.named slot.name = [] ∧ rest.make (members.without slot.name) = .ok c := by
  induction members generalizing rest with
  | nil =>
      have ended : (Form.slot slot rest).make [] = rest.finish.map fun c => (first, c) := by
        simp [make, takeMembers, Except.bind, Form.finish, filled]
      have same : rest.make [] = rest.finish := rfl
      rw [ended, Members.without, List.filter_nil, same]
      cases rest.finish <;> simp [Except.map, Members.named]
  | cons member members ih =>
      obtain ⟨name, value⟩ := member
      rw [make_cons]
      by_cases own : slot.name = name
      · subst own
        simp [take, filled, Except.bind]
      · rw [Members.named_cons_of_ne (Ne.symm own), Members.without_cons_of_ne (Ne.symm own),
          make_cons]
        simp only [take, if_neg own]
        cases rest.take name value with
        | error cause => simp [Except.bind, Except.map]
        | ok rest => exact ih

/-- **A slot is filled by what is under its name, and the others by the rest.** -/
theorem make_slot (empty : slot.value = none) (members : Members) :
    (Form.slot slot rest).make members = .ok (b, c) ↔
      slot.given (members.named slot.name) = .ok b ∧
        rest.make (members.without slot.name) = .ok c := by
  induction members generalizing rest with
  | nil =>
      have same : rest.make [] = rest.finish := rfl
      rw [Members.without, List.filter_nil, same]
      have ended : (Form.slot slot rest).make [] =
          (slot.given []).bind fun b => rest.finish.map fun c => (b, c) := by
        simp only [make, takeMembers, Except.bind, Form.finish, Slot.given, empty,
          Option.orElse_eq_orElse, Option.orElse_none]
        cases slot.fallback.orElse fun _ => slot.decoder.absent <;> rfl
      rw [ended]
      change _ ↔ slot.given [] = .ok b ∧ _
      cases slot.given [] with
      | error cause => simp [Except.bind]
      | ok first => cases rest.finish <;> simp [Except.bind, Except.map]
  | cons member members ih =>
      obtain ⟨name, value⟩ := member
      rw [make_cons]
      by_cases own : slot.name = name
      · subst own
        simp only [take, if_true, empty, Members.named_cons_self, Members.without_cons_self]
        cases decoded : slot.decoder.ofValue value with
        | error cause =>
            cases Members.named slot.name members <;>
              simp [Except.map, Except.bind, Slot.given, decoded]
        | ok first =>
            refine (make_filled rfl members).trans ?_
            cases Members.named slot.name members <;> simp [Slot.given, decoded]
      · rw [Members.named_cons_of_ne (Ne.symm own), Members.without_cons_of_ne (Ne.symm own),
          make_cons]
        simp only [take, if_neg own]
        cases rest.take name value with
        | error cause => simp [Except.bind, Except.map]
        | ok rest => exact ih

section Slots

variable {name : String} {decoder : Decoder β} {fallback : β} {members : Members}

theorem make_required :
    (required name decoder rest).make members = .ok (b, c) ↔
      (⟨name, decoder, none, none⟩ : Slot β).given (members.named name) = .ok b ∧
        rest.make (members.without name) = .ok c :=
  make_slot rfl members

theorem make_defaulting :
    (defaulting name decoder fallback rest).make members = .ok (b, c) ↔
      (⟨name, decoder, some fallback, none⟩ : Slot β).given (members.named name) = .ok b ∧
        rest.make (members.without name) = .ok c :=
  make_slot rfl members

end Slots

theorem make_done (members : Members) : Form.done.make members = .ok () := by
  induction members with
  | nil => rfl
  | cons member members ih =>
      rw [make_cons]
      exact ih

end Form

namespace Decoder

variable {γ α : Type} {title : String} {form : Form γ} {build : γ → α}

theorem record_ofValue (members : Members) :
    (record title form build).ofValue (.object members) =
      (form.takeMembers members).bind fun form => form.finish.map build := by
  unfold record
  simp only
  cases form.takeMembers members <;> rfl

/-- A record is decoded from an object by filling its form. -/
theorem record_ofValue_eq_make (members : Members) :
    (record title form build).ofValue (.object members) = (form.make members).map build := by
  rw [record_ofValue, Form.make]
  cases form.takeMembers members <;> rfl

theorem openRecord_ofValue {build : γ → Members → α} (members : Members) :
    (openRecord title form build).ofValue (.object members) =
      (form.takeMembers members).bind fun filled =>
        filled.finish.map fun values => build values (form.others members) := by
  unfold openRecord
  simp only
  cases form.takeMembers members <;> rfl

/-- A record that keeps its other members is decoded in the same way and given those beside. -/
theorem openRecord_ofValue_eq_make {build : γ → Members → α} (members : Members) :
    (openRecord title form build).ofValue (.object members) =
      (form.make members).map fun values => build values (form.others members) := by
  rw [openRecord_ofValue, Form.make]
  cases form.takeMembers members <;> rfl

end Decoder

/-- A list is decoded exactly if each of its items is. -/
theorem exists_mapM_eq_ok {α : Type} {decode : Json → Except Cause α} {items : List Json} :
    (∃ as, items.mapM decode = .ok as) ↔ ∀ item ∈ items, ∃ a, decode item = .ok a := by
  induction items with
  | nil => simp [pure, Except.pure]
  | cons item items ih =>
      rw [List.mapM_cons, List.forall_mem_cons, ← ih]
      cases decode item with
      | error cause => simp [bind, Except.bind]
      | ok a => cases items.mapM decode <;> simp [bind, Except.bind, pure, Except.pure]

end Json

end SuiteBridge
