import SuiteBridge.Proofs.Json.Coherence

/-!
# What a decoder can yield

`Yields good decoder` says that whatever the decoder makes of a text is good. It is kept by the ways
to build decoders: a list yields good items only, and a record yields what is made of good values in
its slots, whether they are given by name, by place or not at all (`Form.Holds`).

A record that keeps its other members keeps only such as it has no slot for (`yields_openRecord`).
-/

namespace SuiteBridge

theorem Members.mem_of_mem_insert {name : String} {value : Json} {members : Members}
    {member : String × Json} (inserted : member ∈ Members.insert name value members) :
    member = (name, value) ∨ member ∈ members := by
  induction members with
  | nil => exact Or.inl (List.mem_singleton.mp inserted)
  | cons first rest ih =>
      obtain ⟨key, old⟩ := first
      unfold Members.insert at inserted
      split at inserted
      · rcases List.mem_cons.mp inserted with same | later
        · exact Or.inl same
        · exact Or.inr (List.mem_cons_of_mem _ later)
      · rcases List.mem_cons.mp inserted with same | later
        · exact Or.inr (same ▸ List.mem_cons_self)
        · rcases ih later with same | earlier
          · exact Or.inl same
          · exact Or.inr (List.mem_cons_of_mem _ earlier)

namespace Json

open Text (Piece)

/-- Whatever a decoder makes of a text, or of something left out, is good. -/
structure Yields {α : Type} (good : α → Prop) (decoder : Decoder α) : Prop where
  ofText : ∀ {depth : Nat} {input rest : List Piece} {a : α},
    decoder.ofText depth input = .ok (a, rest) → good a
  absent : ∀ {a : α}, decoder.absent = some a → good a

variable {α : Type} {good : α → Prop} {decoder : Decoder α}

theorem yields_true (decoder : Decoder α) : Yields (fun _ => True) decoder :=
  ⟨fun _ => trivial, fun _ => trivial⟩

theorem Yields.decodePieces {input : List Piece} {a : α} (yields : Yields good decoder)
    (decoded : decoder.decodePieces input = .ok a) : good a := by
  obtain ⟨rest, read, -⟩ := wholly_eq_ok.mp decoded
  exact yields.ofText read

/-! ## The loops of lists and objects -/

/-- All items of a list are good if each item that is read is. -/
theorem forall_of_itemsUpTo {item : Reader α}
    (step : ∀ {input rest : List Piece} {a : α}, item input = .ok (a, rest) → good a)
    {fuel : Nat} {first : Bool} {input rest : List Piece} {items : List α}
    (read : itemsUpTo item fuel first input = .ok (items, rest)) : ∀ a ∈ items, good a := by
  induction fuel generalizing first input items with
  | zero => simp [itemsUpTo] at read
  | succ fuel ih =>
      unfold itemsUpTo at read
      split at read
      · cases read
      · cases read
        simp
      · split at read
        · cases read
        · rename_i first _ done
          obtain ⟨⟨others, _⟩, later, made⟩ := map_eq_ok.mp read
          cases made
          exact List.forall_mem_cons.mpr ⟨step done, ih later⟩

/-- What each member of an object keeps, all of them keep. -/
theorem keeps_of_membersUpTo {σ : Type u} {keeps : σ → Prop} {member : String → σ → Reader σ}
    (step : ∀ {name : String} {state next : σ} {input rest : List Piece}, keeps state →
      member name state input = .ok (next, rest) → keeps next)
    {fuel : Nat} {first : Bool} {state last : σ} {input rest : List Piece} (start : keeps state)
    (read : membersUpTo member fuel first state input = .ok (last, rest)) : keeps last := by
  induction fuel generalizing first state input with
  | zero => simp [membersUpTo] at read
  | succ fuel ih =>
      unfold membersUpTo at read
      split at read
      · cases read
      · cases read
        exact start
      · split at read
        · cases read
        · rename_i done
          exact ih (step start done) read

theorem yields_list (yields : Yields good decoder) :
    Yields (fun items => ∀ a ∈ items, good a) (Decoder.list decoder) where
  ofText {depth input rest items} read := by
    simp only [Decoder.list] at read
    split at read
    · simp at read
    · split at read
      · simp at read
      · exact forall_of_itemsUpTo yields.ofText read
    · obtain ⟨failure, refused⟩ := refuse_eq_error "a sequence" _
      cases refused.symm.trans read
  absent never := by cases never

/-! ## The slots of a record -/

namespace Form

/-- Whatever a slot is filled with is good, and so is what stands in it already. -/
inductive Holds : {γ : Type} → (γ → Prop) → Form γ → Prop
  | done : Holds (fun _ => True) .done
  | slot {β γ : Type} {own : β → Prop} {others : γ → Prop} {slot : Slot β} {rest : Form γ} :
    Yields own slot.decoder → (∀ b, slot.fallback = some b → own b) →
    (∀ b, slot.value = some b → own b) → Holds others rest →
    Holds (fun values => own values.1 ∧ others values.2) (.slot slot rest)

variable {γ : Type} {fine : γ → Prop} {form : Form γ}

theorem Holds.required {β : Type} {own : β → Prop} {name : String} {decoder : Decoder β}
    (yields : Yields own decoder) (holds : Holds fine form) :
    Holds (fun values => own values.1 ∧ fine values.2) (.required name decoder form) :=
  .slot yields (fun _ never => by cases never) (fun _ never => by cases never) holds

theorem Holds.defaulting {β : Type} {own : β → Prop} {name : String} {decoder : Decoder β}
    {fallback : β} (yields : Yields own decoder) (usual : own fallback) (holds : Holds fine form) :
    Holds (fun values => own values.1 ∧ fine values.2) (.defaulting name decoder fallback form) :=
  .slot yields (fun b given => by cases given; exact usual) (fun _ never => by cases never) holds

theorem Holds.finish (holds : Holds fine form) {values : γ} (finished : form.finish = .ok values) :
    fine values := by
  induction holds with
  | done => trivial
  | @slot β γ own others slot rest yields usual filled _ ih =>
      unfold Form.finish at finished
      split at finished
      · cases finished
      · rename_i b given
        obtain ⟨later, rested, made⟩ := map_eq_ok.mp finished
        cases made
        refine ⟨?_, ih rested⟩
        cases value : slot.value with
        | some first =>
            rw [value] at given
            cases given
            exact filled b value
        | none =>
            cases fallback : slot.fallback with
            | some first =>
                rw [value, fallback] at given
                cases given
                exact usual b fallback
            | none =>
                rw [value, fallback] at given
                exact yields.absent given

/-- A slot that is filled from a text is filled with something good. -/
theorem Holds.read? (holds : Holds fine form) {depth : Nat} {name : String}
    {reader : Reader (Form γ)} (slotted : form.read? depth name = some reader)
    {input rest : List Piece} {next : Form γ} (read : reader input = .ok (next, rest)) :
    Holds fine next := by
  induction holds generalizing rest with
  | done => cases slotted
  | @slot β γ own others slot later yields usual filled after ih =>
      unfold Form.read? at slotted
      split at slotted
      · cases slotted
        split at read
        · simp at read
        · obtain ⟨⟨b, left⟩, valued, made⟩ := map_eq_ok.mp read
          cases made
          unfold afterColon at valued
          split at valued
          · cases valued
          · refine .slot yields usual (fun first given => ?_) after
            cases given
            exact yields.ofText valued
      · obtain ⟨inner, found, rfl⟩ := Option.map_eq_some_iff.mp slotted
        obtain ⟨⟨form, left⟩, valued, made⟩ := map_eq_ok.mp read
        cases made
        exact .slot yields usual filled (ih found valued)

/-- Slots that are filled by place are filled with something good. -/
theorem Holds.readItems (holds : Holds fine form) {depth index : Nat} {expected : String}
    {input rest : List Piece} {values : γ}
    (read : form.readItems depth expected index input = .ok (values, rest)) : fine values := by
  -- filling by place never looks at what stands in a slot: each value is read or is the fallback
  induction holds generalizing index input with
  | done => trivial
  | @slot β γ own others slot later yields usual _ _ ih =>
      unfold Form.readItems at read
      split at read
      · cases read
      · split at read
        · simp at read
        · rename_i b fallback
          obtain ⟨⟨c, left⟩, others, made⟩ := map_eq_ok.mp read
          cases made
          exact ⟨usual b fallback, ih others⟩
      · split at read
        · cases read
        · rename_i b _ decoded
          obtain ⟨⟨c, left⟩, others, made⟩ := map_eq_ok.mp read
          cases made
          exact ⟨yields.ofText decoded, ih others⟩

/-- A form has a reader for the names of its slots. -/
theorem read?_eq_none_iff {depth : Nat} {name : String} :
    form.read? depth name = none ↔ form.knows name = false := by
  induction form with
  | done => simp [Form.read?, knows]
  | slot slot rest ih =>
      unfold Form.read? knows
      by_cases own : slot.name = name
      · simp [own]
      · simp [own, ih]

/-- Filling a slot leaves the names of the slots as they are. -/
theorem knows_of_read? {depth : Nat} {name : String} {reader : Reader (Form γ)}
    (slotted : form.read? depth name = some reader) {input rest : List Piece} {next : Form γ}
    (read : reader input = .ok (next, rest)) (other : String) :
    next.knows other = form.knows other := by
  induction form generalizing rest with
  | done => cases slotted
  | slot slot later ih =>
      unfold Form.read? at slotted
      split at slotted
      · cases slotted
        split at read
        · simp at read
        · obtain ⟨⟨b, left⟩, -, made⟩ := map_eq_ok.mp read
          cases made
          rfl
      · obtain ⟨inner, found, rfl⟩ := Option.map_eq_some_iff.mp slotted
        obtain ⟨⟨form, left⟩, valued, made⟩ := map_eq_ok.mp read
        cases made
        unfold knows
        rw [ih found valued]

end Form

/-! ## Records -/

section Records

variable {γ : Type} {fine : γ → Prop} {form : Form γ} {title : String}

theorem exists_of_finishNext {read : Except Failure (Form γ × List Piece)} {values : γ}
    {rest : List Piece} (finished : Decoder.finishNext read = .ok (values, rest)) :
    ∃ form, read = .ok (form, rest) ∧ form.finish = .ok values := by
  unfold Decoder.finishNext at finished
  split at finished
  · cases finished
  · rename_i form left
    split at finished
    · rename_i ended
      cases finished
      exact ⟨form, rfl, ended⟩
    · simp at finished

theorem holds_of_slotMember {depth : Nat} {name : String} {next : Form γ} {input rest : List Piece}
    (holds : form.Holds fine)
    (read : Decoder.slotMember depth name form input = .ok (next, rest)) : next.Holds fine := by
  unfold Decoder.slotMember at read
  cases slotted : form.read? depth name with
  | some reader =>
      rw [slotted] at read
      exact holds.read? slotted read
  | none =>
      rw [slotted] at read
      obtain ⟨_, -, same⟩ := map_eq_ok.mp read
      cases same
      exact holds

/-- A record is made of good values. -/
theorem yields_record {build : γ → α} (holds : form.Holds fine)
    (made : ∀ values, fine values → good (build values)) :
    Yields good (Decoder.record title form build) where
  ofText {depth input rest a} read := by
    simp only [Decoder.record] at read
    split at read
    · simp at read
    · split at read
      · simp at read
      · split at read
        · cases read
        · rename_i values left filled
          obtain ⟨⟨_, last⟩, -, same⟩ := map_eq_ok.mp read
          cases same
          exact made values (holds.readItems filled)
    · split at read
      · simp at read
      · rename_i depth
        obtain ⟨⟨values, left⟩, finished, same⟩ := map_eq_ok.mp read
        cases same
        obtain ⟨filled, walked, ended⟩ := exists_of_finishNext finished
        have kept : filled.Holds fine :=
          keeps_of_membersUpTo holds_of_slotMember holds walked
        exact made values (kept.finish ended)
    · obtain ⟨failure, refused⟩ := refuse_eq_error title _
      cases refused.symm.trans read
  absent never := by cases never

/-- A form that has been filled in part, with members beside it that the form has no slot for. -/
def SetApart (form : Form γ) (state : Form γ × Members) : Prop :=
  (∀ name, state.1.knows name = form.knows name) ∧
    ∀ member ∈ state.2, form.knows member.1 = false

theorem setApart_of_openMember {depth : Nat} {name : String} {state next : Form γ × Members}
    {input rest : List Piece} (apart : SetApart form state)
    (read : Decoder.openMember depth name state input = .ok (next, rest)) :
    SetApart form next := by
  obtain ⟨names, others⟩ := apart
  unfold Decoder.openMember at read
  cases slotted : state.1.read? depth name with
  | some reader =>
      rw [slotted] at read
      obtain ⟨⟨filled, left⟩, filling, same⟩ := map_eq_ok.mp read
      cases same
      exact ⟨fun other => (Form.knows_of_read? slotted filling other).trans (names other), others⟩
  | none =>
      rw [slotted] at read
      obtain ⟨⟨value, left⟩, -, same⟩ := map_eq_ok.mp read
      cases same
      refine ⟨names, fun member inserted => ?_⟩
      rcases Members.mem_of_mem_insert inserted with rfl | earlier
      · rw [← names]
        exact Form.read?_eq_none_iff.mp slotted
      · exact others member earlier

/-- A record that keeps its other members keeps none that it has a slot for. -/
theorem yields_openRecord {build : γ → Members → α}
    (made : ∀ values others, (∀ member ∈ others, form.knows member.1 = false) →
      good (build values others)) :
    Yields good (Decoder.openRecord title form build) where
  ofText {depth input rest a} read := by
    simp only [Decoder.openRecord] at read
    split at read
    · simp at read
    · split at read
      · simp at read
      · rename_i depth
        split at read
        · cases read
        · rename_i filled others left walked
          obtain ⟨⟨values, last⟩, -, same⟩ := map_eq_ok.mp read
          cases same
          have start : SetApart form (form, []) := ⟨fun _ => rfl, by simp⟩
          have apart : SetApart form (filled, others) :=
            keeps_of_membersUpTo setApart_of_openMember start walked
          exact made values others apart.2
    · obtain ⟨failure, refused⟩ := refuse_eq_error title _
      cases refused.symm.trans read
  absent never := by cases never

end Records

end Json

end SuiteBridge
