import Mathlib.Data.List.Forall2
import SuiteBridge.Json.Decoder
import SuiteBridge.Proofs.Json.Filling
import SuiteBridge.Proofs.Json.Walk

/-!
# Both ways of a decoder

A decoder works on a text and on a value. On a text that can be read as a value, it takes the text
exactly if it takes the value as it is written (`Coherent`), and then what it makes of the one is
like what it makes of the other. This holds of the basic decoders and is kept by the ways to build
more of them: lists, options, functions and records, whose members are followed slot by slot
(`Form.Alike`).
-/

namespace SuiteBridge.Json

open Text (Piece)

/-- A text and a value are both refused, or both taken, alike and with the given rest. -/
def Agrees {α : Type u} {β : Type v} (same : α → β → Prop) (rest : List Piece) :
    Except Failure (α × List Piece) → Except Cause β → Prop
  | .ok (a, left), .ok b => left = rest ∧ same a b
  | .error _, .error _ => True
  | .ok _, .error _ => False
  | .error _, .ok _ => False

section Agrees

variable {α : Type u} {β : Type v} {same : α → β → Prop} {rest left : List Piece}

@[simp] theorem agrees_ok_ok {a : α} {b : β} :
    Agrees same rest (.ok (a, left)) (.ok b) ↔ left = rest ∧ same a b :=
  Iff.rfl

theorem Agrees.cases {text : Except Failure (α × List Piece)} {value : Except Cause β}
    (agrees : Agrees same rest text value) :
    (∃ failure cause, text = .error failure ∧ value = .error cause) ∨
      ∃ a b, text = .ok (a, rest) ∧ value = .ok b ∧ same a b := by
  cases text with
  | error failure =>
      cases value with
      | error cause => exact Or.inl ⟨failure, cause, rfl, rfl⟩
      | ok b => cases agrees
  | ok read =>
      cases value with
      | error cause => cases agrees
      | ok b =>
          obtain ⟨rfl, alike⟩ := agrees
          exact Or.inr ⟨read.1, b, rfl, rfl, alike⟩

theorem Agrees.map {γ : Type w} {δ : Type x} {alike : γ → δ → Prop}
    {text : Except Failure (α × List Piece)} {value : Except Cause β}
    (agrees : Agrees same rest text value) (make : α → γ) (remake : β → δ)
    (kept : ∀ a b, same a b → alike (make a) (remake b)) :
    Agrees alike rest (text.map fun (a, rest) => (make a, rest)) (value.map remake) := by
  rcases agrees.cases with ⟨failure, cause, rfl, rfl⟩ | ⟨a, b, rfl, rfl, like⟩
  · trivial
  · exact ⟨rfl, kept a b like⟩

end Agrees

/-- The two ways of a decoder agree on every text that can be read. -/
structure Coherent {α : Type} (same : α → α → Prop) (decoder : Decoder α) : Prop where
  agrees : ∀ {depth : Nat} {input : List Piece} {value : Json} {rest : List Piece},
    writtenValue depth input = .ok (value, rest) →
      Agrees same rest (decoder.ofText depth input) (decoder.ofValue value)
  absent : ∀ a, decoder.absent = some a → same a a

theorem Coherent.imp {α : Type} {same alike : α → α → Prop} {decoder : Decoder α}
    (coherent : Coherent same decoder) (implied : ∀ a b, same a b → alike a b) :
    Coherent alike decoder where
  agrees read := by
    rcases (coherent.agrees read).cases with ⟨failure, cause, left, right⟩ |
      ⟨a, b, left, right, like⟩
    · rw [left, right]
      trivial
    · rw [left, right]
      exact ⟨rfl, implied a b like⟩
  absent a absent := implied a a (coherent.absent a absent)

theorem writtenValue_skipBlanks (depth : Nat) (input : List Piece) :
    writtenValue depth (skipBlanks input) = writtenValue depth input := by
  rw [writtenValue, writtenValue, skipBlanks_skipBlanks]

theorem refuse_eq_error {α : Type u} (expected : String) (input : List Piece) :
    ∃ failure, (refuse expected input : Except Failure (α × List Piece)) = .error failure := by
  unfold refuse
  split
  · exact ⟨_, rfl⟩
  · exact ⟨_, rfl⟩

/-- A refused text agrees with a refused value. -/
@[simp] theorem agrees_refuse {α : Type u} {β : Type v} {same : α → β → Prop}
    {rest input : List Piece}
    {expected : String} {cause : Cause} :
    Agrees same rest (refuse expected input) (.error cause) := by
  rcases refuse_eq_error expected input with ⟨failure, refused⟩
  rw [refused]
  trivial

/-! ## Basic decoders -/

namespace Decoder

theorem coherent_any : Coherent (fun _ _ => True) any where
  agrees read := by simp [any, anyValue_eq, read, Except.map]
  absent _ never := by cases never

theorem coherent_text : Coherent (· = ·) text where
  agrees {depth input value rest} read := by
    have spells := spells_of_written read
    generalize start : skipBlanks input = initial at spells
    cases spells with
    | string done => simp [text, start, done]
    | number digit done =>
        have plain := ne_of_isDigit digit
        simp [text, start, refuseValue, plain]
    | _ => simp [text, start, refuseValue]
  absent _ never := by cases never

theorem coherent_flag : Coherent (· = ·) flag where
  agrees {depth input value rest} read := by
    have spells := spells_of_written read
    generalize start : skipBlanks input = initial at spells
    cases spells with
    | yes done | no done => simp [flag, start, done, Except.map]
    | number digit done =>
        have plain := ne_of_isDigit digit
        simp [flag, start, refuseValue, plain]
    | _ => simp [flag, start, refuseValue]
  absent _ never := by cases never

theorem agrees_accept (range : Range) (n : Number) (rest : List Piece) :
    Agrees (· = ·) rest (range.accept (.ok (n, rest))) (range.ofNumber n) := by
  simp only [Range.accept]
  cases range.ofNumber n with
  | error cause => trivial
  | ok i => exact ⟨rfl, rfl⟩

theorem coherent_integer (range : Range) : Coherent (· = ·) (integer range) where
  agrees {depth input value rest} read := by
    have spells := spells_of_written read
    generalize start : skipBlanks input = initial at spells
    cases spells with
    | negative done =>
        simp only [integer, start, done]
        exact agrees_accept range _ rest
    | @number _ _ _ c n digit done =>
        have plain := ne_of_isDigit digit
        have accepted : (integer range).ofText depth input = range.accept (.ok (n, rest)) := by
          simp [integer, start, plain, startsWithDigit, digit, done]
        rw [accepted]
        exact agrees_accept range n rest
    | _ => simp [integer, start, refuseValue, startsWithDigit, Text.isDigit]
  absent _ never := by cases never

theorem coherent_map {α β : Type} {same : α → α → Prop} {alike : β → β → Prop} {make : α → β}
    {decoder : Decoder α} (coherent : Coherent same decoder)
    (kept : ∀ a b, same a b → alike (make a) (make b)) : Coherent alike (decoder.map make) where
  agrees read := (coherent.agrees read).map make make kept
  absent b made := by
    obtain ⟨a, absent, rfl⟩ := Option.map_eq_some_iff.mp made
    exact kept a a (coherent.absent a absent)

theorem coherent_optional {α : Type} {same : α → α → Prop} {decoder : Decoder α}
    (coherent : Coherent same decoder) : Coherent (Option.Rel same) (optional decoder) where
  agrees {depth input value rest} read := by
    have spells := spells_of_written read
    have inner := coherent.agrees ((writtenValue_skipBlanks depth input).trans read)
    have filled := inner.map some some fun a b alike => Option.Rel.some alike
    generalize start : skipBlanks input = initial at spells filled
    cases spells with
    | null done => simp [optional, start, done, Except.map]
    | number digit done =>
        have plain := ne_of_isDigit digit
        simpa [optional, start, plain] using filled
    | _ => simpa [optional, start] using filled
  absent a absent := by
    cases absent
    exact .none

/-- The items of a list are taken one by one, in a text as in a value. -/
theorem agrees_itemsUpTo {α : Type} {same : α → α → Prop} {decoder : Decoder α}
    (coherent : Coherent same decoder) {depth fuel : Nat} {first : Bool} {input rest : List Piece}
    {items : List Json}
    (read : itemsUpTo (writtenValue depth) fuel first input = .ok (items, rest)) :
    Agrees (List.Forall₂ same) rest (itemsUpTo (decoder.ofText depth) fuel first input)
      (items.mapM decoder.ofValue) := by
  induction fuel generalizing first input items with
  | zero => simp [itemsUpTo] at read
  | succ fuel ih =>
      unfold itemsUpTo at read ⊢
      cases more : moreItems first input with
      | error failure => simp [more] at read
      | ok next =>
          obtain ⟨follows, input⟩ := next
          cases follows with
          | false =>
              simp only [more] at read ⊢
              cases read
              exact ⟨rfl, .nil⟩
          | true =>
              simp only [more] at read ⊢
              split at read
              · cases read
              · rename_i item middle done
                obtain ⟨⟨others, _⟩, later, ⟨⟩⟩ := map_eq_ok.mp read
                rw [List.mapM_cons]
                rcases (coherent.agrees done).cases with
                  ⟨failure, cause, text, value⟩ | ⟨a, b, text, value, alike⟩
                · simp only [text, value]
                  trivial
                · simp only [text, value]
                  exact (ih later).map (a :: ·) (b :: ·) fun _ _ others => .cons alike others

theorem coherent_list {α : Type} {same : α → α → Prop} {decoder : Decoder α}
    (coherent : Coherent same decoder) : Coherent (List.Forall₂ same) (list decoder) where
  agrees {depth input value rest} read := by
    have spells := spells_of_written read
    generalize start : skipBlanks input = initial at spells
    cases spells with
    | array done =>
        simp only [list, start]
        exact agrees_itemsUpTo coherent done
    | number digit done =>
        have plain := ne_of_isDigit digit
        simp [list, start, refuseValue, plain]
    | _ => simp [list, start, refuseValue]
  absent _ never := by cases never

end Decoder

/-! ## Records -/

namespace Form

/-- Two fillings of one form, one from a text and one from a value, that are alike slot by slot. -/
inductive Alike : {γ : Type} → (γ → γ → Prop) → Form γ → Form γ → Prop
  | done : Alike (fun _ _ => True) .done .done
  | slot {β γ : Type} {same : β → β → Prop} {others : γ → γ → Prop} {name : String}
    {decoder : Decoder β} {fallback read taken : Option β} {text value : Form γ} :
    Coherent same decoder → (∀ b, fallback = some b → same b b) → Option.Rel same read taken →
    Alike others text value →
    Alike (fun x y => same x.1 y.1 ∧ others x.2 y.2)
      (.slot ⟨name, decoder, fallback, read⟩ text) (.slot ⟨name, decoder, fallback, taken⟩ value)

variable {γ : Type} {same : γ → γ → Prop} {text value : Form γ} {depth : Nat}

theorem Alike.required {β : Type} {own : β → β → Prop} {name : String} {decoder : Decoder β}
    (coherent : Coherent own decoder) (alike : Alike same text value) :
    Alike (fun x y => own x.1 y.1 ∧ same x.2 y.2) (.required name decoder text)
      (.required name decoder value) :=
  .slot coherent (fun _ never => by cases never) .none alike

theorem Alike.defaulting {β : Type} {own : β → β → Prop} {name : String} {decoder : Decoder β}
    {fallback : β} (coherent : Coherent own decoder) (refl : own fallback fallback)
    (alike : Alike same text value) :
    Alike (fun x y => own x.1 y.1 ∧ same x.2 y.2) (.defaulting name decoder fallback text)
      (.defaulting name decoder fallback value) :=
  .slot coherent (fun b given => by cases given; exact refl) .none alike

/-- Alike forms are both finished, or both lack something. -/
theorem Alike.finish (alike : Alike same text value) :
    (∃ cause other, text.finish = .error cause ∧ value.finish = .error other) ∨
      ∃ a b, text.finish = .ok a ∧ value.finish = .ok b ∧ same a b := by
  induction alike with
  | done => exact Or.inr ⟨(), (), rfl, rfl, trivial⟩
  | @slot β γ same others name decoder fallback read taken text value coherent refl filled _ ih =>
      have given : (read <|> fallback <|> decoder.absent) = none ∧
            (taken <|> fallback <|> decoder.absent) = none ∨
          ∃ a b, (read <|> fallback <|> decoder.absent) = some a ∧
            (taken <|> fallback <|> decoder.absent) = some b ∧ same a b := by
        cases filled with
        | some alike => exact Or.inr ⟨_, _, rfl, rfl, alike⟩
        | none =>
            cases fallback with
            | some b => exact Or.inr ⟨b, b, rfl, rfl, refl b rfl⟩
            | none =>
                cases absent : decoder.absent with
                | none => exact Or.inl ⟨rfl, rfl⟩
                | some b => exact Or.inr ⟨b, b, rfl, rfl, coherent.absent b absent⟩
      unfold Form.finish
      rcases given with ⟨left, right⟩ | ⟨a, b, left, right, alike⟩
      · simp only [left, right]
        exact Or.inl ⟨_, _, rfl, rfl⟩
      · simp only [left, right]
        rcases ih with ⟨cause, other, failed, also⟩ | ⟨c, d, ready, also, rest⟩
        · exact Or.inl ⟨cause, other, by rw [failed]; rfl, by rw [also]; rfl⟩
        · exact Or.inr ⟨(a, c), (b, d), by rw [ready]; rfl, by rw [also]; rfl, alike, rest⟩

/-- A member that has a slot is taken or refused alike; one that has none is left alone. -/
theorem Alike.read? {input after rest : List Piece} {written : Json}
    (alike : Alike same text value) (parted : colon input = .ok ((), after))
    (read : writtenValue depth after = .ok (written, rest)) (name : String) :
    text.read? depth name = none ∧ value.take name written = .ok value ∨
      ∃ reader, text.read? depth name = some reader ∧
        Agrees (Alike same) rest (reader input) (value.take name written) := by
  induction alike with
  | done => exact Or.inl ⟨rfl, rfl⟩
  | @slot β γ same others own decoder fallback earlier taken text value coherent refl filled later
      ih =>
      unfold Form.read? take
      by_cases named : own = name
      · refine Or.inr ⟨_, if_pos named, ?_⟩
        simp only [if_pos named]
        cases filled with
        | some alike => trivial
        | none =>
            have decoded :
                afterColon (decoder.ofText depth) input = decoder.ofText depth after := by
              simp [afterColon, parted]
            simp only [decoded]
            exact (coherent.agrees read).map
              (fun b => Form.slot ⟨own, decoder, fallback, some b⟩ text)
              (fun b => Form.slot ⟨own, decoder, fallback, some b⟩ value)
              fun a b like => .slot coherent refl (.some like) later
      · simp only [if_neg named]
        rcases ih with ⟨absent, same⟩ | ⟨reader, present, agrees⟩
        · exact Or.inl ⟨by rw [absent]; rfl, by rw [same]; rfl⟩
        · refine Or.inr ⟨_, by rw [present]; rfl, ?_⟩
          exact agrees.map (Form.slot ⟨own, decoder, fallback, earlier⟩)
            (Form.slot ⟨own, decoder, fallback, taken⟩)
            fun _ _ like => .slot coherent refl filled like

/-- Members are followed one by one, as a text gives them and as a value has them. -/
theorem agrees_membersUpTo {σ : Type u} {like : σ → Form γ → Prop}
    {member : String → σ → Reader σ}
    (step : ∀ (name : String) {state : σ} {form : Form γ} {input after rest : List Piece}
      {written : Json}, like state form → colon input = .ok ((), after) →
      writtenValue depth after = .ok (written, rest) →
      Agrees like rest (member name state input) (form.take name written))
    {fuel : Nat} {first : Bool} {members all : Members} {input rest : List Piece}
    (read : membersUpTo (writtenMember (writtenValue depth)) fuel first members input =
      .ok (all, rest)) :
    ∃ new, all = members ++ new ∧ ∀ {state : σ} {form : Form γ}, like state form →
      Agrees like rest (membersUpTo member fuel first state input) (form.takeMembers new) := by
  induction fuel generalizing first members input with
  | zero => simp [membersUpTo] at read
  | succ fuel ih =>
      unfold membersUpTo at read ⊢
      cases next : nextName? first input with
      | error failure => simp [next] at read
      | ok named =>
          obtain ⟨name?, input⟩ := named
          cases name? with
          | none =>
              simp only [next] at read ⊢
              cases read
              exact ⟨[], (List.append_nil _).symm, fun alike => ⟨rfl, alike⟩⟩
          | some name =>
              simp only [next] at read ⊢
              split at read
              · cases read
              · rename_i middle done
                obtain ⟨after, written, parted, valued, rfl⟩ := exists_of_writtenMember done
                obtain ⟨new, rfl, later⟩ := ih read
                refine ⟨(name, written) :: new, by simp, fun {state form} alike => ?_⟩
                unfold takeMembers
                rcases (step name alike parted valued).cases with
                  ⟨failure, cause, text, value⟩ | ⟨a, b, text, value, like⟩
                · simp only [text, value]
                  trivial
                · simp only [text, value]
                  exact later like

/-- The end of a list stays in place. -/
theorem exists_of_moreItems {first : Bool} {input after : List Piece}
    (read : moreItems first input = .ok (false, after)) :
    ∃ rest, after = .char ']' :: rest ∧ skipBlanks input = .char ']' :: rest := by
  cases first with
  | false =>
      rcases moreItems_cases read with ⟨rest, start, -, same⟩ | ⟨_, _, never, _⟩
      · exact ⟨rest, same, start⟩
      · cases never
  | true =>
      rcases moreItems_first_cases read with ⟨rest, start, -, same⟩ | ⟨_, _, never, _⟩
      · exact ⟨rest, same, start⟩
      · cases never

/-- Slots are filled alike from the items of a list, or not at all. What the text has left is read
as the items that the value has left. -/
def FillsAlike (same : γ → γ → Prop) (depth : Nat) (rest : List Piece)
    (read : Except Failure (γ × List Piece)) (took : Except Cause (γ × List Json)) : Prop :=
  (∃ failure cause, read = .error failure ∧ took = .error cause) ∨
    ∃ a b after left fuel first, read = .ok (a, after) ∧ took = .ok (b, left) ∧ same a b ∧
      itemsUpTo (writtenValue depth) fuel first after = .ok (left, rest)

/-- One slot more is filled alike. -/
theorem FillsAlike.cons {β : Type} {own : β → β → Prop} {a b : β} {rest : List Piece}
    {read : Except Failure (γ × List Piece)} {took : Except Cause (γ × List Json)}
    (alike : own a b) (fills : FillsAlike same depth rest read took) :
    FillsAlike (fun x y => own x.1 y.1 ∧ same x.2 y.2) depth rest
      (read.map fun (c, input) => ((a, c), input))
      (took.map fun (c, items) => ((b, c), items)) := by
  rcases fills with ⟨failure, cause, rfl, rfl⟩ | ⟨c, d, after, left, fuel, first, rfl, rfl, others⟩
  · exact Or.inl ⟨failure, cause, rfl, rfl⟩
  · exact Or.inr ⟨_, _, after, left, fuel, first, rfl, rfl, ⟨alike, others.1⟩, others.2⟩

/-- The slots are filled from the items of a list as they are written. -/
theorem Alike.readItems (alike : Alike same text value) (expected : String) (index : Nat)
    {fuel : Nat} {input rest : List Piece} {items : List Json}
    (read : itemsUpTo (writtenValue depth) fuel (index == 0) input = .ok (items, rest)) :
    FillsAlike same depth rest (text.readItems depth expected index input)
      (value.takeItems expected index items) := by
  induction alike generalizing index fuel input items with
  | done => exact Or.inr ⟨(), (), input, items, fuel, _, rfl, rfl, trivial, read⟩
  | @slot β γ same others name decoder fallback earlier taken text value coherent refl _ _ ih =>
      cases fuel with
      | zero => simp [itemsUpTo] at read
      | succ fuel =>
          unfold itemsUpTo at read
          unfold Form.readItems
          cases more : moreItems (index == 0) input with
          | error failure => simp [more] at read
          | ok next =>
              obtain ⟨follows, input⟩ := next
              cases follows with
              | false =>
                  simp only [more] at read ⊢
                  cases read
                  obtain ⟨rest, rfl, -⟩ := exists_of_moreItems more
                  unfold takeItems
                  cases fallback with
                  | none => exact Or.inl ⟨_, _, rfl, rfl⟩
                  | some b =>
                      -- The bracket is not read yet: each slot that is left meets it anew.
                      have closed : itemsUpTo (writtenValue depth) 1 (index + 1 == 0)
                          (.char ']' :: rest) = .ok ([], rest) := rfl
                      exact (ih (index + 1) closed).cons (refl b rfl)
              | true =>
                  simp only [more] at read ⊢
                  split at read
                  · cases read
                  · rename_i item middle done
                    obtain ⟨⟨items, _⟩, later, ⟨⟩⟩ := map_eq_ok.mp read
                    unfold takeItems
                    rcases (coherent.agrees done).cases with
                      ⟨failure, cause, left, right⟩ | ⟨a, b, readied, took, like⟩
                    · simp only [left, right]
                      exact Or.inl ⟨failure, cause, rfl, rfl⟩
                    · simp only [readied, took]
                      exact (ih (index + 1) later).cons like

end Form

theorem endOfList_eq_error {input : List Piece}
    (unclosed : ∀ rest, skipBlanks input ≠ .char ']' :: rest) :
    ∃ failure, endOfList input = .error failure := by
  unfold endOfList
  split
  · exact ⟨_, rfl⟩
  · rename_i start
    exact absurd start (unclosed _)
  · split <;> exact ⟨_, rfl⟩
  · exact ⟨_, rfl⟩

/-- A list ends where its slots do, unless items are left over. -/
theorem endOfList_cases {depth fuel : Nat} {first : Bool} {input rest : List Piece}
    {items : List Json}
    (read : itemsUpTo (writtenValue depth) fuel first input = .ok (items, rest)) :
    items = [] ∧ endOfList input = .ok ((), rest) ∨
      ∃ failure, items ≠ [] ∧ endOfList input = .error failure := by
  cases fuel with
  | zero => simp [itemsUpTo] at read
  | succ fuel =>
      unfold itemsUpTo at read
      split at read
      · cases read
      · rename_i more
        cases read
        obtain ⟨rest, rfl, start⟩ := Form.exists_of_moreItems more
        exact Or.inl ⟨rfl, by simp [endOfList, start]⟩
      · rename_i more
        have unclosed : ∀ rest, skipBlanks input ≠ .char ']' :: rest := by
          cases first with
          | false =>
              rcases moreItems_cases more with ⟨_, _, never, _⟩ | ⟨_, start, _⟩
              · cases never
              · simp [start]
          | true =>
              rcases moreItems_first_cases more with ⟨_, _, never, _⟩ | ⟨_, unclosed, _⟩
              · cases never
              · exact unclosed
        obtain ⟨failure, ended⟩ := endOfList_eq_error unclosed
        split at read
        · cases read
        · obtain ⟨_, _, ⟨⟩⟩ := map_eq_ok.mp read
          exact Or.inr ⟨failure, List.cons_ne_nil _ _, ended⟩

namespace Decoder

variable {γ α : Type} {same : γ → γ → Prop} {alike : α → α → Prop} {title : String}
  {form : Form γ}

theorem agrees_finishNext {rest : List Piece} {read : Except Failure (Form γ × List Piece)}
    {taken : Except Cause (Form γ)} (agrees : Agrees (Form.Alike same) rest read taken)
    {make remake : γ → α} (kept : ∀ a b, same a b → alike (make a) (remake b)) :
    Agrees alike rest ((finishNext read).map fun (values, rest) => (make values, rest))
      (taken.bind fun form => form.finish.map remake) := by
  rcases agrees.cases with ⟨failure, cause, rfl, rfl⟩ | ⟨text, value, rfl, rfl, like⟩
  · trivial
  · unfold finishNext
    rcases like.finish with ⟨cause, other, left, right⟩ | ⟨a, b, left, right, like⟩
    · simp only [left, right, Except.bind]
      trivial
    · simp only [left, right, Except.bind]
      exact ⟨rfl, kept a b like⟩

/-- A member is read into its slot, and walked over if it has none. -/
def slotMember (depth : Nat) (name : String) (form : Form γ) : Reader (Form γ) :=
  match form.read? depth name with
  | some read => read
  | none => fun input => (afterColon passOver input).map fun ((), rest) => (form, rest)

theorem agrees_slotMember (same : γ → γ → Prop) {depth : Nat} (name : String)
    {text value : Form γ} {input after rest : List Piece} {written : Json}
    (like : Form.Alike same text value) (parted : colon input = .ok ((), after))
    (read : writtenValue depth after = .ok (written, rest)) :
    Agrees (Form.Alike same) rest (slotMember depth name text input)
      (value.take name written) := by
  unfold slotMember
  rcases like.read? parted read name with ⟨absent, same⟩ | ⟨reader, present, agrees⟩
  · simp only [absent, same, afterColon, parted, passOver_of_written read]
    exact ⟨rfl, like⟩
  · simp only [present]
    exact agrees

theorem record_ofText {build : γ → α} {depth : Nat} {input text : List Piece}
    (start : skipBlanks input = .char '\x7b' :: text) :
    (record title form build).ofText (depth + 1) input =
      (finishNext (membersOf (slotMember depth) form text)).map fun (values, rest) =>
        (build values, rest) := by
  simp only [record, start]
  rfl

theorem record_ofText_list {build : γ → α} {depth : Nat} {input text : List Piece}
    (start : skipBlanks input = .char '[' :: text) :
    (record title form build).ofText (depth + 1) input =
      (form.readItems depth (form.listed title) 0 text).bind fun (values, rest) =>
        (endOfList rest).map fun ((), rest) => (build values, rest) := by
  simp only [record, start]
  cases form.readItems depth (form.listed title) 0 text <;> rfl

theorem coherent_record {build : γ → α} (slots : Form.Alike same form form)
    (kept : ∀ a b, same a b → alike (build a) (build b)) :
    Coherent alike (record title form build) where
  agrees {depth input value rest} read := by
    have spells := spells_of_written read
    generalize start : skipBlanks input = initial at spells
    cases spells with
    | @array depth text rest items done =>
        simp only [record, start]
        rcases slots.readItems (form.listed title) 0 done with ⟨failure, cause, left, right⟩ |
          ⟨a, b, after, left, fuel, first, readied, took, like, later⟩
        · simp only [left, right]
          trivial
        · simp only [readied, took]
          rcases endOfList_cases later with ⟨rfl, ended⟩ | ⟨failure, more, ended⟩
          · simp only [ended]
            exact ⟨rfl, kept a b like⟩
          · simp only [ended]
            cases left with
            | nil => exact absurd rfl more
            | cons item items => trivial
    | @object depth text rest members done =>
        obtain ⟨_, rfl, agrees⟩ := Form.agrees_membersUpTo (agrees_slotMember same) done
        rw [record_ofText start, record_ofValue]
        exact agrees_finishNext (agrees slots) kept
    | number digit done =>
        have plain := ne_of_isDigit digit
        simp [record, start, refuseValue, plain]
    | _ => simp [record, start, refuseValue]
  absent _ never := by cases never

/-- A member is read into its slot, and kept as it is if it has none. -/
def openMember (depth : Nat) (name : String) (state : Form γ × Members) :
    Reader (Form γ × Members) :=
  match state.1.read? depth name with
  | some read => fun input => (read input).map fun (form, rest) => ((form, state.2), rest)
  | none => fun input => (afterColon (anyValue depth) input).map fun (value, rest) =>
    ((state.1, Members.insert name value state.2), rest)

theorem agrees_openMember (same : γ → γ → Prop) {depth : Nat} (name : String)
    {state : Form γ × Members} {value : Form γ} {input after rest : List Piece} {written : Json}
    (like : Form.Alike same state.1 value) (parted : colon input = .ok ((), after))
    (read : writtenValue depth after = .ok (written, rest)) :
    Agrees (fun state value => Form.Alike same state.1 value) rest
      (openMember depth name state input) (value.take name written) := by
  unfold openMember
  rcases like.read? parted read name with ⟨absent, same⟩ | ⟨reader, present, agrees⟩
  · simp only [absent, same, afterColon, parted, anyValue_eq, read]
    exact ⟨rfl, like⟩
  · simp only [present]
    rcases agrees.cases with ⟨failure, cause, left, right⟩ | ⟨a, b, left, right, like⟩
    · simp only [left, right]
      trivial
    · simp only [left, right]
      exact ⟨rfl, like⟩

theorem openRecord_ofText {build : γ → Members → α} {depth : Nat} {input text : List Piece}
    (start : skipBlanks input = .char '\x7b' :: text) :
    (openRecord title form build).ofText (depth + 1) input =
      (membersOf (openMember depth) (form, []) text).bind fun (state, rest) =>
        (finishNext (.ok (state.1, rest))).map fun (values, rest) =>
          (build values state.2, rest) := by
  simp only [openRecord, start]
  unfold openMember
  cases membersOf _ (form, []) text <;> rfl

theorem coherent_openRecord {build : γ → Members → α} (slots : Form.Alike same form form)
    (kept : ∀ a b others left, same a b → alike (build a others) (build b left)) :
    Coherent alike (openRecord title form build) where
  agrees {depth input value rest} read := by
    have spells := spells_of_written read
    generalize start : skipBlanks input = initial at spells
    cases spells with
    | @object depth text rest members done =>
        obtain ⟨_, rfl, agrees⟩ := Form.agrees_membersUpTo (agrees_openMember same) done
        have followed : Agrees (fun state value => Form.Alike same state.1 value) rest
            (membersOf (openMember depth) (form, []) text) (form.takeMembers members) :=
          @agrees (form, []) form slots
        rw [openRecord_ofText start, openRecord_ofValue]
        rcases followed.cases with ⟨failure, cause, left, right⟩ |
          ⟨state, filled, left, right, like⟩
        · simp only [left, right]
          trivial
        · have ended : Agrees (Form.Alike same) rest (.ok (state.1, rest)) (.ok filled) :=
            ⟨rfl, like⟩
          simp only [left, right]
          exact agrees_finishNext ended
            fun a b alike => kept a b state.2 (form.others members) alike
    | number digit done =>
        have plain := ne_of_isDigit digit
        simp [openRecord, start, refuseValue, plain]
    | _ => simp [openRecord, start, refuseValue]
  absent _ never := by cases never

end Decoder

/-! ## Whole texts -/

/-- The document in a text, as it is written. -/
def writtenDocument (input : List Piece) : Except Failure Json :=
  wholly (writtenValue greatestDepth) input

/-- A text is a JSON text exactly if a document is written in it. -/
theorem ofPieces_eq (input : List Piece) :
    ofPieces input = (writtenDocument input).map settled := by
  unfold ofPieces writtenDocument wholly
  rw [anyValue_eq]
  cases writtenValue greatestDepth input with
  | error failure => rfl
  | ok read =>
      simp only [Except.map]
      cases skipBlanks read.2 <;> rfl

/-- **On a JSON text, a decoder decodes what is written.** -/
theorem Coherent.decodePieces {α : Type} {same : α → α → Prop} {decoder : Decoder α}
    (coherent : Coherent same decoder) {input : List Piece} {value : Json}
    (written : writtenDocument input = .ok value) :
    (∃ failure cause, decoder.decodePieces input = .error failure ∧
      decoder.ofValue value = .error cause) ∨
    ∃ a b, decoder.decodePieces input = .ok a ∧ decoder.ofValue value = .ok b ∧ same a b := by
  obtain ⟨rest, read, ended⟩ := wholly_eq_ok.mp written
  rcases (coherent.agrees read).cases with ⟨failure, cause, left, right⟩ |
    ⟨a, b, left, right, like⟩
  · refine Or.inl ⟨failure, cause, ?_, right⟩
    unfold Decoder.decodePieces wholly
    rw [left]
  · exact Or.inr ⟨a, b, wholly_eq_ok.mpr ⟨rest, left, ended⟩, right, like⟩

end SuiteBridge.Json
