import SuiteBridge.Json.Reader

/-!
# JSON texts as they are written

`writtenValue` reads a value like `anyValue` does but keeps every member of an object, also when its
name is repeated; `anyValue_eq` says that `anyValue` settles what is written. The shape of what is
read follows its first piece (`Spells`), and a value that is walked over ends where it would end
if it were read (`passOver_of_written`).
-/

namespace SuiteBridge.Json

open Text (Piece)

/-! ## Readers in general -/

theorem map_eq_ok {ε : Type u} {α : Type v} {β : Type w} {read : Except ε α} {make : α → β}
    {b : β} :
    read.map make = .ok b ↔ ∃ a, read = .ok a ∧ make a = b := by
  cases read <;> simp [Except.map]

@[simp] theorem failHere_ne_ok {α : Type u} {cause : Cause} {input : List Piece} {a : α} :
    failHere cause input ≠ .ok a := by
  simp [failHere]

@[simp] theorem failAtNext_ne_ok {α : Type u} {cause : Cause} {input : List Piece} {a : α} :
    failAtNext cause input ≠ .ok a := by
  simp [failAtNext]

@[simp] theorem badHex_ne_ok {α : Type u} {input : List Piece} {a : α} : badHex input ≠ .ok a := by
  unfold badHex
  split <;> simp

theorem wholly_eq_ok {α : Type u} {read : Reader α} {input : List Piece} {a : α} :
    wholly read input = .ok a ↔ ∃ rest, read input = .ok (a, rest) ∧ skipBlanks rest = [] := by
  unfold wholly
  cases found : read input with
  | error failure => simp
  | ok next =>
      obtain ⟨b, rest⟩ := next
      cases ended : skipBlanks rest with
      | nil => simp [and_assoc, ended]
      | cons piece rest => simp [and_assoc, ended]

@[simp] theorem skipBlanks_skipBlanks (input : List Piece) :
    skipBlanks (skipBlanks input) = skipBlanks input := by
  induction input with
  | nil => rfl
  | cons piece rest ih =>
      cases blank : isBlankPiece piece <;> simp_all [skipBlanks]

theorem length_skipBlanks_le (input : List Piece) : (skipBlanks input).length ≤ input.length :=
  (List.dropWhile_suffix _).length_le

/-! ## The value as it is written -/

/-- The member of a name as it is written, behind those before it. -/
def writtenMember (value : Reader Json) (name : String) (members : Members) : Reader Members :=
  fun input => (afterColon value input).map fun (value, rest) => (members ++ [(name, value)], rest)

/-- Any JSON value with at most `depth` lists and objects around its parts, and with all members of
its objects. -/
def writtenValue : (depth : Nat) → Reader Json
  | depth, input =>
    match skipBlanks input with
    | [] => failHere (.endOfText .value) []
    | .char 'n' :: rest => (word ['u', 'l', 'l'] rest).map fun ((), rest) => (.null, rest)
    | .char 't' :: rest => (word ['r', 'u', 'e'] rest).map fun ((), rest) => (.bool true, rest)
    | .char 'f' :: rest =>
      (word ['a', 'l', 's', 'e'] rest).map fun ((), rest) => (.bool false, rest)
    | .char '"' :: rest => (stringTail rest).map fun (s, rest) => (.string s, rest)
    | .char '-' :: rest => (numberRest true rest).map fun (n, rest) => (.number n, rest)
    | .char '[' :: rest =>
      match depth with
      | 0 => failAtNext .tooDeep (.char '[' :: rest)
      | depth + 1 =>
        (itemsOf (writtenValue depth) rest).map fun (items, rest) => (.array items, rest)
    | .char '\x7b' :: rest =>
      match depth with
      | 0 => failAtNext .tooDeep (.char '\x7b' :: rest)
      | depth + 1 =>
        (membersOf (writtenMember (writtenValue depth)) [] rest).map fun (members, rest) =>
          (.object members, rest)
    | .char c :: rest =>
      if Text.isDigit c then
        (numberRest false (.char c :: rest)).map fun (n, rest) => (.number n, rest)
      else failAtNext .expectedValue (.char c :: rest)
    | other => failAtNext .expectedValue other

/-- `Spells depth text value rest`: a text that starts with no blank starts with a value, and goes
on with the rest. -/
inductive Spells : (depth : Nat) → (text : List Piece) → (value : Json) → (rest : List Piece) → Prop
  | null {depth : Nat} {text rest : List Piece} :
    word ['u', 'l', 'l'] text = .ok ((), rest) → Spells depth (.char 'n' :: text) .null rest
  | yes {depth : Nat} {text rest : List Piece} :
    word ['r', 'u', 'e'] text = .ok ((), rest) → Spells depth (.char 't' :: text) (.bool true) rest
  | no {depth : Nat} {text rest : List Piece} :
    word ['a', 'l', 's', 'e'] text = .ok ((), rest) →
    Spells depth (.char 'f' :: text) (.bool false) rest
  | string {depth : Nat} {text rest : List Piece} {s : String} :
    stringTail text = .ok (s, rest) → Spells depth (.char '"' :: text) (.string s) rest
  | negative {depth : Nat} {text rest : List Piece} {n : Number} :
    numberRest true text = .ok (n, rest) → Spells depth (.char '-' :: text) (.number n) rest
  | number {depth : Nat} {text rest : List Piece} {c : Char} {n : Number} :
    Text.isDigit c = true → numberRest false (.char c :: text) = .ok (n, rest) →
    Spells depth (.char c :: text) (.number n) rest
  | array {depth : Nat} {text rest : List Piece} {items : List Json} :
    itemsOf (writtenValue depth) text = .ok (items, rest) →
    Spells (depth + 1) (.char '[' :: text) (.array items) rest
  | object {depth : Nat} {text rest : List Piece} {members : Members} :
    membersOf (writtenMember (writtenValue depth)) [] text = .ok (members, rest) →
    Spells (depth + 1) (.char '\x7b' :: text) (.object members) rest

theorem spells_of_written {depth : Nat} {input rest : List Piece} {value : Json}
    (read : writtenValue depth input = .ok (value, rest)) :
    Spells depth (skipBlanks input) value rest := by
  unfold writtenValue at read
  generalize skipBlanks input = text at read ⊢
  split at read
  · cases read
  · obtain ⟨⟨⟨⟩, _⟩, done, ⟨⟩⟩ := map_eq_ok.mp read
    exact .null done
  · obtain ⟨⟨⟨⟩, _⟩, done, ⟨⟩⟩ := map_eq_ok.mp read
    exact .yes done
  · obtain ⟨⟨⟨⟩, _⟩, done, ⟨⟩⟩ := map_eq_ok.mp read
    exact .no done
  · obtain ⟨⟨_, _⟩, done, ⟨⟩⟩ := map_eq_ok.mp read
    exact .string done
  · obtain ⟨⟨_, _⟩, done, ⟨⟩⟩ := map_eq_ok.mp read
    exact .negative done
  · cases depth with
    | zero => cases read
    | succ depth =>
        obtain ⟨⟨_, _⟩, done, ⟨⟩⟩ := map_eq_ok.mp read
        exact .array done
  · cases depth with
    | zero => cases read
    | succ depth =>
        obtain ⟨⟨_, _⟩, done, ⟨⟩⟩ := map_eq_ok.mp read
        exact .object done
  · split at read
    · rename_i digit
      obtain ⟨⟨_, _⟩, done, ⟨⟩⟩ := map_eq_ok.mp read
      exact .number digit done
    · cases read
  · cases read

/-! ## Settling repeated names -/

mutual

/-- A value with each repeated name of its objects in its first place, with its last value. -/
def settled : Json → Json
  | .array items => .array (settledItems items)
  | .object members => .object (Members.ofPairs (settledMembers members))
  | .null => .null
  | .bool b => .bool b
  | .number n => .number n
  | .string s => .string s

/-- The items of an array, settled. -/
def settledItems : List Json → List Json
  | [] => []
  | item :: items => settled item :: settledItems items

/-- The members of an object with settled values. -/
def settledMembers : List (String × Json) → List (String × Json)
  | [] => []
  | (name, value) :: members => (name, settled value) :: settledMembers members

end

theorem settledItems_eq_map (items : List Json) : settledItems items = items.map settled := by
  induction items with
  | nil => rfl
  | cons item items ih => rw [settledItems, ih, List.map_cons]

theorem settledMembers_append (first second : List (String × Json)) :
    settledMembers (first ++ second) = settledMembers first ++ settledMembers second := by
  induction first with
  | nil => rfl
  | cons member first ih => simp [settledMembers, ih]

/-- A function of the items may be applied to each as it is read, or to all of them in the end. -/
theorem itemsUpTo_map {α : Type u} {β : Type v} {make : α → β} {plain : Reader β}
    {item : Reader α}
    (same : ∀ input, plain input = (item input).map fun (a, rest) => (make a, rest))
    (fuel : Nat) (first : Bool) (input : List Piece) :
    itemsUpTo plain fuel first input =
      (itemsUpTo item fuel first input).map fun (items, rest) => (items.map make, rest) := by
  induction fuel generalizing first input with
  | zero => rfl
  | succ fuel ih =>
      unfold itemsUpTo
      cases moreItems first input with
      | error failure => rfl
      | ok more =>
          obtain ⟨more, input⟩ := more
          cases more with
          | false => rfl
          | true =>
              simp only [same]
              cases item input with
              | error failure => rfl
              | ok next =>
                  simp only [Except.map, ih]
                  cases itemsUpTo item fuel false next.2 <;> rfl

/-- A view of the state may be kept along as members are read, or be taken in the end. -/
theorem membersUpTo_map {σ : Type u} {τ : Type v} (view : σ → τ)
    {plain : String → τ → Reader τ} {member : String → σ → Reader σ}
    (same : ∀ name state input,
      plain name (view state) input =
        (member name state input).map fun (state, rest) => (view state, rest))
    (fuel : Nat) (first : Bool) (state : σ) (input : List Piece) :
    membersUpTo plain fuel first (view state) input =
      (membersUpTo member fuel first state input).map fun (state, rest) => (view state, rest) := by
  induction fuel generalizing first state input with
  | zero => rfl
  | succ fuel ih =>
      unfold membersUpTo
      cases nextName? first input with
      | error failure => rfl
      | ok next =>
          obtain ⟨name?, input⟩ := next
          cases name? with
          | none => rfl
          | some name =>
              simp only [same]
              cases member name state input with
              | error failure => rfl
              | ok read => exact ih false read.1 read.2

theorem map_map {ε : Type t} {α : Type u} {β : Type v} {γ : Type w} (read : Except ε α)
    (make : α → β) (remake : β → γ) : (read.map make).map remake = read.map (remake ∘ make) := by
  cases read <;> rfl

/-- The members of an object, settled. -/
def settledObject (members : Members) : Members :=
  Members.ofPairs (settledMembers members)

/-- The member of a name, inserted among those before it. -/
def insertedMember (value : Reader Json) (name : String) (members : Members) : Reader Members :=
  fun input =>
    (afterColon value input).map fun (value, rest) => (Members.insert name value members, rest)

/-- One more written member is inserted among the settled ones. -/
theorem settledObject_append (members : Members) (name : String) (value : Json) :
    settledObject (members ++ [(name, value)]) =
      Members.insert name (settled value) (settledObject members) := by
  simp [settledObject, settledMembers_append, settledMembers, Members.ofPairs, List.foldl_append]

theorem insertedMember_eq {plain written : Reader Json}
    (same : ∀ input, plain input = (written input).map fun (value, rest) => (settled value, rest))
    (name : String) (members : Members) (input : List Piece) :
    insertedMember plain name (settledObject members) input =
      (writtenMember written name members input).map fun (members, rest) =>
        (settledObject members, rest) := by
  unfold insertedMember writtenMember afterColon
  cases colon input with
  | error failure => rfl
  | ok after =>
      simp only [same, map_map]
      cases written after.2 with
      | error failure => rfl
      | ok value => simp [Except.map, settledObject_append]

/-- **Any value is a written one, settled.** -/
theorem anyValue_eq (depth : Nat) (input : List Piece) :
    anyValue depth input =
      (writtenValue depth input).map fun (value, rest) => (settled value, rest) := by
  induction depth using Nat.strongRecOn generalizing input with
  | ind depth ih =>
      unfold anyValue writtenValue
      generalize skipBlanks input = initial
      split <;> simp only [map_map] <;> try rfl
      · cases depth with
        | zero => rfl
        | succ depth =>
            simp only [itemsOf, itemsUpTo_map (ih depth (Nat.lt_succ_self depth)), map_map]
            congr 1
            funext read
            simp [settled, settledItems_eq_map]
      · rename_i rest
        cases depth with
        | zero => rfl
        | succ depth =>
            have members : membersOf (insertedMember (anyValue depth)) [] rest =
                (membersOf (writtenMember (writtenValue depth)) [] rest).map
                  fun (members, rest) => (settledObject members, rest) :=
              membersUpTo_map settledObject
                (insertedMember_eq (ih depth (Nat.lt_succ_self depth))) _ true [] rest
            refine (congrArg (Except.map fun (members, rest) => (object members, rest))
              members).trans ?_
            dsimp only
            cases membersOf (writtenMember (writtenValue depth)) [] rest <;> rfl
      · split
        · cases numberRest false _ <;> rfl
        · rfl

end SuiteBridge.Json
