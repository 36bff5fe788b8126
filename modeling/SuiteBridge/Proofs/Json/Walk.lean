import SuiteBridge.Proofs.Json.Written

/-!
# Walking over what is written

A value that nobody asked for is walked over with its enclosures on a stack and fuel for every
piece. Where the value can be read, the walk ends where the reader does: first for strings and
numbers, then for the values inside any enclosures (`WalksTo`), by the depth of nesting.
-/

namespace SuiteBridge.Json

open Text (Piece)

/-! ## Strings and numbers -/

theorem exists_of_consChar {c : Char} {read : Except Failure (List Char × List Piece)}
    {cs : List Char} {rest : List Piece} (more : consChar c read = .ok (cs, rest)) :
    ∃ ds, read = .ok (ds, rest) := by
  obtain ⟨⟨ds, _⟩, done, ⟨⟩⟩ := map_eq_ok.mp more
  exact ⟨ds, done⟩

/-- A string is walked over as it is read. -/
theorem passString_of_stringRest {clean : Bool} {input : List Piece} {cs : List Char}
    {rest : List Piece} (read : stringRest clean input = .ok (cs, rest)) :
    passString input = .ok ((), rest) ∧ rest.length < input.length := by
  fun_induction stringRest clean input generalizing cs rest <;> try (simp at read; done)
  -- the closing quote
  · cases read
    simp [passString]
  -- a surrogate pair is two escapes to the walk
  · rename_i first _ _ _ _ _ _ _ _ second _ ih
    obtain ⟨ds, done⟩ := exists_of_consChar read
    obtain ⟨passed, shorter⟩ := ih done
    exact ⟨by simp [passString, first, second, passed], by simp; omega⟩
  · rename_i unit _ _ ih
    obtain ⟨ds, done⟩ := exists_of_consChar read
    obtain ⟨passed, shorter⟩ := ih done
    exact ⟨by simp [passString, unit, passed], by simp; omega⟩
  · rename_i escape ih
    obtain ⟨ds, done⟩ := exists_of_consChar read
    obtain ⟨passed, shorter⟩ := ih done
    exact ⟨by simp [passString, escape, passed], by simp; omega⟩
  · rename_i ordinary ih
    obtain ⟨ds, done⟩ := exists_of_consChar read
    obtain ⟨passed, shorter⟩ := ih done
    refine ⟨?_, by simp; omega⟩
    rw [passString] <;> try assumption
    rw [if_neg ordinary, passed]
  · rename_i ih
    obtain ⟨passed, shorter⟩ := ih read
    exact ⟨by simp [passString, passed], by simp; omega⟩

theorem word_length {letters : List Char} {input rest : List Piece}
    (read : word letters input = .ok ((), rest)) : rest.length ≤ input.length := by
  fun_induction word letters input with
  | case1 => cases read; exact Nat.le_refl _
  | case2 => simp at read
  | case3 _ _ _ ih => exact Nat.le_succ_of_le (ih read)
  | case4 => simp at read

theorem spanDigits_length (input : List Piece) :
    (spanDigits input).2.length + (spanDigits input).1.length = input.length := by
  fun_induction spanDigits input with
  | case2 c rest digit digits after span ih =>
      rw [span] at ih
      simp only [List.length_cons] at ih ⊢
      omega
  | _ => rfl

theorem passDigits_of_spanDigits {input rest : List Piece} {digits : List Char}
    (span : spanDigits input = (digits, rest)) (some : digits ≠ []) :
    passDigits input = .ok ((), rest) ∧ rest.length < input.length := by
  have length := spanDigits_length input
  cases digits with
  | nil => exact absurd rfl some
  | cons digit digits =>
      rw [span] at length
      exact ⟨by simp [passDigits, span], by simp at length; omega⟩

theorem eq_of_realOf {negative : Bool} {significand : Nat} {power : Int} {input rest : List Piece}
    {n : Number} (read : realOf negative significand power input = .ok (n, rest)) :
    rest = input := by
  unfold realOf at read
  split at read
  · cases read
    rfl
  · simp at read

theorem passExponent_of_exponentRest {negative : Bool} {significand : Nat} {power : Int}
    {input rest : List Piece} {n : Number}
    (read : exponentRest negative significand power input = .ok (n, rest)) :
    passExponent input = .ok ((), rest) ∧ rest.length < input.length := by
  unfold exponentRest at read
  split at read
  rename_i down unsigned sign
  have same : passExponent input = passDigits unsigned ∧ unsigned.length ≤ input.length := by
    unfold passExponent
    split at sign <;> cases sign <;> simp
  split at read
  · simp at read
  · simp at read
  · rename_i digits after _ some span
    have stop : rest = after := by
      split at read
      · split at read
        · cases read
        · cases read
          rfl
      · exact eq_of_realOf read
    obtain ⟨passed, shorter⟩ := passDigits_of_spanDigits span some
    rw [same.1, stop]
    exact ⟨passed, by omega⟩

theorem passExponent?_of_afterFraction {negative : Bool} {significand : Nat} {power : Int}
    {input rest : List Piece} {n : Number}
    (read : afterFraction negative significand power input = .ok (n, rest)) :
    passExponent? input = .ok ((), rest) ∧ rest.length ≤ input.length := by
  unfold afterFraction at read
  unfold passExponent?
  split at read
  · obtain ⟨passed, shorter⟩ := passExponent_of_exponentRest read
    exact ⟨passed, by simp; omega⟩
  · obtain ⟨passed, shorter⟩ := passExponent_of_exponentRest read
    exact ⟨passed, by simp; omega⟩
  · cases eq_of_realOf read
    simp

theorem passFraction_of_fractionRest {negative : Bool} {significand : Nat} {power : Int}
    {input rest : List Piece} {n : Number}
    (read : fractionRest negative significand power input = .ok (n, rest)) :
    ∃ after, passDigits input = .ok ((), after) ∧ passExponent? after = .ok ((), rest) ∧
      rest.length ≤ input.length := by
  unfold fractionRest at read
  split at read
  · simp at read
  · simp at read
  · rename_i digits after _ some span
    obtain ⟨passed, shorter⟩ := passDigits_of_spanDigits span some
    obtain ⟨exponent, longest⟩ := passExponent?_of_afterFraction read
    exact ⟨after, passed, exponent, by omega⟩

theorem passExponent?_of_afterWhole {negative : Bool} {significand left : Nat}
    {input rest : List Piece} {n : Number}
    (read : afterWhole negative significand left input = .ok (n, rest))
    (whole : ∀ after, input ≠ .char '.' :: after) :
    passExponent? input = .ok ((), rest) ∧ rest.length ≤ input.length := by
  unfold afterWhole at read
  unfold passExponent?
  split at read
  · exact absurd rfl (whole _)
  · obtain ⟨passed, shorter⟩ := passExponent_of_exponentRest read
    exact ⟨passed, by simp; omega⟩
  · obtain ⟨passed, shorter⟩ := passExponent_of_exponentRest read
    exact ⟨passed, by simp; omega⟩
  · have stop : rest = input := by
      split at read
      · cases read
        rfl
      · exact eq_of_realOf read
    subst stop
    simp

/-- A number is walked over as it is read. -/
theorem passNumber_of_numberRest {negative : Bool} {input rest : List Piece} {n : Number}
    (read : numberRest negative input = .ok (n, rest)) :
    passNumber input = .ok ((), rest) ∧ rest.length < input.length := by
  unfold numberRest at read
  unfold passNumber
  split at read
  · simp at read
  · simp at read
  · simp at read
  · rename_i digits after _ some plain span
    have shorter : after.length < input.length := (passDigits_of_spanDigits span some).2
    simp only [span]
    split
    · rename_i empty
      cases empty
      exact absurd rfl some
    · rename_i zero
      cases zero
      exact absurd rfl (plain _ _)
    · rename_i point
      cases point
      obtain ⟨middle, passed, exponent, longest⟩ := passFraction_of_fractionRest read
      simp only [passed, exponent, true_and]
      simp at shorter
      omega
    · rename_i whole same
      cases same
      obtain ⟨exponent, longest⟩ := passExponent?_of_afterWhole read whole
      exact ⟨exponent, by omega⟩
/-! ## Marks -/

/-- A digit is none of the other marks that a value starts with. -/
theorem ne_of_isDigit {c : Char} (digit : Text.isDigit c = true) :
    c ≠ 'n' ∧ c ≠ 't' ∧ c ≠ 'f' ∧ c ≠ '"' ∧ c ≠ '-' ∧ c ≠ '[' ∧ c ≠ '\x7b' := by
  refine ⟨?_, ?_, ?_, ?_, ?_, ?_, ?_⟩ <;> rintro rfl <;> cases digit

theorem length_of_skipBlanks {input rest : List Piece} {piece : Piece}
    (start : skipBlanks input = piece :: rest) : rest.length < input.length := by
  have most := length_skipBlanks_le input
  rw [start, List.length_cons] at most
  exact most

/-- The next item of a list is behind a comma, unless the list ends. -/
theorem moreItems_cases {input after : List Piece} {more : Bool}
    (read : moreItems false input = .ok (more, after)) :
    (∃ rest, skipBlanks input = .char ']' :: rest ∧ more = false ∧ after = .char ']' :: rest) ∨
      ∃ rest, skipBlanks input = .char ',' :: rest ∧ more = true ∧ after = skipBlanks rest := by
  unfold moreItems at read
  split at read
  · simp at read
  · rename_i start
    cases read
    exact Or.inl ⟨_, start, rfl, rfl⟩
  · rename_i start
    simp only [Bool.false_eq_true, if_false] at read
    split at read
    · rename_i comma
      subst comma
      split at read
      · simp at read
      · simp at read
      · rename_i follows
        cases read
        exact Or.inr ⟨_, start, rfl, rfl⟩
    · simp at read

/-- The first item of a list is right there, unless the list is empty. -/
theorem moreItems_first_cases {input after : List Piece} {more : Bool}
    (read : moreItems true input = .ok (more, after)) :
    (∃ rest, skipBlanks input = .char ']' :: rest ∧ more = false ∧ after = .char ']' :: rest) ∨
      skipBlanks input ≠ [] ∧ (∀ rest, skipBlanks input ≠ .char ']' :: rest) ∧ more = true ∧
        after = skipBlanks input := by
  unfold moreItems at read
  split at read
  · simp at read
  · rename_i start
    cases read
    exact Or.inl ⟨_, start, rfl, rfl⟩
  · rename_i unclosed start
    simp only [if_true] at read
    cases read
    refine Or.inr ⟨by simp [start], fun rest closed => ?_, rfl, start.symm⟩
    rw [start] at closed
    cases closed
    exact unclosed rfl

theorem memberName_eq_ok {input after : List Piece} {name? : Option String}
    (read : memberName input = .ok (name?, after)) :
    ∃ name rest, input = .char '"' :: rest ∧ stringTail rest = .ok (name, after) ∧
      name? = some name := by
  unfold memberName at read
  split at read
  · simp at read
  · obtain ⟨⟨name, _⟩, done, ⟨⟩⟩ := map_eq_ok.mp read
    exact ⟨name, _, rfl, done, rfl⟩
  · simp at read
  · simp at read

/-- The name of the next member is behind a comma, unless the object ends. -/
theorem nextName?_cases {input after : List Piece} {name? : Option String}
    (read : nextName? false input = .ok (name?, after)) :
    (∃ rest, skipBlanks input = .char '\x7d' :: rest ∧ name? = none ∧
      after = .char '\x7d' :: rest) ∨
      ∃ behind name rest, skipBlanks input = .char ',' :: behind ∧
        skipBlanks behind = .char '"' :: rest ∧ stringTail rest = .ok (name, after) ∧
        name? = some name := by
  unfold nextName? at read
  split at read
  · simp at read
  · rename_i start
    cases read
    exact Or.inl ⟨_, start, rfl, rfl⟩
  · rename_i start
    simp only [Bool.false_eq_true, if_false] at read
    split at read
    · rename_i comma
      subst comma
      obtain ⟨name, rest, quoted, done, named⟩ := memberName_eq_ok read
      exact Or.inr ⟨_, name, rest, start, quoted, done, named⟩
    · simp at read

theorem nextName?_first_cases {input after : List Piece} {name? : Option String}
    (read : nextName? true input = .ok (name?, after)) :
    (∃ rest, skipBlanks input = .char '\x7d' :: rest ∧ name? = none ∧
      after = .char '\x7d' :: rest) ∨
      ∃ name rest, skipBlanks input = .char '"' :: rest ∧ stringTail rest = .ok (name, after) ∧
        name? = some name := by
  unfold nextName? at read
  split at read
  · simp at read
  · rename_i start
    cases read
    exact Or.inl ⟨_, start, rfl, rfl⟩
  · rename_i start
    simp only [if_true] at read
    obtain ⟨name, rest, quoted, done, named⟩ := memberName_eq_ok read
    exact Or.inr ⟨name, rest, start.trans quoted, done, named⟩

theorem colon_eq_ok {input rest : List Piece} (read : colon input = .ok ((), rest)) :
    skipBlanks input = .char ':' :: rest := by
  unfold colon at read
  split at read
  · simp at read
  · rename_i start
    cases read
    exact start
  · simp at read

/-! ## Values inside enclosures -/

/-- `Comes walk input rest`: a walk from the input comes to the rest, whatever encloses it, given
fuel for every piece. -/
def Comes (walk : Nat → List Enclosure → Reader Unit) (input rest : List Piece) : Prop :=
  rest.length < input.length ∧ ∀ fuel around, input.length < fuel →
    ∃ left, rest.length < left ∧ walk fuel around input = passRest left around rest

/-- `WalksTo input rest`: walking over the value at the start of the input comes to the rest. -/
def WalksTo : List Piece → List Piece → Prop :=
  Comes passValue

/-- `ClosesAt enclosure input rest`: the walk goes on inside an enclosure and leaves it at the
rest. -/
def ClosesAt (enclosure : Enclosure) : List Piece → List Piece → Prop :=
  Comes fun fuel around => passRest fuel (enclosure :: around)

/-- A walk whose one step is enough. -/
theorem comes_of_last {walk : Nat → List Enclosure → Reader Unit} {input rest : List Piece}
    (shorter : rest.length < input.length)
    (last : ∀ fuel around, walk (fuel + 1) around input = passRest fuel around rest) :
    Comes walk input rest := by
  refine ⟨shorter, fun fuel around enough => ?_⟩
  obtain ⟨fuel, rfl⟩ := Nat.exists_eq_add_one_of_ne_zero (Nat.ne_zero_of_lt enough)
  exact ⟨fuel, by omega, last fuel around⟩

/-- A walk whose first step leads to another one. -/
theorem Comes.of_step {walk other : Nat → List Enclosure → Reader Unit}
    {input middle rest : List Piece} (comes : Comes other middle rest)
    (nearer : middle.length < input.length)
    (step : ∀ fuel around, middle.length < fuel →
      walk (fuel + 1) around input = other fuel around middle) :
    Comes walk input rest := by
  refine ⟨Nat.lt_trans comes.1 nearer, fun fuel around enough => ?_⟩
  obtain ⟨fuel, rfl⟩ := Nat.exists_eq_add_one_of_ne_zero (Nat.ne_zero_of_lt enough)
  have remaining : middle.length < fuel := by omega
  obtain ⟨left, still, walked⟩ := comes.2 fuel around remaining
  exact ⟨left, still, (step fuel around remaining).trans walked⟩

theorem passValue_skipBlanks {fuel : Nat} {around : List Enclosure} {input : List Piece} :
    passValue (fuel + 1) around (skipBlanks input) = passValue (fuel + 1) around input := by
  rw [passValue, passValue, skipBlanks_skipBlanks]

/-- Behind a value the walk goes on to the end of its enclosure. -/
theorem WalksTo.closesAt {enclosure : Enclosure} {input middle rest : List Piece}
    (walks : WalksTo input middle) (closes : ClosesAt enclosure middle rest) :
    Comes (fun fuel around => passValue fuel (enclosure :: around)) input rest := by
  refine ⟨Nat.lt_trans closes.1 walks.1, fun fuel around enough => ?_⟩
  obtain ⟨left, more, walked⟩ := walks.2 fuel (enclosure :: around) enough
  obtain ⟨last, still, closed⟩ := closes.2 left around more
  exact ⟨last, still, walked.trans closed⟩

/-- The items of a list that can be read are walked over to its end. -/
theorem closesAt_list {item : Reader Json}
    (each : ∀ {input value rest}, item input = .ok (value, rest) → WalksTo input rest) {fuel : Nat}
    {input rest : List Piece} {items : List Json}
    (read : itemsUpTo item fuel false input = .ok (items, rest)) :
    ClosesAt .list input rest := by
  induction fuel generalizing input items with
  | zero => simp [itemsUpTo] at read
  | succ fuel ih =>
      unfold itemsUpTo at read
      split at read
      · cases read
      · rename_i more
        cases read
        rcases moreItems_cases more with ⟨after, start, -, rfl⟩ | ⟨_, _, never, _⟩
        · exact comes_of_last (length_of_skipBlanks start) fun fuel around => by
            simp [passRest, start]
        · cases never
      · rename_i more
        split at read
        · cases read
        · rename_i value middle done
          obtain ⟨⟨others, _⟩, later, ⟨⟩⟩ := map_eq_ok.mp read
          rcases moreItems_cases more with ⟨_, _, never, _⟩ | ⟨after, start, -, rfl⟩
          · cases never
          · have shorter := length_of_skipBlanks start
            have blanks := length_skipBlanks_le after
            refine ((each done).closesAt (ih later)).of_step (by omega)
              fun fuel around enough => ?_
            obtain ⟨fuel, rfl⟩ := Nat.exists_eq_add_one_of_ne_zero (Nat.ne_zero_of_lt enough)
            rw [passValue_skipBlanks]
            simp [passRest, start]

/-- A member's name and the colon behind it are walked over as they are read. -/
theorem passName_of_stringTail {input rest after value : List Piece} {name : String}
    (quoted : skipBlanks input = .char '"' :: rest) (read : stringTail rest = .ok (name, after))
    (parted : colon after = .ok ((), value)) :
    passName input = .ok ((), value) ∧ value.length < input.length := by
  obtain ⟨⟨cs, _⟩, done, ⟨⟩⟩ := map_eq_ok.mp read
  obtain ⟨passed, shorter⟩ := passString_of_stringRest done
  have behind := length_of_skipBlanks quoted
  have last := length_of_skipBlanks (colon_eq_ok parted)
  exact ⟨by simp [passName, quoted, passed, parted], by omega⟩

/-- What follows a name is a colon and a value. -/
theorem exists_of_writtenMember {value : Reader Json} {name : String} {members all : Members}
    {input rest : List Piece}
    (read : writtenMember value name members input = .ok (all, rest)) :
    ∃ after written, colon input = .ok ((), after) ∧ value after = .ok (written, rest) ∧
      all = members ++ [(name, written)] := by
  obtain ⟨⟨written, _⟩, done, ⟨⟩⟩ := map_eq_ok.mp read
  unfold afterColon at done
  split at done
  · cases done
  · rename_i parted
    exact ⟨_, written, parted, done, rfl⟩

/-- The members of an object that can be read are walked over to its end. -/
theorem closesAt_object {value : Reader Json}
    (each : ∀ {input written rest}, value input = .ok (written, rest) → WalksTo input rest)
    {fuel : Nat} {input rest : List Piece} {members all : Members}
    (read : membersUpTo (writtenMember value) fuel false members input = .ok (all, rest)) :
    ClosesAt .object input rest := by
  induction fuel generalizing input members with
  | zero => simp [membersUpTo] at read
  | succ fuel ih =>
      unfold membersUpTo at read
      split at read
      · cases read
      · rename_i next
        cases read
        rcases nextName?_cases next with ⟨after, start, -, rfl⟩ | ⟨_, _, _, _, _, _, never⟩
        · exact comes_of_last (length_of_skipBlanks start) fun fuel around => by
            simp [passRest, start]
        · cases never
      · rename_i next
        split at read
        · cases read
        · rename_i state middle done
          obtain ⟨after, written, parted, valued, rfl⟩ := exists_of_writtenMember done
          rcases nextName?_cases next with ⟨_, _, never, _⟩ |
            ⟨behind, _, _, start, quoted, named, -⟩
          · cases never
          · have shorter := length_of_skipBlanks start
            obtain ⟨passed, nearer⟩ := passName_of_stringTail quoted named parted
            refine ((each valued).closesAt (ih read)).of_step (by omega) fun fuel around _ => ?_
            simp [passRest, start, passed]

/-- One step of the walk takes a scalar. -/
theorem walksTo_of_scalar {input text rest : List Piece} {piece : Piece}
    (start : skipBlanks input = piece :: text) (shorter : rest.length ≤ text.length)
    (passed : ∀ fuel around, passValue (fuel + 1) around input = passRest fuel around rest) :
    WalksTo input rest := by
  have nearer := length_of_skipBlanks start
  exact comes_of_last (by omega) passed

theorem walksTo_list {item : Reader Json}
    (each : ∀ {input value rest}, item input = .ok (value, rest) → WalksTo input rest)
    {input text rest : List Piece} {items : List Json}
    (start : skipBlanks input = .char '[' :: text)
    (read : itemsOf item text = .ok (items, rest)) : WalksTo input rest := by
  have nearer := length_of_skipBlanks start
  have blanks := length_skipBlanks_le text
  unfold itemsOf itemsUpTo at read
  split at read
  · cases read
  · rename_i more
    cases read
    rcases moreItems_first_cases more with ⟨after, closed, -, rfl⟩ | ⟨_, _, never, _⟩
    · refine walksTo_of_scalar start ?_ fun fuel around => ?_
      · have := length_of_skipBlanks closed
        simp
        omega
      · simp [passValue, start, closed]
    · cases never
  · rename_i more
    split at read
    · cases read
    · rename_i value middle done
      obtain ⟨⟨others, _⟩, later, ⟨⟩⟩ := map_eq_ok.mp read
      rcases moreItems_first_cases more with ⟨_, _, never, _⟩ | ⟨some, opened, -, rfl⟩
      · cases never
      · refine ((each done).closesAt (closesAt_list each later)).of_step (by omega)
          fun fuel around _ => ?_
        rw [passValue]
        simp only [start]

theorem walksTo_object {value : Reader Json}
    (each : ∀ {input written rest}, value input = .ok (written, rest) → WalksTo input rest)
    {input text rest : List Piece} {members : Members}
    (start : skipBlanks input = .char '\x7b' :: text)
    (read : membersOf (writtenMember value) [] text = .ok (members, rest)) :
    WalksTo input rest := by
  have nearer := length_of_skipBlanks start
  have blanks := length_skipBlanks_le text
  unfold membersOf membersUpTo at read
  split at read
  · cases read
  · rename_i next
    cases read
    rcases nextName?_first_cases next with ⟨after, closed, -, rfl⟩ | ⟨_, _, _, _, never⟩
    · refine walksTo_of_scalar start ?_ fun fuel around => ?_
      · have := length_of_skipBlanks closed
        simp
        omega
      · simp [passValue, start, closed]
    · cases never
  · rename_i next
    split at read
    · cases read
    · rename_i state middle done
      obtain ⟨after, written, parted, valued, rfl⟩ := exists_of_writtenMember done
      rcases nextName?_first_cases next with ⟨_, _, never, _⟩ | ⟨_, _, quoted, named, -⟩
      · cases never
      · have again := (skipBlanks_skipBlanks text).trans quoted
        obtain ⟨passed, shorter⟩ := passName_of_stringTail again named parted
        refine ((each valued).closesAt (closesAt_object each read)).of_step (by omega)
          fun fuel around _ => ?_
        rw [quoted] at passed
        rw [passValue]
        simp [start, quoted, passed]

/-- Reading a value that can be read or walking over it comes to the same place. -/
theorem walksTo_of_written {depth : Nat} {input rest : List Piece} {value : Json}
    (read : writtenValue depth input = .ok (value, rest)) : WalksTo input rest := by
  -- The walk knows no depth, but the items and members of a value have less of it.
  induction depth using Nat.strongRecOn generalizing input rest value with
  | ind depth ih =>
      have spells := spells_of_written read
      generalize start : skipBlanks input = text at spells
      cases spells with
      | null done | yes done | no done =>
          exact walksTo_of_scalar start (word_length done) fun fuel around => by
            simp [passValue, start, done]
      | string done =>
          obtain ⟨⟨cs, _⟩, done, ⟨⟩⟩ := map_eq_ok.mp done
          obtain ⟨passed, shorter⟩ := passString_of_stringRest done
          exact walksTo_of_scalar start (Nat.le_of_lt shorter) fun fuel around => by
            simp [passValue, start, passed]
      | negative done =>
          obtain ⟨passed, shorter⟩ := passNumber_of_numberRest done
          exact walksTo_of_scalar start (Nat.le_of_lt shorter) fun fuel around => by
            simp [passValue, start, passed]
      | number digit done =>
          obtain ⟨passed, shorter⟩ := passNumber_of_numberRest done
          refine walksTo_of_scalar start (Nat.le_of_lt_succ shorter) fun fuel around => ?_
          have plain := ne_of_isDigit digit
          simp [passValue, start, digit, passed, plain]
      | array done => exact walksTo_list (ih _ (Nat.lt_succ_self _)) start done
      | object done => exact walksTo_object (ih _ (Nat.lt_succ_self _)) start done

/-- **A value that can be read is walked over to where it ends.** -/
theorem passOver_of_written {depth : Nat} {input rest : List Piece} {value : Json}
    (read : writtenValue depth input = .ok (value, rest)) : passOver input = .ok ((), rest) := by
  obtain ⟨left, -, walked⟩ := (walksTo_of_written read).2 _ [] (Nat.lt_succ_self _)
  rw [passOver, walked]
  cases left <;> rw [passRest]

end SuiteBridge.Json
