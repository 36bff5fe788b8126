import Mathlib.Data.List.Induction
import SuiteBridge.Proofs.Json.Coherence
import SuiteBridge.Proofs.Json.Distinct

/-!
# Values read back from their texts

The text of a value without doubles reads as that value again: `Json.parse_render`. Each part of a
text is read up to the mark that follows it, a comma or the end of what is around it (`Closes`), so
the lemmas about numbers, strings, items and members leave open what comes next.

The text is read as it is written first (`writtenValue_text`); where no name is repeated, there is
nothing to settle (`settled_eq`).
-/

namespace SuiteBridge.Json

open Text (Piece)

/-- `Plain depth value`: a value without a double and with at most `depth` lists and objects around
its parts. As in any value that is read, integers have 64 bits and no object has a name twice. -/
inductive Plain : (depth : Nat) → Json → Prop
  | null {depth : Nat} : Plain depth .null
  | bool {depth : Nat} (b : Bool) : Plain depth (.bool b)
  | integer {depth : Nat} {i : Int} :
    -0x8000000000000000 ≤ i → i ≤ 0xFFFFFFFFFFFFFFFF → Plain depth (.number (.integer i))
  | string {depth : Nat} (s : String) : Plain depth (.string s)
  | array {depth : Nat} {items : List Json} :
    (∀ item ∈ items, Plain depth item) → Plain (depth + 1) (.array items)
  | object {depth : Nat} {members : Members} :
    (members.map Prod.fst).Nodup → (∀ member ∈ members, Plain depth member.2) →
    Plain (depth + 1) (.object members)

attribute [simp] Plain.null Plain.bool Plain.string

@[simp] theorem plain_array {depth : Nat} {items : List Json} :
    Plain (depth + 1) (.array items) ↔ ∀ item ∈ items, Plain depth item :=
  ⟨fun plain => by cases plain; assumption, .array⟩

@[simp] theorem plain_object {depth : Nat} {members : Members} :
    Plain (depth + 1) (.object members) ↔
      (members.map Prod.fst).Nodup ∧ ∀ member ∈ members, Plain depth member.2 :=
  ⟨fun plain => by cases plain; constructor <;> assumption, fun both => .object both.1 both.2⟩

/-- A text that goes on, if at all, with a comma or the end of a list or an object. -/
def Closes (rest : List Char) : Prop :=
  ∀ c ∈ rest.head?, c = ',' ∨ c = ']' ∨ c = '\x7d'

theorem closes_nil : Closes [] := by
  simp [Closes]

theorem closes_cons {c : Char} {rest : List Char} (mark : c = ',' ∨ c = ']' ∨ c = '\x7d') :
    Closes (c :: rest) := by
  simpa [Closes] using mark

/-! ## Strings -/

theorem hexValue?_hexDigit : ∀ n < 16, hexValue? (.char (hexDigit n)) = some n := by
  decide

/-- What stands for a character in a string is read as that character. -/
theorem stringRest_escapedChar (c : Char) (more : List Piece) :
    stringRest true ((escapedChar c).map .char ++ more) = consChar c (stringRest true more) := by
  unfold escapedChar
  split
  case h_8 quote backslash _ _ _ _ _ =>
    by_cases control : c.toNat < 0x20
    · have high := hexValue?_hexDigit (c.toNat / 16) (by omega)
      have low := hexValue?_hexDigit (c.toNat % 16) (by omega)
      have zero : hexValue? (.char '0') = some 0 := rfl
      have unit : hexUnit? (.char '0') (.char '0') (.char (hexDigit (c.toNat / 16)))
          (.char (hexDigit (c.toNat % 16))) = some c.toNat := by
        simp only [hexUnit?, zero, high, low, Option.bind_eq_bind, Option.bind_some,
          Option.pure_def, Option.some.injEq]
        omega
      have single : isTrail c.toNat = false ∧ isLead c.toNat = false := by
        simp only [isTrail, isLead, Bool.and_eq_false_iff, decide_eq_false_iff_not]
        omega
      rw [if_pos control]
      simp [stringRest, unit, single, Char.ofNat_toNat]
    · -- What is left is that no other rule for strings applies: they need a quote or a backslash.
      rw [if_neg control, List.map_singleton, List.singleton_append, stringRest, if_neg control]
      all_goals simp_all
  all_goals rfl

theorem stringTail_text (s : String) (rest : List Char) :
    stringTail ((s.toList.flatMap escapedChar ++ '"' :: rest).map .char) =
      .ok (s, rest.map .char) := by
  have chars : ∀ cs : List Char,
      stringRest true ((cs.flatMap escapedChar ++ '"' :: rest).map .char) =
        .ok (cs, rest.map .char) := by
    intro cs
    induction cs with
    | nil => rfl
    | cons c cs ih =>
        rw [List.flatMap_cons, List.append_assoc, List.map_append, stringRest_escapedChar, ih]
        rfl
  rw [stringTail, chars]
  simp [Except.map]

/-! ## Integers -/

/-- Digits are taken up to the mark that follows them. -/
theorem spanDigits_append {digits rest : List Char} (all : ∀ c ∈ digits, Text.isDigit c = true)
    (closes : Closes rest) :
    spanDigits ((digits ++ rest).map .char) = (digits, rest.map .char) := by
  induction digits with
  | nil =>
      cases rest with
      | nil => rfl
      | cons c rest =>
          have mark : Text.isDigit c = false := by
            rcases closes c rfl with rfl | rfl | rfl <;> rfl
          simp [spanDigits, mark]
  | cons c digits ih =>
      have digit := all c List.mem_cons_self
      have others := ih fun d member => all d (List.mem_cons_of_mem _ member)
      rw [List.cons_append, List.map_cons, spanDigits, if_pos digit, others]

/-- Only zero is written with a zero in front. -/
theorem head?_decimal_ne {n : Nat} (positive : 0 < n) : (Text.decimal n).head? ≠ some '0' := by
  induction n using Nat.strongRecOn with
  | ind n ih =>
      unfold Text.decimal
      by_cases small : n < 10
      · have digits : ∀ n < 10, 0 < n → [n.digitChar].head? ≠ some '0' := by decide
        rw [Nat.toDigits_of_lt_base small]
        exact digits n small positive
      · have front := ih (n / 10) (by omega) (by omega)
        rwa [Nat.toDigits_of_base_le (by decide) (by omega),
          List.head?_append_of_ne_nil _ Nat.toDigits_ne_nil]

theorem decimal_ne_zero_cons (n : Nat) (d : Char) (digits : List Char) :
    Text.decimal n ≠ '0' :: d :: digits := by
  intro zeroed
  rcases Nat.eq_zero_or_pos n with rfl | positive
  · exact absurd zeroed (by simp [Text.decimal, Nat.toDigits_of_lt_base])
  · exact head?_decimal_ne positive (by rw [zeroed]; rfl)

/-- Digits whose number stays in bounds are all appended. -/
theorem appendDigits_eq {start n : Nat} {digits : List Char}
    (value : digits.foldl (fun n d => 10 * n + Text.digitValue d) start = n)
    (small : n ≤ greatestSignificand) : appendDigits start digits = (n, 0) := by
  induction digits generalizing start with
  | nil => rw [appendDigits, ← value, List.foldl_nil]
  | cons d digits ih =>
      have grows : ∀ (digits : List Char) (start : Nat),
          start ≤ digits.foldl (fun n d => 10 * n + Text.digitValue d) start := by
        intro digits
        induction digits with
        | nil => exact fun start => Nat.le_refl start
        | cons d digits ih =>
            intro start
            have next := ih (10 * start + Text.digitValue d)
            rw [List.foldl_cons]
            omega
      rw [List.foldl_cons] at value
      have bounded := grows digits (10 * start + Text.digitValue d)
      rw [appendDigits, Nat.mul_comm start 10, if_neg (by omega)]
      exact ih value

theorem afterWhole_closes {rest : List Char} (closes : Closes rest) (negative : Bool) (n : Nat) :
    afterWhole negative n 0 (rest.map .char) = .ok (wholeNumber negative n, rest.map .char) := by
  cases rest with
  | nil => rfl
  | cons c rest => rcases closes c rfl with rfl | rfl | rfl <;> rfl

theorem numberRest_decimal {n : Nat} {rest : List Char} (small : n ≤ greatestSignificand)
    (closes : Closes rest) (negative : Bool) :
    numberRest negative ((Text.decimal n ++ rest).map .char) =
      .ok (wholeNumber negative n, rest.map .char) := by
  have digits := spanDigits_append (fun _ => Text.isDigit_of_mem_decimal (n := n)) closes
  have value : (Text.decimal n).foldl (fun n d => 10 * n + Text.digitValue d) 0 = n :=
    Nat.ofDigitChars_ten_toDigits
  unfold numberRest
  rw [digits]
  split
  · rename_i empty
    exact absurd (congrArg Prod.fst empty) Nat.toDigits_ne_nil
  · rename_i empty
    exact absurd (congrArg Prod.fst empty) Nat.toDigits_ne_nil
  · rename_i zeroed
    exact absurd (congrArg Prod.fst zeroed) (decimal_ne_zero_cons n _ _)
  · rename_i same
    obtain ⟨rfl, rfl⟩ := Prod.mk.inj same
    simp only [appendDigits_eq value small]
    exact afterWhole_closes closes negative n

/-- An integer of 64 bits is read as itself. -/
theorem wholeNumber_natAbs {i : Int} (least : -0x8000000000000000 ≤ i) :
    wholeNumber (decide (i < 0)) i.natAbs = .integer i := by
  unfold wholeNumber
  split
  · rename_i negative
    have below : i < 0 := by simpa using negative
    rw [if_pos (by omega)]
    congr 1
    omega
  · rename_i positive
    have above : ¬ i < 0 := by simpa using positive
    congr 1
    omega

/-! ## Lists and objects -/

/-- `read` reads some values back from their texts, whatever follows them. -/
def Rereads (read : Reader Json) (value : Json) : Prop :=
  ∀ rest, Closes rest → read ((value.text ++ rest).map .char) = .ok (value, rest.map .char)

theorem closes_behind {α : Type} (write : α → List Char) (xs : List α) {close : Char}
    (mark : close = ']' ∨ close = '\x7d') (rest : List Char) :
    Closes ((xs.map write).flatMap (',' :: ·) ++ close :: rest) := by
  cases xs with
  | nil => exact closes_cons (Or.inr mark)
  | cons x xs => exact closes_cons (Or.inl rfl)

/-- There is a comma for each entry behind commas. -/
theorem length_le_behind {α : Type} (write : α → List Char) (xs : List α) :
    xs.length ≤ ((xs.map write).flatMap (',' :: ·)).length := by
  induction xs with
  | nil => exact Nat.le_refl 0
  | cons x xs ih =>
      simp only [List.map_cons, List.flatMap_cons, List.length_append, List.length_cons]
      omega

/-- A text starts neither with a blank nor with the end of a list. -/
theorem exists_text_opens (value : Json) :
    ∃ c cs, value.text = c :: cs ∧ isBlankPiece (.char c) = false ∧ c ≠ ']' := by
  obtain ⟨c, cs, same, kind⟩ := value.exists_text_eq_cons
  have opens : ∀ d, kindOpened? d = none → c ≠ d := by
    rintro d unopened rfl
    rw [unopened] at kind
    cases kind
  refine ⟨c, cs, same, ?_, opens _ (by decide)⟩
  simp [isBlankPiece, opens ' ' (by decide), opens '\n' (by decide), opens '\t' (by decide),
    opens '\r' (by decide)]

theorem moreItems_text (value : Json) (rest : List Char) :
    moreItems true ((value.text ++ rest).map .char) =
      .ok (true, (value.text ++ rest).map .char) := by
  obtain ⟨c, cs, same, blank, close⟩ := exists_text_opens value
  simp [moreItems, skipBlanks, same, blank, close]

theorem moreItems_comma (value : Json) (rest : List Char) :
    moreItems false ((',' :: value.text ++ rest).map .char) =
      .ok (true, (value.text ++ rest).map .char) := by
  obtain ⟨c, cs, same, blank, close⟩ := exists_text_opens value
  have comma : isBlankPiece (.char ',') = false := rfl
  simp [moreItems, skipBlanks, same, blank, comma, close]

theorem itemsUpTo_behind {read : Reader Json} {items : List Json} {fuel : Nat}
    (reads : ∀ item ∈ items, Rereads read item) (enough : items.length < fuel)
    (rest : List Char) :
    itemsUpTo read fuel false
        (((items.map text).flatMap (',' :: ·) ++ ']' :: rest).map .char) =
      .ok (items, rest.map .char) := by
  -- Each item takes one step, and so does the bracket.
  induction items generalizing fuel with
  | nil =>
      obtain ⟨fuel, rfl⟩ := Nat.exists_eq_add_of_lt enough
      rfl
  | cons item items ih =>
      obtain ⟨fuel, rfl⟩ : ∃ less, fuel = less + 1 := ⟨fuel - 1, by omega⟩
      have others := ih (fun x member => reads x (List.mem_cons_of_mem _ member))
        (Nat.lt_of_succ_lt_succ enough)
      have first := reads item List.mem_cons_self
        _ (closes_behind text items (Or.inl rfl) rest)
      rw [List.map_cons, List.flatMap_cons, List.append_assoc, itemsUpTo, moreItems_comma]
      simp only [first, others, Except.map]

/-- The items of a list are read back. -/
theorem itemsOf_text {read : Reader Json} {items : List Json}
    (reads : ∀ item ∈ items, Rereads read item) (rest : List Char) :
    itemsOf read ((List.intercalate [','] (items.map text) ++ ']' :: rest).map .char) =
      .ok (items, rest.map .char) := by
  cases items with
  | nil => rfl
  | cons item items =>
      have first := reads item List.mem_cons_self
        _ (closes_behind text items (Or.inl rfl) rest)
      have commas := length_le_behind text items
      rw [List.map_cons, intercalate_comma_cons, List.append_assoc, itemsOf, itemsUpTo,
        moreItems_text]
      simp only [first]
      rw [itemsUpTo_behind (fun x member => reads x (List.mem_cons_of_mem _ member))]
      · rfl
      · simp only [List.length_map, List.length_append, List.length_cons]
        omega

theorem memberName_text (name : String) (rest : List Char) :
    memberName ((stringText name ++ rest).map .char) = .ok (some name, rest.map .char) := by
  have tail := stringTail_text name rest
  rw [stringText, List.cons_append, List.cons_append, List.append_assoc, List.singleton_append,
    List.map_cons, memberName, tail]
  rfl

theorem nextName?_text (name : String) (rest : List Char) :
    nextName? true ((stringText name ++ rest).map .char) = .ok (some name, rest.map .char) :=
  memberName_text name rest

theorem nextName?_comma (name : String) (rest : List Char) :
    nextName? false ((',' :: stringText name ++ rest).map .char) =
      .ok (some name, rest.map .char) :=
  memberName_text name rest

theorem writtenMember_text {read : Reader Json} {value : Json} (reads : Rereads read value)
    (name : String) (before : Members) {rest : List Char} (closes : Closes rest) :
    writtenMember read name before ((':' :: value.text ++ rest).map .char) =
      .ok (before ++ [(name, value)], rest.map .char) := by
  have after : afterColon read ((':' :: value.text ++ rest).map .char) =
      read ((value.text ++ rest).map .char) := rfl
  rw [writtenMember, after, reads rest closes]
  rfl

theorem membersUpTo_behind {read : Reader Json} {members : Members} {fuel : Nat}
    (reads : ∀ member ∈ members, Rereads read member.2) (enough : members.length < fuel)
    (before : Members) (rest : List Char) :
    membersUpTo (writtenMember read) fuel false before
        (((members.map memberText).flatMap (',' :: ·) ++ '\x7d' :: rest).map .char) =
      .ok (before ++ members, rest.map .char) := by
  induction members generalizing fuel before with
  | nil =>
      obtain ⟨fuel, rfl⟩ := Nat.exists_eq_add_of_lt enough
      rw [List.append_nil]
      rfl
  | cons member members ih =>
      obtain ⟨fuel, rfl⟩ : ∃ less, fuel = less + 1 := ⟨fuel - 1, by omega⟩
      obtain ⟨name, value⟩ := member
      have others := ih (fun x member => reads x (List.mem_cons_of_mem _ member))
        (Nat.lt_of_succ_lt_succ enough) (before ++ [(name, value)])
      have first := writtenMember_text (reads _ List.mem_cons_self) name before
        (closes_behind memberText members (Or.inr rfl) rest)
      rw [List.map_cons, List.flatMap_cons, memberText, ← List.cons_append, List.append_assoc,
        List.append_assoc, membersUpTo, nextName?_comma]
      simp only [first]
      rw [others, List.append_assoc, List.singleton_append]

/-- The members of an object are read back. -/
theorem membersOf_text {read : Reader Json} {members : Members}
    (reads : ∀ member ∈ members, Rereads read member.2) (rest : List Char) :
    membersOf (writtenMember read) []
        ((List.intercalate [','] (members.map memberText) ++ '\x7d' :: rest).map .char) =
      .ok (members, rest.map .char) := by
  cases members with
  | nil => rfl
  | cons member members =>
      obtain ⟨name, value⟩ := member
      have first := writtenMember_text (reads _ List.mem_cons_self) name []
        (closes_behind memberText members (Or.inr rfl) rest)
      have commas := length_le_behind memberText members
      rw [List.map_cons, intercalate_comma_cons, memberText, List.append_assoc,
        List.append_assoc, membersOf, membersUpTo, nextName?_text]
      simp only [first]
      rw [membersUpTo_behind (fun x member => reads x (List.mem_cons_of_mem _ member))]
      · rfl
      · simp only [List.length_map, List.length_append, List.length_cons]
        omega

/-! ## Values -/

section Openings

variable (depth : Nat) (rest : List Piece)

theorem writtenValue_quote : writtenValue depth (.char '"' :: rest) =
    (stringTail rest).map fun (s, rest) => (.string s, rest) := by
  rw [writtenValue]
  rfl

theorem writtenValue_minus : writtenValue depth (.char '-' :: rest) =
    (numberRest true rest).map fun (n, rest) => (.number n, rest) := by
  rw [writtenValue]
  rfl

theorem writtenValue_digit {c : Char} (digit : Text.isDigit c = true) :
    writtenValue depth (.char c :: rest) =
      (numberRest false (.char c :: rest)).map fun (n, rest) => (.number n, rest) := by
  have plain := ne_of_isDigit digit
  have blank : isBlankPiece (.char c) = false := by
    have other : ∀ d, Text.isDigit d = false → c ≠ d := by
      rintro d undigit rfl
      rw [digit] at undigit
      cases undigit
    simp [isBlankPiece, other ' ' rfl, other '\n' rfl, other '\t' rfl, other '\r' rfl]
  rw [writtenValue]
  simp [skipBlanks, blank, plain, digit]

theorem writtenValue_bracket : writtenValue (depth + 1) (.char '[' :: rest) =
    (itemsOf (writtenValue depth) rest).map fun (items, rest) => (.array items, rest) := by
  rw [writtenValue]
  rfl

theorem writtenValue_brace : writtenValue (depth + 1) (.char '\x7b' :: rest) =
    (membersOf (writtenMember (writtenValue depth)) [] rest).map fun (members, rest) =>
      (.object members, rest) := by
  rw [writtenValue]
  rfl

end Openings

theorem writtenValue_decimalInt {i : Int} {rest : List Char} (least : -0x8000000000000000 ≤ i)
    (greatest : i ≤ 0xFFFFFFFFFFFFFFFF) (closes : Closes rest) (depth : Nat) :
    writtenValue depth ((Text.decimalInt i ++ rest).map .char) =
      .ok (.number (.integer i), rest.map .char) := by
  have small : i.natAbs ≤ greatestSignificand := by
    unfold greatestSignificand
    omega
  have read := numberRest_decimal small closes
  have whole := wholeNumber_natAbs least
  unfold Text.decimalInt
  by_cases negative : i < 0
  · rw [if_pos negative, List.cons_append, List.map_cons, writtenValue_minus, read true]
    simp only [negative, decide_true] at whole
    rw [whole]
    rfl
  · have some : Text.decimal i.natAbs ≠ [] := Nat.toDigits_ne_nil
    obtain ⟨c, digits, same⟩ := List.exists_cons_of_ne_nil some
    have digit : Text.isDigit c = true := Text.isDigit_of_mem_decimal (same ▸ List.mem_cons_self)
    have number := read false
    simp only [negative, decide_false] at whole
    rw [whole, same, List.cons_append, List.map_cons] at number
    rw [if_neg negative, same, List.cons_append, List.map_cons, writtenValue_digit _ _ digit,
      number]
    rfl

/-- A plain value is read back as it is written. -/
theorem writtenValue_text {depth : Nat} {value : Json} (plain : Plain depth value) :
    Rereads (writtenValue depth) value := by
  induction plain with
  | null =>
      intro rest _
      rw [text, writtenValue]
      rfl
  | bool b =>
      intro rest _
      cases b <;> rw [text, writtenValue] <;> rfl
  | integer least greatest =>
      intro rest closes
      rw [text]
      exact writtenValue_decimalInt least greatest closes _
  | string s =>
      intro rest _
      have read := stringTail_text s rest
      rw [text, stringText, List.cons_append, List.cons_append, List.append_assoc,
        List.singleton_append, List.map_cons, writtenValue_quote, read]
      rfl
  | array _ ih =>
      intro rest _
      have read := itemsOf_text ih rest
      rw [text, itemTexts_eq_map, List.cons_append, List.cons_append, List.append_assoc,
        List.singleton_append, List.map_cons, writtenValue_bracket, read]
      rfl
  | object _ _ ih =>
      intro rest _
      have read := membersOf_text ih rest
      rw [text, memberTexts_eq_map, List.cons_append, List.cons_append, List.append_assoc,
        List.singleton_append, List.map_cons, writtenValue_brace, read]
      rfl

/-! ## Nothing to settle -/

/-- A new name comes last. -/
theorem insert_of_not_mem {name : String} {value : Json} {members : Members}
    (new : name ∉ members.map Prod.fst) :
    Members.insert name value members = members ++ [(name, value)] := by
  induction members with
  | nil => rfl
  | cons member members ih =>
      rw [List.map_cons, List.mem_cons, not_or] at new
      rw [Members.insert, if_neg (Ne.symm new.1), ih new.2, List.cons_append]

theorem ofPairs_append (members : Members) (name : String) (value : Json) :
    Members.ofPairs (members ++ [(name, value)]) =
      Members.insert name value (Members.ofPairs members) := by
  rw [Members.ofPairs, List.foldl_append]
  rfl

theorem ofPairs_eq {members : Members} (distinct : (members.map Prod.fst).Nodup) :
    Members.ofPairs members = members := by
  induction members using List.reverseRecOn with
  | nil => rfl
  | append_singleton members member ih =>
      obtain ⟨name, value⟩ := member
      rw [List.map_append, List.nodup_append] at distinct
      have new : name ∉ members.map Prod.fst := by
        intro member
        exact distinct.2.2 name member name List.mem_cons_self rfl
      rw [ofPairs_append, ih distinct.1, insert_of_not_mem new]

theorem settledMembers_eq_self {members : Members}
    (all : ∀ member ∈ members, settled member.2 = member.2) :
    settledMembers members = members := by
  induction members with
  | nil => rfl
  | cons member members ih =>
      obtain ⟨name, value⟩ := member
      have first : settled value = value := all _ List.mem_cons_self
      rw [settledMembers, first, ih fun x member => all x (List.mem_cons_of_mem _ member)]

/-- A plain value is settled. -/
theorem settled_eq {depth : Nat} {value : Json} (plain : Plain depth value) :
    settled value = value := by
  -- Only objects are changed by settling, and only where a name is repeated.
  induction plain with
  | null | bool | integer | string => rw [settled]
  | array _ ih =>
      rw [settled, settledItems_eq_map, List.map_congr_left ih, List.map_id']
  | object distinct _ ih => rw [settled, settledMembers_eq_self ih, ofPairs_eq distinct]

/-- **The text of a plain value reads as that value.** -/
theorem parse_render {value : Json} (plain : Plain greatestDepth value) :
    Json.parse value.render = .ok value := by
  have read := writtenValue_text plain [] closes_nil
  have written : writtenDocument (piecesOf value.render) = .ok value := by
    rw [List.append_nil] at read
    rw [writtenDocument, wholly, piecesOf, render, String.toList_ofList, read]
    rfl
  rw [Json.parse, ofPieces_eq, written, Except.map, settled_eq plain]

/-! ## One line each -/

theorem newline_notMem_escapedChar (c : Char) : '\n' ∉ escapedChar c := by
  rcases escapedChar_cases c with ⟨special, -⟩ | ⟨itself, -, -⟩
  · have all : escapes.all (fun c => !(escapedChar c).contains '\n') = true := by
      decide +kernel
    simpa using List.all_eq_true.mp all c special
  · rw [itself, List.mem_singleton]
    rintro rfl
    exact absurd itself (by decide)

theorem newline_notMem_stringText (s : String) : '\n' ∉ stringText s := by
  have inside : '\n' ∉ s.toList.flatMap escapedChar := by
    rw [List.mem_flatMap]
    rintro ⟨c, -, member⟩
    exact newline_notMem_escapedChar c member
  simp [stringText, inside]

/-- Entries with commas between them are on one line if each of them is. -/
theorem newline_notMem_intercalate {α : Type} (write : α → List Char) {xs : List α}
    (each : ∀ x ∈ xs, '\n' ∉ write x) : '\n' ∉ List.intercalate [','] (xs.map write) := by
  cases xs with
  | nil => exact List.not_mem_nil
  | cons x xs =>
      rw [List.map_cons, intercalate_comma_cons, List.mem_append, List.mem_flatMap]
      rintro (first | ⟨text, member, inside⟩)
      · exact each x List.mem_cons_self first
      · obtain ⟨y, other, rfl⟩ := List.mem_map.mp member
        rcases List.mem_cons.mp inside with comma | later
        · cases comma
        · exact each y (List.mem_cons_of_mem _ other) later

/-- The text of a plain value is one line. -/
theorem newline_notMem_text {depth : Nat} {value : Json} (plain : Plain depth value) :
    '\n' ∉ value.text := by
  induction plain with
  | null => simp [text]
  | bool b => cases b <;> simp [text]
  | integer _ _ =>
      rw [text]
      intro member
      exact absurd (Text.isIntegerMark_of_mem_decimalInt member) (by decide)
  | string s =>
      rw [text]
      exact newline_notMem_stringText s
  | array _ ih =>
      rw [text, itemTexts_eq_map]
      have inside := newline_notMem_intercalate text ih
      simp [inside]
  | object _ _ ih =>
      rw [text, memberTexts_eq_map]
      have inside := newline_notMem_intercalate memberText fun member also => by
        have value := ih member also
        simp [memberText, newline_notMem_stringText, value]
      simp [inside]

end SuiteBridge.Json
