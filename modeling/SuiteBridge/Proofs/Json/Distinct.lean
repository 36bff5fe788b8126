import SuiteBridge.Json.Printer
import SuiteBridge.Proofs.Text.Numeral

/-!
# Different values have different texts

A text can be told from what stands behind it: strings, lists and objects say themselves where they
end, and a number ends where no more of a number follows. So a text leads back to one value only, as
long as that value has no double in it: `Json.eq_of_render_eq`.
-/

namespace SuiteBridge

/-! ## Where a number ends -/

/-- A character that an integer can be written with. -/
def isIntegerMark (c : Char) : Bool :=
  c.isDigit || c == '-'

/-- A text that goes on with nothing that could belong to a number before it. -/
def EndsNumber (rest : List Char) : Prop :=
  ∀ c ∈ rest.head?, isIntegerMark c = false ∧ c ≠ '.' ∧ c ≠ 'e'

theorem endsNumber_nil : EndsNumber [] := by
  simp [EndsNumber]

theorem endsNumber_cons {c : Char} {rest : List Char}
    (ends : isIntegerMark c = false ∧ c ≠ '.' ∧ c ≠ 'e') : EndsNumber (c :: rest) := by
  simpa [EndsNumber] using ends

/-- Texts of one kind of character, each up to a character of another kind, are the same when what
they begin is. -/
theorem append_inj_of_marks {mark : Char → Bool} {first second left right : List Char}
    (all : ∀ c ∈ first, mark c = true) (every : ∀ c ∈ second, mark c = true)
    (left_ends : ∀ c ∈ left.head?, mark c = false)
    (right_ends : ∀ c ∈ right.head?, mark c = false)
    (same : first ++ left = second ++ right) : first = second ∧ left = right := by
  induction first generalizing second with
  | nil =>
      cases second with
      | nil => exact ⟨rfl, same⟩
      | cons d second =>
          rw [List.nil_append] at same
          have marked := every d List.mem_cons_self
          rw [left_ends d (by simp [same])] at marked
          cases marked
  | cons c first ih =>
      cases second with
      | nil =>
          rw [List.nil_append] at same
          have marked := all c List.mem_cons_self
          rw [right_ends c (by simp [← same])] at marked
          cases marked
      | cons d second =>
          injection same with head tail
          obtain ⟨rfl, rest⟩ := ih (fun x member => all x (List.mem_cons_of_mem _ member))
            (fun x member => every x (List.mem_cons_of_mem _ member)) tail
          exact ⟨by rw [head], rest⟩

namespace Text

theorem eq_of_decimal_eq {m n : Nat} (same : decimal m = decimal n) : m = n := by
  have read := congrArg (Nat.ofDigitChars 10 · 0) same
  simpa only [decimal, Nat.ofDigitChars_ten_toDigits] using read

theorem isIntegerMark_of_mem_decimalInt {i : Int} {c : Char} (member : c ∈ decimalInt i) :
    isIntegerMark c = true := by
  unfold decimalInt at member
  split at member
  · rcases List.mem_cons.mp member with rfl | digit
    · rfl
    · simp [isIntegerMark, ← isDigit_eq, isDigit_of_mem_decimal digit]
  · simp [isIntegerMark, ← isDigit_eq, isDigit_of_mem_decimal member]

theorem exists_decimalInt_eq_cons (i : Int) :
    ∃ c rest, decimalInt i = c :: rest ∧ isIntegerMark c = true := by
  have some : decimalInt i ≠ [] := by
    unfold decimalInt
    split
    · exact List.cons_ne_nil _ _
    · exact Nat.toDigits_ne_nil
  obtain ⟨c, rest, same⟩ := List.exists_cons_of_ne_nil some
  exact ⟨c, rest, same, isIntegerMark_of_mem_decimalInt (same ▸ List.mem_cons_self)⟩

theorem eq_of_decimalInt_eq {i j : Int} (same : decimalInt i = decimalInt j) : i = j := by
  have unsigned : ∀ n m : Nat, '-' :: decimal n ≠ decimal m := by
    intro n m signed
    have digit := isDigit_of_mem_decimal (signed ▸ List.mem_cons_self : '-' ∈ decimal m)
    exact absurd digit (by decide)
  unfold decimalInt at same
  split at same <;> split at same
  · injection same with _ digits
    have := eq_of_decimal_eq digits
    omega
  · exact absurd same (unsigned _ _)
  · exact absurd same.symm (unsigned _ _)
  · have := eq_of_decimal_eq same
    omega

end Text

/-- The text of a double has a point or an `e` in it, and only what an integer could begin with
before that. -/
def IsBroken (text : List Char) : Prop :=
  ∃ whole mark rest, text = whole ++ mark :: rest ∧ (∀ c ∈ whole, isIntegerMark c = true) ∧
    (mark = '.' ∨ mark = 'e')

theorem IsBroken.cons_sign {text : List Char} (broken : IsBroken text) :
    IsBroken ('-' :: text) := by
  obtain ⟨whole, mark, rest, rfl, integral, breaks⟩ := broken
  refine ⟨'-' :: whole, mark, rest, rfl, ?_, breaks⟩
  rintro c (_ | ⟨_, member⟩)
  · rfl
  · exact integral c member

section Digits

variable {digits : List Char} (all : ∀ c ∈ digits, isIntegerMark c = true)

include all

theorem isBroken_positional (power : Int) : IsBroken (positional digits power) := by
  unfold positional
  split
  · refine ⟨digits ++ List.replicate power.toNat '0', '.', ['0'], by simp, ?_, Or.inl rfl⟩
    intro c member
    rcases List.mem_append.mp member with digit | zero
    · exact all c digit
    · rw [List.eq_of_mem_replicate zero]
      rfl
  · simp only
    split
    · exact ⟨_, '.', _, rfl, fun c member => all c (List.mem_of_mem_take member), Or.inl rfl⟩
    · refine ⟨['0'], '.', _, rfl, ?_, Or.inl rfl⟩
      intro c member
      rw [List.mem_singleton.mp member]
      rfl

theorem isBroken_scientific (leading : Int) : IsBroken (scientific digits leading) := by
  unfold scientific
  match digits with
  | first :: second :: rest =>
      refine ⟨[first], '.', _, rfl, ?_, Or.inl rfl⟩
      intro c member
      exact all c (List.mem_singleton.mp member ▸ List.mem_cons_self)
  | [] => exact ⟨[], 'e', _, rfl, all, Or.inr rfl⟩
  | [only] => exact ⟨[only], 'e', _, rfl, all, Or.inr rfl⟩

end Digits

theorem isBroken_text (x : Binary64) : IsBroken x.text := by
  have signed : ∀ text, IsBroken text →
      IsBroken ((if x.negative then ['-'] else []) ++ text) := by
    intro text broken
    cases x.negative with
    | false => exact broken
    | true => exact broken.cons_sign
  have kept : ∀ n, ∀ c ∈ (withoutTrailingZeros (Text.decimal n)).1, isIntegerMark c = true := by
    intro n c member
    have dropped := List.dropWhile_sublist (l := (Text.decimal n).reverse) (· == '0')
    have digit := List.mem_reverse.mp (dropped.subset (List.mem_reverse.mp member))
    simp [isIntegerMark, ← Text.isDigit_eq, Text.isDigit_of_mem_decimal digit]
  unfold Binary64.text
  simp only
  split
  · exact signed _ ⟨['0'], '.', ['0'], rfl, List.forall_mem_singleton.mpr rfl, Or.inl rfl⟩
  · split
    · exact signed _ (isBroken_positional (kept _) _)
    · exact signed _ (isBroken_scientific (kept _) _)

namespace Json

/-! ## Where a string ends -/

/-- The characters that are escaped in a string. -/
def escapes : List Char :=
  (List.range 0x20).map Char.ofNat ++ ['"', '\\']

theorem head?_escapedChar : ∀ c ∈ escapes, (escapedChar c).head? = some '\\' := by
  have all : escapes.all (fun c => (escapedChar c).head? == some '\\') = true := by
    decide +kernel
  simpa only [List.all_eq_true, beq_iff_eq] using all

theorem eq_of_escapedChar_begins :
    ∀ c ∈ escapes, ∀ d ∈ escapes, escapedChar c <+: escapedChar d → c = d := by
  have all : escapes.all (fun c => escapes.all fun d =>
      !(escapedChar c).isPrefixOf (escapedChar d) || c == d) = true := by
    decide +kernel
  intro c member d also begins
  have pair := List.all_eq_true.mp (List.all_eq_true.mp all c member) d also
  rw [List.isPrefixOf_iff_prefix.mpr begins] at pair
  simpa using pair

/-- A character is escaped or stands for itself. -/
theorem escapedChar_cases (c : Char) :
    (c ∈ escapes ∧ ∃ rest, escapedChar c = '\\' :: rest) ∨
      (escapedChar c = [c] ∧ c ≠ '"' ∧ c ≠ '\\') := by
  by_cases special : c ∈ escapes
  · exact Or.inl ⟨special, List.head?_eq_some_iff.mp (head?_escapedChar c special)⟩
  have printing : ¬ c.toNat < 0x20 := by
    intro control
    refine special (List.mem_append_left _ (List.mem_map.mpr ⟨c.toNat, ?_, Char.ofNat_toNat c⟩))
    exact List.mem_range.mpr control
  have other : ∀ d ∈ escapes, c ≠ d := by
    rintro d member rfl
    exact special member
  refine Or.inr ⟨?_, other _ (by decide +kernel), other _ (by decide +kernel)⟩
  unfold escapedChar
  split
  case h_8 => rw [if_neg printing]
  all_goals exact absurd rfl (other _ (by decide +kernel))

/-- What stands for a character in a string tells which one it is. -/
theorem escapedChar_append_inj {c d : Char} {left right : List Char}
    (same : escapedChar c ++ left = escapedChar d ++ right) : c = d ∧ left = right := by
  have equal : c = d := by
    rcases escapedChar_cases c with ⟨escaped, rest, text⟩ | ⟨itself, -, plain⟩ <;>
      rcases escapedChar_cases d with ⟨also, more, spelt⟩ | ⟨alone, -, bare⟩
    · rcases List.prefix_or_prefix_of_prefix (List.prefix_append _ left)
        (same ▸ List.prefix_append _ right) with shorter | longer
      · exact eq_of_escapedChar_begins c escaped d also shorter
      · exact (eq_of_escapedChar_begins d also c escaped longer).symm
    · rw [text, alone] at same
      injection same with head
      exact absurd head.symm bare
    · rw [itself, spelt] at same
      injection same with head
      exact absurd head plain
    · rw [itself, alone] at same
      injection same
  subst equal
  exact ⟨rfl, List.append_cancel_left same⟩

/-- What stands for a character in a string cannot be taken for the quote at its end. -/
theorem escapedChar_append_ne (c : Char) (left right : List Char) :
    escapedChar c ++ left ≠ '"' :: right := by
  intro same
  rcases escapedChar_cases c with ⟨-, rest, text⟩ | ⟨itself, quote, -⟩
  · rw [text] at same
    injection same with head
    exact absurd head (by decide)
  · rw [itself] at same
    injection same with head
    exact quote head

theorem stringText_append_inj {s t : String} {left right : List Char}
    (same : stringText s ++ left = stringText t ++ right) : s = t ∧ left = right := by
  have chars : ∀ cs ds : List Char,
      cs.flatMap escapedChar ++ '"' :: left = ds.flatMap escapedChar ++ '"' :: right →
        cs = ds ∧ left = right := by
    intro cs
    induction cs with
    | nil =>
        intro ds same
        cases ds with
        | nil =>
            injection same with _ rest
            exact ⟨rfl, rest⟩
        | cons d ds =>
            rw [List.flatMap_cons, List.append_assoc] at same
            exact absurd same.symm (escapedChar_append_ne _ _ _)
    | cons c cs ih =>
        intro ds same
        rw [List.flatMap_cons, List.append_assoc] at same
        cases ds with
        | nil => exact absurd same (escapedChar_append_ne _ _ _)
        | cons d ds =>
            rw [List.flatMap_cons, List.append_assoc] at same
            obtain ⟨rfl, rest⟩ := escapedChar_append_inj same
            obtain ⟨rfl, after⟩ := ih ds rest
            exact ⟨rfl, after⟩
  have inside := same
  simp only [stringText, List.cons_append, List.append_assoc, List.nil_append,
    List.cons.injEq, true_and] at inside
  obtain ⟨equal, rest⟩ := chars _ _ inside
  exact ⟨String.toList_inj.mp equal, rest⟩

/-! ## Where a list or an object ends -/

/-- Texts joined by commas, as the first one and the others behind their commas. -/
theorem intercalate_comma_cons (text : List Char) (texts : List (List Char)) :
    List.intercalate [','] (text :: texts) = text ++ texts.flatMap (',' :: ·) := by
  induction texts generalizing text with
  | nil => simp [List.intercalate]
  | cons next texts ih =>
      rw [List.intercalate_cons_cons, ih]
      simp

section Enclosed

variable {α : Type} {write : α → List Char} {close : Char} {xs ys : List α}
  {left right : List Char}

/-- Each entry can be told from what stands behind it. -/
def Separable (write : α → List Char) (xs : List α) : Prop :=
  ∀ x ∈ xs, ∀ y left right, EndsNumber left → EndsNumber right →
    write x ++ left = write y ++ right → x = y ∧ left = right

theorem endsNumber_behind (ends : EndsNumber (close :: left)) :
    EndsNumber ((xs.map write).flatMap (',' :: ·) ++ close :: left) := by
  cases xs with
  | nil => exact ends
  | cons x xs => exact endsNumber_cons (by decide)

/-- Entries behind commas can be told from what stands behind them all. -/
theorem behind_inj (separable : Separable write xs) (apart : close ≠ ',')
    (ends : ∀ rest, EndsNumber (close :: rest))
    (same : (xs.map write).flatMap (',' :: ·) ++ close :: left =
      (ys.map write).flatMap (',' :: ·) ++ close :: right) : xs = ys ∧ left = right := by
  induction xs generalizing ys with
  | nil =>
      cases ys with
      | nil =>
          injection same with _ rest
          exact ⟨rfl, rest⟩
      | cons y ys =>
          injection same with head
          exact absurd head apart
  | cons x xs ih =>
      cases ys with
      | nil =>
          injection same with head
          exact absurd head.symm apart
      | cons y ys =>
          simp only [List.map_cons, List.flatMap_cons, List.cons_append, List.append_assoc,
            List.cons.injEq, true_and] at same
          obtain ⟨rfl, rest⟩ := separable x List.mem_cons_self y _ _
            (endsNumber_behind (ends _)) (endsNumber_behind (ends _)) same
          obtain ⟨rfl, after⟩ :=
            ih (fun z member => separable z (List.mem_cons_of_mem _ member)) rest
          exact ⟨rfl, after⟩

/-- Entries with commas between them can be told from what stands behind the mark that closes
them. -/
theorem enclosed_inj (separable : Separable write xs) (apart : close ≠ ',')
    (ends : ∀ rest, EndsNumber (close :: rest))
    (starts : ∀ x rest tail, write x ++ rest ≠ close :: tail)
    (same : List.intercalate [','] (xs.map write) ++ close :: left =
      List.intercalate [','] (ys.map write) ++ close :: right) : xs = ys ∧ left = right := by
  cases xs with
  | nil =>
      cases ys with
      | nil =>
          injection same with _ rest
          exact ⟨rfl, rest⟩
      | cons y ys =>
          rw [List.map_cons, intercalate_comma_cons, List.append_assoc] at same
          exact absurd same.symm (starts _ _ _)
  | cons x xs =>
      rw [List.map_cons, intercalate_comma_cons, List.append_assoc] at same
      cases ys with
      | nil => exact absurd same (starts _ _ _)
      | cons y ys =>
          rw [List.map_cons, intercalate_comma_cons, List.append_assoc] at same
          obtain ⟨rfl, rest⟩ := separable x List.mem_cons_self y _ _
            (endsNumber_behind (ends _)) (endsNumber_behind (ends _)) same
          obtain ⟨rfl, after⟩ := behind_inj
            (fun z member => separable z (List.mem_cons_of_mem _ member)) apart ends rest
          exact ⟨rfl, after⟩

end Enclosed

/-! ## Where a value ends -/

/-- Induction on a value by way of its items and the values of its members. -/
@[elab_as_elim]
theorem byParts {motive : Json → Prop} (null : motive .null) (bool : ∀ b, motive (.bool b))
    (number : ∀ n, motive (.number n)) (string : ∀ s, motive (.string s))
    (array : ∀ items, (∀ item ∈ items, motive item) → motive (.array items))
    (object : ∀ members, (∀ member ∈ members, motive member.2) → motive (.object members))
    (value : Json) : motive value := by
  refine @Json.rec motive (fun items => ∀ item ∈ items, motive item)
    (fun members => ∀ member ∈ members, motive member.2) (fun member => motive member.2)
    null bool number string array object ?_ ?_ ?_ ?_ ?_ value
  · simp
  · exact fun item items first others => List.forall_mem_cons.mpr ⟨first, others⟩
  · simp
  · exact fun member members first others => List.forall_mem_cons.mpr ⟨first, others⟩
  · exact fun _ _ holds => holds

mutual

/-- A value without a double in it. -/
def isExact : Json → Bool
  | .null | .bool _ | .string _ | .number (.integer _) => true
  | .number (.real _) => false
  | .array items => areExact items
  | .object members => areExactMembers members

/-- Items without a double in them. -/
def areExact : List Json → Bool
  | [] => true
  | item :: rest => item.isExact && areExact rest

/-- Members without a double in them. -/
def areExactMembers : List (String × Json) → Bool
  | [] => true
  | (_, value) :: rest => value.isExact && areExactMembers rest

end

theorem areExact_iff {items : List Json} :
    areExact items = true ↔ ∀ item ∈ items, item.isExact = true := by
  induction items with
  | nil => simp [areExact]
  | cons item items ih => simp [areExact, ih]

theorem areExactMembers_iff {members : List (String × Json)} :
    areExactMembers members = true ↔ ∀ member ∈ members, member.2.isExact = true := by
  induction members with
  | nil => simp [areExactMembers]
  | cons member members ih => simp [areExactMembers, ih]

/-- The text of a member. -/
def memberText (member : String × Json) : List Char :=
  stringText member.1 ++ ':' :: member.2.text

theorem itemTexts_eq_map (items : List Json) : itemTexts items = items.map text := by
  induction items with
  | nil => rfl
  | cons item items ih => rw [itemTexts, ih, List.map_cons]

theorem memberTexts_eq_map (members : List (String × Json)) :
    memberTexts members = members.map memberText := by
  induction members with
  | nil => rfl
  | cons member members ih => rw [memberTexts, ih, List.map_cons, memberText]

/-- The kind of value that a text with a first character stands for. -/
def kindOpened? (c : Char) : Option String :=
  if c = 'n' then some "null"
  else if c = 't' ∨ c = 'f' then some "boolean"
  else if c = '"' then some "string"
  else if c = '[' then some "array"
  else if c = '\x7b' then some "object"
  else if isIntegerMark c ∨ c = '.' ∨ c = 'e' then some "number"
  else none

theorem kindOpened?_of_isIntegerMark {c : Char} (mark : isIntegerMark c = true) :
    kindOpened? c = some "number" := by
  have other : ∀ d, isIntegerMark d = false → c ≠ d := by
    rintro d unmarked rfl
    rw [mark] at unmarked
    cases unmarked
  simp [kindOpened?, mark, other _ (rfl : isIntegerMark 'n' = false),
    other _ (rfl : isIntegerMark 't' = false), other _ (rfl : isIntegerMark 'f' = false),
    other _ (rfl : isIntegerMark '"' = false), other _ (rfl : isIntegerMark '[' = false),
    other _ (rfl : isIntegerMark '\x7b' = false)]

/-- The first character of a text tells the kind of the value. -/
theorem exists_text_eq_cons (value : Json) :
    ∃ c rest, value.text = c :: rest ∧ kindOpened? c = some value.kindName := by
  cases value with
  | null => exact ⟨_, _, by rw [text], by decide⟩
  | bool b => cases b <;> exact ⟨_, _, by rw [text], by decide⟩
  | string s => exact ⟨_, _, by rw [text, stringText, List.cons_append], rfl⟩
  | array items => exact ⟨_, _, by rw [text, List.cons_append], rfl⟩
  | object members => exact ⟨_, _, by rw [text, List.cons_append], rfl⟩
  | number n =>
      rw [text]
      cases n with
      | integer i =>
          obtain ⟨c, rest, same, mark⟩ := Text.exists_decimalInt_eq_cons i
          exact ⟨c, rest, same, kindOpened?_of_isIntegerMark mark⟩
      | real x =>
          obtain ⟨whole, mark, rest, same, integral, breaks⟩ := isBroken_text x
          cases whole with
          | nil =>
              refine ⟨mark, rest, same, ?_⟩
              rcases breaks with rfl | rfl <;> rfl
          | cons c whole =>
              exact ⟨c, _, same, kindOpened?_of_isIntegerMark (integral c List.mem_cons_self)⟩

theorem kindName_eq_of_text_append {a b : Json} {left right : List Char}
    (same : a.text ++ left = b.text ++ right) : a.kindName = b.kindName := by
  obtain ⟨c, rest, opened, kind⟩ := a.exists_text_eq_cons
  obtain ⟨d, more, begun, other⟩ := b.exists_text_eq_cons
  rw [opened, begun] at same
  injection same with head
  subst head
  exact Option.some.inj (kind.symm.trans other)

theorem text_append_ne {close : Char} (none : kindOpened? close = none) (value : Json)
    (left right : List Char) : value.text ++ left ≠ close :: right := by
  intro same
  obtain ⟨c, rest, opened, kind⟩ := value.exists_text_eq_cons
  rw [opened] at same
  injection same with head
  rw [head, none] at kind
  cases kind

theorem number_text_append_inj {i : Int} {n : Number} {left right : List Char}
    (left_ends : EndsNumber left) (right_ends : EndsNumber right)
    (same : Text.decimalInt i ++ left = n.text ++ right) : .integer i = n ∧ left = right := by
  have left_apart := fun c member => (left_ends c member).1
  have integral := fun c => Text.isIntegerMark_of_mem_decimalInt (i := i) (c := c)
  cases n with
  | integer j =>
      obtain ⟨equal, rest⟩ := append_inj_of_marks integral
        (fun c => Text.isIntegerMark_of_mem_decimalInt) left_apart
        (fun c member => (right_ends c member).1) same
      exact ⟨congrArg _ (Text.eq_of_decimalInt_eq equal), rest⟩
  -- The point or the `e` of a double would have to follow the integer.
  | real x =>
      obtain ⟨whole, mark, tail, broken, before, breaks⟩ := isBroken_text x
      rw [Number.text, broken, List.append_assoc] at same
      have unmarked : ∀ c ∈ (mark :: tail ++ right).head?, isIntegerMark c = false := by
        rcases breaks with rfl | rfl <;> simp [isIntegerMark]
      obtain ⟨-, rest⟩ := append_inj_of_marks integral before left_apart unmarked same
      have ends := left_ends mark (by simp [rest])
      rcases breaks with rfl | rfl
      · exact absurd rfl ends.2.1
      · exact absurd rfl ends.2.2

theorem memberText_append_ne {close : Char} (other : close ≠ '"') (member : String × Json)
    (left right : List Char) : memberText member ++ left ≠ close :: right := by
  intro same
  rw [memberText, stringText] at same
  injection same with head
  exact other head.symm

/-- The text of a value without a double can be told from what stands behind it, also where that
could be the text of any other value. -/
theorem text_append_inj {a b : Json} {left right : List Char} (exact : a.isExact = true)
    (left_ends : EndsNumber left) (right_ends : EndsNumber right)
    (same : a.text ++ left = b.text ++ right) : a = b ∧ left = right := by
  have kind := kindName_eq_of_text_append same
  induction a using byParts generalizing b left right with
  | null =>
      cases b with
      | null => simpa [text] using same
      | _ => simp [kindName] at kind
  | bool x =>
      cases b with
      | bool y => cases x <;> cases y <;> simp_all [text]
      | _ => simp [kindName] at kind
  | number n =>
      cases b with
      | number m =>
          cases n with
          | real x => simp [isExact] at exact
          | integer i =>
              rw [text, text] at same
              obtain ⟨rfl, rest⟩ := number_text_append_inj left_ends right_ends same
              exact ⟨rfl, rest⟩
      | _ => simp [kindName] at kind
  | string s =>
      cases b with
      | string t =>
          rw [text, text] at same
          obtain ⟨rfl, rest⟩ := stringText_append_inj same
          exact ⟨rfl, rest⟩
      | _ => simp [kindName] at kind
  | array items ih =>
      cases b with
      | array others =>
          rw [isExact, areExact_iff] at exact
          have separable : Separable text items := by
            intro item member other before behind before_ends behind_ends equal
            exact ih item member (exact item member) before_ends behind_ends equal
              (kindName_eq_of_text_append equal)
          simp only [text, itemTexts_eq_map, List.cons_append, List.append_assoc, List.nil_append,
            List.cons.injEq, true_and] at same
          obtain ⟨rfl, rest⟩ := enclosed_inj separable (by decide)
            (fun _ => endsNumber_cons (by decide)) (text_append_ne (by decide)) same
          exact ⟨rfl, rest⟩
      | _ => simp [kindName] at kind
  | object members ih =>
      cases b with
      | object others =>
          rw [isExact, areExactMembers_iff] at exact
          have separable : Separable memberText members := by
            rintro ⟨name, value⟩ member ⟨other, second⟩ before behind before_ends behind_ends equal
            simp only [memberText, List.append_assoc] at equal
            obtain ⟨rfl, colon⟩ := stringText_append_inj equal
            have values := (List.cons.inj colon).2
            obtain ⟨rfl, rest⟩ := ih _ member (exact _ member) before_ends behind_ends values
              (kindName_eq_of_text_append values)
            exact ⟨rfl, rest⟩
          simp only [text, memberTexts_eq_map, List.cons_append, List.append_assoc,
            List.nil_append, List.cons.injEq, true_and] at same
          obtain ⟨rfl, rest⟩ := enclosed_inj separable (by decide)
            (fun _ => endsNumber_cons (by decide)) (memberText_append_ne (by decide)) same
          exact ⟨rfl, rest⟩
      | _ => simp [kindName] at kind

/-- **A value without a double shares its text with no other value.** -/
theorem eq_of_render_eq {a b : Json} (exact : a.isExact = true) (same : a.render = b.render) :
    a = b := by
  have texts : a.text ++ [] = b.text ++ [] := by
    rw [List.append_nil, List.append_nil]
    exact String.ofList_inj.mp same
  exact (text_append_inj exact endsNumber_nil endsNumber_nil texts).1

end Json

end SuiteBridge
