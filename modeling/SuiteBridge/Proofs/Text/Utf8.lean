import SuiteBridge.Text.Utf8

/-!
# UTF-8 can be undone

The bytes of a character are one piece, whatever follows them (`pieces_utf8EncodeChar`), so that the
bytes of a text fall into its characters. Strict and lenient reading agree on them: both give the
text back (`decode?_encode`, `decodeLossy_encode`).
-/

namespace SuiteBridge.Text.Utf8

section Pieces

variable {lead : UInt8} {tail rest : List UInt8} {count low high n : Nat}

/-! ## Bytes of one character -/

theorem toNat_ofNat_of_lt (small : n < 256) : (UInt8.ofNat n).toNat = n := by
  rw [UInt8.toNat_ofNat', Nat.mod_eq_of_lt small]

/-- A byte of ASCII is a character by itself. -/
theorem pieces_ascii (ascii : n < 0x80) :
    pieces (UInt8.ofNat n :: rest) = .char (Char.ofNat n) :: pieces rest := by
  have value : (UInt8.ofNat n).toNat = n := toNat_ofNat_of_lt (by omega)
  have first : firstPiece (UInt8.ofNat n) rest = (.char (Char.ofNat n), 0) := by
    rw [firstPiece, value, if_pos ascii]
  rw [pieces, first, List.drop_zero]

/-- A leading byte with the whole of its continuation is one character. -/
theorem pieces_of_continuation (leads : following lead.toNat = some (count, low, high))
    (above : 0x80 ≤ lead.toNat) (whole : continuation count low high (tail ++ rest) = tail)
    (length : tail.length = count) :
    pieces (lead :: tail ++ rest) = .char (Char.ofNat (codePoint lead tail)) :: pieces rest := by
  have first : firstPiece lead (tail ++ rest) =
      (.char (Char.ofNat (codePoint lead tail)), count) := by
    rw [firstPiece, if_neg (Nat.not_lt.mpr above), leads]
    simp only [whole, length, if_true]
  rw [List.cons_append, pieces, first]
  simp only [← length, List.drop_left]

theorem continuation_nil : continuation 0 low high ([] ++ rest) = [] := by
  rw [continuation]

/-- The continuation takes a byte that is in range, and goes on behind it. -/
theorem continuation_cons {b : UInt8} (least : low ≤ b.toNat) (most : b.toNat ≤ high)
    (others : continuation count 0x80 0xBF (tail ++ rest) = tail) :
    continuation (count + 1) low high (b :: tail ++ rest) = b :: tail := by
  rw [List.cons_append, continuation, if_pos ⟨least, most⟩, others]

/-- Six bits of a code point in a byte of a continuation. -/
theorem toNat_sixBits : (UInt8.ofNat (n % 64 + 128)).toNat = n % 64 + 128 :=
  toNat_ofNat_of_lt (by omega)

theorem continuation_sixBits (others : continuation count 0x80 0xBF (tail ++ rest) = tail) :
    continuation (count + 1) 0x80 0xBF (UInt8.ofNat (n % 64 + 128) :: tail ++ rest) =
      UInt8.ofNat (n % 64 + 128) :: tail := by
  refine continuation_cons ?_ ?_ others
  · rw [toNat_sixBits]
    omega
  · rw [toNat_sixBits]
    omega

/-- The lead of three bytes allows what follows it, unless the code point is a surrogate. -/
theorem following_three (least : 0x800 ≤ n) (most : n ≤ 0xFFFF)
    (real : n < 0xD800 ∨ 0xDFFF < n) :
    ∃ low high, following (n / 4096 % 16 + 224) = some (2, low, high) ∧
      low ≤ n / 64 % 64 + 128 ∧ n / 64 % 64 + 128 ≤ high := by
  unfold following
  rw [if_neg (by omega)]
  by_cases short : n / 4096 % 16 + 224 = 0xE0
  · refine ⟨0xA0, 0xBF, if_pos short, ?_, ?_⟩ <;> omega
  · rw [if_neg short]
    by_cases near : n / 4096 % 16 + 224 = 0xED
    · refine ⟨0x80, 0x9F, if_pos near, ?_, ?_⟩ <;> omega
    · rw [if_neg near]
      refine ⟨0x80, 0xBF, if_pos ?_, ?_, ?_⟩ <;> omega

/-- The lead of four bytes allows what follows it. -/
theorem following_four (least : 0x10000 ≤ n) (most : n < 0x110000) :
    ∃ low high, following (n / 262144 % 8 + 240) = some (3, low, high) ∧
      low ≤ n / 4096 % 64 + 128 ∧ n / 4096 % 64 + 128 ≤ high := by
  unfold following
  rw [if_neg (by omega), if_neg (by omega), if_neg (by omega), if_neg (by omega)]
  by_cases short : n / 262144 % 8 + 240 = 0xF0
  · refine ⟨0x90, 0xBF, if_pos short, ?_, ?_⟩ <;> omega
  · rw [if_neg short]
    by_cases inner : 0xF1 ≤ n / 262144 % 8 + 240 ∧ n / 262144 % 8 + 240 ≤ 0xF3
    · refine ⟨0x80, 0xBF, if_pos inner, ?_, ?_⟩ <;> omega
    · rw [if_neg inner]
      refine ⟨0x80, 0x8F, if_pos ?_, ?_, ?_⟩ <;> omega

/-- The bytes of a character are one piece, which is the character. -/
theorem pieces_utf8EncodeChar (c : Char) (rest : List UInt8) :
    pieces (String.utf8EncodeChar c ++ rest) = .char c :: pieces rest := by
  have real : c.val.toNat < 0xD800 ∨ 0xDFFF < c.val.toNat ∧ c.val.toNat < 0x110000 := c.valid
  have same : Char.ofNat c.val.toNat = c := Char.ofNat_toNat c
  generalize written : c.val.toNat = n at real same
  rw [String.utf8EncodeChar, written]
  by_cases one : n ≤ 0x7F
  · rw [if_pos one, List.singleton_append, pieces_ascii (by omega), same]
  rw [if_neg one]
  by_cases two : n ≤ 0x7FF
  · have lead : (UInt8.ofNat (n / 64 % 32 + 192)).toNat = n / 64 % 32 + 192 :=
      toNat_ofNat_of_lt (by omega)
    have leads : following (n / 64 % 32 + 192) = some (1, 0x80, 0xBF) := if_pos (by omega)
    have point : codePoint (UInt8.ofNat (n / 64 % 32 + 192)) [UInt8.ofNat (n % 64 + 128)] = n := by
      simp only [codePoint, List.length_cons, List.length_nil, List.foldl_cons, List.foldl_nil,
        lead, toNat_sixBits]
      omega
    rw [if_pos two, pieces_of_continuation (by rw [lead, leads]) (by omega)
      (continuation_sixBits continuation_nil) rfl, point, same]
  rw [if_neg two]
  by_cases three : n ≤ 0xFFFF
  · have lead : (UInt8.ofNat (n / 4096 % 16 + 224)).toNat = n / 4096 % 16 + 224 :=
      toNat_ofNat_of_lt (by omega)
    obtain ⟨low, high, leads, least, most⟩ :=
      following_three (by omega) three (real.imp_right And.left)
    have point : codePoint (UInt8.ofNat (n / 4096 % 16 + 224))
        [UInt8.ofNat (n / 64 % 64 + 128), UInt8.ofNat (n % 64 + 128)] = n := by
      simp only [codePoint, List.length_cons, List.length_nil, List.foldl_cons, List.foldl_nil,
        lead, toNat_sixBits]
      omega
    have whole : continuation 2 low high
        ([UInt8.ofNat (n / 64 % 64 + 128), UInt8.ofNat (n % 64 + 128)] ++ rest) =
          [UInt8.ofNat (n / 64 % 64 + 128), UInt8.ofNat (n % 64 + 128)] :=
      continuation_cons (by rwa [toNat_sixBits]) (by rwa [toNat_sixBits])
        (continuation_sixBits continuation_nil)
    rw [if_pos three, pieces_of_continuation (by rw [lead, leads]) (by omega) whole rfl, point,
      same]
  · have lead : (UInt8.ofNat (n / 262144 % 8 + 240)).toNat = n / 262144 % 8 + 240 :=
      toNat_ofNat_of_lt (by omega)
    obtain ⟨low, high, leads, least, most⟩ := following_four (n := n) (by omega) (by omega)
    have point : codePoint (UInt8.ofNat (n / 262144 % 8 + 240))
        [UInt8.ofNat (n / 4096 % 64 + 128), UInt8.ofNat (n / 64 % 64 + 128),
          UInt8.ofNat (n % 64 + 128)] = n := by
      simp only [codePoint, List.length_cons, List.length_nil, List.foldl_cons, List.foldl_nil,
        lead, toNat_sixBits]
      omega
    have whole : continuation 3 low high
        ([UInt8.ofNat (n / 4096 % 64 + 128), UInt8.ofNat (n / 64 % 64 + 128),
          UInt8.ofNat (n % 64 + 128)] ++ rest) =
          [UInt8.ofNat (n / 4096 % 64 + 128), UInt8.ofNat (n / 64 % 64 + 128),
            UInt8.ofNat (n % 64 + 128)] :=
      continuation_cons (by rwa [toNat_sixBits]) (by rwa [toNat_sixBits])
        (continuation_sixBits (continuation_sixBits continuation_nil))
    rw [if_neg three, pieces_of_continuation (by rw [lead, leads]) (by omega) whole rfl, point,
      same]

end Pieces

/-! ## Texts -/

/-- The bytes of a text fall into its characters. -/
theorem pieces_encode (cs : List Char) : pieces (encode cs) = cs.map .char := by
  induction cs with
  | nil =>
      rw [encode, List.flatMap_nil, pieces]
      rfl
  | cons c cs ih =>
      rw [encode, List.flatMap_cons, pieces_utf8EncodeChar, List.map_cons]
      rw [encode] at ih
      rw [ih]

/-- **What is encoded is UTF-8 and can be read back.** -/
theorem decode?_encode (cs : List Char) : decode? (encode cs) = some (String.ofList cs) := by
  rw [decode?, pieces_encode]
  induction cs with
  | nil => rfl
  | cons c cs ih =>
      rw [Option.map_eq_some_iff] at ih ⊢
      obtain ⟨read, taken, same⟩ := ih
      exact ⟨c :: read, by simp [taken], by rw [String.ofList_inj.mp same]⟩

/-- A text is known by its bytes. -/
theorem encode_inj {first second : List Char} (same : encode first = encode second) :
    first = second := by
  have back := congrArg decode? same
  rw [decode?_encode, decode?_encode] at back
  exact String.ofList_inj.mp (Option.some.inj back)

/-- Nothing of a text is replaced when its bytes are read leniently. -/
theorem decodeLossy_encode (cs : List Char) : decodeLossy (encode cs) = String.ofList cs := by
  rw [decodeLossy, pieces_encode, List.map_map]
  exact congrArg String.ofList (List.map_id' cs)

end SuiteBridge.Text.Utf8
