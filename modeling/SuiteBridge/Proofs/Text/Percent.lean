import SuiteBridge.Proofs.Text.Utf8
import SuiteBridge.Text.Percent

/-!
# Percent encoding can be undone

Whatever the plain characters of a place are, as long as the percent sign is none of them, an
encoded text stands for the bytes of the text it was made from (`decode_encode`). What the encoding
itself writes is a percent sign or a digit, so every other character of an encoded text was plain
and stood in the text (`mem_encode`).

A form is read by taking plus signs for spaces first, and gives back every text that was written in
it (`readForm_encodeForm`).
-/

namespace SuiteBridge.Text.Percent

/-- A character of ASCII is one byte. -/
theorem utf8EncodeChar_of_lt {c : Char} (ascii : c.toNat < 0x80) :
    String.utf8EncodeChar c = [UInt8.ofNat c.toNat] := by
  have small : c.utf8Size = 1 := by
    have most : c.val ≤ 0x7F := by
      rw [UInt32.le_iff_toNat_le]
      exact Nat.le_of_lt_succ ascii
    simp [Char.utf8Size, most]
  rw [String.utf8EncodeChar_eq_singleton small]
  rfl

/-- A byte other than the percent sign stands for itself. -/
theorem decodeBytes_cons {b : UInt8} (other : b.toNat ≠ 37) (rest : List UInt8) :
    decodeBytes (b :: rest) = b :: decodeBytes rest := by
  match rest with
  | [] => rfl
  | [_] => rfl
  | _ :: _ :: _ => rw [decodeBytes, beq_eq_false_iff_ne.mpr other]

/-! ## Digits -/

theorem toNat_digit_lt {n : Nat} (below : n < 16) : (digit n).toNat < 0x80 := by
  revert n
  decide

theorem digitValue?_digit {n : Nat} (below : n < 16) :
    digitValue? (UInt8.ofNat (digit n).toNat) = some n := by
  revert n
  decide

/-- An encoded byte stands for the byte. -/
theorem decodeBytes_encodeByte (b : UInt8) (rest : List UInt8) :
    decodeBytes (Utf8.encode (encodeByte b) ++ rest) = b :: decodeBytes rest := by
  have bounded : b.toNat < 256 := b.toNat_lt_size
  have high : b.toNat / 16 < 16 := by omega
  have low : b.toNat % 16 < 16 := by omega
  have bytes : Utf8.encode (encodeByte b) =
      [37, UInt8.ofNat (digit (b.toNat / 16)).toNat, UInt8.ofNat (digit (b.toNat % 16)).toNat] := by
    simp only [Utf8.encode, encodeByte, List.flatMap_cons, List.flatMap_nil,
      utf8EncodeChar_of_lt (toNat_digit_lt high), utf8EncodeChar_of_lt (toNat_digit_lt low)]
    rfl
  have whole : b.toNat / 16 * 16 + b.toNat % 16 = b.toNat := by omega
  have percent : ((37 : UInt8).toNat == 37) = true := rfl
  rw [bytes, List.cons_append, List.cons_append, List.cons_append, List.nil_append, decodeBytes,
    percent, digitValue?_digit high, digitValue?_digit low]
  simp only [whole, UInt8.ofNat_toNat]

theorem decodeBytes_encodeBytes (bytes rest : List UInt8) :
    decodeBytes (Utf8.encode (bytes.flatMap encodeByte) ++ rest) = bytes ++ decodeBytes rest := by
  induction bytes with
  | nil => rfl
  | cons b bytes ih =>
      have split : Utf8.encode ((b :: bytes).flatMap encodeByte) ++ rest =
          Utf8.encode (encodeByte b) ++ (Utf8.encode (bytes.flatMap encodeByte) ++ rest) := by
        simp [Utf8.encode]
      rw [split, decodeBytes_encodeByte, ih, List.cons_append]

/-! ## Texts -/

variable {plain : Char → Bool}

/-- An encoded character stands for its bytes. -/
theorem decodeBytes_encodeChar (percent : plain '%' = false) (c : Char) (rest : List UInt8) :
    decodeBytes (Utf8.encode (encodeChar plain c) ++ rest) =
      String.utf8EncodeChar c ++ decodeBytes rest := by
  unfold encodeChar
  split
  · rename_i itself
    rw [Bool.and_eq_true, decide_eq_true_eq] at itself
    have other : (UInt8.ofNat c.toNat).toNat ≠ 37 := by
      intro same
      rw [UInt8.toNat_ofNat', Nat.mod_eq_of_lt (by omega)] at same
      have mark : c = '%' := Char.toNat_inj.mp same
      rw [mark, percent] at itself
      exact absurd itself.2 Bool.false_ne_true
    simp only [Utf8.encode, List.flatMap_cons, List.flatMap_nil, List.append_nil,
      utf8EncodeChar_of_lt itself.1, List.cons_append, List.nil_append]
    exact decodeBytes_cons other rest
  · exact decodeBytes_encodeBytes _ rest

/-- **What is encoded can be read back.** -/
theorem decode_encode (percent : plain '%' = false) (cs : List Char) :
    decode (encode plain cs) = Utf8.encode cs := by
  unfold decode
  induction cs with
  | nil => rfl
  | cons c cs ih =>
      have split : Utf8.encode (encode plain (c :: cs)) =
          Utf8.encode (encodeChar plain c) ++ Utf8.encode (encode plain cs) := by
        simp [Utf8.encode, encode]
      rw [split, decodeBytes_encodeChar percent, ih]
      rfl

/-- The characters that an encoded byte is written with. -/
def marks : List Char :=
  '%' :: (List.range 16).map digit

theorem mem_marks_of_mem_encodeByte {b : UInt8} {c : Char} (member : c ∈ encodeByte b) :
    c ∈ marks := by
  have bounded : b.toNat < 256 := b.toNat_lt_size
  simp only [encodeByte, List.mem_cons, List.not_mem_nil, or_false] at member
  rcases member with rfl | rfl | rfl
  · exact List.mem_cons_self
  · exact List.mem_cons_of_mem _ (List.mem_map_of_mem (List.mem_range.mpr (by omega)))
  · exact List.mem_cons_of_mem _ (List.mem_map_of_mem (List.mem_range.mpr (by omega)))

/-- A character of an encoded text with which no byte is written was plain and in the text. -/
theorem mem_encode {c : Char} {cs : List Char} (member : c ∈ encode plain cs) (other : c ∉ marks) :
    c ∈ cs ∧ plain c = true := by
  obtain ⟨source, there, piece⟩ := List.mem_flatMap.mp member
  unfold encodeChar at piece
  split at piece
  · rename_i itself
    cases List.mem_singleton.mp piece
    exact ⟨there, (Bool.and_eq_true _ _ ▸ itself).2⟩
  · obtain ⟨b, -, written⟩ := List.mem_flatMap.mp piece
    exact absurd (mem_marks_of_mem_encodeByte written) other

/-! ## Forms -/

/-- A character of a form as it is read: a plus sign stands for a space. -/
def spaced (c : Char) : Char :=
  if c = '+' then ' ' else c

/-- The text that a text in a form stands for. Bytes that are no UTF-8 are replaced. -/
def readForm (cs : List Char) : String :=
  Utf8.decodeLossy (decode (cs.map spaced))

theorem spaced_of_mem_marks {c : Char} (member : c ∈ marks) : spaced c = c := by
  have all : marks.all (fun c => spaced c == c) = true := by decide
  exact eq_of_beq (List.all_eq_true.mp all c member)

/-- With its plus signs taken for spaces, a character in a form is percent encoded where spaces are
plain as well. -/
theorem map_spaced_encodeFormChar (c : Char) :
    (encodeFormChar c).map spaced = encodeChar (fun c => inForm c || c == ' ') c := by
  unfold encodeFormChar
  by_cases space : c = ' '
  · rw [if_pos space, space]
    decide
  · have same : encodeChar (fun c => inForm c || c == ' ') c = encodeChar inForm c := by
      simp [encodeChar, space]
    rw [if_neg space, same]
    refine (List.map_congr_left fun d member => ?_).trans (List.map_id _)
    unfold encodeChar at member
    split at member
    · rename_i itself
      rw [Bool.and_eq_true] at itself
      cases List.mem_singleton.mp member
      have other : c ≠ '+' := by
        rintro rfl
        exact absurd itself.2 (by decide)
      exact if_neg other
    · obtain ⟨b, -, written⟩ := List.mem_flatMap.mp member
      exact spaced_of_mem_marks (mem_marks_of_mem_encodeByte written)

/-- **What is written in a form can be read back.** -/
theorem readForm_encodeForm (cs : List Char) : readForm (encodeForm cs) = String.ofList cs := by
  have plain : (encodeForm cs).map spaced = encode (fun c => inForm c || c == ' ') cs := by
    rw [encodeForm, List.map_flatMap, encode]
    exact congrArg (cs.flatMap ·) (funext map_spaced_encodeFormChar)
  rw [readForm, plain, decode_encode (by decide), Utf8.decodeLossy_encode]

/-- A mark that is written for no character does not come in a form. -/
theorem not_mem_encodeForm {mark : Char} (refused : inForm mark = false) (other : mark ∉ marks)
    (noPlus : mark ≠ '+') (cs : List Char) : mark ∉ encodeForm cs := by
  intro member
  obtain ⟨c, -, written⟩ := List.mem_flatMap.mp member
  unfold encodeFormChar at written
  split at written
  · exact noPlus (List.mem_singleton.mp written)
  · have single : mark ∈ encode inForm [c] := by
      simpa [encode] using written
    have plain := (mem_encode single other).2
    rw [refused] at plain
    cases plain

end SuiteBridge.Text.Percent
