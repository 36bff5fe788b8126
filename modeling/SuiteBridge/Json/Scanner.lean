import SuiteBridge.Json.Cause
import SuiteBridge.Text.Utf8

/-!
# Reading JSON text piece by piece

A reader takes the unread part of a text and gives a value with what is left, or a failure with its
cause and the number of bytes still unread at the point it is about. The text is a row of UTF-8
pieces, so that bytes outside every character can be met where they stand. This module has what
every reader is made of: blanks, words, strings and numbers.
-/

namespace SuiteBridge.Json

open Text (Piece)

/-- A refusal of a text: why, and how many bytes come after the place it is about. -/
structure Failure where
  cause : Cause
  unread : Nat
  deriving DecidableEq, Repr

/-- A reader of values of type `α`. -/
abbrev Reader (α : Type u) := List Piece → Except Failure (α × List Piece)

/-- How many bytes a row of pieces has. -/
def byteCount : List Piece → Nat
  | [] => 0
  | piece :: rest => piece.width + byteCount rest

/-- Refuses at the place reached. -/
def failHere {α : Type u} (cause : Cause) (input : List Piece) : Except Failure α :=
  .error ⟨cause, byteCount input⟩

/-- Refuses because of the next byte, if there is one. -/
def failAtNext {α : Type u} (cause : Cause) (input : List Piece) : Except Failure α :=
  .error ⟨cause, byteCount input - 1⟩

/-- The characters that may stand between two marks of a JSON text. -/
def isBlankPiece : Piece → Bool
  | .char c => c == ' ' || c == '\n' || c == '\t' || c == '\r'
  | .fragment _ => false

/-- The input after its leading blanks. -/
def skipBlanks (input : List Piece) : List Piece :=
  input.dropWhile isBlankPiece

/-- A digit at the start of the input. -/
def startsWithDigit : List Piece → Bool
  | .char c :: _ => Text.isDigit c
  | _ => false

/-- The decimal digits at the start of the input, and what follows them. -/
def spanDigits : List Piece → List Char × List Piece
  | [] => ([], [])
  | .char c :: rest =>
    if Text.isDigit c then
      let (digits, after) := spanDigits rest
      (c :: digits, after)
    else ([], .char c :: rest)
  | .fragment bytes :: rest => ([], .fragment bytes :: rest)

/-- Reads the given characters, the rest of a word whose first letter has been seen. -/
def word : List Char → Reader Unit
  | [], input => .ok ((), input)
  | _ :: _, [] => failHere (.endOfText .value) []
  | expected :: more, piece :: rest =>
    if piece = .char expected then word more rest
    else failAtNext .expectedIdentifier (piece :: rest)

/-! ## Strings -/

/-- The value of a hexadecimal digit. -/
def hexValue? : Piece → Option Nat
  | .char c =>
    if '0' ≤ c ∧ c ≤ '9' then some (c.toNat - 48)
    else if 'a' ≤ c ∧ c ≤ 'f' then some (c.toNat - 87)
    else if 'A' ≤ c ∧ c ≤ 'F' then some (c.toNat - 55)
    else none
  | .fragment _ => none

/-- The number that four hexadecimal digits stand for. -/
def hexUnit? (a b c d : Piece) : Option Nat := do
  return (((← hexValue? a) * 16 + (← hexValue? b)) * 16 + (← hexValue? c)) * 16 + (← hexValue? d)

/-- The refusal of what stands in place of four hexadecimal digits. -/
def badHex {α : Type u} (input : List Piece) : Except Failure α :=
  if byteCount input < 4 then .error ⟨.endOfText .string, 0⟩
  else .error ⟨.invalidEscape, byteCount input - 4⟩

/-- The character of a one-letter escape. -/
def shortEscape? : Char → Option Char
  | '"' => some '"'
  | '\\' => some '\\'
  | '/' => some '/'
  | 'b' => some '\x08'
  | 'f' => some '\x0c'
  | 'n' => some '\n'
  | 'r' => some '\r'
  | 't' => some '\t'
  | _ => none

/-- A unit that starts a surrogate pair. -/
def isLead (unit : Nat) : Bool :=
  0xD800 ≤ unit && unit ≤ 0xDBFF

/-- A unit that ends a surrogate pair. -/
def isTrail (unit : Nat) : Bool :=
  0xDC00 ≤ unit && unit ≤ 0xDFFF

/-- The character of a surrogate pair. -/
def pairChar (lead trail : Nat) : Char :=
  Char.ofNat ((lead - 0xD800) * 0x400 + (trail - 0xDC00) + 0x10000)

/-- A character put in front of what a reader gave. -/
def consChar (c : Char) (read : Except Failure (List Char × List Piece)) :
    Except Failure (List Char × List Piece) :=
  read.map fun (cs, rest) => (c :: cs, rest)

/-- The characters of a string up to its closing quote; the opening quote has been read. Bytes that
are no character are met at the closing quote only, so `clean` tells whether there were none. -/
def stringRest (clean : Bool) : Reader (List Char)
  | [] => failHere (.endOfText .string) []
  | .char '"' :: rest => if clean then .ok ([], rest) else failHere .invalidCodePoint rest
  | .char '\\' :: [] => failHere (.endOfText .string) []
  | .char '\\' :: .char 'u' :: a :: b :: c :: d :: rest =>
    match hexUnit? a b c d with
    | none => badHex (a :: b :: c :: d :: rest)
    | some unit =>
      if isTrail unit then failHere .loneSurrogate rest
      else if isLead unit then
        match rest with
        | [] => failHere (.endOfText .string) []
        | .char '\\' :: [] => failHere (.endOfText .string) []
        | .char '\\' :: .char 'u' :: e :: f :: g :: h :: after =>
          match hexUnit? e f g h with
          | none => badHex (e :: f :: g :: h :: after)
          | some trail =>
            if isTrail trail then consChar (pairChar unit trail) (stringRest clean after)
            else failHere .loneSurrogate after
        | .char '\\' :: .char 'u' :: short => badHex short
        | .char '\\' :: other => failAtNext .unfinishedHexEscape other
        | other => failAtNext .unfinishedHexEscape other
      else consChar (Char.ofNat unit) (stringRest clean rest)
  | .char '\\' :: .char 'u' :: short => badHex short
  | .char '\\' :: .char c :: rest =>
    match shortEscape? c with
    | some e => consChar e (stringRest clean rest)
    | none => failAtNext .invalidEscape (.char c :: rest)
  | .char '\\' :: .fragment bytes :: rest => failAtNext .invalidEscape (.fragment bytes :: rest)
  | .char c :: rest =>
    if c.toNat < 0x20 then failHere .controlCharacter rest
    else consChar c (stringRest clean rest)
  | .fragment _ :: rest => stringRest false rest

/-- A string whose opening quote has been read. -/
def stringTail : Reader String := fun input =>
  (stringRest true input).map fun (cs, rest) => (String.ofList cs, rest)

/-! ## Numbers -/

/-- The greatest significand that is kept while digits come in. -/
def greatestSignificand : Nat := 0xFFFFFFFFFFFFFFFF

/-- The greatest power of ten that is kept while digits come in. -/
def greatestPower : Nat := 0x7FFFFFFF

/-- Digits appended to a significand for as long as it stays in bounds; also how many were left
over. -/
def appendDigits (significand : Nat) : List Char → Nat × Nat
  | [] => (significand, 0)
  | d :: ds =>
    let next := significand * 10 + Text.digitValue d
    if greatestSignificand < next then (significand, ds.length + 1)
    else appendDigits next ds

/-- The double for a significand and a power of ten. -/
def realOf (negative : Bool) (significand : Nat) (power : Int) : Reader Number := fun rest =>
  match Binary64.ofDecimal? significand power with
  | some x => .ok (.real (x.withSign negative), rest)
  | none => failHere .numberOutOfRange rest

/-- The shortest row of leading digits whose number is beyond the greatest power. -/
def tooManyDigits? (value : Nat) : (digits : List Char) → Option Nat
  | [] => none
  | d :: ds =>
    let next := value * 10 + Text.digitValue d
    if greatestPower < next then some (ds.length) else tooManyDigits? next ds

/-- The exponent of a number; the letter before it has been read. -/
def exponentRest (negative : Bool) (significand : Nat) (power : Int) : Reader Number := fun input =>
  let (down, input) := match input with
    | .char '+' :: rest => (false, rest)
    | .char '-' :: rest => (true, rest)
    | other => (false, other)
  match spanDigits input with
  | ([], []) => failHere (.endOfText .value) []
  | ([], other) => failAtNext .invalidNumber other
  | (digits, rest) =>
    match tooManyDigits? 0 digits with
    | some left =>
      if significand ≠ 0 ∧ !down then .error ⟨.numberOutOfRange, left + byteCount rest⟩
      else .ok (.real (Binary64.zero negative), rest)
    | none =>
      let steps : Int := Text.digitsValue digits
      realOf negative significand (if down then power - steps else power + steps) rest

/-- What may follow the digits of a number: an exponent or nothing. -/
def afterFraction (negative : Bool) (significand : Nat) (power : Int) : Reader Number
  | .char 'e' :: rest => exponentRest negative significand power rest
  | .char 'E' :: rest => exponentRest negative significand power rest
  | rest => realOf negative significand power rest

/-- The fraction of a number; the point before it has been read. -/
def fractionRest (negative : Bool) (significand : Nat) (power : Int) : Reader Number := fun input =>
  match spanDigits input with
  | ([], []) => failHere (.endOfText .value) []
  | ([], other) => failAtNext .invalidNumber other
  | (digits, rest) =>
    let (significand, left) := appendDigits significand digits
    afterFraction negative significand (power - (digits.length - left : Nat)) rest

/-- A whole number: an integer if it fits 64 bits, with `-0` a double. -/
def wholeNumber (negative : Bool) (significand : Nat) : Number :=
  if negative then
    if 1 ≤ significand ∧ significand ≤ 0x8000000000000000 then .integer (-significand)
    else match Binary64.ofDecimal? significand 0 with
      | some x => .real (x.withSign true)
      | none => .real (Binary64.zero true)
  else .integer significand

/-- What may follow the whole part of a number: a fraction, an exponent or nothing. -/
def afterWhole (negative : Bool) (significand : Nat) (left : Nat) : Reader Number
  | .char '.' :: rest => fractionRest negative significand left rest
  | .char 'e' :: rest => exponentRest negative significand left rest
  | .char 'E' :: rest => exponentRest negative significand left rest
  | rest =>
    if left = 0 then .ok (wholeNumber negative significand, rest)
    else realOf negative significand left rest

/-- A number whose sign has been read. -/
def numberRest (negative : Bool) : Reader Number := fun input =>
  match spanDigits input with
  | ([], []) => failHere (.endOfText .value) []
  | ([], other) => failAtNext .invalidNumber other
  | ('0' :: _ :: _, _) => failAtNext .invalidNumber (input.drop 1)
  | (digits, rest) =>
    let (significand, left) := appendDigits 0 digits
    afterWhole negative significand left rest

end SuiteBridge.Json
