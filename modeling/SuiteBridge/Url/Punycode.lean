import SuiteBridge.Text.Numeral

/-!
# Punycode

A label with characters outside ASCII is written in ASCII: first its ASCII characters, then for each
other character, in ascending order, how far the decoder has to move on to insert it. The distances
are numbers of variable length in base 36 whose digit thresholds adapt to what has been seen.
-/

namespace SuiteBridge.Url.Punycode

/-- The digit of a number below thirty-six. -/
def digit (n : Nat) : Char :=
  if n < 26 then Char.ofNat (97 + n) else Char.ofNat (22 + n)

/-- The value of a digit, in either case. -/
def digitValue? (c : Char) : Option Nat :=
  if 'a' ≤ c ∧ c ≤ 'z' then some (c.toNat - 97)
  else if 'A' ≤ c ∧ c ≤ 'Z' then some (c.toNat - 65)
  else if '0' ≤ c ∧ c ≤ '9' then some (c.toNat - 22)
  else none

/-- The threshold of the digit at place `k` under a bias. -/
def threshold (k bias : Nat) : Nat :=
  if k ≤ bias then 1 else if bias + 26 ≤ k then 26 else k - bias

/-- A distance divided down until it is small, counting the divisions in steps of 36. -/
def settle (delta k : Nat) : Nat × Nat :=
  if 455 < delta then settle (delta / 35) (k + 36) else (delta, k)
termination_by delta
decreasing_by exact Nat.div_lt_self (by omega) (by omega)

/-- The bias after a distance. -/
def adapt (delta points : Nat) (first : Bool) : Nat :=
  let delta := if first then delta / 700 else delta / 2
  let (delta, k) := settle (delta + delta / points) 0
  k + 36 * delta / (delta + 38)

/-- The digits of a distance. -/
def distance (q k bias : Nat) : List Char :=
  let t := threshold k bias
  if h : t ≤ q ∧ 1 ≤ t ∧ t ≤ 26 then
    digit (t + (q - t) % (36 - t)) :: distance ((q - t) / (36 - t)) (k + 36) bias
  else [digit q]
termination_by q
decreasing_by
  have : (q - threshold k bias) / (36 - threshold k bias) ≤ q - threshold k bias :=
    Nat.div_le_self _ _
  omega

/-- Where the encoder stands. -/
structure Place where
  delta : Nat
  bias : Nat
  handled : Nat
  first : Bool

/-- One pass over the label for the code point `n`. -/
def pass (n : Nat) : List Nat → Place → List Char × Place
  | [], place => ([], place)
  | c :: cs, place =>
    if c < n then pass n cs { place with delta := place.delta + 1 }
    else if c = n then
      let digits := distance place.delta 36 place.bias
      let bias := adapt place.delta (place.handled + 1) place.first
      let (rest, place) := pass n cs ⟨0, bias, place.handled + 1, false⟩
      (digits ++ rest, place)
    else pass n cs place

/-- The passes for the given code points, in ascending order; `reached` is the one before. -/
def passes (label : List Nat) : (codes : List Nat) → (reached : Nat) → Place → List Char
  | [], _, _ => []
  | n :: codes, reached, place =>
    let place := { place with delta := place.delta + (n - reached) * (place.handled + 1) }
    let (digits, place) := pass n label place
    digits ++ passes label codes (n + 1) { place with delta := place.delta + 1 }

/-- The code points outside ASCII of a label, each once, in ascending order. -/
def codes (label : List Nat) : List Nat :=
  ((label.filter (0x80 ≤ ·)).mergeSort (· ≤ ·)).eraseDups

/-- A label in ASCII. -/
def encode (label : List Char) : List Char :=
  let basic := label.filter fun c => c.toNat < 0x80
  let points := label.map Char.toNat
  (if basic = [] then [] else basic ++ ['-'])
    ++ passes points (codes points) 0x80 ⟨0, 72, basic.length, true⟩

/-- Numbers in a label are below this one. -/
def numberLimit : Nat :=
  0x100000000

/-- A distance read from its digits: the distance and the digits after it. The weight of a digit has
to stay below the limit even when the digit is zero. -/
def readDistance (i w k bias : Nat) : List Char → Option (Nat × List Char)
  | [] => none
  | c :: cs => do
    let d ← digitValue? c
    let t := threshold k bias
    let i := i + d * w
    if numberLimit ≤ i then none
    else if d < t then some (i, cs)
    else if numberLimit ≤ w * (36 - t) then none
    else readDistance i (w * (36 - t)) (k + 36) bias cs

/-- The label with the characters that the digits insert. Each takes at least one digit. -/
def insertions : (fuel : Nat) → List Char → (n i bias : Nat) → List Char → Option (List Char)
  | _, [], _, _, _, out => some out
  | 0, _ :: _, _, _, _, _ => none
  | fuel + 1, cs, n, i, bias, out => do
    let (next, rest) ← readDistance i 1 36 bias cs
    let points := out.length + 1
    let bias := adapt (next - i) points (i == 0)
    let n := n + next / points
    let place := next % points
    if 0x110000 ≤ n ∨ (0xD800 ≤ n ∧ n < 0xE000) then none
    insertions fuel rest n (place + 1) bias (out.take place ++ Char.ofNat n :: out.drop place)

/-- The label that a text in ASCII stands for. The last hyphen ends the characters in ASCII; one
with nothing before it ends nothing, and is no digit. -/
def decode? (cs : List Char) : Option (List Char) :=
  let tail := (cs.reverse.takeWhile (· != '-')).reverse
  if cs.length ≤ tail.length + 1 then insertions cs.length cs 0x80 0 72 []
  else insertions tail.length tail 0x80 0 72 (cs.take (cs.length - tail.length - 1))

end SuiteBridge.Url.Punycode
