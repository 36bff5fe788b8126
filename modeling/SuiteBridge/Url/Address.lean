import SuiteBridge.Text.Numeral
import SuiteBridge.Text.Quoted
import SuiteBridge.Url.Problem

/-!
# Numeric hosts

Internet addresses of version 4, whose parts may be decimal, octal or hexadecimal and the last of
which may fill several places, and of version 6, where one run of zeros may be left out.
-/

namespace SuiteBridge.Url

/-- The value of a hexadecimal digit. -/
def hexValue? (c : Char) : Option Nat :=
  if '0' ≤ c ∧ c ≤ '9' then some (c.toNat - 48)
  else if 'a' ≤ c ∧ c ≤ 'f' then some (c.toNat - 87)
  else if 'A' ≤ c ∧ c ≤ 'F' then some (c.toNat - 55)
  else none

/-- The number that digits of a base stand for. -/
def digitsIn? (base : Nat) (cs : List Char) : Option Nat :=
  cs.foldlM
    (fun n c =>
      match hexValue? c with
      | some d => if d < base then some (n * base + d) else none
      | none => none)
    0

/-! ## Version 4 -/

/-- A part of a version 4 address: a leading `0x` makes it hexadecimal, a leading zero octal. -/
def ipv4Number? : List Char → Option Nat
  | [] => none
  | '0' :: 'x' :: rest => digitsIn? 16 rest
  | '0' :: 'X' :: rest => digitsIn? 16 rest
  | '0' :: d :: rest => digitsIn? 8 (d :: rest)
  | cs => digitsIn? 10 cs

/-- The parts of a host, without an empty last one. -/
def hostParts (host : List Char) : List (List Char) :=
  let parts := host.splitOn '.'
  if parts.getLast? = some [] ∧ 1 < parts.length then parts.dropLast else parts

/-- A host is a version 4 address when its last part is a number. -/
def endsInNumber (host : List Char) : Bool :=
  match (hostParts host).getLast? with
  | none => false
  | some last => (last ≠ [] && last.all Text.isDigit) || (ipv4Number? last).isSome

/-- The four bytes of an address. -/
def ipv4Text (address : Nat) : List Char :=
  Text.decimal (address / 0x1000000) ++ '.' :: Text.decimal (address / 0x10000 % 256)
    ++ '.' :: Text.decimal (address / 0x100 % 256) ++ '.' :: Text.decimal (address % 256)

/-- The leading bytes of an address, from the given place down. -/
def leadingBytes (place : Nat) : List Nat → Option Nat
  | [] => some 0
  | n :: ns => do
    if 255 < n then none
    return n * Nat.pow 256 place + (← leadingBytes (place - 1) ns)

/-- A version 4 address in its usual form. -/
def ipv4 (host : List Char) : Except UrlProblem (List Char) :=
  let address := do
    let numbers ← (hostParts host).mapM ipv4Number?
    if 4 < numbers.length then none
    let last ← numbers.getLast?
    if Nat.pow 256 (5 - numbers.length) ≤ last then none
    return (← leadingBytes 3 numbers.dropLast) + last
  match address with
  | some address => .ok (ipv4Text address)
  | none => .error .ipv4

/-! ## Version 6 -/

/-- A group of up to four hexadecimal digits. -/
def ipv6Group? (cs : List Char) : Option Nat :=
  if 1 ≤ cs.length ∧ cs.length ≤ 4 then digitsIn? 16 cs else none

/-- A byte in decimal, without leading zeros. -/
def ipv4Byte? (cs : List Char) : Option Nat :=
  match Text.readDigits? cs with
  | none => none
  | some n => if n ≤ 255 ∧ (cs.length = 1 ∨ cs.head? ≠ some '0') then some n else none

/-- A version 4 address at the end of a version 6 one, as two groups. -/
def embedded? (cs : List Char) : Option (List Nat) :=
  match (cs.splitOn '.').mapM ipv4Byte? with
  | some [a, b, c, d] => some [a * 256 + b, c * 256 + d]
  | _ => none

/-- The groups between colons; the last may be a version 4 address if that is allowed here. -/
def ipv6Groups? (atEnd : Bool) : List (List Char) → Option (List Nat)
  | [] => some []
  | [last] =>
    if atEnd ∧ last.contains '.' then embedded? last else (ipv6Group? last).map ([·])
  | group :: rest => do return (← ipv6Group? group) :: (← ipv6Groups? atEnd rest)

/-- The groups of a text between colons; none of an empty text. -/
def groupsOf? (atEnd : Bool) (cs : List Char) : Option (List Nat) :=
  if cs = [] then some [] else ipv6Groups? atEnd (cs.splitOn ':')

/-- What stands before and after the first double colon. -/
def cutDoubleColon : List Char → Option (List Char × List Char)
  | ':' :: ':' :: rest => some ([], rest)
  | c :: rest => (cutDoubleColon rest).map fun (before, after) => (c :: before, after)
  | [] => none

/-- The eight groups of a version 6 address. A double colon stands for one zero or more. -/
def ipv6Pieces? (cs : List Char) : Option (List Nat) :=
  match cutDoubleColon cs with
  | none => do
    let groups ← groupsOf? true cs
    if groups.length = 8 then some groups else none
  | some (before, after) => do
    let left ← groupsOf? false before
    let right ← groupsOf? true after
    if left.length + right.length ≤ 7 then
      some (left ++ List.replicate (8 - left.length - right.length) 0 ++ right)
    else none

/-- The length of the longest run of zeros. -/
def longestZeros (groups : List Nat) : Nat :=
  let (longest, running) := groups.foldl
    (fun (longest, running) g => if g = 0 then (max longest (running + 1), running + 1)
      else (longest, 0)) (0, 0)
  max longest running

/-- Groups in hexadecimal with colons between them. -/
def groupsText (groups : List Nat) : List Char :=
  List.intercalate [':'] (groups.map Text.hexadecimal)

/-- The groups before the first run of `length` zeros, and those after it. -/
def aroundZeros (length : Nat) : List Nat → List Nat × List Nat
  | [] => ([], [])
  | g :: rest =>
    if (g :: rest).take length = List.replicate length 0 then ([], (g :: rest).drop length)
    else
      let (before, after) := aroundZeros length rest
      (g :: before, after)

/-- A version 6 address in its usual form: the first of the longest runs of zeros is left out. -/
def ipv6Text (groups : List Nat) : List Char :=
  let length := longestZeros groups
  if length < 2 then groupsText groups
  else
    let (before, after) := aroundZeros length groups
    groupsText before ++ ':' :: ':' :: groupsText after

/-- A version 6 address between brackets. -/
def ipv6 (cs : List Char) : Except UrlProblem (List Char) :=
  match ipv6Pieces? cs with
  | some groups => .ok ('[' :: ipv6Text groups ++ [']'])
  | none => .error .ipv6

end SuiteBridge.Url
