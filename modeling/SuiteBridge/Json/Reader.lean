import SuiteBridge.Json.Scanner

/-!
# Reading JSON values

Readers for lists and objects in general, the reader of any JSON value, and the walk over a value
that nobody asked for. A value that is kept may be nested up to a depth given in advance; a value
that is walked over may be nested as deep as it likes, and its numbers and characters are not looked
at closely.
-/

namespace SuiteBridge.Json

open Text (Piece)

/-! ## Lists and objects -/

/-- Whether another item of a list follows. The closing bracket is left unread. -/
def moreItems (first : Bool) : Reader Bool := fun input =>
  match skipBlanks input with
  | [] => failHere (.endOfText .list) []
  | .char ']' :: rest => .ok (false, .char ']' :: rest)
  | next :: rest =>
    if first then .ok (true, next :: rest)
    else if next = .char ',' then
      match skipBlanks rest with
      | [] => failHere (.endOfText .value) []
      | .char ']' :: after => failAtNext .trailingComma (.char ']' :: after)
      | other => .ok (true, other)
    else failAtNext .expectedListCommaOrEnd (next :: rest)

/-- The items of a list and its closing bracket. Each item is at least one piece long, so `fuel`
need not exceed the number of pieces by more than one. -/
def itemsUpTo {α : Type u} (item : Reader α) : (fuel : Nat) → (first : Bool) → Reader (List α)
  | 0, _, input => failHere (.endOfText .list) input
  | fuel + 1, first, input =>
    match moreItems first input with
    | .error failure => .error failure
    | .ok (false, input) => .ok ([], input.drop 1)
    | .ok (true, input) =>
      match item input with
      | .error failure => .error failure
      | .ok (x, input) => (itemsUpTo item fuel false input).map fun (xs, input) => (x :: xs, input)

/-- The items of a list whose opening bracket has been read. -/
def itemsOf {α : Type u} (item : Reader α) : Reader (List α) := fun input =>
  itemsUpTo item (input.length + 1) true input

/-- The end of a list all of whose wanted items have been read. -/
def endOfList : Reader Unit := fun input =>
  match skipBlanks input with
  | [] => failHere (.endOfText .list) []
  | .char ']' :: rest => .ok ((), rest)
  | .char ',' :: rest =>
    match skipBlanks rest with
    | .char ']' :: after => failAtNext .trailingComma (.char ']' :: after)
    | other => failAtNext .trailingCharacters other
  | other => failAtNext .trailingCharacters other

/-- The name of an object's next member, its opening quote being next. -/
def memberName : Reader (Option String)
  | [] => failHere (.endOfText .value) []
  | .char '"' :: rest => (stringTail rest).map fun (name, rest) => (some name, rest)
  | .char '\x7d' :: rest => failAtNext .trailingComma (.char '\x7d' :: rest)
  | other => failAtNext .keyMustBeString other

/-- The name of an object's next member, if another follows. The closing brace is left unread. -/
def nextName? (first : Bool) : Reader (Option String) := fun input =>
  match skipBlanks input with
  | [] => failHere (.endOfText .object) []
  | .char '\x7d' :: rest => .ok (none, .char '\x7d' :: rest)
  | next :: rest =>
    if first then memberName (next :: rest)
    else if next = .char ',' then memberName (skipBlanks rest)
    else failAtNext .expectedObjectCommaOrEnd (next :: rest)

/-- The colon between a member's name and its value. -/
def colon : Reader Unit := fun input =>
  match skipBlanks input with
  | [] => failHere (.endOfText .object) []
  | .char ':' :: rest => .ok ((), rest)
  | other => failAtNext .expectedColon other

/-- The members of an object and its closing brace. `member name state` reads what follows a name
and takes it into the state. -/
def membersUpTo {σ : Type u} (member : String → σ → Reader σ) :
    (fuel : Nat) → (first : Bool) → σ → Reader σ
  | 0, _, _, input => failHere (.endOfText .object) input
  | fuel + 1, first, state, input =>
    match nextName? first input with
    | .error failure => .error failure
    | .ok (none, input) => .ok (state, input.drop 1)
    | .ok (some name, input) =>
      match member name state input with
      | .error failure => .error failure
      | .ok (state, input) => membersUpTo member fuel false state input

/-- The members of an object whose opening brace has been read. -/
def membersOf {σ : Type u} (member : String → σ → Reader σ) (start : σ) : Reader σ := fun input =>
  membersUpTo member (input.length + 1) true start input

/-- A value after a colon. -/
def afterColon {α : Type u} (value : Reader α) : Reader α := fun input =>
  match colon input with
  | .error failure => .error failure
  | .ok ((), input) => value input

/-! ## Values -/

/-- Any JSON value with at most `depth` lists and objects around its parts. -/
def anyValue : (depth : Nat) → Reader Json
  | depth, input =>
    match skipBlanks input with
    | [] => failHere (.endOfText .value) []
    | .char 'n' :: rest => (word ['u', 'l', 'l'] rest).map fun ((), rest) => (.null, rest)
    | .char 't' :: rest => (word ['r', 'u', 'e'] rest).map fun ((), rest) => (.bool true, rest)
    | .char 'f' :: rest =>
      (word ['a', 'l', 's', 'e'] rest).map fun ((), rest) => (.bool false, rest)
    | .char '"' :: rest => (stringTail rest).map fun (s, rest) => (.string s, rest)
    | .char '-' :: rest => (numberRest true rest).map fun (n, rest) => (.number n, rest)
    | .char '[' :: rest =>
      match depth with
      | 0 => failAtNext .tooDeep (.char '[' :: rest)
      | depth + 1 =>
        (itemsOf (anyValue depth) rest).map fun (items, rest) => (.array items, rest)
    | .char '\x7b' :: rest =>
      match depth with
      | 0 => failAtNext .tooDeep (.char '\x7b' :: rest)
      | depth + 1 =>
        (membersOf
          (fun name members input =>
            (afterColon (anyValue depth) input).map fun (value, rest) =>
              (Members.insert name value members, rest))
          [] rest).map fun (members, rest) => (.object members, rest)
    | .char c :: rest =>
      if Text.isDigit c then
        (numberRest false (.char c :: rest)).map fun (n, rest) => (.number n, rest)
      else failAtNext .expectedValue (.char c :: rest)
    | other => failAtNext .expectedValue other

/-- What the next value is, read as far as that tells it: scalars whole, lists and objects not at
all. -/
def sightingOf : Reader Sighting
  | .char 'n' :: rest => (word ['u', 'l', 'l'] rest).map fun ((), rest) => (.null, rest)
  | .char 't' :: rest => (word ['r', 'u', 'e'] rest).map fun ((), rest) => (.bool true, rest)
  | .char 'f' :: rest => (word ['a', 'l', 's', 'e'] rest).map fun ((), rest) => (.bool false, rest)
  | .char '"' :: rest => (stringTail rest).map fun (s, rest) => (.string s, rest)
  | .char '-' :: rest => (numberRest true rest).map fun (n, rest) => (.number n, rest)
  | .char '[' :: rest => .ok (.sequence, .char '[' :: rest)
  | .char '\x7b' :: rest => .ok (.map, .char '\x7b' :: rest)
  | .char c :: rest =>
    if Text.isDigit c then
      (numberRest false (.char c :: rest)).map fun (n, rest) => (.number n, rest)
    else failAtNext .expectedValue (.char c :: rest)
  | other => failAtNext .expectedValue other

/-! ## Values nobody asked for -/

/-- Walks over the rest of a string. -/
def passString : Reader Unit
  | [] => failHere (.endOfText .string) []
  | .char '"' :: rest => .ok ((), rest)
  | .char '\\' :: [] => failHere (.endOfText .string) []
  | .char '\\' :: .char 'u' :: a :: b :: c :: d :: rest =>
    match hexUnit? a b c d with
    | none => badHex (a :: b :: c :: d :: rest)
    | some _ => passString rest
  | .char '\\' :: .char 'u' :: short => badHex short
  | .char '\\' :: .char c :: rest =>
    match shortEscape? c with
    | some _ => passString rest
    | none => failAtNext .invalidEscape (.char c :: rest)
  | .char '\\' :: .fragment bytes :: rest => failAtNext .invalidEscape (.fragment bytes :: rest)
  | .char c :: rest =>
    if c.toNat < 0x20 then failHere .controlCharacter (.char c :: rest) else passString rest
  | .fragment _ :: rest => passString rest

/-- Walks over one or more digits. -/
def passDigits : Reader Unit := fun input =>
  match spanDigits input with
  | ([], other) => failAtNext .invalidNumber other
  | (_ :: _, rest) => .ok ((), rest)

/-- Walks over an exponent whose letter has been read. -/
def passExponent : Reader Unit
  | .char '+' :: rest => passDigits rest
  | .char '-' :: rest => passDigits rest
  | other => passDigits other

/-- Walks over an exponent, if there is one. -/
def passExponent? : Reader Unit
  | .char 'e' :: rest => passExponent rest
  | .char 'E' :: rest => passExponent rest
  | rest => .ok ((), rest)

/-- Walks over a number whose sign has been read. -/
def passNumber : Reader Unit := fun input =>
  match spanDigits input with
  | ([], other) => failAtNext .invalidNumber other
  | ('0' :: _ :: _, _) => failAtNext .invalidNumber (input.drop 1)
  | (_, .char '.' :: rest) =>
    match passDigits rest with
    | .error failure => .error failure
    | .ok ((), rest) => passExponent? rest
  | (_, rest) => passExponent? rest

/-- What encloses a value that is walked over. -/
inductive Enclosure where
  | list
  | object
  deriving DecidableEq, Repr

/-- Walks over a member's name and the colon after it. -/
def passName : Reader Unit := fun input =>
  match skipBlanks input with
  | [] => failHere (.endOfText .object) []
  | .char '"' :: rest =>
    match passString rest with
    | .error failure => .error failure
    | .ok ((), rest) => colon rest
  | other => failAtNext .keyMustBeString other

mutual

/-- Walks over a value inside the given enclosures, innermost first, and over everything up to the
end of the outermost. Each step takes at least one piece. -/
def passValue : (fuel : Nat) → List Enclosure → Reader Unit
  | 0, _, input => failHere (.endOfText .value) input
  | fuel + 1, around, input =>
    let scalar (read : Except Failure (Unit × List Piece)) : Except Failure (Unit × List Piece) :=
      match read with
      | .error failure => .error failure
      | .ok ((), rest) => passRest fuel around rest
    match skipBlanks input with
    | [] => failHere (.endOfText .value) []
    | .char 'n' :: rest => scalar (word ['u', 'l', 'l'] rest)
    | .char 't' :: rest => scalar (word ['r', 'u', 'e'] rest)
    | .char 'f' :: rest => scalar (word ['a', 'l', 's', 'e'] rest)
    | .char '"' :: rest => scalar (passString rest)
    | .char '-' :: rest => scalar (passNumber rest)
    | .char '[' :: rest =>
      match skipBlanks rest with
      | [] => failHere (.endOfText .list) []
      | .char ']' :: after => passRest fuel around after
      | other => passValue fuel (.list :: around) other
    | .char '\x7b' :: rest =>
      match skipBlanks rest with
      | [] => failHere (.endOfText .object) []
      | .char '\x7d' :: after => passRest fuel around after
      | other =>
        match passName other with
        | .error failure => .error failure
        | .ok ((), rest) => passValue fuel (.object :: around) rest
    | .char c :: rest =>
      if Text.isDigit c then scalar (passNumber (.char c :: rest))
      else failAtNext .expectedValue (.char c :: rest)
    | other => failAtNext .expectedValue other

/-- Walks over what follows a value inside the given enclosures. -/
def passRest : (fuel : Nat) → List Enclosure → Reader Unit
  | _, [], input => .ok ((), input)
  | 0, _ :: _, input => failHere (.endOfText .value) input
  | fuel + 1, .list :: around, input =>
    match skipBlanks input with
    | [] => failHere (.endOfText .list) []
    | .char ',' :: rest => passValue fuel (.list :: around) rest
    | .char ']' :: rest => passRest fuel around rest
    | other => failAtNext .expectedListCommaOrEnd other
  | fuel + 1, .object :: around, input =>
    match skipBlanks input with
    | [] => failHere (.endOfText .object) []
    | .char ',' :: rest =>
      match passName rest with
      | .error failure => .error failure
      | .ok ((), rest) => passValue fuel (.object :: around) rest
    | .char '\x7d' :: rest => passRest fuel around rest
    | other => failAtNext .expectedObjectCommaOrEnd other

end

/-- Walks over one value. -/
def passOver : Reader Unit := fun input =>
  passValue (input.length + 1) [] input

/-! ## Whole texts -/

/-- How deep the lists and objects of a text may be nested. -/
def greatestDepth : Nat := 127

/-- A reader for a whole text: after the value there may be nothing but blanks. -/
def wholly {α : Type u} (read : Reader α) (input : List Piece) : Except Failure α :=
  match read input with
  | .error failure => .error failure
  | .ok (a, rest) =>
    match skipBlanks rest with
    | [] => .ok a
    | other => failAtNext .trailingCharacters other

/-- The value of a whole JSON text. -/
def ofPieces (input : List Piece) : Except Failure Json :=
  wholly (anyValue greatestDepth) input

/-- The line and the column of a place in a text: lines count from one, columns are bytes. -/
structure Position where
  line : Nat
  column : Nat
  deriving DecidableEq, Repr

/-- The position with `unread` bytes after it. -/
def positionOf (input : List Piece) (unread : Nat) : Position :=
  let seen := (input.flatMap Piece.bytes).take (byteCount input - unread)
  ⟨1 + seen.count 10, (seen.reverse.takeWhile (· != 10)).length⟩

/-- The wording of a failure, with the position it is about. -/
def Failure.messageIn (input : List Piece) (failure : Failure) : String :=
  let position := positionOf input failure.unread
  failure.cause.message ++ " at line " ++ String.ofList (Text.decimal position.line)
    ++ " column " ++ String.ofList (Text.decimal position.column)

/-- The pieces of a text. -/
def piecesOf (text : String) : List Piece :=
  text.toList.map .char

/-- The value of a JSON text, or the message about what is wrong with it. -/
def parse (text : String) : Except String Json :=
  match ofPieces (piecesOf text) with
  | .ok value => .ok value
  | .error failure => .error (failure.messageIn (piecesOf text))

end SuiteBridge.Json
