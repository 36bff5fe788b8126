import SuiteBridge.Text.Blank
import SuiteBridge.Url.Address
import SuiteBridge.Url.Basic
import SuiteBridge.Url.Domain

/-!
# Reading web addresses

A text is read as an address by its scheme. Addresses of the web are kept; those of other schemes
are checked as far as they can be wrong and then turned down for their scheme.
-/

namespace SuiteBridge.Url

/-- How the rest of an address is read, by its scheme. -/
inductive SchemeKind where
  /-- The scheme has hosts, backslashes count as slashes, and there is a default port. -/
  | hosted (defaultPort : Nat)
  | file
  | other
  deriving DecidableEq, Repr

/-- The kind of a scheme. -/
def schemeKind (scheme : String) : SchemeKind :=
  if scheme = "http" ∨ scheme = "ws" then .hosted 80
  else if scheme = "https" ∨ scheme = "wss" then .hosted 443
  else if scheme = "ftp" then .hosted 21
  else if scheme = "file" then .file
  else .other

/-- Whether backslashes count as slashes. -/
def SchemeKind.isSpecial : SchemeKind → Bool
  | .other => false
  | _ => true

/-- A slash, or a backslash where that counts as one. -/
def SchemeKind.isSlash (kind : SchemeKind) (c : Char) : Bool :=
  c == '/' || (kind.isSpecial && c == '\\')

/-- The characters that end the part of an address with the host. -/
def SchemeKind.endsAuthority (kind : SchemeKind) (c : Char) : Bool :=
  kind.isSlash c || c == '?' || c == '#'

/-- A character that may stand in a scheme after its first letter. -/
def isSchemeChar (c : Char) : Bool :=
  c.isAlphanum || c == '+' || c == '-' || c == '.'

/-- The scheme of an address, in lower case, and what follows its colon. -/
def splitScheme? (cs : List Char) : Option (String × List Char) :=
  match cs with
  | [] => none
  | first :: _ =>
    if first.isAlpha then
      match cs.dropWhile isSchemeChar with
      | ':' :: rest => some (String.ofList ((cs.takeWhile isSchemeChar).map Char.toLower), rest)
      | _ => none
    else none

/-- A control of the first block or a space. -/
def isEdge (c : Char) : Bool :=
  c.toNat ≤ 0x20

/-- The characters of an address that count: no controls or spaces around it, no tabs or line ends
inside it. -/
def relevant (cs : List Char) : List Char :=
  ((cs.dropWhile isEdge).reverse.dropWhile isEdge).reverse.filter fun c => !isDropped c

/-! ## User information -/

/-- A user name and password in the form in which they are written. -/
structure UserInfo where
  username : String
  password : Option String

/-- User information in the form in which it is written. -/
def encodeUserInfo (cs : List Char) : String :=
  String.ofList (Text.Percent.encode Text.Percent.inUserInfo cs)

/-- The parts of user information: a name, and a password after the first colon if that is not
empty. -/
def userInfoOf (cs : List Char) : UserInfo :=
  match Text.cutAt? ':' cs with
  | none => ⟨encodeUserInfo cs, none⟩
  | some (name, []) => ⟨encodeUserInfo name, none⟩
  | some (name, password) => ⟨encodeUserInfo name, some (encodeUserInfo password)⟩

/-- What stands before and after the last of a character. -/
def cutAtLast? (mark : Char) (cs : List Char) : Option (List Char × List Char) :=
  match Text.cutAt? mark cs.reverse with
  | none => none
  | some (after, before) => some (before.reverse, after.reverse)

/-- The user information at the start of an authority, up to its last `@`, and the rest. -/
def splitUserInfo (authority : List Char) : UserInfo × List Char :=
  match cutAtLast? '@' authority with
  | none => (⟨"", none⟩, authority)
  | some (before, after) => (userInfoOf before, after)

/-! ## Hosts and ports -/

/-- A host and what follows it: a colon ends it except between brackets. -/
def splitHost (inBrackets : Bool) : List Char → List Char × List Char
  | [] => ([], [])
  | c :: rest =>
    if c = ':' ∧ !inBrackets then ([], c :: rest)
    else
      let inBrackets := if c = '[' then true else if c = ']' then false else inBrackets
      let (host, after) := splitHost inBrackets rest
      (c :: host, after)

/-- A version 6 address in brackets; the opening one has been read. -/
def bracketed (rest : List Char) : Except UrlProblem (List Char) :=
  if rest.getLast? = some ']' then ipv6 rest.dropLast else .error .ipv6

/-- The host of a scheme with hosts. -/
def namedHost (cs : List Char) : Except UrlProblem (List Char) :=
  match cs with
  | [] => .error .emptyHost
  | '[' :: rest => bracketed rest
  | _ =>
    match domainToAscii (Text.Percent.decode cs) with
    | .error problem => .error problem
    | .ok [] => .error .emptyHost
    | .ok domain => if endsInNumber domain then ipv4 domain else .ok domain

/-- The marks that no host of any scheme may have. -/
def hostMarks : List Char :=
  ['\x00', '\t', '\n', '\r', ' ', '#', '/', ':', '<', '>', '?', '@', '[', '\\', ']', '^', '|']

/-- The host of a scheme this library knows nothing about. -/
def opaqueHost (cs : List Char) : Except UrlProblem (List Char) :=
  match cs with
  | '[' :: rest => bracketed rest
  | _ => if cs.any hostMarks.contains then .error .hostCharacter else .ok cs

/-- The port after a host. The default port and an empty one count as none. -/
def portOf (defaultPort : Option Nat) : List Char → Except UrlProblem (Option Nat)
  | [] => .ok none
  | _ :: digits =>
    if digits = [] then .ok none
    else match (Text.readDigits? digits).filter (· < 65536) with
      | none => .error .port
      | some port => .ok (if some port = defaultPort then none else some port)

/-- The user information, host and port of an authority. -/
structure Authority where
  user : UserInfo
  host : List Char
  port : Option Nat

/-- The authority of an address, with how its host is read. -/
def authorityOf (host : List Char → Except UrlProblem (List Char)) (defaultPort : Option Nat)
    (cs : List Char) : Except UrlProblem Authority :=
  let (user, rest) := splitUserInfo cs
  let (hostText, portText) := splitHost false rest
  match host hostText with
  | .error problem => .error problem
  | .ok parsed =>
    match portOf defaultPort portText with
    | .error problem => .error problem
    | .ok port => .ok ⟨user, parsed, port⟩

/-! ## Paths -/

/-- A segment that stands for the one before it. -/
def isDoubleDot (segment : String) : Bool :=
  ["..", ".%2e", "%2e.", "%2e%2e"].contains (String.ofList (segment.toList.map Char.toLower))

/-- A segment that stands for itself. -/
def isSingleDot (segment : String) : Bool :=
  [".", "%2e"].contains (String.ofList (segment.toList.map Char.toLower))

/-- The path without its last segment, unless that is a drive. -/
def parent (path : List String) : List String :=
  match path.getLast? with
  | some last => if isDrive last then path else path.dropLast
  | none => []

/-- A path from its segments as given, with the dot segments worked in. -/
def resolve (path : List String) : List String → List String
  | [] => path
  | [last] =>
    if isDoubleDot last then parent path ++ [""]
    else if isSingleDot last then path ++ [""]
    else path ++ [last]
  | segment :: rest =>
    if isDoubleDot segment then resolve (parent path) rest
    else if isSingleDot segment then resolve path rest
    else resolve (path ++ [segment]) rest

/-- The pieces of a text between the characters of a kind; there is always at least one. -/
def splitWhere (mark : Char → Bool) : List Char → List (List Char)
  | [] => [[]]
  | c :: cs =>
    match splitWhere mark cs with
    | [] => [[c]]
    | first :: rest => if mark c then [] :: first :: rest else (c :: first) :: rest

/-- The path of an address with a host: what follows its first slash, if there is one. -/
def pathOf (kind : SchemeKind) (cs : List Char) : List String :=
  let cs := match cs with
    | c :: rest => if kind.isSlash c then rest else c :: rest
    | [] => []
  resolve [] ((splitWhere kind.isSlash cs).map fun segment =>
    String.ofList (Text.Percent.encode Text.Percent.inPath segment))

/-! ## Whole addresses -/

/-- The part before a character, and the part after it if it is there. -/
def splitOff (mark : Char) (cs : List Char) : List Char × Option (List Char) :=
  match Text.cutAt? mark cs with
  | none => (cs, none)
  | some (before, after) => (before, some after)

/-- The rest of an address with a host. -/
def hosted (scheme : String) (defaultPort : Nat) (cs : List Char) : Except UrlProblem Url :=
  let kind := SchemeKind.hosted defaultPort
  let cs := cs.dropWhile kind.isSlash
  let authority := cs.takeWhile fun c => !kind.endsAuthority c
  let (beforeFragment, fragment) := splitOff '#' (cs.dropWhile fun c => !kind.endsAuthority c)
  let (path, query) := splitOff '?' beforeFragment
  match authorityOf namedHost (some defaultPort) authority with
  | .error problem => .error problem
  | .ok found => .ok {
      scheme
      username := found.user.username
      password := found.user.password
      host := String.ofList found.host
      port := found.port
      path := pathOf kind path
      query := query.map fun q => String.ofList (Text.Percent.encode Text.Percent.inQuery q)
      fragment := fragment.map fun f =>
        String.ofList (Text.Percent.encode Text.Percent.inFragment f) }

/-- What is wrong with an address of a file, if anything. -/
def checkFile (cs : List Char) : Except UrlProblem Unit :=
  match cs with
  | a :: b :: rest =>
    if SchemeKind.file.isSlash a ∧ SchemeKind.file.isSlash b then
      let host := rest.takeWhile fun c => !SchemeKind.file.endsAuthority c
      if host = [] ∨ isDrive (String.ofList host) then .ok ()
      else (namedHost host).map fun _ => ()
    else .ok ()
  | _ => .ok ()

/-- What is wrong with an address of a scheme this library knows nothing about, if anything. There
may be no host, but then neither a port nor a user. A backslash ends the port. -/
def checkOther (cs : List Char) : Except UrlProblem Unit :=
  match cs with
  | '/' :: '/' :: rest =>
    let authority := rest.takeWhile fun c => !SchemeKind.other.endsAuthority c
    let (user, afterUser) := splitUserInfo authority
    let (hostText, portText) := splitHost false afterUser
    let named := user.username ≠ "" ∨ user.password.isSome
    if authority = ['@'] ∧ authority.length < rest.length then .error .emptyHost
    else match opaqueHost hostText with
      | .error problem => .error problem
      | .ok host =>
        if host = [] ∧ portText ≠ [] then .error .emptyHost
        else match portOf none (portText.takeWhile (· != '\\')) with
          | .error problem => .error problem
          | .ok _ => if host = [] ∧ named then .error .emptyHost else .ok ()
  | _ => .ok ()

/-- The web address that a text stands for. -/
def parse (raw : String) : Except UrlProblem Url :=
  match splitScheme? (relevant (Text.trimChars raw.toList)) with
  | none => .error .relative
  | some (scheme, rest) =>
    let turnedDown (check : Except UrlProblem Unit) : Except UrlProblem Url :=
      match check with
      | .error problem => .error problem
      | .ok () => .error (.scheme scheme)
    match schemeKind scheme with
    | .file => turnedDown (checkFile rest)
    | .other => turnedDown (checkOther rest)
    | .hosted defaultPort =>
      match hosted scheme defaultPort rest with
      | .error problem => .error problem
      | .ok url =>
        if scheme = "http" ∨ scheme = "https" then .ok url else .error (.scheme scheme)

end SuiteBridge.Url
