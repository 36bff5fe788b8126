import SuiteBridge.Text.Numeral
import SuiteBridge.Text.Percent
import SuiteBridge.Text.Separated

/-!
# Web addresses

The address of a web service in its parts, each already in the form in which it is written. The path
is a row of segments with a slash before each; the path `/` is one empty segment. `Url.push` appends
a segment to a path so that nothing in it can be taken for a slash, a query or a fragment.
-/

namespace SuiteBridge

/-- A web address. -/
structure Url where
  scheme : String
  username : String
  password : Option String
  host : String
  port : Option Nat
  /-- The segments of the path; there is at least one. -/
  path : List String
  query : Option String
  fragment : Option String
  deriving DecidableEq, Repr

namespace Url

/-- The user name and password of an address with the mark after them. -/
def userInfoText (url : Url) : String :=
  match url.password with
  | some password => url.username ++ ":" ++ password ++ "@"
  | none => if url.username = "" then "" else url.username ++ "@"

/-- The path of an address. -/
def pathText (path : List String) : String :=
  String.join (path.map fun segment => "/" ++ segment)

/-- An address as it is written. -/
def text (url : Url) : String :=
  url.scheme ++ "://" ++ url.userInfoText ++ url.host
    ++ (match url.port with
      | some port => ":" ++ String.ofList (Text.decimal port)
      | none => "")
    ++ pathText url.path
    ++ (match url.query with
      | some query => "?" ++ query
      | none => "")
    ++ (match url.fragment with
      | some fragment => "#" ++ fragment
      | none => "")

/-! ## Paths -/

/-- The path of an address that names nothing below the service itself. -/
def rootPath : List String :=
  [""]

/-- Characters that are dropped wherever they stand in an address. -/
def isDropped (c : Char) : Bool :=
  c == '\t' || c == '\n' || c == '\r'

/-- A segment that stands for a drive: a letter and a colon or bar. -/
def isDrive (segment : String) : Bool :=
  match segment.toList with
  | [letter, mark] => letter.isAlpha && (mark == ':' || mark == '|')
  | _ => false

/-- The path without an empty last segment, unless it is the root. -/
def openPath (path : List String) : List String :=
  if path ≠ rootPath ∧ path.getLast? = some "" then path.dropLast else path

/-- The path with one more segment; the root is filled. -/
def append (path : List String) (segment : String) : List String :=
  if path = rootPath then [segment] else path ++ [segment]

/-- The path with its last segment emptied; a drive is left standing before an empty segment. -/
def shorten (path : List String) : List String :=
  if path = rootPath then rootPath
  else match path.getLast? with
    | some last => if isDrive last then path ++ [""] else path.dropLast ++ [""]
    | none => rootPath

/-- The path with a segment given by a caller at its end. A segment of one or two dots is no segment
at all, and one that becomes so when the dropped characters are out acts on the path instead. -/
def push (path : List String) (segment : String) : List String :=
  if segment = "." ∨ segment = ".." then path
  else
    let kept := segment.toList.filter fun c => !isDropped c
    if kept = ['.', '.'] then shorten path
    else if kept = ['.'] then append path ""
    else append path (String.ofList (Text.Percent.encode Text.Percent.inSegment kept))

/-- The path with some segments at its end, after an empty last segment is taken off. -/
def extend (path : List String) (segments : List String) : List String :=
  segments.foldl push (openPath path)

/-- The address of something below the service at an address. -/
def endpoint (base : Url) (segments : List String) : Url :=
  { base with path := extend base.path segments }

/-! ## Queries -/

/-- A name and its value in a query. -/
def pairText (pair : String × String) : List Char :=
  Text.Percent.encodeForm pair.1.toList ++ '=' :: Text.Percent.encodeForm pair.2.toList

/-- A query with one more pair at its end. -/
def appendPair (query : Option String) (pair : String × String) : Option String :=
  match query with
  | none => some (String.ofList (pairText pair))
  | some query =>
    if query = "" then some (String.ofList (pairText pair))
    else some (String.ofList (query.toList ++ '&' :: pairText pair))

/-- A query with some more pairs at its end. -/
def appendPairs (query : Option String) (pairs : List (String × String)) : Option String :=
  pairs.foldl appendPair query

end Url

end SuiteBridge
