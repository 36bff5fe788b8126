/-!
# Texts cut and joined at a character
-/

namespace SuiteBridge.Text

/-- The parts of a text between the occurrences of a character; there is always at least one. -/
def splitAt (separator : Char) (s : String) : List String :=
  (s.toList.splitOn separator).map String.ofList

/-- Texts joined with another text between each two. -/
def join (separator : String) (parts : List String) : String :=
  String.ofList (List.intercalate separator.toList (parts.map String.toList))

/-- The characters before and after the first occurrence of a character. -/
def cutAt? (separator : Char) (cs : List Char) : Option (List Char × List Char) :=
  match cs.dropWhile (· != separator) with
  | [] => none
  | _ :: after => some (cs.takeWhile (· != separator), after)

/-- The characters before a suffix, when they end in it. -/
def dropSuffix? (suffix cs : List Char) : Option (List Char) :=
  if suffix.isSuffixOf cs then some (cs.take (cs.length - suffix.length)) else none

end SuiteBridge.Text
