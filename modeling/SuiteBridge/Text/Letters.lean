/-!
# ASCII letter case

Case changes that touch the 26 ASCII letters only: every other character, however it is written,
stays as it is.
-/

namespace SuiteBridge.Text

/-- A text with its ASCII letters in upper case. -/
def upper (s : String) : String :=
  String.ofList (s.toList.map Char.toUpper)

/-- A text with its ASCII letters in lower case. -/
def lower (s : String) : String :=
  String.ofList (s.toList.map Char.toLower)

end SuiteBridge.Text
