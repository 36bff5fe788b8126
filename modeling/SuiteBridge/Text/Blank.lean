/-!
# White space

The characters with the Unicode property `White_Space`, and what follows from them: when a text is
blank, and a text without the white space around it.
-/

namespace SuiteBridge.Text

/-- The code points with the property `White_Space`. -/
def spaceCodes : List Nat :=
  [0x09, 0x0A, 0x0B, 0x0C, 0x0D, 0x20, 0x85, 0xA0, 0x1680,
   0x2000, 0x2001, 0x2002, 0x2003, 0x2004, 0x2005, 0x2006, 0x2007, 0x2008, 0x2009, 0x200A,
   0x2028, 0x2029, 0x202F, 0x205F, 0x3000]

/-- A character is a space when it has the property `White_Space`. -/
def isSpace (c : Char) : Bool :=
  spaceCodes.contains c.toNat

/-- The characters after the leading white space. -/
def trimStart (cs : List Char) : List Char :=
  cs.dropWhile isSpace

/-- The characters before the trailing white space. -/
def trimEnd (cs : List Char) : List Char :=
  (cs.reverse.dropWhile isSpace).reverse

/-- The characters without the white space at either end. -/
def trimChars (cs : List Char) : List Char :=
  trimEnd (trimStart cs)

/-- A text without the white space at either end. -/
def trim (s : String) : String :=
  String.ofList (trimChars s.toList)

/-- A text is blank when it holds nothing but white space. -/
def isBlank (s : String) : Bool :=
  s.toList.all isSpace

end SuiteBridge.Text
