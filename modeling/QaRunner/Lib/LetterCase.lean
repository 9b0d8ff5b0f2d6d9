import Mathlib.Data.List.Infix

/-! Texts in upper and in lower case: the ASCII letters by rule, all others by tables. -/
namespace LetterCase

/-- What the Unicode tables say of the characters after the ASCII ones; the lower case of a
character may depend on the characters around it. -/
structure Tables where
  upper : Char → List Char
  lower : List Char → Char → List Char → List Char

variable (t : Tables)

def isAscii (c : Char) : Bool := c.toNat < 128

def upper (s : List Char) : List Char :=
  s.flatMap fun c => if isAscii c then [c.toUpper] else t.upper c

/-- The lower case of a text that follows some characters. -/
def lowerAfter (before : List Char) : List Char → List Char
  | [] => []
  | c :: rest =>
    (if isAscii c then [c.toLower] else t.lower before c rest) ++ lowerAfter (before ++ [c]) rest

def lower (s : List Char) : List Char := lowerAfter t [] s

variable {t} {before a s : List Char}

end LetterCase
