/-
# `Lib.Text` — tests on texts

Prefix, substring and first characters of a text, on its list of characters, so
that they compute on a closed text.
-/
import Mathlib

namespace Text

def startsWith (pre s : String) : Bool := pre.toList.isPrefixOf s.toList

def endsWith (suf s : String) : Bool := suf.toList.isSuffixOf s.toList

def hasInfix (marker : List Char) : List Char → Bool
  | [] => marker.isEmpty
  | c :: cs => marker.isPrefixOf (c :: cs) || hasInfix marker cs

/-- `marker in s`. -/
def hasSubstring (marker s : String) : Bool := hasInfix marker.toList s.toList

/-- `s[:n]`. -/
def take (n : Nat) (s : String) : String := String.ofList (s.toList.take n)

/-- `s.lower()` on the letters of ASCII; none of the markers searched for in a
lowered text has another letter. -/
def lower (s : String) : String := String.ofList (s.toList.map Char.toLower)

/-- `s.upper()` on the letters of ASCII. -/
def upper (s : String) : String := String.ofList (s.toList.map Char.toUpper)

/-- `c.isspace()`. -/
def isSpace (c : Char) : Bool :=
  (9 ≤ c.toNat ∧ c.toNat ≤ 13) ∨ (28 ≤ c.toNat ∧ c.toNat ≤ 32) ∨
    (0x2000 ≤ c.toNat ∧ c.toNat ≤ 0x200A) ∨
    c.toNat ∈ [0x85, 0xA0, 0x1680, 0x2028, 0x2029, 0x202F, 0x205F, 0x3000]

/-- `s.strip()`. -/
def strip (s : String) : String :=
  String.ofList ((s.toList.dropWhile isSpace).reverse.dropWhile isSpace).reverse

/-- `not s.strip()`. -/
def isBlank (s : String) : Bool := s.toList.all isSpace

example : hasSubstring "already" (lower "Expense ALREADY approved") = true := by decide

end Text
