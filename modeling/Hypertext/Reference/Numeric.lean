/-!
# Numeric references

A numeric reference is `#` and decimal digits, or `#x` and hexadecimal digits, and may end with
a semicolon. It stands for the character with that number. Numbers without a character stand
for U+FFFD, and the numbers of the C1 controls for what windows-1252 has in their places.
-/

namespace Hypertext.Reference

/-- The value of a digit in base sixteen, where `a` and `A` are ten. -/
def hexDigit? (c : Char) : Option Nat :=
  if '0' ≤ c ∧ c ≤ '9' then some (c.toNat - '0'.toNat)
  else if 'a' ≤ c ∧ c ≤ 'f' then some (c.toNat - 'a'.toNat + 10)
  else if 'A' ≤ c ∧ c ≤ 'F' then some (c.toNat - 'A'.toNat + 10)
  else none

/-- The value of a digit in base ten or sixteen. -/
def digit? (base : Nat) (c : Char) : Option Nat :=
  (hexDigit? c).filter (· < base)

/-- The largest number that 32 bits hold. -/
def largestNumber : Nat := 0xFFFFFFFF

/-- The number that a further digit makes of `n`, if 32 bits hold it. -/
def withDigit? (base n : Nat) (c : Char) : Option Nat :=
  (some (n * base + (digit? base c).getD 0)).filter (· ≤ largestNumber)

/-- The number written by digits; none as soon as 32 bits do not hold what was read. -/
def number? (base : Nat) (digits : List Char) : Option Nat :=
  digits.foldlM (withDigit? base) 0

/-- The number written by digits, of any length. Those that 32 bits do not hold all count as the
largest that they do. -/
def number (base : Nat) (digits : List Char) : Nat :=
  (number? base digits).getD largestNumber

/-- The character that stands in for everything that is none. -/
def replacement : Char := '\ufffd'

/-- The windows-1252 characters in the places of the C1 controls; the five unused places keep
their controls. -/
def c1Replacements : List Nat :=
  [0x20AC, 0x81, 0x201A, 0x0192, 0x201E, 0x2026, 0x2020, 0x2021,
   0x02C6, 0x2030, 0x0160, 0x2039, 0x0152, 0x8D, 0x017D, 0x8F,
   0x90, 0x2018, 0x2019, 0x201C, 0x201D, 0x2022, 0x2013, 0x2014,
   0x02DC, 0x2122, 0x0161, 0x203A, 0x0153, 0x9D, 0x017E, 0x0178]

/-- The character that a number refers to. -/
def charOfNumber (n : Nat) : Char :=
  if n = 0 ∨ (0xD800 ≤ n ∧ n ≤ 0xDFFF) ∨ 0x10FFFF < n then replacement
  else if 0x80 ≤ n ∧ n ≤ 0x9F then Char.ofNat (c1Replacements.getD (n - 0x80) n)
  else Char.ofNat n

/-- A numeric reference that was read: its character, whether a semicolon ended it, and what
comes after. -/
structure Numeric where
  char : Char
  terminated : Bool
  rest : List Char

/-- Reads digits in `base` and a semicolon, if one follows; there must be a digit. -/
def digitsOf? (base : Nat) (s : List Char) : Option Numeric :=
  let isDigit := fun c => (digit? base c).isSome
  match s.takeWhile isDigit with
  | [] => none
  | digits =>
    let char := charOfNumber (number base digits)
    match s.dropWhile isDigit with
    | ';' :: rest => some ⟨char, true, rest⟩
    | rest => some ⟨char, false, rest⟩

/-- Reads a numeric reference after its ampersand and number sign. -/
def numeric? : List Char → Option Numeric
  | 'x' :: s => digitsOf? 16 s
  | 'X' :: s => digitsOf? 16 s
  | s => digitsOf? 10 s

end Hypertext.Reference
