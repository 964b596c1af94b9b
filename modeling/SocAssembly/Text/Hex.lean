/-!
# Hexadecimal numerals

## The model

Addresses and sizes are written in base sixteen: with a mark and at least eight digits where they
are addresses, with a mark and no padding where they are sizes, and in capitals with a chosen
least number of digits where another program reads them. A number with more digits than the least
number is written in full. Digits are read in either case; escapes in texts name a character by the
digits of its number.
-/

namespace SocAssembly.Text

/-- The hexadecimal digits of a number in small letters, without a leading zero. -/
def hexDigits (n : Nat) : List Char := Nat.toDigits 16 n

/-- A size: the mark and the digits. -/
def hex (n : Nat) : String := "0x" ++ String.ofList (hexDigits n)

/-- An address: the mark and at least eight digits. -/
def address (n : Nat) : String := "0x" ++ String.ofList ((hexDigits n).leftpad 8 '0')

/-- The mark and at least `width` digits in capitals. -/
def hexCapitals (width n : Nat) : String :=
  "0x" ++ String.ofList (((hexDigits n).map Char.toUpper).leftpad width '0')

/-- The value of a hexadecimal digit. -/
def hexValue? (c : Char) : Option Nat :=
  if c.isDigit then some (c.toNat - '0'.toNat)
  else if 'a' ≤ c && c ≤ 'f' then some (c.toNat - 'a'.toNat + 10)
  else if 'A' ≤ c && c ≤ 'F' then some (c.toNat - 'A'.toNat + 10)
  else none

/-- The character whose number is written in hexadecimal digits. -/
def scalarChar? (digits : List Char) : Option Char := do
  let values ← digits.mapM hexValue?
  let n := values.foldl (fun n d => 16 * n + d) 0
  if n.isValidChar then some (Char.ofNat n) else none

end SocAssembly.Text
