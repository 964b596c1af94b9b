import SocAssembly.Text.LetterCase

/-!
# Decimal numerals

## The model

Positions on a connector are written as unsigned decimal numbers: at least one digit, perhaps a
plus sign in front, and a value that fits a machine word. Nothing else may stand around the digits.
Where any number is asked for, a sign, a fraction and an exponent are allowed, and so are the words
for infinity and for no number.
-/

namespace SocAssembly.Text

/-- The value of a list of decimal digits, if it holds nothing else and is not empty. -/
def readDigits (cs : List Char) : Option Nat :=
  if cs.isEmpty || !cs.all Char.isDigit then none
  else some (cs.foldl (fun n c => 10 * n + (c.toNat - '0'.toNat)) 0)

/-- The value of an unsigned decimal number of at most 64 bits. -/
def readUnsigned (s : String) : Option Nat :=
  let digits := match s.toList with
    | '+' :: rest => rest
    | cs => cs
  (readDigits digits).filter (· < 0x10000000000000000)

/-- The text without a sign in front. -/
def withoutSign : List Char → List Char
  | '+' :: rest => rest
  | '-' :: rest => rest
  | cs => cs

/-- The words for numbers that have no digits. -/
def numberWords : List String := ["inf", "infinity", "nan"]

/-- An exponent with its mark, or nothing. -/
def isExponent : List Char → Bool
  | [] => true
  | e :: rest => (e = 'e' || e = 'E') && (readDigits (withoutSign rest)).isSome

/-- The text is the numeral of some number: digits on at least one side of a point, or without one,
and an exponent. -/
def isNumeral (cs : List Char) : Bool :=
  let unsigned := withoutSign cs
  let (whole, rest) := unsigned.span Char.isDigit
  let (places, rest) := match rest with
    | '.' :: rest => rest.span Char.isDigit
    | _ => ([], rest)
  numberWords.any (sameButForCase · (String.ofList unsigned)) ||
    (!(whole ++ places).isEmpty && isExponent rest)

end SocAssembly.Text
