import SocAssembly.Text.Hex
import SocAssembly.Toml.Value

/-!
# Texts, numbers and dates in TOML

## The model

A scanner takes a list of characters and returns what it read together with the rest, or nothing if
the text does not have its form. Texts in quotes know escapes, texts in apostrophes hold exactly
what they show; either comes on one line or, in triple quotes, on several. A line break in a text
counts as a single line feed however the document spells it.

Whole numbers are decimal, hexadecimal, octal or binary and fit 64 bits with a sign. Underscores
may stand between digits. A number with a fraction or an exponent is floating-point, and so are the
words for infinity and for no number; a finite numeral whose value rounds to positive infinity is
refused.
-/

namespace SocAssembly.Toml

/-- What a scanner read, and the rest. -/
abbrev Scan (α : Type) := List Char → Option (α × List Char)

/-- The character may stand in a comment. -/
def isCommentChar (c : Char) : Bool := c = '\t' || (0x20 ≤ c.toNat && c.toNat ≠ 0x7F)

/-- The character stands for itself in a text in quotes. -/
def isBasicChar (c : Char) : Bool := isCommentChar c && c ≠ '"' && c ≠ '\\'

/-- The character may stand in a text in apostrophes. -/
def isLiteralChar (c : Char) : Bool := isCommentChar c && c ≠ '\''

/-- The character for the letter of a short escape. -/
def shortEscape? : Char → Option Char
  | 'b' => some '\x08'
  | 't' => some '\t'
  | 'n' => some '\n'
  | 'f' => some '\x0c'
  | 'r' => some '\r'
  | '"' => some '"'
  | '\\' => some '\\'
  | _ => none

/-- Puts a character in front of what was read. -/
def consChar (c : Char) (r : Option (List Char × List Char)) : Option (List Char × List Char) :=
  r.map fun (cs, rest) => (c :: cs, rest)

/-- A text in quotes, from behind the opening quote. -/
def basicBody : Scan (List Char)
  | '"' :: rest => some ([], rest)
  | '\\' :: 'u' :: a :: b :: c :: d :: rest =>
    (Text.scalarChar? [a, b, c, d]).bind (consChar · (basicBody rest))
  | '\\' :: 'U' :: a :: b :: c :: d :: e :: f :: g :: h :: rest =>
    (Text.scalarChar? [a, b, c, d, e, f, g, h]).bind (consChar · (basicBody rest))
  | '\\' :: e :: rest => (shortEscape? e).bind (consChar · (basicBody rest))
  | c :: rest => if isBasicChar c then consChar c (basicBody rest) else none
  | [] => none

/-- A text in apostrophes, from behind the opening one. -/
def literalBody : Scan (List Char)
  | '\'' :: rest => some ([], rest)
  | c :: rest => if isLiteralChar c then consChar c (literalBody rest) else none
  | [] => none

/-- The character is a blank within a line. -/
def isInlineBlank (c : Char) : Bool := c = ' ' || c = '\t'

/-- The text without the blanks in front. -/
def skipBlanks (cs : List Char) : List Char := cs.dropWhile isInlineBlank

/-- The text starts with a line break. -/
def startsLine : List Char → Bool
  | '\n' :: _ => true
  | '\r' :: '\n' :: _ => true
  | _ => false

/-- A text in triple quotes, from behind the opening ones and a line break that follows them. While
`skipping`, white space is dropped: a backslash at the end of a line joins it to the next text. Up
to two quotes may stand before the closing ones. -/
def multilineBasicBody (skipping : Bool) : Scan (List Char)
  | '"' :: '"' :: '"' :: '"' :: '"' :: rest => some (['"', '"'], rest)
  | '"' :: '"' :: '"' :: '"' :: rest => some (['"'], rest)
  | '"' :: '"' :: '"' :: rest => some ([], rest)
  | '"' :: rest => consChar '"' (multilineBasicBody false rest)
  | '\n' :: rest =>
    if skipping then multilineBasicBody true rest
    else consChar '\n' (multilineBasicBody false rest)
  | '\r' :: '\n' :: rest =>
    if skipping then multilineBasicBody true rest
    else consChar '\n' (multilineBasicBody false rest)
  | '\\' :: 'u' :: a :: b :: c :: d :: rest =>
    (Text.scalarChar? [a, b, c, d]).bind (consChar · (multilineBasicBody false rest))
  | '\\' :: 'U' :: a :: b :: c :: d :: e :: f :: g :: h :: rest =>
    (Text.scalarChar? [a, b, c, d, e, f, g, h]).bind (consChar · (multilineBasicBody false rest))
  | '\\' :: e :: rest =>
    if startsLine (skipBlanks (e :: rest)) then multilineBasicBody true (e :: rest)
    else (shortEscape? e).bind (consChar · (multilineBasicBody false rest))
  | c :: rest =>
    if skipping && isInlineBlank c then multilineBasicBody true rest
    else if isBasicChar c then consChar c (multilineBasicBody false rest)
    else none
  | [] => none

/-- A text in triple apostrophes, from behind the opening ones and a line break that follows
them. -/
def multilineLiteralBody : Scan (List Char)
  | '\'' :: '\'' :: '\'' :: '\'' :: '\'' :: rest => some (['\'', '\''], rest)
  | '\'' :: '\'' :: '\'' :: '\'' :: rest => some (['\''], rest)
  | '\'' :: '\'' :: '\'' :: rest => some ([], rest)
  | '\'' :: rest => consChar '\'' (multilineLiteralBody rest)
  | '\n' :: rest => consChar '\n' (multilineLiteralBody rest)
  | '\r' :: '\n' :: rest => consChar '\n' (multilineLiteralBody rest)
  | c :: rest => if isLiteralChar c then consChar c (multilineLiteralBody rest) else none
  | [] => none

/-- The text behind a line break in front. -/
def dropLineBreak : List Char → List Char
  | '\n' :: rest => rest
  | '\r' :: '\n' :: rest => rest
  | cs => cs

/-- The digits that follow a digit, without their underscores. -/
def moreDigits (isDigit : Char → Bool) : Scan (List Char)
  | '_' :: d :: rest => if isDigit d then consChar d (moreDigits isDigit rest) else none
  | '_' :: [] => none
  | d :: rest => if isDigit d then consChar d (moreDigits isDigit rest) else some ([], d :: rest)
  | [] => some ([], [])

/-- One or more digits, without their underscores. -/
def digits (isDigit : Char → Bool) : Scan (List Char)
  | d :: rest => if isDigit d then consChar d (moreDigits isDigit rest) else none
  | [] => none

/-- The value of digits in a base. -/
def valueOf (base : Nat) (ds : List Char) : Nat :=
  ds.foldl (fun n d => base * n + (Text.hexValue? d).getD 0) 0

/-- A whole number, if it fits 64 bits with a sign. -/
def integer? (i : Int) : Option Value :=
  if -0x8000000000000000 ≤ i ∧ i < 0x8000000000000000 then some (.integer i) else none

/-- The number with these decimal digits, times a power of ten. The exponent is not used where the
result is zero or infinite anyway, however long it is. -/
def decimalFloat (negative : Bool) (ds : List Char) (exponent : Int) : Float :=
  let mantissa := valueOf 10 ds
  let magnitude : Float :=
    if mantissa = 0 ∨ (ds.length : Int) + exponent < -400 then 0.0
    else if 400 < (ds.length : Int) + exponent ∧ 400 < exponent then 1.0 / 0.0
    else if exponent < 0 then Float.ofScientific mantissa true exponent.natAbs
    else Float.ofScientific mantissa false exponent.natAbs
  if negative then -magnitude else magnitude

/-- A floating-point number, unless it is too large. -/
def float? (f : Float) : Option Value :=
  if f == 1.0 / 0.0 then none else some (.float f)

/-- The sign in front of a number: whether it is a minus sign. -/
def sign : List Char → Bool × List Char
  | '+' :: rest => (false, rest)
  | '-' :: rest => (true, rest)
  | cs => (false, cs)

/-- An exponent, from behind its letter. -/
def exponent : Scan Int := fun cs => do
  let (negative, cs) := sign cs
  let (ds, rest) ← digits Char.isDigit cs
  let n : Int := valueOf 10 ds
  some (if negative then -n else n, rest)

/-- The integer part of a decimal number: no zero stands in front of another digit. -/
def integerPart : Scan (List Char)
  | '0' :: rest => some (['0'], rest)
  | cs => digits Char.isDigit cs

/-- A decimal number, from behind its sign. -/
def decimal (negative : Bool) : Scan Value := fun cs => do
  let (whole, rest) ← integerPart cs
  match rest with
  | '.' :: rest => do
    let (fraction, rest) ← digits Char.isDigit rest
    let (e, rest) ← match rest with
      | 'e' :: rest => exponent rest
      | 'E' :: rest => exponent rest
      | rest => some (0, rest)
    let v ← float? (decimalFloat negative (whole ++ fraction) (e - fraction.length))
    some (v, rest)
  | 'e' :: rest => do
    let (e, rest) ← exponent rest
    let v ← float? (decimalFloat negative whole e)
    some (v, rest)
  | 'E' :: rest => do
    let (e, rest) ← exponent rest
    let v ← float? (decimalFloat negative whole e)
    some (v, rest)
  | rest => do
    let n : Int := valueOf 10 whole
    let v ← integer? (if negative then -n else n)
    some (v, rest)

/-- A whole number in another base, from behind its mark. -/
def radix (base : Nat) (isDigit : Char → Bool) : Scan Value := fun cs => do
  let (ds, rest) ← digits isDigit cs
  let v ← integer? (valueOf base ds)
  some (v, rest)

/-- A number. -/
def number : Scan Value
  | '0' :: 'x' :: rest => radix 16 (fun c => (Text.hexValue? c).isSome) rest
  | '0' :: 'o' :: rest => radix 8 (fun c => '0' ≤ c && c ≤ '7') rest
  | '0' :: 'b' :: rest => radix 2 (fun c => c = '0' || c = '1') rest
  | cs =>
    match sign cs with
    | (negative, 'i' :: 'n' :: 'f' :: rest) =>
      some (.float (if negative then -(1.0 / 0.0) else 1.0 / 0.0), rest)
    | (_, 'n' :: 'a' :: 'n' :: rest) => some (.float (0.0 / 0.0), rest)
    | (negative, cs) => decimal negative cs

/-- Two digits that are a number in a range. -/
def twoDigits (low high : Nat) : Scan (List Char)
  | a :: b :: rest =>
    if a.isDigit && b.isDigit && low ≤ valueOf 10 [a, b] && valueOf 10 [a, b] ≤ high then
      some ([a, b], rest)
    else none
  | _ => none

/-- The number of days of a month. -/
def daysOfMonth (year month : Nat) : Nat :=
  if month = 2 then
    if year % 4 = 0 ∧ (year % 100 ≠ 0 ∨ year % 400 = 0) then 29 else 28
  else if month = 4 ∨ month = 6 ∨ month = 9 ∨ month = 11 then 30
  else 31

/-- A date. -/
def date : Scan (List Char)
  | a :: b :: c :: d :: '-' :: rest => do
    if !(a.isDigit && b.isDigit && c.isDigit && d.isDigit) then none
    let (month, rest) ← twoDigits 1 12 rest
    match rest with
    | '-' :: rest => do
      let last := daysOfMonth (valueOf 10 [a, b, c, d]) (valueOf 10 month)
      let (day, rest) ← twoDigits 1 last rest
      some ([a, b, c, d, '-'] ++ month ++ ['-'] ++ day, rest)
    | _ => none
  | _ => none

/-- The fraction of a second, in its normal spelling: nine digits at most, no zero at the end. -/
def secondFraction : Scan (List Char)
  | '.' :: d :: rest =>
    if d.isDigit then
      let ds := (d :: rest).takeWhile Char.isDigit
      let kept := ((ds.take 9).reverse.dropWhile (· = '0')).reverse
      some (if kept.isEmpty then [] else '.' :: kept, (d :: rest).dropWhile Char.isDigit)
    else none
  | '.' :: [] => none
  | cs => some ([], cs)

/-- A time of day. -/
def time : Scan (List Char) := fun cs => do
  let (hour, rest) ← twoDigits 0 23 cs
  match rest with
  | ':' :: rest => do
    let (minute, rest) ← twoDigits 0 59 rest
    match rest with
    | ':' :: rest => do
      let (second, rest) ← twoDigits 0 60 rest
      let (fraction, rest) ← secondFraction rest
      some (hour ++ [':'] ++ minute ++ [':'] ++ second ++ fraction, rest)
    | _ => none
  | _ => none

/-- The distance from universal time; nothing if none is given. -/
def timeOffset : List Char → List Char × List Char
  | 'Z' :: rest => (['Z'], rest)
  | 'z' :: rest => (['Z'], rest)
  | s :: rest =>
    if s = '+' || s = '-' then
      match twoDigits 0 23 rest with
      | some (hour, ':' :: behind) =>
        match twoDigits 0 59 behind with
        | some (minute, behind) =>
          let mark := if valueOf 10 (hour ++ minute) = 0 then '+' else s
          (mark :: hour ++ [':'] ++ minute, behind)
        | none => ([], s :: rest)
      | _ => ([], s :: rest)
    else ([], s :: rest)
  | [] => ([], [])

/-- A date, a time, or a date with a time. -/
def dateTime : Scan Value := fun cs =>
  match date cs with
  | some (d, rest) =>
    let onlyDate := some (.dateTime (String.ofList d), rest)
    match rest with
    | mark :: behind =>
      if mark = 'T' || mark = 't' || mark = ' ' then
        match time behind with
        | some (t, behind) =>
          let (offset, behind) := timeOffset behind
          some (.dateTime (String.ofList (d ++ ['T'] ++ t ++ offset)), behind)
        | none => onlyDate
      else onlyDate
    | [] => onlyDate
  | none => (time cs).map fun (t, rest) => (.dateTime (String.ofList t), rest)

end SocAssembly.Toml
