import SocAssembly.Text.Alphanumeric
import SocAssembly.Text.LetterCase

/-!
# Identifiers

## The model

Names of designs, memories and registers are free text; macros and linker regions need
identifiers. A name is cut into words and the words are joined by underscores, all in capitals or
all in small letters.

Characters that are neither letters nor numerals separate words and are dropped. Within a stretch
of letters and numerals a new word starts at a capital that follows a small letter (`gpioPort`),
and at the last capital of a row of capitals that is followed by a small letter (`USBDevice`).
Numerals have no case: they neither start a word nor hide the case of the letter before them.
-/

namespace SocAssembly.Text

/-- The case of the last cased letter of the word that is being read. -/
inductive WordCase where
  /-- No cased letter was read yet. -/
  | none
  /-- The last cased letter is small. -/
  | small
  /-- The last cased letter is a capital. -/
  | capital
  deriving DecidableEq, Repr

/-- The case after one more character. -/
def WordCase.step (seen : WordCase) (c : Char) : WordCase :=
  if isLowercase c then .small else if isUppercase c then .capital else seen

/-- The words of a stretch of letters and numerals: `word` holds, in reverse, what was read of the
current word, and `seen` its case. -/
def cutAtCase (seen : WordCase) (word : List Char) : List Char → List (List Char)
  | [] => if word.isEmpty then [] else [word.reverse]
  | [c] => [(c :: word).reverse]
  | c :: next :: rest =>
    if seen.step c = .small && isUppercase next then
      (c :: word).reverse :: cutAtCase .none [] (next :: rest)
    else if seen = .capital && isUppercase c && isLowercase next then
      word.reverse :: cutAtCase .none [c] (next :: rest)
    else cutAtCase (seen.step c) (c :: word) (next :: rest)

/-- The words of a name. -/
def nameWords (s : String) : List (List Char) :=
  (s.toList.splitOnP (fun c => !isAlphanumeric c)).flatMap (cutAtCase .none [])

/-- A word in capitals. -/
def upperWord (word : List Char) : List Char := word.flatMap upperChars

/-- A word in small letters. A sigma that ends the word takes its final form. -/
def lowerWord : List Char → List Char
  | [] => []
  | ['Σ'] => ['ς']
  | c :: rest => lowerChars c ++ lowerWord rest

/-- The words, mapped and joined by underscores. -/
def joinWords (image : List Char → List Char) (ws : List (List Char)) : String :=
  String.intercalate "_" (ws.map fun w => String.ofList (image w))

/-- The form of an identifier. -/
inductive IdentifierForm where
  /-- Capitals, as for macros. -/
  | macroName
  /-- Small letters, as for the regions of a linker script. -/
  | regionName
  deriving DecidableEq, Repr

/-- The identifier made from a name. -/
def identifier (form : IdentifierForm) (s : String) : String :=
  match form with
  | .macroName => joinWords upperWord (nameWords s)
  | .regionName => joinWords lowerWord (nameWords s)

end SocAssembly.Text
