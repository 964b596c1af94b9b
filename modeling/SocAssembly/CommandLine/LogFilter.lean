import SocAssembly.Dict
import SocAssembly.Notice
import SocAssembly.Pattern.Reader
import SocAssembly.Text.Alphanumeric
import SocAssembly.Text.Blank
import SocAssembly.Text.Decimal
import SocAssembly.Text.LetterCase
import SocAssembly.Text.Slice

/-!
# Which messages are shown

## The model

A message comes from a target, the name of the part of the program that sends it, and has a degree
of detail: one for failures, two for losses, three for steps, four for what a step does and five for
all the rest. It is sent outside of any scope and has one field, its text.

A filter is read from a text with directives between commas. A directive is a degree alone, or it
names a target, brackets with a scope or a field in them, or both, and may end in an equals sign and
a degree. A field may have a value, which is a number or a pattern (`Pattern`). A directive is for
the messages whose target starts with its own and which have its field, and lets them through up to
its degree; messages are from no scope, and no value is that of their text.

Blanks around a directive do not matter to its form: where its parts start and end is counted in
bytes from its first character that is no blank. But the parts are cut out at these places from the
word with its blanks, so blanks in front shift all of them, and those behind belong to the last one.
A directive that is a name or a degree alone is the whole word. Words that are no directives are
complained of and passed over, unless a cut would fall inside a character, which no run of the
program survives.

The directive with the longest target decides about a message, of two with one target the one with a
field, and otherwise the later one. Without directives steps are shown; otherwise nothing is shown
from a target that no directive is for.

The program asks no more of what reads its filter than complaints and which messages are shown, or
that the text cannot be read (`FilterReading`).
-/

namespace SocAssembly

/-- The degree of detail of failures. -/
def failureDetail : Nat := 1

/-- The degree of detail that is shown where nothing is said. -/
def usualDetail : Nat := 3

/-- The greatest degree of detail. -/
def fullDetail : Nat := 5

/-- The degree of detail of notices of a level. -/
def Level.detail : Level → Nat
  | .warn => 2
  | .info => 3
  | .debug => 4

/-- The degrees of detail by their names; the first shows nothing. -/
def detailNames : List (String × Nat) :=
  [("off", 0), ("error", failureDetail), ("warn", Level.warn.detail), ("info", Level.info.detail),
    ("debug", Level.debug.detail), ("trace", fullDetail)]

/-- The degree of detail that a number or a name in any case stands for. -/
def readDetail (text : String) : Option Nat :=
  ((Text.readUnsigned text).filter (· ≤ fullDetail)).or
    ((detailNames.find? fun entry => Text.sameButForCase entry.1 text).map (·.2))

/-- Why a word is no directive. -/
inductive DirectiveFault where
  /-- It does not have the form of one. -/
  | malformed
  /-- It ends in a degree that does not exist. -/
  | unknownDetail
  /-- The value that it asks of a field is no number and no pattern that can be used. -/
  | badValue (fault : PatternFault)
  /-- It would be cut inside a character. -/
  | cutCharacter
  deriving DecidableEq, Repr

/-- The text shown for a fault. -/
def DirectiveFault.message : DirectiveFault → String
  | malformed => "invalid filter directive"
  | unknownDetail =>
    "error parsing level filter: expected one of \"off\", \"error\", \"warn\", \"info\", " ++
      "\"debug\", \"trace\", or a number 0-5"
  | badValue fault => "invalid field filter: " ++ fault.message
  | cutCharacter => "a part of it starts or ends inside a character"

/-- What is shown of some messages. -/
structure LogDirective where
  /-- How the targets start that it is for. -/
  target : String := ""
  /-- The field that a message has to have. -/
  field : Option String := none
  /-- It is only for messages from a scope, or with a field of a given value; there are none. -/
  inScope : Bool := false
  /-- The degree of detail up to which messages are shown. -/
  detail : Nat := fullDetail
  deriving DecidableEq, Repr

namespace LogDirective

/-! ### Reading -/

/-- A directive may start with the character. -/
def opens (c : Char) : Bool := Text.isAlphanumeric c || c ∈ ['-', ':', '_', '[']

/-- The degree that a directive ends in; nothing stands for the greatest one. -/
def readDegree (cs : List Char) : Except DirectiveFault Nat :=
  if cs.isEmpty then .ok fullDetail
  else
    match readDetail (String.ofList cs) with
    | some n => .ok n
    | none => .error .unknownDetail

/-- The part of a word between two places. -/
def part (word : List Char) (first last : Nat) : Except DirectiveFault (List Char) :=
  match Text.slice? first last word with
  | some cs => .ok cs
  | none => .error .cutCharacter

/-- The name of a field, and whether a value is asked for: a number or a pattern behind an equals
sign, up to another one. -/
def readField (cs : List Char) : Except DirectiveFault (String × Bool) :=
  match cs.span (· ≠ '=') with
  | (name, []) => if name.isEmpty then .error .malformed else .ok (String.ofList name, false)
  | (name, _ :: more) =>
    let value := more.takeWhile (· ≠ '=')
    if Text.isNumeral value then .ok (String.ofList name, true)
    else
      match Pattern.read value with
      | .ok _ => .ok (String.ofList name, true)
      | .error e => .error (.badValue e)

/-- What stands in brackets: whether it is a scope or a value, the field, and what comes behind.
`between` is the part of the word between two rests of it. -/
def readBrackets (between : List Char → List Char → Except DirectiveFault (List Char))
    (cs : List Char) : Except DirectiveFault (Bool × Option String × List Char) :=
  match cs.span fun c => c ≠ ']' && c ≠ '\x7b' with
  | (_, []) => .error .malformed
  | (_, close :: more) => do
    let scope ← between cs (close :: more)
    if close = ']' then pure (true, none, more)
    else
      match more.span (· ≠ '\x7d') with
      | (_, []) => .error .malformed
      | (_, close :: rest) => do
        let (field, hasValue) ← readField (← between more (close :: rest))
        match rest with
        | ']' :: rest => pure (!scope.isEmpty || hasValue, some field, rest)
        | _ => .error .malformed

/-- The directive with the degree that it ends in, if any; `behind` is the part of the word behind a
rest of it. -/
def readEnd (behind : List Char → Except DirectiveFault (List Char)) (d : LogDirective) :
    List Char → Except DirectiveFault LogDirective
  | [] => .ok d
  | '=' :: rest => do
    let degree ← behind rest
    pure { d with detail := ← readDegree degree }
  | _ => .error .malformed

/-- The directive that a word stands for. -/
def read (word : List Char) : Except DirectiveFault LogDirective :=
  let inner := Text.trimEndOf (word.dropWhile Text.isBlank)
  let place (rest : List Char) : Nat := Text.byteSize inner - Text.byteSize rest
  let between (rest later : List Char) := part word (place rest) (place later)
  let behind (rest : List Char) := part word (place rest) (Text.byteSize word)
  if !inner.head?.any opens then .error .malformed
  else
    match inner.span fun c => c ≠ '=' && c ≠ '[' with
    | (_, []) =>
      match readDetail (String.ofList word) with
      | some n => .ok { detail := n }
      | none => .ok { target := String.ofList word }
    | (_, '[' :: rest) => do
      let target ← between inner ('[' :: rest)
      let (inScope, field, rest) ← readBrackets between rest
      readEnd behind ⟨String.ofList target, field, inScope, fullDetail⟩ rest
    | (_, rest) => do
      let target ← between inner rest
      readEnd behind { target := String.ofList target } rest

/-- The word would be cut inside a character. -/
def isUncuttable (word : List Char) : Bool :=
  match read word with
  | .error .cutCharacter => true
  | _ => false

/-! ### Deciding -/

/-- The field that messages have. -/
def messageField : String := "message"

/-- The directive is for the messages of a target. -/
def fits (d : LogDirective) (target : String) : Bool :=
  !d.inScope && d.field.all (· = messageField) && d.target.isPrefixOf target

/-- How much a directive asks of a message: the longer its target the more, and then its field. -/
def strictness (d : LogDirective) : Nat :=
  2 * d.target.length + if d.field.isSome then 1 else 0

/-- The strictest directive, the last of those if there are more. -/
def decisive : List LogDirective → Option LogDirective
  | [] => none
  | d :: rest =>
    match decisive rest with
    | none => some d
    | some e => if d.strictness ≤ e.strictness then some e else some d

end LogDirective

/-- What is shown. -/
abbrev LogFilter := List LogDirective

namespace LogFilter

/-- The environment variable with the filter. -/
def variableName : String := "RUST_LOG"

/-- The text of the filter of an environment. -/
def textIn (environment : Dict String) : String := (environment.get? variableName).getD ""

/-- What stands between the commas of a text. -/
def wordsOf (text : String) : List (List Char) :=
  (text.toList.splitOnP (· = ',')).filter (!·.isEmpty)

/-- The filter that a text stands for. -/
def ofText (text : String) : LogFilter :=
  (wordsOf text).filterMap fun word => (LogDirective.read word).toOption

/-- The complaint of a word, if it is no directive. -/
def complaintOf? (word : List Char) : Option String :=
  match LogDirective.read word with
  | .ok _ => none
  | .error e => some s!"ignoring `{String.ofList word}`: {e.message}"

/-- The text cannot be read as a filter at all: a word of it would be cut inside a character. -/
def isUncuttable (text : String) : Bool := (wordsOf text).any LogDirective.isUncuttable

/-- What is complained of in a text, up to a word that would be cut inside a character. -/
def complaints (text : String) : List String :=
  ((wordsOf text).takeWhile (!LogDirective.isUncuttable ·)).filterMap complaintOf?

/-- The degree of detail up to which messages of a target are shown. -/
def detailFor (f : LogFilter) (target : String) : Nat :=
  if f.isEmpty then usualDetail
  else ((LogDirective.decisive (f.filter (·.fits target))).map (·.detail)).getD 0

/-- Messages of a target and a degree of detail are shown. -/
def shows (f : LogFilter) (target : String) (detail : Nat) : Bool := detail ≤ f.detailFor target

end LogFilter

/-! ### Readers -/

/-- What comes of reading a text as a filter. -/
structure FilterReading where
  /-- What is complained of. -/
  complaints : List String
  /-- The messages that are shown, by their target and degree of detail; nothing if the text cannot
  be read. -/
  shows? : Option (String → Nat → Bool)

/-- What reads filters. -/
abbrev FilterReader := String → FilterReading

/-- Reads a text as directives. -/
def LogFilter.reader : FilterReader := fun text =>
  { complaints := complaints text
    shows? := if isUncuttable text then none else some (ofText text).shows }

end SocAssembly
