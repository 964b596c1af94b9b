import SocAssembly.Pattern.Basic
import SocAssembly.Text.Alphabetic
import SocAssembly.Text.Blank
import SocAssembly.Text.Hex

/-!
# Reading patterns

## The model

Most characters stand for themselves. A dot is any character, `^` and `$` are the edges of the text,
a backslash gives a letter another meaning and takes the meaning of a mark away. Parentheses make
groups, `|` separates choices, and `?`, `*` and `+` repeat what stands before them. An opening brace
is refused, since patterns stand in braces here and end before what would close it. Brackets hold
sets of characters, in which sets may lie again, joined by doubled marks.

Two things can be set for the rest of a group (`PatternModes`): blanks and comments may be passed
over, and the characters of the pattern may be bytes instead of characters of every script. What
could then take in a part of a character is refused: any character, negated sets and classes, and
properties.

A reader takes what it reads from the front of the text and fails without a reason. Every step of
the loops takes at least one character, so the length of the text bounds them.
-/

namespace SocAssembly

/-- How the text of a pattern is read. -/
structure PatternModes where
  /-- Blanks and comments are passed over. -/
  spaced : Bool := false
  /-- The characters are those of every script. -/
  everyScript : Bool := true
  deriving DecidableEq, Repr

namespace PatternModes

/-- The letters of what can be set, and the mark in front of what is taken back. -/
def flagChars : List Char := ['i', 'm', 's', 'U', 'u', 'R', 'x', '-']

/-- Flags are letters of what can be set, each once, and a mark that has letters behind it. -/
def areFlags (flags : List Char) : Bool :=
  flags.all (· ∈ flagChars) && flags.Nodup && flags.getLast? ≠ some '-'

/-- What flags say of a letter. -/
def flag? (flags : List Char) (c : Char) : Option Bool :=
  if c ∈ flags then some ('-' ∉ flags.takeWhile (· ≠ c)) else none

/-- The modes after flags. -/
def withFlags (m : PatternModes) (flags : List Char) : PatternModes :=
  ⟨(flag? flags 'x').getD m.spaced, (flag? flags 'u').getD m.everyScript⟩

end PatternModes

/-- Where the reading of a pattern has come to. -/
structure PatternCursor where
  /-- What has not been read. -/
  rest : List Char
  /-- How it is read. -/
  modes : PatternModes := {}
  /-- The names of groups that have been used. -/
  names : List (List Char) := []

/-- Something that reads a part of a pattern. -/
abbrev PatternReader (α : Type) := StateT PatternCursor Option α

namespace PatternReader

/-! ### Steps -/

/-- What has not been read. -/
def remaining : PatternReader (List Char) := do return (← get).rest

/-- Goes on with a later rest. -/
def goTo (rest : List Char) : PatternReader Unit :=
  modify fun cursor => { cursor with rest := rest }

/-- How characters are read here. -/
def modes : PatternReader PatternModes := do return (← get).modes

/-- Changes how characters are read. -/
def setModes (m : PatternModes) : PatternReader Unit :=
  modify fun cursor => { cursor with modes := m }

/-- The next character. -/
def next : PatternReader Char := do
  match ← remaining with
  | c :: rest => goTo rest; return c
  | [] => failure

/-- Passes over a character, if it is the next one. -/
def passes (c : Char) : PatternReader Bool := do
  match ← remaining with
  | d :: rest => if d = c then goTo rest; return true else return false
  | [] => return false

/-- Goes on only if the characters are those of every script, or something else holds. -/
def needsEveryScript (orElse : Bool) : PatternReader Unit := do
  guard ((← modes).everyScript || orElse)

/-- The text without blanks and comments in front; a comment goes to the end of its line. -/
def withoutComments (inComment : Bool) : List Char → List Char
  | [] => []
  | c :: cs =>
    if inComment then withoutComments (c ≠ '\n') cs
    else if Text.isBlank c then withoutComments false cs
    else if c = '#' then withoutComments true cs
    else c :: cs

/-- Passes over blanks and comments where they do not count. -/
def skip : PatternReader Unit := do
  if (← modes).spaced then goTo (withoutComments false (← remaining))

/-! ### Escapes -/

/-- The letters of properties that have one letter: the main classes of characters. -/
def propertyLetters : List Char := ['C', 'L', 'M', 'N', 'P', 'S', 'Z']

/-- Control characters by their letters. -/
def controlLetters : List (Char × Char) :=
  [('a', '\x07'), ('f', '\x0c'), ('n', '\n'), ('r', '\r'), ('t', '\t'), ('v', '\x0b')]

/-- Some digits. -/
def digits : Nat → PatternReader (List Char)
  | 0 => return []
  | n + 1 => do
    skip
    let d ← next
    return d :: (← digits n)

/-- A character by the hexadecimal digits of its number. -/
def numbered (count : Nat) : PatternReader Char := do
  let c ← Text.scalarChar? (← digits count)
  skip
  return c

/-- A property of characters that has one letter. -/
def property (negated : Bool) : PatternReader Pattern := do
  skip
  let letter := (← next).toUpper
  guard (letter ∈ propertyLetters)
  needsEveryScript false
  skip
  return .set (.named negated (String.singleton letter))

/-- What stands behind a backslash. -/
def escape : PatternReader Pattern := do
  let c ← next
  match c with
  | 'x' =>
    let byte ← numbered 2
    needsEveryScript (byte.toNat < 0x80)
    return .set (.char byte)
  | 'u' => return .set (.char (← numbered 4))
  | 'U' => return .set (.char (← numbered 8))
  | 'p' => property false
  | 'P' => property true
  | 'd' | 's' | 'w' => return .set (.named false (String.singleton c))
  | 'D' | 'S' | 'W' =>
    needsEveryScript false
    return .set (.named true (String.singleton c.toLower))
  | 'A' | 'z' => return .place .textEdge
  | 'b' | 'B' | '<' | '>' => return .place (.wordEdge (← modes).everyScript)
  | _ =>
    match controlLetters.find? (·.1 = c) with
    | some (_, control) => return .set (.char control)
    | none =>
      guard (c.toNat < 0x80 && !c.isAlphanum)
      return .set (.char c)

/-! ### Sets -/

/-- The names of classes that may stand in a set. -/
def classNames : List String :=
  ["alnum", "alpha", "ascii", "blank", "cntrl", "digit", "graph", "lower", "print", "punct",
    "space", "upper", "word", "xdigit"]

/-- The class between colons and brackets that a text starts with, and what follows it. -/
def namedClass? : List Char → Option (CharSet × List Char)
  | '[' :: ':' :: cs =>
    let (negated, cs) := match cs with
      | '^' :: cs => (true, cs)
      | _ => (false, cs)
    match cs.span (· ≠ ':') with
    | (name, ':' :: ']' :: rest) =>
      if String.ofList name ∈ classNames then some (.named negated (String.ofList name), rest)
      else none
    | _ => none
  | _ => none

/-- A character, a class or a property in a set. -/
def setItem : PatternReader CharSet := do
  let item ←
    if ← passes '\\' then
      match ← escape with
      | .set s => pure s
      | _ => failure
    else pure (.char (← next))
  match item with
  | .char c => needsEveryScript (c.toNat < 0x80)
  | _ => pure ()
  return item

/-- The text without blanks and at most one comment mark in front. -/
def withoutMark (marked : Bool) : List Char → List Char
  | [] => []
  | c :: cs =>
    if Text.isBlank c then withoutMark marked cs
    else if c = '#' && !marked then withoutMark true cs
    else c :: cs

/-- The character that decides whether a dash in front of the text makes a range. -/
def decidesDash (m : PatternModes) (behind : List Char) : Option Char :=
  (if m.spaced then (withoutMark false behind).head? else none).or behind.head?

/-- An item of a set, or a range; a dash at the end of the set or in front of another one makes
none. -/
def setPart : PatternReader CharSet := do
  let first ← setItem
  skip
  match ← remaining with
  | [] => failure
  | '-' :: behind =>
    if decidesDash (← modes) behind ∈ [some ']', some '-'] then return first
    else
      goTo behind
      skip
      match first, ← setItem with
      | .char a, .char b =>
        guard (a ≤ b)
        return .range a b
      | _, _ => failure
  | _ => return first

/-- The dashes at the start of a set, which stand for themselves. -/
def dashes : Nat → PatternReader (List CharSet)
  | 0 => return []
  | n + 1 => do
    if ← passes '-' then
      skip
      return .char '-' :: (← dashes n)
    else return []

/-- The opening bracket of a set: whether the set is negated, and the marks behind the bracket that
stand for themselves. -/
def opening (n : Nat) : PatternReader (Bool × List CharSet) := do
  guard (← passes '[')
  skip
  let negated ← passes '^'
  needsEveryScript !negated
  skip
  let front ← dashes n
  if front.isEmpty then
    if ← passes ']' then
      skip
      return (negated, [.char ']'])
  return (negated, front)

/-- The operation that a doubled mark stands for. -/
def operation? : Char → Char → Option SetOperation
  | '&', '&' => some .intersection
  | '-', '-' => some .difference
  | '~', '~' => some .symmetricDifference
  | _, _ => none

/-- What the parts of a set make, the last one first, together with what stands left of them. -/
def joined (left : Option (SetOperation × CharSet)) (parts : List CharSet) : CharSet :=
  let right := CharSet.unionOf parts.reverse
  match left with
  | none => right
  | some (o, s) => .operation o s right

/-- A set up to its closing bracket. -/
def setBody : Nat → Option (SetOperation × CharSet) → List CharSet → PatternReader CharSet
  | 0, _, _ => failure
  | n + 1, left, parts => do
    skip
    match ← remaining with
    | [] => failure
    | ']' :: rest => goTo rest; return joined left parts
    | '[' :: cs =>
      match namedClass? ('[' :: cs) with
      | some (s, rest) =>
        goTo rest
        match s with
        | .named true _ => needsEveryScript false
        | _ => pure ()
        setBody n left (s :: parts)
      | none =>
        let (negated, front) ← opening n
        let body ← setBody n none front
        setBody n left (.bracketed negated body :: parts)
    | c :: rest =>
      match rest.head?.bind (operation? c) with
      | some o => goTo (rest.drop 1); setBody n (some (o, joined left parts)) []
      | none => setBody n left ((← setPart) :: parts)

/-! ### Groups -/

/-- What an opening parenthesis starts. -/
inductive Start where
  /-- Only modes for the rest of the group. -/
  | setting (m : PatternModes)
  /-- A group with modes of its own. -/
  | group (m : PatternModes)

/-- A group has the name, which is not yet used. -/
def naming (name : List Char) : PatternReader Unit := do
  guard (name.head?.any fun c => c = '_' || Text.isAlphabetic c)
  guard (name.all fun c => c ∈ ['_', '.', '[', ']'] || Text.isAlphanumeric c)
  guard (name ∉ (← get).names)
  modify fun cursor => { cursor with names := name :: cursor.names }

/-- The start of a group with a name, from behind the mark in front of it. -/
def namedStart (cs : List Char) : PatternReader Start := do
  match cs.span (· ≠ '>') with
  | (name, _ :: rest) =>
    naming name
    goTo rest
    return .group (← modes)
  | (_, []) => failure

/-- The flags of a setting or of a group, from behind the mark in front of them. -/
def flaggedStart (cs : List Char) : PatternReader Start := do
  match cs.span fun c => c ≠ ':' && c ≠ ')' with
  | (flags, close :: rest) =>
    guard (PatternModes.areFlags flags)
    goTo rest
    let m := (← modes).withFlags flags
    if close = ':' then return .group m
    else
      guard !flags.isEmpty
      return .setting m
  | (_, []) => failure

/-- What an opening parenthesis starts, from behind it. -/
def start : PatternReader Start := do
  skip
  match ← remaining with
  | '?' :: 'P' :: '<' :: cs => namedStart cs
  | '?' :: '<' :: cs => namedStart cs
  | '?' :: cs => flaggedStart cs
  | _ => return .group (← modes)

/-! ### Patterns -/

/-- A character, a place or any character. -/
def atom : PatternReader Pattern := do
  let c ← next
  match c with
  | '\\' => escape
  | '.' => needsEveryScript false; return .anyChar
  | '^' | '$' => return .place .textEdge
  | '\x7b' => failure
  | _ => return .set (.char c)

/-- A pattern up to the end of the text or of a group. The choices so far and the items of the last
one come with the last first. -/
def body : Nat → List Pattern → List Pattern → PatternReader Pattern
  | 0, _, _ => failure
  | n + 1, choices, items => do
    let last := Pattern.sequenceOf items.reverse
    skip
    match ← remaining with
    | [] | ')' :: _ => return Pattern.choiceOf (last :: choices).reverse
    | '|' :: rest => goTo rest; body n (last :: choices) []
    | '(' :: rest =>
      goTo rest
      match ← start with
      | .setting m => setModes m; body n choices (.setting :: items)
      | .group inner =>
        let outer ← modes
        setModes inner
        let grouped ← body n [] []
        guard (← passes ')')
        setModes outer
        body n choices (.group grouped :: items)
    | '[' :: _ =>
      let (negated, front) ← opening n
      let held ← setBody n none front
      body n choices (.set (.bracketed negated held) :: items)
    | c :: rest =>
      if c ∈ ['?', '*', '+'] then
        match items with
        | [] | .setting :: _ => failure
        | p :: items =>
          goTo rest
          discard (passes '?')
          body n choices (.repeated p :: items)
      else body n choices ((← atom) :: items)

end PatternReader

/-- The pattern that a text stands for. -/
def Pattern.read (text : List Char) : Except PatternFault Pattern :=
  match (PatternReader.body (text.length + 1) [] []).run { rest := text } with
  | some (p, { rest := [], .. }) => p.checked
  | _ => .error .malformed

end SocAssembly
