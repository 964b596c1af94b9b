/-!
# Patterns for texts

## The model

A pattern describes texts by sets of characters and by places between characters. Patterns are
repeated, put into groups, written one behind the other and offered as choices. A setting in a
pattern changes how the text of the pattern behind it is read and asks for nothing itself.

What counts here is whether a pattern can be used, not which texts it describes. Its parts may lie
in each other only to a certain depth (`Pattern.depth`), and it must not look for the edges of words
in the letters of every script (`Pattern.seeksWordEdge`), only in those of the basic alphabet.
-/

namespace SocAssembly

/-- What becomes of two sets of characters. -/
inductive SetOperation where
  /-- What lies in both. -/
  | intersection
  /-- What lies in the first alone. -/
  | difference
  /-- What lies in one of the two alone. -/
  | symmetricDifference
  deriving DecidableEq, Repr

/-- A set of characters. -/
inductive CharSet where
  /-- A character alone. -/
  | char (c : Char)
  /-- The characters from one to another. -/
  | range (first last : Char)
  /-- The characters of a class that has a name, or all others. -/
  | named (negated : Bool) (name : String)
  /-- A set in brackets, or all that it does not hold. -/
  | bracketed (negated : Bool) (body : CharSet)
  /-- What lies in some of the parts. -/
  | union (parts : List CharSet)
  /-- What becomes of two sets. -/
  | operation (o : SetOperation) (left right : CharSet)
  deriving Repr

/-- Between which characters a pattern looks. -/
inductive PatternPlace where
  /-- At the start or the end of the text or of a line. -/
  | textEdge
  /-- Where a word starts or ends, or where none does; its letters are those of every script or of
  the basic alphabet alone. -/
  | wordEdge (everyScript : Bool)
  deriving DecidableEq, Repr

/-- A pattern for texts. -/
inductive Pattern where
  /-- Nothing at all. -/
  | empty
  /-- A setting for what follows. -/
  | setting
  /-- A character out of a set. -/
  | set (s : CharSet)
  /-- Any character. -/
  | anyChar
  /-- A place between characters. -/
  | place (p : PatternPlace)
  /-- The same pattern several times or not at all. -/
  | repeated (p : Pattern)
  /-- A pattern in parentheses. -/
  | group (p : Pattern)
  /-- Patterns one behind the other. -/
  | sequence (parts : List Pattern)
  /-- One of several patterns. -/
  | choice (parts : List Pattern)
  deriving Repr

namespace CharSet

/-- The union of some sets; one alone is itself. -/
def unionOf : List CharSet → CharSet
  | [s] => s
  | parts => .union parts

mutual

/-- How deeply sets lie in each other; single characters, ranges and classes lie in none. -/
def depth : CharSet → Nat
  | .char _ | .range _ _ | .named _ _ => 0
  | .bracketed _ body => body.depth + 1
  | .union [] => 0
  | .union (s :: parts) => max s.depth (depthOfAll parts) + 1
  | .operation _ left right => max left.depth right.depth + 1

/-- The greatest depth of some sets. -/
def depthOfAll : List CharSet → Nat
  | [] => 0
  | s :: rest => max s.depth (depthOfAll rest)

end

end CharSet

/-- Why a pattern cannot be used. -/
inductive PatternFault where
  /-- Its text does not have the form of one, or it is too deep. -/
  | malformed
  /-- It looks for the edges of words in the letters of every script. -/
  | wordEdge
  deriving DecidableEq, Repr

/-- The text shown for a fault. -/
def PatternFault.message : PatternFault → String
  | malformed => "error building NFA"
  | wordEdge =>
    "unsupported regex feature for DFAs: cannot build DFAs for regexes with Unicode word " ++
      "boundaries; switch to ASCII word boundaries, or heuristically enable Unicode word " ++
      "boundaries or use a different regex engine"

namespace Pattern

/-- Some patterns one behind the other; one alone is itself, none is nothing. -/
def sequenceOf : List Pattern → Pattern
  | [] => .empty
  | [p] => p
  | parts => .sequence parts

/-- The choice of some patterns; one alone is itself. -/
def choiceOf : List Pattern → Pattern
  | [p] => p
  | parts => .choice parts

mutual

/-- How deeply patterns and sets lie in each other. -/
def depth : Pattern → Nat
  | .empty | .setting | .anyChar | .place _ => 0
  | .set s => s.depth
  | .repeated p | .group p => p.depth + 1
  | .sequence parts | .choice parts => depthOfAll parts + 1

/-- The greatest depth of some patterns. -/
def depthOfAll : List Pattern → Nat
  | [] => 0
  | p :: rest => max p.depth (depthOfAll rest)

end

mutual

/-- The pattern looks for the edges of words in the letters of every script. -/
def seeksWordEdge : Pattern → Bool
  | .empty | .setting | .anyChar | .set _ => false
  | .place p => p = .wordEdge true
  | .repeated p | .group p => p.seeksWordEdge
  | .sequence parts | .choice parts => someSeekWordEdge parts

/-- Some of the patterns look for the edges of words in the letters of every script. -/
def someSeekWordEdge : List Pattern → Bool
  | [] => false
  | p :: rest => p.seeksWordEdge || someSeekWordEdge rest

end

/-- How deeply patterns and sets may lie in each other. -/
def maxDepth : Nat := 250

/-- The pattern, if it can be used. -/
def checked (p : Pattern) : Except PatternFault Pattern :=
  if maxDepth < p.depth then .error .malformed
  else if p.seeksWordEdge then .error .wordEdge
  else .ok p

end Pattern

end SocAssembly
