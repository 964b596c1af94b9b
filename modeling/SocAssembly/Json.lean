import SocAssembly.Text.Hex

/-!
# JSON

## The model

A finished design can be written as a JSON text for other programs. The text has one item or field
on a line, indented by two blanks for each level; what is empty stays on one line. Quotes, reverse
slashes and control characters are escaped in texts, with the short escapes where there is one, and
nothing else is.
-/

namespace SocAssembly

/-- A JSON value with whole numbers only. -/
inductive Json where
  /-- Nothing. -/
  | null
  /-- A whole number. -/
  | number (n : Nat)
  /-- A text. -/
  | string (s : String)
  /-- A list. -/
  | array (items : List Json)
  /-- Named values. -/
  | object (fields : List (String × Json))
  deriving Inhabited, Repr

namespace Json

/-- The value, if there is one. -/
def ofOption {α : Type} (f : α → Json) : Option α → Json
  | none => null
  | some a => f a

/-- A character as it is written within a text. -/
def escapeChar : Char → List Char
  | '"' => ['\\', '"']
  | '\\' => ['\\', '\\']
  | '\x08' => ['\\', 'b']
  | '\t' => ['\\', 't']
  | '\n' => ['\\', 'n']
  | '\x0c' => ['\\', 'f']
  | '\r' => ['\\', 'r']
  | c =>
    if c.toNat < 0x20 then ['\\', 'u'] ++ (Text.hexDigits c.toNat).leftpad 4 '0' else [c]

/-- A text in quotes. -/
def quote (s : String) : String := "\"" ++ String.ofList (s.toList.flatMap escapeChar) ++ "\""

/-- A line break with the indentation of a level. -/
def newline (depth : Nat) : String := "\n" ++ String.ofList (List.replicate (2 * depth) ' ')

/-- Parts between brackets, each on a line of its own. -/
def bracketed (depth : Nat) (opening closing : String) (parts : List String) : String :=
  if parts.isEmpty then opening ++ closing
  else
    opening ++ newline (depth + 1) ++ String.intercalate ("," ++ newline (depth + 1)) parts
      ++ newline depth ++ closing

mutual

/-- The text of a value that stands at a level. -/
def renderAt (depth : Nat) : Json → String
  | null => "null"
  | number n => toString n
  | string s => quote s
  | array items => bracketed depth "[" "]" (renderItems (depth + 1) items)
  | object fields => bracketed depth "\x7b" "\x7d" (renderFields (depth + 1) fields)

/-- The texts of the items of a list. -/
def renderItems (depth : Nat) : List Json → List String
  | [] => []
  | item :: rest => renderAt depth item :: renderItems depth rest

/-- The texts of the fields of named values. -/
def renderFields (depth : Nat) : List (String × Json) → List String
  | [] => []
  | (name, value) :: rest => (quote name ++ ": " ++ renderAt depth value) :: renderFields depth rest

end

/-- The text of a value. -/
def render (j : Json) : String := j.renderAt 0

end Json

end SocAssembly
