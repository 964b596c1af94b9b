import SocAssembly.Text.Hex

/-!
# Control characters

## The model

A message may quote names that hold control characters, and a terminal would act on some of them:
escape, bell, backspace, form feed, delete, and the control characters of eight bits. Each of these
is shown by its code instead (`showControl`). Tabs and line breaks stay as they are, and so does
every other character.
-/

namespace SocAssembly.Text

/-- The control characters of seven bits that a terminal acts on, tabs and line breaks apart. -/
def shortControls : List Char := ['\x07', '\x08', '\x0c', '\x1b', '\x7f']

/-- The character is a control character of eight bits. -/
def isLongControl (c : Char) : Bool := 0x80 ≤ c.toNat && c.toNat ≤ 0x9F

/-- A character as it is shown on a terminal. -/
def showControl (c : Char) : List Char :=
  if c ∈ shortControls then ['\\', 'x'] ++ (hexDigits c.toNat).leftpad 2 '0'
  else if isLongControl c then ['\\', 'u', '\x7b'] ++ hexDigits c.toNat ++ ['\x7d']
  else [c]

/-- A text as it is shown on a terminal. -/
def showControls (s : String) : String := String.ofList (s.toList.flatMap showControl)

end SocAssembly.Text
