/-!
# Columns

## The model

A table in plain text sets each entry in a column of a least width. An entry that is shorter is
filled with blanks, on its right when it is text and on its left when it is a number; a longer
entry keeps its full length and pushes the rest of its line to the right. Widths count characters.
-/

namespace SocAssembly.Text

/-- The text filled with blanks on its right. -/
def padRight (width : Nat) (s : String) : String := String.ofList (s.toList.rightpad width ' ')

/-- The text filled with blanks on its left. -/
def padLeft (width : Nat) (s : String) : String := String.ofList (s.toList.leftpad width ' ')

/-- The text of a list of lines, each ended by a line feed. -/
def unlines (lines : List String) : String := String.join (lines.map (· ++ "\n"))

end SocAssembly.Text
