/-!
# Places in a text

## The model

Places in a text are counted in bytes of its usual form, in which a character takes one to four of
them. A text can be cut only between two characters: a place inside a character is none.
-/

namespace SocAssembly.Text

/-- How many bytes a text takes. -/
def byteSize (cs : List Char) : Nat := (cs.map Char.utf8Size).foldr (· + ·) 0

/-- The text from a place on, if there is such a place. -/
def dropBytes? : Nat → List Char → Option (List Char)
  | 0, cs => some cs
  | _ + 1, [] => none
  | n + 1, c :: cs => if c.utf8Size ≤ n + 1 then dropBytes? (n + 1 - c.utf8Size) cs else none

/-- The text up to a place, if there is such a place. -/
def takeBytes? : Nat → List Char → Option (List Char)
  | 0, _ => some []
  | _ + 1, [] => none
  | n + 1, c :: cs =>
    if c.utf8Size ≤ n + 1 then (takeBytes? (n + 1 - c.utf8Size) cs).map (c :: ·) else none

/-- The text between two places, if there are such places. -/
def slice? (first last : Nat) (cs : List Char) : Option (List Char) :=
  (dropBytes? first cs).bind (takeBytes? (last - first))

end SocAssembly.Text
