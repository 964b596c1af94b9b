/-!
# White space

## The model

A character is blank when it has the standard property *White_Space*. The words of a text are its
longest stretches without a blank, in order; trimming takes blanks off the ends and never from
within.
-/

namespace SocAssembly.Text

/-- The character is white space. -/
def isBlank (c : Char) : Bool :=
  let n := c.toNat
  (0x09 ≤ n && n ≤ 0x0D) || n == 0x20 || n == 0x85 || n == 0xA0 || n == 0x1680
    || (0x2000 ≤ n && n ≤ 0x200A) || n == 0x2028 || n == 0x2029 || n == 0x202F || n == 0x205F
    || n == 0x3000

/-- The words of a list of characters, in order. -/
def wordsOf (cs : List Char) : List (List Char) :=
  (cs.splitOnP isBlank).filter (fun w => !w.isEmpty)

/-- The words of a text, in order. -/
def words (s : String) : List String := (wordsOf s.toList).map String.ofList

/-- The list of characters without the blanks at its end. -/
def trimEndOf (cs : List Char) : List Char := (cs.reverse.dropWhile isBlank).reverse

/-- The text without the blanks at its end. -/
def trimEnd (s : String) : String := String.ofList (trimEndOf s.toList)

/-- The text without the blanks at both ends. -/
def trim (s : String) : String := String.ofList (trimEndOf (s.toList.dropWhile isBlank))

end SocAssembly.Text
