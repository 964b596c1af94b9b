/-!
# XML

## The model

A document is a tree of elements. An element that holds a text alone stands on one line; one that
holds elements has each of them on lines of its own, indented by two blanks more. In texts the
characters that begin and end marks are escaped.
-/

namespace SocAssembly

/-- An element. -/
inductive Xml where
  /-- One that holds a text. -/
  | leaf (name text : String)
  /-- One that holds elements, with its attributes. -/
  | node (name : String) (attributes : List (String × String)) (children : List Xml)
  deriving Inhabited, Repr

namespace Xml

/-- A character as it is written within a text. -/
def escapeChar : Char → List Char
  | '<' => ['&', 'l', 't', ';']
  | '>' => ['&', 'g', 't', ';']
  | '&' => ['&', 'a', 'm', 'p', ';']
  | c => [c]

/-- A text as it is written. -/
def escape (s : String) : String := String.ofList (s.toList.flatMap escapeChar)

/-- Blanks in front of a line. -/
def indentation (depth : Nat) : String := String.ofList (List.replicate (2 * depth) ' ')

/-- An attribute as it is written. -/
def attributeText (a : String × String) : String := " " ++ a.1 ++ "=\"" ++ a.2 ++ "\""

mutual

/-- The lines of an element that stands at a level. -/
def linesAt (depth : Nat) : Xml → List String
  | leaf name text =>
    [indentation depth ++ "<" ++ name ++ ">" ++ escape text ++ "</" ++ name ++ ">"]
  | node name attributes [] =>
    [indentation depth ++ "<" ++ name ++ String.join (attributes.map attributeText) ++ " />"]
  | node name attributes (c :: rest) =>
    (indentation depth ++ "<" ++ name ++ String.join (attributes.map attributeText) ++ ">")
      :: (linesAt (depth + 1) c ++ linesOfAll (depth + 1) rest)
      ++ [indentation depth ++ "</" ++ name ++ ">"]

/-- The lines of elements, one after the other. -/
def linesOfAll (depth : Nat) : List Xml → List String
  | [] => []
  | c :: rest => linesAt depth c ++ linesOfAll depth rest

end

/-- The text of a document with this element at its root. -/
def document (root : Xml) : String :=
  String.join
    (("<?xml version=\"1.0\" encoding=\"UTF-8\"?>" :: root.linesAt 0).map (· ++ "\n"))

end Xml

end SocAssembly
