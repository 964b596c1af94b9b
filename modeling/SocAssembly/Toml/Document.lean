import SocAssembly.Toml.Scalar

/-!
# TOML documents

## The model

A document is a sequence of lines: blank ones, comments, headers and named values. `parse` reads
it into one table, or refuses it. Arrays and tables in braces may nest, and dotted keys may be
long, to a depth below `nestingLimit`. A mark of the byte order in front of the document is
skipped.

Reading a value nests once for each bracket or brace, so it recurs on the depth that is left. The
loops over the items of an array, the fields of a table and the lines of the document consume at
least one character in each round, so the length of what is left bounds them.
-/

namespace SocAssembly.Toml

/-- The depth at which nesting is refused. -/
def nestingLimit : Nat := 80

/-- Skips blanks, line breaks and comments. `inComment` holds within a comment, which has to end
with its line. -/
def skipLines (inComment : Bool) : List Char → Option (List Char)
  | '\n' :: rest => skipLines false rest
  | '\r' :: '\n' :: rest => skipLines false rest
  | c :: rest =>
    if inComment then if isCommentChar c then skipLines true rest else none
    else if isInlineBlank c then skipLines false rest
    else if c = '#' then skipLines true rest
    else some (c :: rest)
  | [] => if inComment then none else some []

/-- What is left behind the end of a line, which may have blanks and a comment in front. -/
def lineEnd (cs : List Char) : Option (List Char) :=
  let behind := match skipBlanks cs with
    | '#' :: rest => rest.dropWhile isCommentChar
    | rest => rest
  match behind with
  | [] => some []
  | cs => if startsLine cs then some (dropLineBreak cs) else none

/-- The character may stand in a key without quotes. -/
def isBareChar (c : Char) : Bool := c.isAlphanum || c = '-' || c = '_'

/-- A single key. -/
def simpleKey : Scan String
  | '"' :: rest => (basicBody rest).map fun (k, rest) => (String.ofList k, rest)
  | '\'' :: rest => (literalBody rest).map fun (k, rest) => (String.ofList k, rest)
  | cs =>
    let k := cs.takeWhile isBareChar
    if k.isEmpty then none else some (String.ofList k, cs.dropWhile isBareChar)

/-- Keys between dots, with the blanks around them, in at most `fuel` rounds. -/
def keysWithin : Nat → Scan (List String)
  | 0, _ => none
  | fuel + 1, cs => do
    let (k, rest) ← simpleKey (skipBlanks cs)
    match skipBlanks rest with
    | '.' :: rest => do
      let (ks, rest) ← keysWithin fuel rest
      some (k :: ks, rest)
    | rest => some ([k], rest)

/-- A key: the path in front of its last part, and the last part. -/
def key : Scan (List String × String) := fun cs => do
  let (ks, rest) ← keysWithin (cs.length + 1) cs
  let last ← ks.getLast?
  if nestingLimit ≤ ks.length then none else some ((ks.dropLast, last), rest)

/-- The items of an array and its closing bracket, in at most `fuel` rounds. -/
def itemsWithin (item : Scan Value) : Nat → Scan (List Value)
  | 0, _ => none
  | fuel + 1, cs => do
    match ← skipLines false cs with
    | ']' :: rest => some ([], rest)
    | cs => do
      let (v, rest) ← item cs
      match ← skipLines false rest with
      | ',' :: rest => do
        let (vs, rest) ← itemsWithin item fuel rest
        some (v :: vs, rest)
      | ']' :: rest => some ([v], rest)
      | _ => none

/-- The fields of a table in braces, added to those before them, and its closing brace, in at most
`fuel` rounds. -/
def fieldsWithin (item : Scan Value) : Nat → Table → Scan Table
  | 0, _, _ => none
  | fuel + 1, t, cs => do
    let ((path, k), rest) ← key cs
    match rest with
    | '=' :: rest => do
      let (v, rest) ← item (skipBlanks rest)
      let t ← t.define path k v
      match skipBlanks rest with
      | ',' :: rest => fieldsWithin item fuel t rest
      | '\x7d' :: rest => some (t, rest)
      | _ => none
    | _ => none

/-- A table in braces, from behind the opening one. -/
def bracedTable (item : Scan Value) : Scan Value := fun cs =>
  match skipBlanks cs with
  | '\x7d' :: rest => some (.table .braced [], rest)
  | cs => (fieldsWithin item (cs.length + 1) ⟨.braced, []⟩ cs).map fun (t, rest) =>
    (t.toValue, rest)

/-- A text as a value. -/
def textValue (r : Option (List Char × List Char)) : Option (Value × List Char) :=
  r.map fun (cs, rest) => (.string (String.ofList cs), rest)

/-- A value in which brackets and braces nest at most `depth` times. -/
def valueWithin (depth : Nat) : Scan Value
  | '"' :: '"' :: '"' :: rest => textValue (multilineBasicBody false (dropLineBreak rest))
  | '"' :: rest => textValue (basicBody rest)
  | '\'' :: '\'' :: '\'' :: rest => textValue (multilineLiteralBody (dropLineBreak rest))
  | '\'' :: rest => textValue (literalBody rest)
  | 't' :: 'r' :: 'u' :: 'e' :: rest => some (.boolean true, rest)
  | 'f' :: 'a' :: 'l' :: 's' :: 'e' :: rest => some (.boolean false, rest)
  | '[' :: rest =>
    match depth with
    | 0 => none
    | depth + 1 =>
      (itemsWithin (valueWithin depth) (rest.length + 1) rest).map fun (vs, rest) =>
        (.array .bracketed vs, rest)
  | '\x7b' :: rest =>
    match depth with
    | 0 => none
    | depth + 1 => bracedTable (valueWithin depth) rest
  | cs =>
    match dateTime cs with
    | some r => some r
    | none => number cs
termination_by structural depth

/-- A value. -/
def value : Scan Value := valueWithin (nestingLimit - 1)

/-- A document that is being read: its table, and the path of the last header. -/
structure Draft where
  /-- All that was read. -/
  root : Table
  /-- The path of the table that named values go to. -/
  here : List String

namespace Draft

/-- The document with a named value in the table of the last header. -/
def define (d : Draft) (path : List String) (k : String) (v : Value) : Option Draft := do
  let root ← Table.descend false d.here d.root (Table.define path k v)
  some { d with root := root }

/-- A header for a table, from behind its bracket. -/
def tableHeader (d : Draft) (cs : List Char) : Option (Draft × List Char) := do
  let ((path, k), rest) ← key cs
  match rest with
  | ']' :: rest => do
    let root ← d.root.openTable path k
    some (⟨root, path ++ [k]⟩, ← lineEnd rest)
  | _ => none

/-- A header for an element of an array, from behind its brackets. -/
def elementHeader (d : Draft) (cs : List Char) : Option (Draft × List Char) := do
  let ((path, k), rest) ← key cs
  match rest with
  | ']' :: ']' :: rest => do
    let root ← d.root.openElement path k
    some (⟨root, path ++ [k]⟩, ← lineEnd rest)
  | _ => none

/-- A named value. -/
def namedValue (d : Draft) (cs : List Char) : Option (Draft × List Char) := do
  let ((path, k), rest) ← key cs
  match rest with
  | '=' :: rest => do
    let (v, rest) ← value (skipBlanks rest)
    let d ← d.define path k v
    some (d, ← lineEnd rest)
  | _ => none

/-- The rest of the document, in at most `fuel` lines. -/
def linesWithin : Nat → Draft → List Char → Option Table
  | 0, _, _ => none
  | fuel + 1, d, cs =>
    match skipBlanks cs with
    | [] => some d.root
    | '[' :: '[' :: rest => do
      let (d, rest) ← d.elementHeader rest
      linesWithin fuel d rest
    | '[' :: rest => do
      let (d, rest) ← d.tableHeader rest
      linesWithin fuel d rest
    | c :: rest =>
      if c = '#' || c = '\n' || c = '\r' then do linesWithin fuel d (← lineEnd (c :: rest))
      else do
        let (d, rest) ← d.namedValue (c :: rest)
        linesWithin fuel d rest

end Draft

/-- The table that a document denotes, if it is well formed. -/
def parse (text : String) : Option Table :=
  let cs := match text.toList with
    | '\uFEFF' :: rest => rest
    | cs => cs
  Draft.linesWithin (cs.length + 1) ⟨⟨.header, []⟩, []⟩ cs

end SocAssembly.Toml
