/-!
# Capabilities

## The model

What software can do with an entry of the address map, as a set of six flags. The set is written
as the names of its flags in a fixed order, between bars.
-/

namespace SocAssembly

/-- What an entry offers. -/
structure Capabilities where
  /-- It can be read. -/
  read : Bool := false
  /-- It can be written. -/
  write : Bool := false
  /-- Code can run from it. -/
  execute : Bool := false
  /-- It is storage. -/
  memory : Bool := false
  /-- It is a block of registers. -/
  csr : Bool := false
  /-- It raises events. -/
  events : Bool := false
  deriving DecidableEq, Repr

namespace Capabilities

/-- The flags with their names, in the order of writing. -/
def flags (c : Capabilities) : List (String × Bool) :=
  [("READ", c.read), ("WRITE", c.write), ("EXECUTE", c.execute), ("MEMORY", c.memory),
    ("CSR", c.csr), ("EVENTS", c.events)]

/-- The names of the flags that are set. -/
def text (c : Capabilities) : String :=
  String.intercalate " | " ((c.flags.filter (·.2)).map (·.1))

end Capabilities

end SocAssembly
