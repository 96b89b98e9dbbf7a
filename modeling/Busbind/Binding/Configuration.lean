/-! What kind of bindings to generate. -/
namespace Busbind

inductive Mode
  | sender
  | receiver
  deriving DecidableEq, Repr

def Mode.describe : Mode → String
  | .sender => "sender"
  | .receiver => "receiver"

/-- A module of none leaves the generated items at the top level. -/
structure Configuration where
  mode : Mode := .sender
  module : Option String := none
  header : Bool := true
  serde : Bool := true
  deriving DecidableEq, Repr

namespace Configuration

def withMode (c : Configuration) (mode : Mode) : Configuration := { c with mode }

def withModule (c : Configuration) (name : String) : Configuration :=
  { c with module := if name.isEmpty then none else some name }

def withHeader (c : Configuration) (header : Bool) : Configuration := { c with header }

def withSerde (c : Configuration) (serde : Bool) : Configuration := { c with serde }

end Configuration

end Busbind
