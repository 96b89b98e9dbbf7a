import Busbind.Binding.Identifier

/-! Types of the generated code for the type references of a definition. -/
namespace Busbind

inductive ValueType
  | builtin (type : BuiltinType)
  | user (name : Identifier)
  | vector (element : ValueType)
  deriving DecidableEq, Repr

namespace ValueType

def ofName (name : String) : Except BindingError ValueType :=
  if name.isEmpty then .error .missingType
  else
    match BuiltinType.ofSpelling? name with
    | some type => .ok (.builtin type)
    | none => (BoundName.camel .type (Naming.lastSegment name)).map fun n => .user n.identifier

def ofReference (name : String) (isArray : Bool) : Except BindingError ValueType :=
  (ofName name).map fun type => if isArray then .vector type else type

end ValueType

end Busbind
