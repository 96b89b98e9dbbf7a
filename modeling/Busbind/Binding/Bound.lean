import Busbind.Binding.Configuration
import Busbind.Binding.ValueType
import Busbind.Definition

/-! A definition with every name and type that its bindings need resolved. Resolution visits them in
a fixed order, the same for both sides of the connection, and stops at the first that cannot be
used; after it nothing can fail. -/
namespace Busbind

structure BoundParameter where
  source : Parameter
  name : BoundName
  type : ValueType
  deriving DecidableEq, Repr

structure BoundStruct where
  source : Struct
  name : BoundName
  fields : List BoundParameter
  deriving DecidableEq, Repr

structure BoundAlias where
  description : String
  name : BoundName
  type : ValueType
  deriving DecidableEq, Repr

structure BoundMethod where
  source : Method
  name : BoundName
  arguments : List BoundParameter
  replies : List ValueType
  deriving DecidableEq, Repr

structure BoundAttribute where
  source : Attribute
  name : BoundName
  type : ValueType
  deriving DecidableEq, Repr

structure BoundBroadcast where
  source : Broadcast
  name : BoundName
  arguments : List BoundParameter
  deriving DecidableEq, Repr

structure BoundDefinition where
  source : Definition
  structs : List BoundStruct
  typedefs : List BoundAlias
  arrays : List BoundAlias
  name : BoundName
  methods : List BoundMethod
  attributes : List BoundAttribute
  broadcasts : List BoundBroadcast
  module : Option BoundName
  deriving DecidableEq, Repr

namespace BoundParameter

def bind (role : NameRole) (p : Parameter) : Except BindingError BoundParameter := do
  let name ← BoundName.snake role p.name
  let type ← ValueType.ofReference p.type p.isArray
  .ok ⟨p, name, type⟩

end BoundParameter

namespace BoundStruct

def bind (s : Struct) : Except BindingError BoundStruct := do
  let name ← BoundName.camel .struct s.name
  let fields ← s.fields.mapM (BoundParameter.bind .field)
  .ok ⟨s, name, fields⟩

end BoundStruct

namespace BoundAlias

def bindTypedef (t : Typedef) : Except BindingError BoundAlias := do
  let name ← BoundName.camel .typedef t.name
  let type ← ValueType.ofReference t.aliased false
  .ok ⟨t.description, name, type⟩

def bindArray (a : ArrayAlias) : Except BindingError BoundAlias := do
  let name ← BoundName.camel .array a.name
  let type ← ValueType.ofReference a.element true
  .ok ⟨a.description, name, type⟩

end BoundAlias

namespace BoundMethod

/-- The types of the reply; the outputs of a method without reply are not looked at. -/
def bindReplies (m : Method) : Except BindingError (List ValueType) :=
  if m.fireAndForget then .ok []
  else m.outputs.mapM fun p => ValueType.ofReference p.type p.isArray

def bind (m : Method) : Except BindingError BoundMethod := do
  let name ← BoundName.snake .method m.name
  let arguments ← m.inputs.mapM (BoundParameter.bind .parameter)
  let replies ← bindReplies m
  .ok ⟨m, name, arguments, replies⟩

end BoundMethod

namespace BoundAttribute

def bind (a : Attribute) : Except BindingError BoundAttribute := do
  let name ← BoundName.snake .attr a.name
  let type ← ValueType.ofReference a.type a.isArray
  .ok ⟨a, name, type⟩

end BoundAttribute

namespace BoundBroadcast

def bind (b : Broadcast) : Except BindingError BoundBroadcast := do
  let name ← BoundName.snake .broadcast b.name
  let arguments ← b.outputs.mapM (BoundParameter.bind .parameter)
  .ok ⟨b, name, arguments⟩

end BoundBroadcast

namespace BoundDefinition

def bindModule : Option String → Except BindingError (Option BoundName)
  | none => .ok none
  | some name => (BoundName.snake .module name).map some

def bind (module : Option String) (d : Definition) : Except BindingError BoundDefinition := do
  let structs ← d.structs.mapM BoundStruct.bind
  let typedefs ← d.typedefs.mapM BoundAlias.bindTypedef
  let arrays ← d.arrays.mapM BoundAlias.bindArray
  let name ← BoundName.camel .interface d.interface.name
  let methods ← d.methods.mapM BoundMethod.bind
  let attributes ← d.attributes.mapM BoundAttribute.bind
  let broadcasts ← d.broadcasts.mapM BoundBroadcast.bind
  let module ← bindModule module
  .ok ⟨d, structs, typedefs, arrays, name, methods, attributes, broadcasts, module⟩

end BoundDefinition

end Busbind
