import Busbind.Naming
import Busbind.Vocabulary

/-! Identifiers of the generated code, and why a definition has no bindings. A name is cased first
and then kept clear of the reserved words: by the raw form where the word has one, by an underscore
at its end where it has none. -/
namespace Busbind

inductive NameRole
  | method
  | attr
  | broadcast
  | parameter
  | field
  | struct
  | typedef
  | array
  | interface
  | module
  | type
  deriving DecidableEq, Repr

def NameRole.describe : NameRole → String
  | .method => "method"
  | .attr => "attribute"
  | .broadcast => "broadcast"
  | .parameter => "parameter"
  | .field => "field"
  | .struct => "struct"
  | .typedef => "typedef"
  | .array => "array"
  | .interface => "interface"
  | .module => "module"
  | .type => "type"

inductive BindingError
  | invalidName (role : NameRole) (name : String)
  | missingType
  deriving DecidableEq, Repr

namespace BindingError

def missingTypeReason : String := "missing type name"

def message : BindingError → String
  | .invalidName role name =>
    role.describe ++ " name `" ++ name ++ "` cannot be used as a Rust identifier"
  | .missingType => "type `` cannot be mapped to a Rust type: " ++ missingTypeReason

end BindingError

structure Identifier where
  text : String
  raw : Bool := false
  deriving DecidableEq, Repr

namespace Identifier

def spelling (i : Identifier) : String := if i.raw then "r#" ++ i.text else i.text

def isWellFormed : List Char → Bool
  | [] => false
  | c :: cs => c.isAlpha && cs.all fun d => d.isAlphanum || d = '_'

def avoiding (word : String) : Identifier :=
  if !isReserved word then ⟨word, false⟩
  else if hasRawForm word then ⟨word, true⟩
  else ⟨word ++ "_", false⟩

def ofWord? (word : String) : Option Identifier :=
  if isWellFormed word.toList then some (avoiding word) else none

end Identifier

/-- A name of the definition with its identifier. `explicit` says that the name on the bus has to be
written out, because another would be derived from the identifier. -/
structure BoundName where
  identifier : Identifier
  explicit : Bool
  deriving DecidableEq, Repr

namespace BoundName

def ofWord (role : NameRole) (name word : String) (differs : Bool) :
    Except BindingError BoundName :=
  match Identifier.ofWord? word with
  | none => .error (.invalidName role name)
  | some identifier => .ok ⟨identifier, differs || isReserved word⟩

def snake (role : NameRole) (name : String) : Except BindingError BoundName :=
  let word := Naming.snakeCase name
  ofWord role name word (Naming.upperCamelCase word != name)

def camel (role : NameRole) (name : String) : Except BindingError BoundName :=
  let word := Naming.upperCamelCase name
  ofWord role name word (word != name)

end BoundName

end Busbind
