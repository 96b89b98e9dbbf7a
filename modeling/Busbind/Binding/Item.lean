import Busbind.Binding.ValueType

/-! The items of generated code, as data. What an item means can be read off it without looking at
how it is laid out. -/
namespace Busbind

inductive BusArgument
  | name (member : String)
  | noReply
  | property
  | signal
  | outArguments (names : List String)
  deriving DecidableEq, Repr

structure Argument where
  name : Identifier
  type : ValueType
  deriving DecidableEq, Repr

inductive Receiver
  | free
  | self
  | emitter
  deriving DecidableEq, Repr

/-- What a function returns. Several values are a tuple, none the unit. -/
inductive Returns
  | values (types : List ValueType)
  | busResult (types : List ValueType)
  | constructed
  | handlerReference
  deriving DecidableEq, Repr

structure Signature where
  isPublic : Bool := false
  isAsync : Bool := false
  name : Identifier
  receiver : Receiver
  arguments : List Argument
  returns : Returns
  deriving DecidableEq, Repr

inductive Body
  | construct
  | borrow
  | forward (method : Identifier) (arguments : List Identifier)
  | emit (member : String) (arguments : List Identifier)
  deriving DecidableEq, Repr

structure Function where
  docs : List String
  bus : List BusArgument
  signature : Signature
  body : Option Body
  deriving DecidableEq, Repr

inductive ConstantValue
  | text (s : String)
  | version (major minor : UInt32)
  deriving DecidableEq, Repr

structure Field where
  docs : List String
  rename : Option String
  name : Identifier
  type : ValueType
  deriving DecidableEq, Repr

inductive Item
  | constant (doc : String) (name : String) (value : ConstantValue)
  | record (docs : List String) (derives : List String) (name : Identifier) (fields : List Field)
  | synonym (docs : List String) (name : Identifier) (type : ValueType)
  | proxy (docs : List String) (interface path : String) (name : Identifier)
      (functions : List Function)
  | handler (docs : List String) (name : Identifier) (functions : List Function)
  | server (docs : List String) (name : Identifier)
  | implementation (exported : Option String) (handler server : Identifier)
      (functions : List Function)
  deriving DecidableEq, Repr

structure BindingFile where
  header : Option String
  module : Option Identifier
  items : List Item
  deriving DecidableEq, Repr

end Busbind
