import Busbind.Binding.Bound
import Busbind.Binding.Documentation
import Busbind.Binding.Item

/-! The bindings of a definition: constants and types that both sides share, then the proxy of a
client or the handler and object of a server. -/
namespace Busbind.Binding

def optional (b : Bool) (a : α) : List α := if b then [a] else []

def argument (p : BoundParameter) : Argument := ⟨p.name.identifier, p.type⟩

def argumentNames (ps : List BoundParameter) : List Identifier := ps.map fun p => p.name.identifier

def memberName (name : BoundName) (member : String) : List BusArgument :=
  optional name.explicit (.name member)

def constants (d : Definition) : List Item :=
  [.constant " D-Bus interface name." "INTERFACE_NAME" (.text d.qualifiedName),
    .constant " Conventional object path for the interface." "DEFAULT_PATH"
      (.text (Naming.objectPath d.qualifiedName)),
    .constant " Interface version as `(major, minor)`." "INTERFACE_VERSION"
      (.version d.interface.major d.interface.minor)]

def derives (serde : Bool) : List String :=
  ["Debug", "Clone", "PartialEq", "zbus::zvariant::Type"] ++
    (if serde then ["serde::Serialize", "serde::Deserialize"] else [])

/-- A field whose identifier is not its name keeps its name in stored data. -/
def field (serde : Bool) (p : BoundParameter) : Field where
  docs := Documentation.ofDescription p.source.description
  rename := if serde && p.name.identifier.text != p.source.name then some p.source.name else none
  name := p.name.identifier
  type := p.type

def record (serde : Bool) (s : BoundStruct) : Item :=
  .record (Documentation.ofDescription s.source.description) (derives serde) s.name.identifier
    (s.fields.map (field serde))

def synonym (a : BoundAlias) : Item :=
  .synonym (Documentation.ofDescription a.description) a.name.identifier a.type

def interfaceDocs (d : Definition) : List String :=
  Documentation.ofDescription (d.interface.description.getD "")

def shared (serde : Bool) (b : BoundDefinition) : List Item :=
  constants b.source ++ b.structs.map (record serde) ++ b.typedefs.map synonym ++
    b.arrays.map synonym

namespace Proxy

def method (m : BoundMethod) : Function where
  docs := Documentation.ofDescription m.source.description
  bus := memberName m.name m.source.name ++ optional m.source.fireAndForget .noReply
  signature :=
    { name := m.name.identifier
      receiver := .self
      arguments := m.arguments.map argument
      returns := .busResult m.replies }
  body := none

def property (a : BoundAttribute) : Function where
  docs := Documentation.ofDescription a.source.description
  bus := .property :: memberName a.name a.source.name
  signature :=
    { name := a.name.identifier
      receiver := .self
      arguments := []
      returns := .busResult [a.type] }
  body := none

def signal (b : BoundBroadcast) : Function where
  docs := Documentation.ofDescription b.source.description
  bus := .signal :: memberName b.name b.source.name
  signature :=
    { name := b.name.identifier
      receiver := .self
      arguments := b.arguments.map argument
      returns := .busResult [] }
  body := none

def functions (b : BoundDefinition) : List Function :=
  b.methods.map method ++ b.attributes.map property ++ b.broadcasts.map signal

def items (b : BoundDefinition) : List Item :=
  let interface := b.source.qualifiedName
  [.proxy (interfaceDocs b.source) interface (Naming.objectPath interface) b.name.identifier
    (functions b)]

end Proxy

namespace Server

/-- The names of several reply values, which the bus would otherwise leave unnamed. -/
def outArguments (m : BoundMethod) : List BusArgument :=
  optional (!m.source.fireAndForget && decide (1 < m.source.outputs.length))
    (.outArguments (m.source.outputs.map Parameter.name))

def methodSignature (m : BoundMethod) (isAsync : Bool) : Signature where
  isAsync := isAsync
  name := m.name.identifier
  receiver := .self
  arguments := m.arguments.map argument
  returns := .values m.replies

def handlerMethod (m : BoundMethod) : Function where
  docs := Documentation.ofDescription m.source.description
  bus := []
  signature := methodSignature m false
  body := none

def exportedMethod (m : BoundMethod) : Function where
  docs := Documentation.ofDescription m.source.description
  bus := memberName m.name m.source.name ++ outArguments m
  signature := methodSignature m true
  body := some (.forward m.name.identifier (argumentNames m.arguments))

def propertySignature (a : BoundAttribute) (isAsync : Bool) : Signature where
  isAsync := isAsync
  name := a.name.identifier
  receiver := .self
  arguments := []
  returns := .values [a.type]

def handlerProperty (a : BoundAttribute) : Function where
  docs := Documentation.ofDescription a.source.description
  bus := []
  signature := propertySignature a false
  body := none

def exportedProperty (a : BoundAttribute) : Function where
  docs := Documentation.ofDescription a.source.description
  bus := .property :: memberName a.name a.source.name
  signature := propertySignature a true
  body := some (.forward a.name.identifier [])

def emitter (b : BoundBroadcast) : Function where
  docs := Documentation.ofDescription b.source.description ++
    [" Emit the `" ++ b.source.name ++ "` signal."]
  bus := []
  signature :=
    { isPublic := true
      isAsync := true
      name := ⟨"emit_" ++ b.name.identifier.text, false⟩
      receiver := .emitter
      arguments := b.arguments.map argument
      returns := .busResult [] }
  body := some (.emit b.source.name (argumentNames b.arguments))

def constructor : Function where
  docs := []
  bus := []
  signature :=
    { isPublic := true
      name := ⟨"new", false⟩
      receiver := .free
      arguments := [⟨⟨"handler", false⟩, .user ⟨"H", false⟩⟩]
      returns := .constructed }
  body := some .construct

def accessor : Function where
  docs := []
  bus := []
  signature :=
    { isPublic := true
      name := ⟨"handler", false⟩
      receiver := .self
      arguments := []
      returns := .handlerReference }
  body := some .borrow

def handlerFunctions (b : BoundDefinition) : List Function :=
  b.methods.map handlerMethod ++ b.attributes.map handlerProperty

def ownFunctions (b : BoundDefinition) : List Function :=
  constructor :: accessor :: b.broadcasts.map emitter

def exportedFunctions (b : BoundDefinition) : List Function :=
  b.methods.map exportedMethod ++ b.attributes.map exportedProperty

def items (b : BoundDefinition) : List Item :=
  let interface := b.source.qualifiedName
  let handler : Identifier := ⟨b.name.identifier.text ++ "Handler", false⟩
  let server : Identifier := ⟨b.name.identifier.text ++ "Server", false⟩
  [.handler (interfaceDocs b.source ++ [" Server-side implementation of `" ++ interface ++ "`."])
      handler (handlerFunctions b),
    .server [" Serves a [`" ++ handler.text ++ "`] on the bus as `" ++ interface ++ "`."] server,
    .implementation none handler server (ownFunctions b),
    .implementation (some interface) handler server (exportedFunctions b)]

end Server

def sideItems (b : BoundDefinition) : Mode → List Item
  | .sender => Proxy.items b
  | .receiver => Server.items b

def file (c : Configuration) (b : BoundDefinition) : BindingFile where
  header := if c.header then some b.source.qualifiedName else none
  module := b.module.map BoundName.identifier
  items := shared c.serde b ++ sideItems b c.mode

def ofDefinition (c : Configuration) (d : Definition) : Except BindingError BindingFile :=
  (BoundDefinition.bind c.module d).map (file c)

end Busbind.Binding
