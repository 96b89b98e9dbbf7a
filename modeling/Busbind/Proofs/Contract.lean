import Busbind.Proofs.Resolution

/-! The interface that generated code presents on the bus, read off its items: once from the proxy
of a client, once from the exported functions of a server and the functions that send its signals.
Both are what the definition declares, under the names that it declares. A function whose attribute
writes no name is taken to have the upper-camel-case form of its identifier on the bus. -/
namespace Busbind.Contract
open Binding Outcome Resolution

inductive MemberKind
  | method
  | property
  | signal
  deriving DecidableEq, Repr

structure Member where
  kind : MemberKind
  name : String
  arguments : List ValueType
  replies : List ValueType
  deriving DecidableEq, Repr

def kindOf (bus : List BusArgument) : MemberKind :=
  if .property ∈ bus then .property else if .signal ∈ bus then .signal else .method

def writtenName? : List BusArgument → Option String
  | [] => none
  | .name member :: _ => some member
  | _ :: bus => writtenName? bus

def busName (f : Function) : String :=
  (writtenName? f.bus).getD (Naming.upperCamelCase f.signature.name.text)

def repliesOf : Returns → List ValueType
  | .values types | .busResult types => types
  | .constructed | .handlerReference => []

def memberOf (f : Function) : Member where
  kind := kindOf f.bus
  name := busName f
  arguments := f.signature.arguments.map Argument.type
  replies := repliesOf f.signature.returns

def sentBy? (f : Function) : Option Member :=
  match f.body with
  | some (.emit member sent) =>
    if sent = f.signature.arguments.map Argument.name then
      some ⟨.signal, member, f.signature.arguments.map Argument.type, repliesOf f.signature.returns⟩
    else none
  | _ => none

def calledMembers (items : List Item) : List Member :=
  items.flatMap fun
    | .proxy _ _ _ _ functions => functions.map memberOf
    | _ => []

def exportedMembers (items : List Item) : List Member :=
  items.flatMap fun
    | .implementation (some _) _ _ functions => functions.map memberOf
    | _ => []

def sentMembers (items : List Item) : List Member :=
  items.flatMap fun
    | .implementation none _ _ functions => functions.filterMap sentBy?
    | _ => []

def servedMembers (items : List Item) : List Member := exportedMembers items ++ sentMembers items

def interfaceNames (items : List Item) : List String :=
  items.filterMap fun
    | .proxy _ interface _ _ _ => some interface
    | .implementation exported _ _ _ => exported
    | _ => none

def signalInterfaces (items : List Item) : List String :=
  items.filterMap fun
    | .constant _ name (.text value) => if name = "INTERFACE_NAME" then some value else none
    | _ => none

def storedNames (items : List Item) : List (List String) :=
  items.filterMap fun
    | .record _ derives _ fields =>
      if "serde::Serialize" ∈ derives ∧ "serde::Deserialize" ∈ derives then
        some (fields.map fun f => f.rename.getD f.name.text)
      else none
    | _ => none

def parameterType (p : Parameter) : Except BindingError ValueType :=
  ValueType.ofReference p.type p.isArray

def declaredReplies (m : Method) : Except BindingError (List ValueType) :=
  if m.fireAndForget then .ok [] else m.outputs.mapM parameterType

def declaredMethod (m : Method) : Except BindingError Member := do
  let arguments ← m.inputs.mapM parameterType
  let replies ← declaredReplies m
  .ok ⟨.method, m.name, arguments, replies⟩

def declaredAttribute (a : Attribute) : Except BindingError Member := do
  let type ← ValueType.ofReference a.type a.isArray
  .ok ⟨.property, a.name, [], [type]⟩

def declaredBroadcast (b : Broadcast) : Except BindingError Member := do
  let arguments ← b.outputs.mapM parameterType
  .ok ⟨.signal, b.name, arguments, []⟩

def declared (d : Definition) : Except BindingError (List Member) := do
  let methods ← d.methods.mapM declaredMethod
  let attributes ← d.attributes.mapM declaredAttribute
  let broadcasts ← d.broadcasts.mapM declaredBroadcast
  .ok (methods ++ attributes ++ broadcasts)

section Names
variable {role : NameRole} {name : String} {n : BoundName}

theorem avoidingPlain {word : String} (h : isReserved word = false) :
    (Identifier.avoiding word).text = word := by
  simp [Identifier.avoiding, h]

theorem nameKept (bound : BoundName.snake role name = .ok n) :
    (if n.explicit then name else Naming.upperCamelCase n.identifier.text) = name := by
  rw [ofWordParts bound]
  simp only
  split
  · rfl
  · rename_i plain
    simp only [Bool.or_eq_true, bne_iff_ne, ne_eq, not_or, not_not, Bool.not_eq_true] at plain
    rw [avoidingPlain plain.2, plain.1]

theorem writtenNameKept (bound : BoundName.snake role name = .ok n) (rest : List BusArgument)
    (unnamed : writtenName? rest = none) :
    (writtenName? (memberName n name ++ rest)).getD (Naming.upperCamelCase n.identifier.text) =
      name := by
  have kept := nameKept bound
  cases explicit : n.explicit with
  | true => simp [memberName, Binding.optional, explicit, writtenName?]
  | false =>
    rw [explicit] at kept
    simpa [memberName, Binding.optional, explicit, unnamed] using kept

end Names

section Members
variable {role : NameRole}

theorem argumentTypes {ps : List Parameter} {bs : List BoundParameter}
    (bound : ps.mapM (BoundParameter.bind role) = .ok bs) :
    ps.mapM parameterType = .ok (bs.map BoundParameter.type) := by
  exact mapMAgree (fun p b one => (parameterParts one).2.2) bound

theorem kindNamed (n : BoundName) (member : String) (bus : List BusArgument) :
    kindOf (memberName n member ++ bus) = kindOf bus := by
  cases explicit : n.explicit <;> simp [kindOf, memberName, Binding.optional, explicit]

theorem argumentsTyped (bs : List BoundParameter) :
    (bs.map argument).map Argument.type = bs.map BoundParameter.type := by
  simp [argument]

theorem methodMembers {m : Method} {b : BoundMethod} (bound : BoundMethod.bind m = .ok b) :
    declaredMethod m = .ok (memberOf (Proxy.method b)) ∧
      declaredMethod m = .ok (memberOf (Server.exportedMethod b)) := by
  obtain ⟨rfl, name, arguments, replies⟩ := methodParts bound
  have declares : declaredMethod b.source =
      .ok ⟨.method, b.source.name, b.arguments.map BoundParameter.type, b.replies⟩ := by
    have replied : declaredReplies b.source = .ok b.replies := replies
    rw [declaredMethod, argumentTypes arguments, replied]
    rfl
  constructor
  · have unnamed : writtenName? (Binding.optional b.source.fireAndForget .noReply) = none := by
      cases b.source.fireAndForget <;> rfl
    have kind : kindOf (Binding.optional b.source.fireAndForget .noReply) = .method := by
      cases b.source.fireAndForget <;> rfl
    simp only [memberOf, busName, Proxy.method, kindNamed, kind, writtenNameKept name _ unnamed,
      argumentsTyped, repliesOf, declares]
  · have unnamed : writtenName? (Server.outArguments b) = none := by
      unfold Server.outArguments Binding.optional
      split <;> rfl
    have kind : kindOf (Server.outArguments b) = .method := by
      unfold Server.outArguments Binding.optional
      split <;> rfl
    simp only [memberOf, busName, Server.exportedMethod, Server.methodSignature, kindNamed, kind,
      writtenNameKept name _ unnamed, argumentsTyped, repliesOf, declares]

theorem attributeMembers {a : Attribute} {b : BoundAttribute}
    (bound : BoundAttribute.bind a = .ok b) :
    declaredAttribute a = .ok (memberOf (Proxy.property b)) ∧
      declaredAttribute a = .ok (memberOf (Server.exportedProperty b)) := by
  obtain ⟨rfl, name, type⟩ := attributeParts bound
  have declares : declaredAttribute b.source = .ok ⟨.property, b.source.name, [], [b.type]⟩ := by
    rw [declaredAttribute, type]
    rfl
  have named := writtenNameKept name [] rfl
  rw [List.append_nil] at named
  constructor
  · simp [memberOf, busName, Proxy.property, kindOf, writtenName?, named, repliesOf, declares]
  · simp [memberOf, busName, Server.exportedProperty, Server.propertySignature, kindOf,
      writtenName?, named, repliesOf, declares]

theorem broadcastMembers {c : Broadcast} {b : BoundBroadcast}
    (bound : BoundBroadcast.bind c = .ok b) :
    declaredBroadcast c = .ok (memberOf (Proxy.signal b)) ∧
      sentBy? (Server.emitter b) = some (memberOf (Proxy.signal b)) := by
  obtain ⟨rfl, name, arguments⟩ := broadcastParts bound
  have declares : declaredBroadcast b.source =
      .ok ⟨.signal, b.source.name, b.arguments.map BoundParameter.type, []⟩ := by
    rw [declaredBroadcast, argumentTypes arguments]
    rfl
  have named := writtenNameKept name [] rfl
  rw [List.append_nil] at named
  have kind : kindOf (.signal :: memberName b.name b.source.name) = .signal := by
    cases explicit : b.name.explicit <;> simp [kindOf, memberName, Binding.optional, explicit]
  have heard : memberOf (Proxy.signal b) =
      ⟨.signal, b.source.name, b.arguments.map BoundParameter.type, []⟩ := by
    simp only [memberOf, busName, Proxy.signal, kind, writtenName?, named, argumentsTyped, repliesOf]
  refine ⟨heard ▸ declares, ?_⟩
  rw [heard]
  simp [sentBy?, Server.emitter, argumentNames, argument, repliesOf]

theorem fieldStored {p : Parameter} {b : BoundParameter}
    (bound : BoundParameter.bind role p = .ok b) :
    (field true b).rename.getD (field true b).name.text = p.name := by
  rw [← (parameterParts bound).1]
  simp only [field, Bool.true_and]
  split
  · rfl
  · rename_i same
    simpa using same

theorem recordStored {s : Struct} {b : BoundStruct} (bound : BoundStruct.bind s = .ok b) :
    (b.fields.map (field true)).map (fun f => f.rename.getD f.name.text) =
      s.fields.map Parameter.name := by
  rw [List.map_map]
  exact mapMKept (fun p b one => fieldStored one) (structParts bound).2.2

end Members

section Sides
variable {module : Option String} {d : Definition} {b : BoundDefinition}

theorem clientDeclared (bound : BoundDefinition.bind module d = .ok b) :
    declared d = .ok ((Proxy.functions b).map memberOf) := by
  have parts := definitionParts bound
  have methods := mapMAgree (fun _ _ one => (methodMembers one).1) parts.methods
  have attributes := mapMAgree (fun _ _ one => (attributeMembers one).1) parts.attributes
  have broadcasts := mapMAgree (fun _ _ one => (broadcastMembers one).1) parts.broadcasts
  rw [declared, methods, attributes, broadcasts]
  simp [Proxy.functions, bind, Except.bind, Function.comp_def]

theorem serverDeclared (bound : BoundDefinition.bind module d = .ok b) :
    declared d = .ok ((Server.exportedFunctions b).map memberOf ++
      (Server.ownFunctions b).filterMap sentBy?) := by
  have parts := definitionParts bound
  have methods := mapMAgree (fun _ _ one => (methodMembers one).2) parts.methods
  have attributes := mapMAgree (fun _ _ one => (attributeMembers one).2) parts.attributes
  have broadcasts := mapMAgree (fun _ _ one => (broadcastMembers one).1) parts.broadcasts
  have sent : (b.broadcasts.map Server.emitter).filterMap sentBy? =
      b.broadcasts.map fun b => memberOf (Proxy.signal b) := by
    rw [List.filterMap_map, ← List.filterMap_eq_map]
    refine List.filterMap_congr fun b mem => ?_
    obtain ⟨c, one⟩ := mapMSource parts.broadcasts b mem
    exact (broadcastMembers one).2
  have others : sentBy? Server.constructor = none ∧ sentBy? Server.accessor = none := ⟨rfl, rfl⟩
  rw [declared, methods, attributes, broadcasts]
  simp [Server.exportedFunctions, Server.ownFunctions, others, sent, bind, Except.bind,
    Function.comp_def]

theorem sharedSilent (serde : Bool) (b : BoundDefinition) :
    calledMembers (shared serde b) = [] ∧ exportedMembers (shared serde b) = [] ∧
      sentMembers (shared serde b) = [] ∧ interfaceNames (shared serde b) = [] := by
  simp [calledMembers, exportedMembers, sentMembers, interfaceNames, shared, constants, record,
    synonym, List.flatMap_map, List.filterMap_map, Function.comp_def]

theorem sharedSignals (serde : Bool) (b : BoundDefinition) :
    signalInterfaces (shared serde b) = [b.source.qualifiedName] := by
  simp [signalInterfaces, shared, constants, record, synonym, List.filterMap_map,
    Function.comp_def]

theorem recordsStored (serde : Bool) (bs : List BoundStruct) :
    storedNames (bs.map (record serde)) =
      if serde then bs.map fun b => (b.fields.map (field true)).map fun f => f.rename.getD f.name.text
      else [] := by
  cases serde with
  | true => simp [storedNames, record, derives, List.filterMap_map, Function.comp_def]
  | false => simp [storedNames, record, derives, List.filterMap_map, Function.comp_def]

theorem sharedStored (serde : Bool) (bound : BoundDefinition.bind module d = .ok b) :
    storedNames (shared serde b) =
      if serde then d.structs.map fun s => s.fields.map Parameter.name else [] := by
  have records : storedNames (shared serde b) = storedNames (b.structs.map (record serde)) := by
    simp [storedNames, shared, constants, synonym, List.filterMap_map, Function.comp_def]
  rw [records, recordsStored]
  split
  · exact mapMKept (fun s b one => recordStored one) (definitionParts bound).structs
  · rfl

theorem clientReads (c : Configuration) (bound : BoundDefinition.bind c.module d = .ok b)
    (mode : c.mode = .sender) :
    calledMembers (file c b).items = (Proxy.functions b).map memberOf ∧
      interfaceNames (file c b).items = [d.qualifiedName] ∧
      storedNames (file c b).items =
        if c.serde then d.structs.map fun s => s.fields.map Parameter.name else [] := by
  obtain ⟨called, _, _, named⟩ := sharedSilent c.serde b
  have source := (definitionParts bound).source
  have items : (file c b).items = shared c.serde b ++ Proxy.items b := by rw [file, mode]; rfl
  rw [items, calledMembers, interfaceNames, storedNames, List.flatMap_append,
    List.filterMap_append, List.filterMap_append]
  refine ⟨?_, ?_, ?_⟩
  · rw [← calledMembers, called]
    simp [Proxy.items]
  · rw [← interfaceNames, named, ← source]
    rfl
  · rw [← storedNames, sharedStored c.serde bound]
    simp [Proxy.items]

theorem serverReads (c : Configuration) (bound : BoundDefinition.bind c.module d = .ok b)
    (mode : c.mode = .receiver) :
    servedMembers (file c b).items = (Server.exportedFunctions b).map memberOf ++
        (Server.ownFunctions b).filterMap sentBy? ∧
      interfaceNames (file c b).items = [d.qualifiedName] ∧
      signalInterfaces (file c b).items = [d.qualifiedName] ∧
      storedNames (file c b).items =
        if c.serde then d.structs.map fun s => s.fields.map Parameter.name else [] := by
  obtain ⟨_, exported, sent, named⟩ := sharedSilent c.serde b
  have source := (definitionParts bound).source
  have items : (file c b).items = shared c.serde b ++ Server.items b := by rw [file, mode]; rfl
  rw [items, servedMembers, exportedMembers, sentMembers, interfaceNames, signalInterfaces,
    storedNames, List.flatMap_append, List.flatMap_append, List.filterMap_append,
    List.filterMap_append, List.filterMap_append]
  refine ⟨?_, ?_, ?_, ?_⟩
  · rw [← exportedMembers, ← sentMembers, exported, sent]
    simp [Server.items]
  · rw [← interfaceNames, named, ← source]
    rfl
  · rw [← signalInterfaces, sharedSignals, source]
    rfl
  · rw [← storedNames, sharedStored c.serde bound]
    simp [Server.items]

end Sides

theorem sidesAgree (c : Configuration) (d : Definition) {any : BindingFile}
    (ok : ofDefinition c d = .ok any) :
    ∃ client server members, ofDefinition (c.withMode .sender) d = .ok client ∧
      ofDefinition (c.withMode .receiver) d = .ok server ∧ declared d = .ok members ∧
      calledMembers client.items = members ∧ servedMembers server.items = members ∧
      interfaceNames client.items = [d.qualifiedName] ∧
      interfaceNames server.items = [d.qualifiedName] ∧
      signalInterfaces server.items = [d.qualifiedName] ∧
      ∀ side ∈ [client, server], storedNames side.items =
        if c.serde then d.structs.map fun s => s.fields.map Parameter.name else [] := by
  unfold ofDefinition at ok
  cases bound : BoundDefinition.bind c.module d with
  | error e => rw [bound] at ok; contradiction
  | ok b =>
    have made : ∀ mode, ofDefinition (c.withMode mode) d = .ok (file (c.withMode mode) b) := by
      intro mode
      rw [ofDefinition, show (c.withMode mode).module = c.module from rfl, bound]
      rfl
    obtain ⟨called, calledName, calledStored⟩ := clientReads (c.withMode .sender) bound rfl
    obtain ⟨served, servedName, sentName, servedStored⟩ :=
      serverReads (c.withMode .receiver) bound rfl
    have agree := Except.ok.inj ((clientDeclared bound).symm.trans (serverDeclared bound))
    refine ⟨_, _, _, made .sender, made .receiver, clientDeclared bound, called,
      served.trans agree.symm, calledName, servedName, sentName, ?_⟩
    intro side mem
    simp only [List.mem_cons, List.not_mem_nil, or_false] at mem
    rcases mem with rfl | rfl
    · exact calledStored
    · exact servedStored

def awkward : Definition where
  package := ⟨"org.demo", []⟩
  interface := ⟨"echo", none, 1, 0⟩
  attributes := [⟨"", "String", "IPv4", true⟩]
  methods := [⟨"", "type", false, [⟨"", "Info", "self", false, false⟩], []⟩,
    ⟨"", "getURL", true, [], [⟨"", "Int32", "x", false, false⟩]⟩]
  broadcasts := [⟨"", "Self", false, [⟨"", "org.demo.info", "in", true, false⟩]⟩]
  structs := [⟨"", "Info", [⟨"", "Double", "super", false, false⟩]⟩]
  typedefs := []
  arrays := []

theorem sidesAgreeOnAwkward : ∃ any, ofDefinition {} awkward = .ok any ∧
    ∃ client server members, ofDefinition (({} : Configuration).withMode .sender) awkward = .ok client ∧
      ofDefinition (({} : Configuration).withMode .receiver) awkward = .ok server ∧
      declared awkward = .ok members ∧ calledMembers client.items = members ∧
      servedMembers server.items = members ∧
      interfaceNames client.items = ["org.demo.echo"] ∧
      interfaceNames server.items = ["org.demo.echo"] ∧
      signalInterfaces server.items = ["org.demo.echo"] ∧
      ∀ side ∈ [client, server], storedNames side.items = [["super"]] :=
  ⟨_, rfl, sidesAgree {} awkward rfl⟩

end Busbind.Contract
