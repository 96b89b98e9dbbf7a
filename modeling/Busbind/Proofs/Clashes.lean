import Busbind.Proofs.Casing
import Busbind.Proofs.Resolution

/-! Whether the functions of generated code can be told apart by their names, and the parameters of
each by theirs. Where the members of a definition have different identifiers a proxy is free of
clashes. A server is so exactly when none of them meets a name that its object has of its own: the
constructor, the access to the handler, the functions that send signals, and the parameter that
stands for the connection in these. -/
namespace Busbind.Clashes
open Binding Casing Outcome Resolution

inductive Owner
  | trait (name : Identifier)
  | type (name : Identifier)
  deriving DecidableEq, Repr

def functionsOf (o : Owner) (items : List Item) : List Function :=
  items.flatMap fun
    | .proxy _ _ _ name functions => if o = .trait name then functions else []
    | .handler _ name functions => if o = .trait name then functions else []
    | .implementation _ _ server functions => if o = .type server then functions else []
    | _ => []

structure Heading where
  name : Identifier
  parameters : List Identifier
  deriving DecidableEq, Repr

def receiverNames : Receiver → List Identifier
  | .free => []
  | .self => [⟨"self", false⟩]
  | .emitter => [⟨"emitter", false⟩]

def headingOf (f : Function) : Heading where
  name := f.signature.name
  parameters := receiverNames f.signature.receiver ++ f.signature.arguments.map Argument.name

structure Apart (hs : List Heading) : Prop where
  names : (hs.map Heading.name).Nodup
  parameters : ∀ h ∈ hs, h.parameters.Nodup

def Unambiguous (items : List Item) : Prop := ∀ o, Apart ((functionsOf o items).map headingOf)

def parameterNames (ps : List Parameter) : List Identifier :=
  ps.map fun p => snakeIdentifier p.name

def methodNames (d : Definition) : List Identifier := d.methods.map fun m => snakeIdentifier m.name

def attributeNames (d : Definition) : List Identifier :=
  d.attributes.map fun a => snakeIdentifier a.name

def broadcastNames (d : Definition) : List Identifier :=
  d.broadcasts.map fun b => snakeIdentifier b.name

structure Distinct (d : Definition) : Prop where
  members : (methodNames d ++ attributeNames d ++ broadcastNames d).Nodup
  inputs : ∀ m ∈ d.methods, (parameterNames m.inputs).Nodup
  outputs : ∀ b ∈ d.broadcasts, (parameterNames b.outputs).Nodup

def senderName (i : Identifier) : Identifier := ⟨"emit_" ++ i.text, false⟩

def ownNames (d : Definition) : List Identifier :=
  ⟨"new", false⟩ :: ⟨"handler", false⟩ :: (broadcastNames d).map senderName

/-- No member meets a function that a server's object has of its own, and no broadcast parameter
the connection that the signal is sent through. -/
structure AvoidsOwn (d : Definition) : Prop where
  functions : ∀ i ∈ methodNames d ++ attributeNames d, i ∉ ownNames d
  parameters : ∀ b ∈ d.broadcasts, ⟨"emitter", false⟩ ∉ parameterNames b.outputs

section Headings
variable {role : NameRole}

def methodHeading (m : Method) : Heading :=
  ⟨snakeIdentifier m.name, ⟨"self", false⟩ :: parameterNames m.inputs⟩

def attributeHeading (a : Attribute) : Heading := ⟨snakeIdentifier a.name, [⟨"self", false⟩]⟩

def signalHeading (b : Broadcast) : Heading :=
  ⟨snakeIdentifier b.name, ⟨"self", false⟩ :: parameterNames b.outputs⟩

def senderHeading (b : Broadcast) : Heading :=
  ⟨senderName (snakeIdentifier b.name), ⟨"emitter", false⟩ :: parameterNames b.outputs⟩

def memberHeadings (d : Definition) : List Heading :=
  d.methods.map methodHeading ++ d.attributes.map attributeHeading

def ownHeadings (d : Definition) : List Heading :=
  ⟨⟨"new", false⟩, [⟨"handler", false⟩]⟩ :: ⟨⟨"handler", false⟩, [⟨"self", false⟩]⟩ ::
    d.broadcasts.map senderHeading

theorem argumentsNamed {ps : List Parameter} {bs : List BoundParameter}
    (bound : ps.mapM (BoundParameter.bind role) = .ok bs) :
    (bs.map argument).map Argument.name = parameterNames ps := by
  rw [List.map_map]
  exact mapMKept (fun p b one => snakeBound (parameterParts one).2.1) bound

theorem methodHeaded {m : Method} {b : BoundMethod} (bound : BoundMethod.bind m = .ok b) :
    headingOf (Proxy.method b) = methodHeading m ∧
      headingOf (Server.handlerMethod b) = methodHeading m ∧
      headingOf (Server.exportedMethod b) = methodHeading m := by
  obtain ⟨_, name, arguments, _⟩ := methodParts bound
  simp only [headingOf, methodHeading, Proxy.method, Server.handlerMethod, Server.exportedMethod,
    Server.methodSignature, snakeBound name, argumentsNamed arguments, receiverNames,
    List.singleton_append, and_self]

theorem attributeHeaded {a : Attribute} {b : BoundAttribute}
    (bound : BoundAttribute.bind a = .ok b) :
    headingOf (Proxy.property b) = attributeHeading a ∧
      headingOf (Server.handlerProperty b) = attributeHeading a ∧
      headingOf (Server.exportedProperty b) = attributeHeading a := by
  obtain ⟨_, name, _⟩ := attributeParts bound
  simp only [headingOf, attributeHeading, Proxy.property, Server.handlerProperty,
    Server.exportedProperty, Server.propertySignature, snakeBound name, receiverNames,
    List.map_nil, List.append_nil, and_self]

theorem broadcastHeaded {c : Broadcast} {b : BoundBroadcast}
    (bound : BoundBroadcast.bind c = .ok b) :
    headingOf (Proxy.signal b) = signalHeading c ∧
      headingOf (Server.emitter b) = senderHeading c := by
  obtain ⟨_, name, arguments⟩ := broadcastParts bound
  simp only [headingOf, signalHeading, senderHeading, senderName, Proxy.signal, Server.emitter,
    snakeBound name, argumentsNamed arguments, receiverNames, List.singleton_append, and_self]

variable {module : Option String} {d : Definition} {b : BoundDefinition}

theorem proxyHeaded (parts : Parts module d b) :
    (Proxy.functions b).map headingOf = memberHeadings d ++ d.broadcasts.map signalHeading := by
  have methods := mapMKept (fun _ _ one => (methodHeaded one).1) parts.methods
  have attributes := mapMKept (fun _ _ one => (attributeHeaded one).1) parts.attributes
  have broadcasts := mapMKept (fun _ _ one => (broadcastHeaded one).1) parts.broadcasts
  simp only [Proxy.functions, memberHeadings, List.map_append, List.map_map, Function.comp_def,
    methods, attributes, broadcasts]

theorem handlerHeaded (parts : Parts module d b) :
    (Server.handlerFunctions b).map headingOf = memberHeadings d := by
  have methods := mapMKept (fun _ _ one => (methodHeaded one).2.1) parts.methods
  have attributes := mapMKept (fun _ _ one => (attributeHeaded one).2.1) parts.attributes
  simp only [Server.handlerFunctions, memberHeadings, List.map_append, List.map_map,
    Function.comp_def, methods, attributes]

theorem ownHeaded (parts : Parts module d b) :
    (Server.ownFunctions b).map headingOf = ownHeadings d := by
  have broadcasts := mapMKept (fun _ _ one => (broadcastHeaded one).2) parts.broadcasts
  simp only [Server.ownFunctions, ownHeadings, List.map_cons, List.map_map, Function.comp_def,
    broadcasts]
  rfl

theorem exportedHeaded (parts : Parts module d b) :
    (Server.exportedFunctions b).map headingOf = memberHeadings d := by
  have methods := mapMKept (fun _ _ one => (methodHeaded one).2.2) parts.methods
  have attributes := mapMKept (fun _ _ one => (attributeHeaded one).2.2) parts.attributes
  simp only [Server.exportedFunctions, memberHeadings, List.map_append, List.map_map,
    Function.comp_def, methods, attributes]

end Headings

section Owners
variable (serde : Bool) (b : BoundDefinition) (o : Owner)

theorem sharedUnowned : functionsOf o (shared serde b) = [] := by
  simp [functionsOf, shared, constants, record, synonym, List.flatMap_map]

theorem proxyOwned :
    functionsOf o (shared serde b ++ Proxy.items b) =
      if o = .trait b.name.identifier then Proxy.functions b else [] := by
  rw [functionsOf, List.flatMap_append, ← functionsOf, sharedUnowned]
  simp [Proxy.items]

def handlerTrait (b : BoundDefinition) : Owner :=
  .trait ⟨b.name.identifier.text ++ "Handler", false⟩

def objectType (b : BoundDefinition) : Owner :=
  .type ⟨b.name.identifier.text ++ "Server", false⟩

theorem serverOwned :
    functionsOf o (shared serde b ++ Server.items b) =
      if o = handlerTrait b then Server.handlerFunctions b
      else if o = objectType b then Server.ownFunctions b ++ Server.exportedFunctions b else [] := by
  rw [functionsOf, List.flatMap_append, ← functionsOf, sharedUnowned]
  by_cases trait : o = handlerTrait b
  · simp [Server.items, trait, handlerTrait]
  · by_cases type : o = objectType b
    · simp [Server.items, type, handlerTrait, objectType]
    · rw [handlerTrait] at trait
      rw [objectType] at type
      simp [Server.items, trait, type, handlerTrait, objectType]

theorem apartNone : Apart [] := ⟨List.nodup_nil, nofun⟩

theorem proxyUnambiguous :
    Unambiguous (shared serde b ++ Proxy.items b) ↔
      Apart ((Proxy.functions b).map headingOf) := by
  constructor
  · intro all
    have own := all (.trait b.name.identifier)
    rwa [proxyOwned, if_pos rfl] at own
  · intro apart o
    rw [proxyOwned]
    split
    · exact apart
    · exact apartNone

theorem serverUnambiguous :
    Unambiguous (shared serde b ++ Server.items b) ↔
      Apart ((Server.handlerFunctions b).map headingOf) ∧
        Apart ((Server.ownFunctions b ++ Server.exportedFunctions b).map headingOf) := by
  constructor
  · intro all
    have trait := all (handlerTrait b)
    have type := all (objectType b)
    rw [serverOwned, if_pos rfl] at trait
    rw [serverOwned, if_neg nofun, if_pos rfl] at type
    exact ⟨trait, type⟩
  · intro ⟨trait, type⟩ o
    rw [serverOwned]
    split
    · exact trait
    · split
      · exact type
      · exact apartNone

end Owners

section Members
variable {d : Definition} {hs ks : List Heading}

theorem apartAppend : Apart (hs ++ ks) ↔ Apart hs ∧ Apart ks ∧
    ∀ i ∈ ks.map Heading.name, i ∉ hs.map Heading.name := by
  constructor
  · intro ⟨names, parameters⟩
    rw [List.map_append, List.nodup_append] at names
    rw [List.forall_mem_append] at parameters
    exact ⟨⟨names.1, parameters.1⟩, ⟨names.2.1, parameters.2⟩,
      fun i later earlier => names.2.2 i earlier i later rfl⟩
  · intro ⟨⟨names, parameters⟩, ⟨names', parameters'⟩, free⟩
    refine ⟨?_, List.forall_mem_append.2 ⟨parameters, parameters'⟩⟩
    rw [List.map_append, List.nodup_append]
    refine ⟨names, names', ?_⟩
    rintro i earlier _ later rfl
    exact free i later earlier

theorem selfFree (ps : List Parameter) : ⟨"self", false⟩ ∉ parameterNames ps := by
  intro mem
  obtain ⟨p, _, same⟩ := List.mem_map.1 mem
  exact reservedAvoided _ (by decide +kernel) same

theorem selfApart {ps : List Parameter} :
    (⟨"self", false⟩ :: parameterNames ps).Nodup ↔ (parameterNames ps).Nodup :=
  List.nodup_cons.trans (and_iff_right (selfFree ps))

theorem memberNames (d : Definition) :
    (memberHeadings d).map Heading.name = methodNames d ++ attributeNames d := by
  simp only [memberHeadings, List.map_append, List.map_map]
  rfl

theorem membersApart (distinct : Distinct d) : Apart (memberHeadings d) where
  names := by
    rw [memberNames]
    exact (List.nodup_append.1 distinct.members).1
  parameters := by
    rw [memberHeadings, List.forall_mem_append, List.forall_mem_map, List.forall_mem_map]
    exact ⟨fun m mem => selfApart.2 (distinct.inputs m mem), fun _ _ => List.nodup_singleton _⟩

theorem proxyApart (distinct : Distinct d) :
    Apart (memberHeadings d ++ d.broadcasts.map signalHeading) := by
  obtain ⟨_, signals, free⟩ := List.nodup_append.1 distinct.members
  have names : (d.broadcasts.map signalHeading).map Heading.name = broadcastNames d := by
    rw [List.map_map]
    rfl
  refine apartAppend.2 ⟨membersApart distinct, ⟨names ▸ signals, ?_⟩, ?_⟩
  · rw [List.forall_mem_map]
    exact fun b mem => selfApart.2 (distinct.outputs b mem)
  · rw [names, memberNames]
    exact fun i later earlier => free i earlier i later rfl

theorem ownNamed (d : Definition) : (ownHeadings d).map Heading.name = ownNames d := by
  simp [ownHeadings, ownNames, broadcastNames, senderHeading]

theorem ownNamesApart (distinct : Distinct d) : (ownNames d).Nodup := by
  have prefixed : ∀ i ∈ (broadcastNames d).map senderName, i.text.toList.head? = some 'e' := by
    simp [senderName]
  have new : (⟨"new", false⟩ : Identifier) ∉ (broadcastNames d).map senderName :=
    fun mem => absurd (prefixed _ mem) (by decide)
  have handler : (⟨"handler", false⟩ : Identifier) ∉ (broadcastNames d).map senderName :=
    fun mem => absurd (prefixed _ mem) (by decide)
  -- A sender has the text of its broadcast's identifier, and that tells the broadcast.
  have senders : ((broadcastNames d).map senderName).Nodup := by
    refine List.Nodup.map_on ?_ (List.nodup_append.1 distinct.members).2.1
    intro i memI j memJ same
    obtain ⟨x, _, rfl⟩ := List.mem_map.1 memI
    obtain ⟨y, _, rfl⟩ := List.mem_map.1 memJ
    exact snakeTextInjective ((String.append_right_inj "emit_").1 (Identifier.mk.inj same).1)
  simp only [ownNames, List.nodup_cons, List.mem_cons, not_or]
  exact ⟨⟨by decide, new⟩, handler, senders⟩

theorem ownApartIff (distinct : Distinct d) : Apart (ownHeadings d) ↔
    ∀ b ∈ d.broadcasts, ⟨"emitter", false⟩ ∉ parameterNames b.outputs := by
  have senders : (∀ h ∈ d.broadcasts.map senderHeading, h.parameters.Nodup) ↔
      ∀ b ∈ d.broadcasts, ⟨"emitter", false⟩ ∉ parameterNames b.outputs := by
    rw [List.forall_mem_map]
    exact forall₂_congr fun b mem =>
      List.nodup_cons.trans (and_iff_left (distinct.outputs b mem))
  rw [← senders]
  constructor
  · intro apart
    have parameters := apart.parameters
    rw [ownHeadings, List.forall_mem_cons, List.forall_mem_cons] at parameters
    exact parameters.2.2
  · intro apart
    refine ⟨ownNamed d ▸ ownNamesApart distinct, ?_⟩
    rw [ownHeadings, List.forall_mem_cons, List.forall_mem_cons]
    exact ⟨List.nodup_singleton _, List.nodup_singleton _, apart⟩

theorem objectApartIff (distinct : Distinct d) :
    Apart (ownHeadings d ++ memberHeadings d) ↔ AvoidsOwn d := by
  rw [apartAppend, ownApartIff distinct, and_iff_right (membersApart distinct), memberNames,
    ownNamed]
  exact ⟨fun ⟨parameters, functions⟩ => ⟨functions, parameters⟩,
    fun ⟨functions, parameters⟩ => ⟨parameters, functions⟩⟩

end Members

/-- Where the names of a definition are distinct, its bindings are free of clashes for a client, and
for a server exactly when they also avoid the names that the server's object has of its own. -/
theorem unambiguousIff (c : Configuration) (d : Definition) {file : BindingFile}
    (made : ofDefinition c d = .ok file) (distinct : Distinct d) :
    Unambiguous file.items ↔ (c.mode = .receiver → AvoidsOwn d) := by
  obtain ⟨b, parts, items⟩ := bindingParts made
  rw [items]
  cases side : c.mode with
  | sender =>
    rw [sideItems, proxyUnambiguous, proxyHeaded parts]
    exact iff_of_true (proxyApart distinct) nofun
  | receiver =>
    rw [sideItems, serverUnambiguous, List.map_append, handlerHeaded parts, ownHeaded parts,
      exportedHeaded parts, objectApartIff distinct, and_iff_right (membersApart distinct)]
    exact ⟨fun avoids _ => avoids, fun avoids => avoids rfl⟩

def narrow : Definition where
  package := ⟨"p", []⟩
  interface := ⟨"Player", none, 0, 0⟩
  attributes := [⟨"", "String", "handlers", false⟩]
  methods := [⟨"", "emitSelf", false, [⟨"", "Int32", "emitter", false, false⟩], []⟩,
    ⟨"", "renew", false, [⟨"", "Int32", "self", false, false⟩], []⟩]
  broadcasts := [⟨"", "self", false, [⟨"", "Int32", "emitted", false, false⟩]⟩]
  structs := []
  typedefs := []
  arrays := []

theorem narrowDistinct : Distinct narrow where
  members := by decide +kernel
  inputs := by decide +kernel
  outputs := by decide +kernel

theorem narrowAvoids : AvoidsOwn narrow where
  functions := by decide +kernel
  parameters := by decide +kernel

theorem narrowUnambiguous : ∃ file, ofDefinition { mode := .receiver } narrow = .ok file ∧
    Unambiguous file.items :=
  ⟨_, rfl, (unambiguousIff { mode := .receiver } narrow rfl narrowDistinct).2 fun _ => narrowAvoids⟩

def renewed : Definition where
  package := ⟨"p", []⟩
  interface := ⟨"I", none, 0, 0⟩
  attributes := []
  methods := [⟨"", "new", false, [], []⟩]
  broadcasts := []
  structs := []
  typedefs := []
  arrays := []

theorem renewedClashes : Distinct renewed ∧
    ∃ file, ofDefinition { mode := .receiver } renewed = .ok file ∧ ¬Unambiguous file.items := by
  have distinct : Distinct renewed :=
    { members := by decide +kernel
      inputs := by decide +kernel
      outputs := nofun }
  refine ⟨distinct, _, rfl, fun all => ?_⟩
  have names := (all (.type ⟨"IServer", false⟩)).names
  exact absurd names (by decide +kernel)

end Busbind.Clashes
