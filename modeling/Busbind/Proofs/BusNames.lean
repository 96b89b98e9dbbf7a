import Busbind.Proofs.Contract
import Busbind.Proofs.Usability
import Busbind.Proofs.WellFormed

/-! The names that generated code has on the bus: those of its methods, properties and signals, and
those that an exported method gives to several reply values. They are the declared names, letter for
letter. A member without a name is refused, but a dot in its name is not, and the names of reply
values are not looked at. -/
namespace Busbind.BusNames
open Binding Canonical Contract Munch Outcome Resolution Usability WellFormed

def IsBusName (name : String) : Prop :=
  name ≠ "" ∧ (name.toList.all fun c => c.isAlphanum || c = '_') = true ∧
    name.toList.head?.any Char.isDigit = false
instance (name) : Decidable (IsBusName name) := by unfold IsBusName; infer_instance

def sentName? (f : Function) : Option String :=
  match f.body with
  | some (.emit member _) => some member
  | _ => none

def memberNamesOf : Item → List String
  | .proxy _ _ _ _ fs | .implementation (some _) _ _ fs => fs.map busName
  | .implementation none _ _ fs => fs.filterMap sentName?
  | _ => []

def functionsOf : Item → List Function
  | .proxy _ _ _ _ fs | .handler _ _ fs | .implementation _ _ _ fs => fs
  | _ => []

def replyNamesOf (bus : List BusArgument) : List String :=
  bus.flatMap fun
    | .outArguments names => names
    | _ => []

def busNames (items : List Item) : List String :=
  items.flatMap memberNamesOf ++
    items.flatMap fun i => (functionsOf i).flatMap fun f => replyNamesOf f.bus

def memberNames (d : Definition) : List String :=
  d.methods.map Method.name ++ d.attributes.map Attribute.name ++ d.broadcasts.map Broadcast.name

def replyNames (m : Method) : List String :=
  if m.fireAndForget = false ∧ 1 < m.outputs.length then m.outputs.map Parameter.name else []

section Members

theorem methodNamed {m : Method} {b : BoundMethod} (bound : BoundMethod.bind m = .ok b) :
    busName (Proxy.method b) = m.name ∧ busName (Server.exportedMethod b) = m.name := by
  have named {x : Member} (declares : declaredMethod m = .ok x) : x.name = m.name := by
    obtain ⟨arguments, _, declares⟩ := bindOk declares
    obtain ⟨replies, _, declares⟩ := bindOk declares
    cases declares
    rfl
  obtain ⟨called, served⟩ := methodMembers bound
  exact ⟨named called, named served⟩

theorem attributeNamed {a : Attribute} {b : BoundAttribute}
    (bound : BoundAttribute.bind a = .ok b) :
    busName (Proxy.property b) = a.name ∧ busName (Server.exportedProperty b) = a.name := by
  have named {x : Member} (declares : declaredAttribute a = .ok x) : x.name = a.name := by
    obtain ⟨type, _, declares⟩ := bindOk declares
    cases declares
    rfl
  obtain ⟨called, served⟩ := attributeMembers bound
  exact ⟨named called, named served⟩

theorem broadcastNamed {c : Broadcast} {b : BoundBroadcast}
    (bound : BoundBroadcast.bind c = .ok b) :
    busName (Proxy.signal b) = c.name := by
  have named {x : Member} (declares : declaredBroadcast c = .ok x) : x.name = c.name := by
    obtain ⟨arguments, _, declares⟩ := bindOk declares
    cases declares
    rfl
  exact named (broadcastMembers bound).1

theorem memberNameSilent (n : BoundName) (member : String) (bus : List BusArgument) :
    replyNamesOf (memberName n member ++ bus) = replyNamesOf bus := by
  cases explicit : n.explicit <;> simp [replyNamesOf, memberName, Binding.optional, explicit]

theorem exportedReplies (b : BoundMethod) :
    replyNamesOf (Server.exportedMethod b).bus = replyNames b.source := by
  rw [Server.exportedMethod, memberNameSilent, Server.outArguments, replyNames]
  cases b.source.fireAndForget <;> by_cases several : 1 < b.source.outputs.length <;>
    simp [replyNamesOf, Binding.optional, several]

theorem propertySilent (b : BoundAttribute) :
    replyNamesOf (Proxy.property b).bus = [] ∧
      replyNamesOf (Server.exportedProperty b).bus = [] := by
  have named := memberNameSilent b.name b.source.name []
  rw [List.append_nil] at named
  exact ⟨named, named⟩

theorem methodSilent (b : BoundMethod) : replyNamesOf (Proxy.method b).bus = [] := by
  rw [Proxy.method, memberNameSilent]
  cases b.source.fireAndForget <;> rfl

theorem signalSilent (b : BoundBroadcast) : replyNamesOf (Proxy.signal b).bus = [] := by
  have named := memberNameSilent b.name b.source.name []
  rw [List.append_nil] at named
  exact named

end Members

section Sides
variable {module : Option String} {d : Definition} {b : BoundDefinition}

theorem sharedNameless (serde : Bool) (b : BoundDefinition) :
    (shared serde b).flatMap memberNamesOf = [] ∧ (shared serde b).flatMap functionsOf = [] := by
  simp [shared, constants, record, synonym, memberNamesOf, functionsOf, List.flatMap_map]

theorem proxyNames (parts : Parts module d b) : busNames (Proxy.items b) = memberNames d := by
  have methods := mapMKept (fun _ _ one => (methodNamed one).1) parts.methods
  have attributes := mapMKept (fun _ _ one => (attributeNamed one).1) parts.attributes
  have broadcasts := mapMKept (fun _ _ one => broadcastNamed one) parts.broadcasts
  have members : (Proxy.functions b).map busName = memberNames d := by
    simp only [Proxy.functions, memberNames, List.map_append, List.map_map, Function.comp_def,
      methods, attributes, broadcasts]
  have silent : ((Proxy.functions b).flatMap fun f => replyNamesOf f.bus) = [] := by
    rw [List.flatMap_eq_nil_iff]
    simp only [Proxy.functions, List.forall_mem_append, List.forall_mem_map]
    exact ⟨⟨fun m _ => methodSilent m, fun a _ => (propertySilent a).1⟩, fun b _ => signalSilent b⟩
  simp [busNames, Proxy.items, memberNamesOf, functionsOf, members, silent]

theorem exportedNames (parts : Parts module d b) :
    (Server.exportedFunctions b).map busName =
        d.methods.map Method.name ++ d.attributes.map Attribute.name ∧
      ((Server.exportedFunctions b).flatMap fun f => replyNamesOf f.bus) =
        d.methods.flatMap replyNames := by
  have methods := mapMKept (fun _ _ one => (methodNamed one).2) parts.methods
  have attributes := mapMKept (fun _ _ one => (attributeNamed one).2) parts.attributes
  have sources := mapMKept (fun _ _ one => (methodParts one).1) parts.methods
  rw [List.map_id'] at sources
  have silent : (b.attributes.flatMap fun a => replyNamesOf (Server.exportedProperty a).bus) = [] :=
    List.flatMap_eq_nil_iff.2 fun a _ => (propertySilent a).2
  constructor
  · simp only [Server.exportedFunctions, List.map_append, List.map_map, Function.comp_def, methods,
      attributes]
  · rw [Server.exportedFunctions, List.flatMap_append, List.flatMap_map, List.flatMap_map, silent,
      List.append_nil, ← sources, List.flatMap_map]
    exact List.flatMap_congr fun m _ => exportedReplies m

theorem ownNames (parts : Parts module d b) :
    (Server.ownFunctions b).filterMap sentName? = d.broadcasts.map Broadcast.name ∧
      ((Server.ownFunctions b).flatMap fun f => replyNamesOf f.bus) = [] := by
  have sources := mapMKept (fun _ _ one => (broadcastParts one).1) parts.broadcasts
  rw [List.map_id'] at sources
  have others : sentName? Server.constructor = none ∧ sentName? Server.accessor = none := ⟨rfl, rfl⟩
  constructor
  · rw [Server.ownFunctions, List.filterMap_cons_none others.1, List.filterMap_cons_none others.2,
      List.filterMap_map, ← sources, List.map_map]
    exact congrFun List.filterMap_eq_map b.broadcasts
  · rw [List.flatMap_eq_nil_iff, Server.ownFunctions]
    simp only [List.forall_mem_cons, List.forall_mem_map]
    exact ⟨rfl, rfl, fun _ _ => rfl⟩

theorem serverNames (parts : Parts module d b) (name : String) :
    name ∈ busNames (Server.items b) ↔
      name ∈ memberNames d ∨ ∃ m ∈ d.methods, name ∈ replyNames m := by
  have handler : ((Server.handlerFunctions b).flatMap fun f => replyNamesOf f.bus) = [] := by
    rw [List.flatMap_eq_nil_iff]
    simp only [Server.handlerFunctions, List.forall_mem_append, List.forall_mem_map]
    exact ⟨fun _ _ => rfl, fun _ _ => rfl⟩
  have all : busNames (Server.items b) = d.broadcasts.map Broadcast.name ++
      (d.methods.map Method.name ++ d.attributes.map Attribute.name) ++
      d.methods.flatMap replyNames := by
    simp [busNames, Server.items, memberNamesOf, functionsOf, handler, exportedNames parts,
      ownNames parts]
  rw [all, List.mem_append, List.mem_flatMap, List.mem_append, Or.comm (a := name ∈ _),
    ← List.mem_append]
  rfl

theorem namesWritten {c : Configuration} {file : BindingFile} (made : ofDefinition c d = .ok file)
    (name : String) : name ∈ busNames file.items ↔ name ∈ memberNames d ∨
      c.mode = .receiver ∧ ∃ m ∈ d.methods, name ∈ replyNames m := by
  obtain ⟨b, parts, items⟩ := bindingParts made
  obtain ⟨nameless, functionless⟩ := sharedNameless c.serde b
  have own : name ∈ busNames file.items ↔ name ∈ busNames (sideItems b c.mode) := by
    simp [items, busNames, List.flatMap_append, nameless, ← List.flatMap_assoc, functionless]
  rw [own]
  cases c.mode with
  | sender => simp [sideItems, proxyNames parts]
  | receiver => simp [sideItems, serverNames parts]

end Sides

section Legality

theorem unusableEmpty : ¬Casing.IsUsableName "" := by
  rintro ⟨c, found, _⟩
  contradiction

theorem memberNeeded (module : Option String) {d : Definition} {name : String}
    (member : name ∈ memberNames d) : ∃ role, .name role name ∈ needs module d := by
  simp only [memberNames, List.mem_append, List.mem_map] at member
  obtain (⟨m, mem, rfl⟩ | ⟨a, mem, rfl⟩) | ⟨b, mem, rfl⟩ := member
  · have first : Need.name .method m.name ∈ methodNeeds m := List.mem_cons_self
    exact ⟨.method, by simp [needs, List.mem_flatMap.2 ⟨m, mem, first⟩]⟩
  · have first : Need.name .attr a.name ∈ attributeNeeds a := List.mem_cons_self
    exact ⟨.attr, by simp [needs, List.mem_flatMap.2 ⟨a, mem, first⟩]⟩
  · have first : Need.name .broadcast b.name ∈ broadcastNeeds b := List.mem_cons_self
    exact ⟨.broadcast, by simp [needs, List.mem_flatMap.2 ⟨b, mem, first⟩]⟩

theorem memberUsable {c : Configuration} {d : Definition} {file : BindingFile}
    (made : ofDefinition c d = .ok file) {name : String} (member : name ∈ memberNames d) :
    Casing.IsUsableName name := by
  obtain ⟨role, needed⟩ := memberNeeded c.module member
  exact (decidedMet (fileDecided c d)).1 ⟨file, made⟩ _ needed

theorem wordLegal {s : String} (word : IsWord s) : IsBusName s ↔ '.' ∉ s.toList := by
  obtain ⟨letter, parts⟩ := word
  rw [List.all_eq_true] at parts
  obtain ⟨first, front, letter⟩ := (Option.any_eq_true _ _).1 letter
  constructor
  · intro ⟨_, legal, _⟩ dot
    exact absurd (List.all_eq_true.1 legal '.' dot) (by decide)
  · intro undotted
    refine ⟨?_, List.all_eq_true.2 fun c mem => ?_, ?_⟩
    · rintro rfl
      contradiction
    · have part := parts c mem
      simp only [isWordPart, Bool.or_eq_true, decide_eq_true_eq] at part ⊢
      rcases part with (part | rfl) | part
      · exact .inl part
      · contradiction
      · exact .inr part
    · rw [front, Option.any_some, ← Bool.not_eq_true]
      intro digit
      rw [digitNotLetter digit] at letter
      contradiction

theorem labelLegal {s : String} (label : IsLabel s) :
    IsBusName s ↔ s ≠ "" ∧ '.' ∉ s.toList := by
  rcases labelWord label with rfl | word
  · exact iff_of_false (fun legal => legal.1 rfl) (fun legal => legal.1 rfl)
  · have some : s ≠ "" := by
      rintro rfl
      exact absurd word.1 (by decide)
    rw [wordLegal word, and_iff_right some]

theorem memberLabel {d : Definition} (formed : ∀ m ∈ members d, DeclarationFormed m)
    {name : String} (member : name ∈ memberNames d) : IsLabel name := by
  simp only [memberNames, List.mem_append, List.mem_map] at member
  obtain (⟨m, mem, rfl⟩ | ⟨a, mem, rfl⟩) | ⟨b, mem, rfl⟩ := member
  · exact (formed (.method m) (by simp [members, mem])).name
  · exact (formed (.attr a) (by simp [members, mem])).name
  · exact (formed (.broadcast b) (by simp [members, mem])).name

theorem replyLabel {d : Definition} (formed : ∀ m ∈ members d, DeclarationFormed m) {m : Method}
    (mem : m ∈ d.methods) : ∀ name ∈ replyNames m, IsLabel name := by
  intro name reply
  unfold replyNames at reply
  split at reply
  · obtain ⟨p, output, rfl⟩ := List.mem_map.1 reply
    have parameters := (formed (.method m) (by simp [members, mem])).parameters
    exact (parameters p (List.mem_append_right _ output)).name
  · contradiction

end Legality

/-- Bindings for a definition that is read from a text are refused where a member has no name. Where
there are bindings, all names that they have on the bus are legal exactly when no member has a dot
in its name and, for a server, no method that names several reply values has one with a dot in its
name or without one. -/
theorem legalIff (c : Configuration) {source : String} {d : Definition}
    (read : Definition.ofText source = .ok d) :
    ("" ∈ memberNames d → ∃ e, ofDefinition c d = .error e) ∧
    ∀ file, ofDefinition c d = .ok file →
      ((∀ name ∈ busNames file.items, IsBusName name) ↔
        (∀ name ∈ memberNames d, '.' ∉ name.toList) ∧
        (c.mode = .receiver → ∀ m ∈ d.methods, ∀ name ∈ replyNames m,
          name ≠ "" ∧ '.' ∉ name.toList)) := by
  have formed := membersFormed read
  constructor
  · intro unnamed
    cases made : ofDefinition c d with
    | error e => exact ⟨e, rfl⟩
    | ok file => exact absurd (memberUsable made unnamed) unusableEmpty
  · intro file made
    have members : ∀ name ∈ memberNames d, (IsBusName name ↔ '.' ∉ name.toList) := by
      intro name member
      have some : name ≠ "" := by
        rintro rfl
        exact unusableEmpty (memberUsable made member)
      rw [labelLegal (memberLabel formed member), and_iff_right some]
    have replies : ∀ m ∈ d.methods, ∀ name ∈ replyNames m,
        (IsBusName name ↔ name ≠ "" ∧ '.' ∉ name.toList) :=
      fun m mem name reply => labelLegal (replyLabel formed mem name reply)
    simp only [namesWritten made, or_imp]
    rw [forall_and]
    refine and_congr (forall₂_congr members) ⟨?_, ?_⟩
    · intro legal receiver m mem name reply
      exact (replies m mem name reply).1 (legal name ⟨receiver, m, mem, reply⟩)
    · rintro undotted name ⟨receiver, m, mem, reply⟩
      exact (replies m mem name reply).2 (undotted receiver m mem name reply)

def named : String :=
  "package p.q interface I \x7b attribute Int32 volume_2 method getURL \x7b out \x7b Int32 in " ++
    "String b \x7d \x7d broadcast major selective \x7d"

def namedDefinition : Definition :=
  .ofDeclarations ⟨"p.q", []⟩ ⟨"I", none, 0, 0⟩
    [.attr ⟨"", "Int32", "volume_2", false⟩,
      .method ⟨"", "getURL", false, [], [⟨"", "Int32", "in", false, false⟩,
        ⟨"", "String", "b", false, false⟩]⟩,
      .broadcast ⟨"", "major", true, []⟩]

theorem namedLegal : Definition.ofText named = .ok namedDefinition ∧
    ∃ file, ofDefinition { mode := .receiver } namedDefinition = .ok file ∧
      ∀ name ∈ busNames file.items, IsBusName name := by
  have read : Definition.ofText named = .ok namedDefinition := by decide +kernel
  refine ⟨read, _, rfl, ((legalIff { mode := .receiver } read).2 _ rfl).2 ⟨?_, fun _ => ?_⟩⟩
  · decide +kernel
  · decide +kernel

def unnamed : String :=
  "package p interface I \x7b method a.b \x7b out \x7b Int32 , String c \x7d \x7d \x7d"

def unnamedDefinition : Definition :=
  .ofDeclarations ⟨"p", []⟩ ⟨"I", none, 0, 0⟩
    [.method ⟨"", "a.b", false, [], [⟨"", "Int32", "", false, false⟩,
      ⟨"", "String", "c", false, false⟩]⟩]

theorem unnamedWritten : Definition.ofText unnamed = .ok unnamedDefinition ∧
    ∃ file, ofDefinition { mode := .receiver } unnamedDefinition = .ok file ∧
      ("a.b" ∈ busNames file.items ∧ ¬IsBusName "a.b") ∧
      "" ∈ busNames file.items ∧ ¬IsBusName "" := by
  have member : "a.b" ∈ memberNames unnamedDefinition := by decide +kernel
  have reply : ∃ m ∈ unnamedDefinition.methods, "" ∈ replyNames m := by decide +kernel
  obtain ⟨file, made⟩ : ∃ file, ofDefinition { mode := .receiver } unnamedDefinition = .ok file :=
    ⟨_, rfl⟩
  exact ⟨by decide +kernel, file, made, ⟨(namesWritten made "a.b").2 (.inl member), by decide⟩,
    (namesWritten made "").2 (.inr ⟨rfl, reply⟩), by decide⟩

end Busbind.BusNames
