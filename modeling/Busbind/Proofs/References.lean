import Busbind.Binding.Writing
import Busbind.Grammar
import Busbind.Proofs.Casing
import Busbind.Proofs.Contract
import Busbind.Proofs.Usability

/-! What the type references of a definition become. Generated code writes a type for every
reference of the definition, in the order of the references, and a name for every declared type. A
reference is written as its last segment, so that it names the declaration of the same name unless
that one has a part in front of a dot. Nothing keeps it apart from the types that the code relies
on: where the casing of that segment is the name of such a type, it captures the name. -/
namespace Busbind.References
open Binding Casing Outcome Resolution Contract Usability

def IsBuiltin (name : String) : Prop := ∃ t ∈ BuiltinType.all, t.spelling = name

def typeNames (d : Definition) : List String :=
  d.structs.map Struct.name ++ d.typedefs.map Typedef.name ++ d.arrays.map ArrayAlias.name

def declaredNames (items : List Item) : List Identifier :=
  items.filterMap fun
    | .record _ _ name _ => some name
    | .synonym _ name _ => some name
    | _ => none

def parameterReferences (ps : List Parameter) : List String := ps.map Parameter.type

def methodReferences (m : Method) : List String :=
  parameterReferences m.inputs ++ if m.fireAndForget then [] else parameterReferences m.outputs

def sharedReferences (d : Definition) : List String :=
  d.structs.flatMap (fun s => parameterReferences s.fields) ++ d.typedefs.map Typedef.aliased ++
    d.arrays.map ArrayAlias.element

def callReferences (d : Definition) : List String :=
  d.methods.flatMap methodReferences ++ d.attributes.map Attribute.type

def signalReferences (d : Definition) : List String :=
  d.broadcasts.flatMap fun b => parameterReferences b.outputs

/-- The references that generated code has a type for; a server has its calls twice, to handle them
and to export them. -/
def references (d : Definition) : Mode → List String
  | .sender => sharedReferences d ++ (callReferences d ++ signalReferences d)
  | .receiver => sharedReferences d ++ (callReferences d ++ (signalReferences d ++ callReferences d))

/-- The types that a function takes and returns. A constructor takes the handler, whose type no
definition names. -/
def functionTypes (f : Function) : List ValueType :=
  match f.signature.receiver with
  | .free => []
  | .self | .emitter => f.signature.arguments.map Argument.type ++ repliesOf f.signature.returns

def itemTypes : Item → List ValueType
  | .record _ _ _ fields => fields.map Field.type
  | .synonym _ _ type => [type]
  | .proxy _ _ _ _ functions => functions.flatMap functionTypes
  | .handler _ _ functions => functions.flatMap functionTypes
  | .implementation _ _ _ functions => functions.flatMap functionTypes
  | .constant .. | .server .. => []

def emittedTypes (items : List Item) : List ValueType := items.flatMap itemTypes

def named? : ValueType → Option Identifier
  | .builtin _ => none
  | .user name => some name
  | .vector element => named? element

def reliedNames : Mode → List String
  | .sender => ["String", "Vec"]
  | .receiver => ["String", "Vec", "H"]

structure Resolved (mode : Mode) (declared : List (String × Identifier)) (reference : String)
    (i : Identifier) : Prop where
  segment : i = camelIdentifier (Naming.lastSegment reference)
  declaration : ∀ e ∈ declared, e.1 = reference → (i = e.2 ↔ IsUndivided reference)
  capture : ∀ w ∈ reliedNames mode,
    i = ⟨w, false⟩ ↔ Naming.upperCamelCase (Naming.lastSegment reference) = w

def Stands (reference : String) (type : ValueType) : Prop :=
  ∃ isArray, ValueType.ofReference reference isArray = .ok type

section Types
variable {reference : String} {type : ValueType}

theorem ofNameNamed (user : ¬IsBuiltin reference) (bound : ValueType.ofName reference = .ok type) :
    named? type = some (camelIdentifier (Naming.lastSegment reference)) := by
  unfold ValueType.ofName at bound
  split at bound
  · contradiction
  · cases found : BuiltinType.ofSpelling? reference with
    | some t => exact absurd ((ofSpellingKnown reference).1 ⟨t, found⟩) user
    | none =>
      simp only [found] at bound
      cases written : BoundName.camel .type (Naming.lastSegment reference) with
      | error e =>
        simp only [written, Except.map] at bound
        exact nomatch bound
      | ok n =>
        simp only [written, Except.map, Except.ok.injEq] at bound
        rw [← bound, named?, camelBound written]

theorem standsNamed (user : ¬IsBuiltin reference) (stands : Stands reference type) :
    named? type = some (camelIdentifier (Naming.lastSegment reference)) := by
  obtain ⟨isArray, bound⟩ := stands
  unfold ValueType.ofReference at bound
  cases single : ValueType.ofName reference with
  | error e =>
    rw [single] at bound
    contradiction
  | ok element =>
    rw [single] at bound
    cases bound
    have name := ofNameNamed user single
    cases isArray with
    | true => exact name
    | false => exact name

end Types

/-! The types of resolved parts, which the items of either side are read to have. -/

def sharedTypes (b : BoundDefinition) : List ValueType :=
  b.structs.flatMap (fun s => s.fields.map BoundParameter.type) ++ b.typedefs.map BoundAlias.type ++
    b.arrays.map BoundAlias.type

def callTypes (b : BoundDefinition) : List ValueType :=
  b.methods.flatMap (fun m => m.arguments.map BoundParameter.type ++ m.replies) ++
    b.attributes.map BoundAttribute.type

def signalTypes (b : BoundDefinition) : List ValueType :=
  b.broadcasts.flatMap fun c => c.arguments.map BoundParameter.type

def boundTypes (b : BoundDefinition) : Mode → List ValueType
  | .sender => sharedTypes b ++ (callTypes b ++ signalTypes b)
  | .receiver => sharedTypes b ++ (callTypes b ++ (signalTypes b ++ callTypes b))

section Reading
variable (serde : Bool) (b : BoundDefinition)

theorem sharedRead : emittedTypes (shared serde b) = sharedTypes b := by
  simp [emittedTypes, shared, sharedTypes, constants, record, synonym, field, itemTypes,
    List.flatMap_map, ← List.map_eq_flatMap,
    Function.comp_def]

theorem proxyRead : emittedTypes (Proxy.items b) = callTypes b ++ signalTypes b := by
  simp [emittedTypes, Proxy.items, Proxy.functions, Proxy.method, Proxy.property, Proxy.signal,
    itemTypes, functionTypes, repliesOf, callTypes, signalTypes, argument, List.flatMap_map,
    ← List.map_eq_flatMap, Function.comp_def]

theorem serverRead :
    emittedTypes (Server.items b) = callTypes b ++ (signalTypes b ++ callTypes b) := by
  simp [emittedTypes, Server.items, Server.handlerFunctions, Server.handlerMethod,
    Server.handlerProperty, Server.ownFunctions, Server.constructor, Server.accessor,
    Server.emitter, Server.exportedFunctions, Server.exportedMethod, Server.exportedProperty,
    Server.methodSignature, Server.propertySignature, itemTypes, functionTypes, repliesOf,
    callTypes, signalTypes, argument, List.flatMap_map, ← List.map_eq_flatMap,
    Function.comp_def]

theorem itemsRead (mode : Mode) :
    emittedTypes (shared serde b ++ sideItems b mode) = boundTypes b mode := by
  rw [emittedTypes, List.flatMap_append, ← emittedTypes, ← emittedTypes, sharedRead]
  cases mode with
  | sender => rw [sideItems, proxyRead, boundTypes]
  | receiver => rw [sideItems, serverRead, boundTypes]

end Reading

section Pairs
variable {role : NameRole} {module : Option String} {d : Definition} {b : BoundDefinition}

theorem parametersStand {ps : List Parameter} {bs : List BoundParameter}
    (bound : ps.mapM (BoundParameter.bind role) = .ok bs) :
    List.Forall₂ Stands (parameterReferences ps) (bs.map BoundParameter.type) :=
  List.rel_map (fun p _ one => ⟨p.isArray, (parameterParts one).2.2⟩) (mapMPaired bound)

theorem repliesStand {m : Method} {types : List ValueType}
    (bound : BoundMethod.bindReplies m = .ok types) :
    List.Forall₂ Stands (if m.fireAndForget then [] else parameterReferences m.outputs) types := by
  unfold BoundMethod.bindReplies at bound
  split at bound
  · rename_i silent
    cases bound
    rw [if_pos silent]
    exact .nil
  · rename_i replies
    rw [if_neg replies, parameterReferences, List.forall₂_map_left_iff]
    exact (mapMPaired bound).imp fun p _ one => ⟨p.isArray, one⟩

theorem sharedStand (parts : Parts module d b) :
    List.Forall₂ Stands (sharedReferences d) (sharedTypes b) := by
  refine List.rel_append (List.rel_append ?_ ?_) ?_
  · exact List.rel_flatMap (mapMPaired parts.structs)
      fun _ _ one => parametersStand (structParts one).2.2
  · exact List.rel_map (fun _ _ one => ⟨false, (typedefParts one).2⟩) (mapMPaired parts.typedefs)
  · exact List.rel_map (fun _ _ one => ⟨true, (arrayParts one).2⟩) (mapMPaired parts.arrays)

theorem callsStand (parts : Parts module d b) :
    List.Forall₂ Stands (callReferences d) (callTypes b) := by
  refine List.rel_append ?_ ?_
  · refine List.rel_flatMap (mapMPaired parts.methods) fun _ _ one => ?_
    obtain ⟨_, _, arguments, replies⟩ := methodParts one
    exact List.rel_append (parametersStand arguments) (repliesStand replies)
  · exact List.rel_map (fun a _ one => ⟨a.isArray, (attributeParts one).2.2⟩)
      (mapMPaired parts.attributes)

theorem signalsStand (parts : Parts module d b) :
    List.Forall₂ Stands (signalReferences d) (signalTypes b) :=
  List.rel_flatMap (mapMPaired parts.broadcasts)
    fun _ _ one => parametersStand (broadcastParts one).2.2

theorem referencesStand (parts : Parts module d b) (mode : Mode) :
    List.Forall₂ Stands (references d mode) (boundTypes b mode) := by
  have calls := callsStand parts
  have signals := signalsStand parts
  cases mode with
  | sender => exact List.rel_append (sharedStand parts) (List.rel_append calls signals)
  | receiver =>
    exact List.rel_append (sharedStand parts)
      (List.rel_append calls (List.rel_append signals calls))

theorem declaredRead (parts : Parts module d b) (serde : Bool) (mode : Mode) :
    declaredNames (shared serde b ++ sideItems b mode) = (typeNames d).map camelIdentifier := by
  have side : declaredNames (sideItems b mode) = [] := by cases mode <;> rfl
  have structs := mapMKept (fun _ _ one => camelBound (structParts one).2.1) parts.structs
  have typedefs := mapMKept (fun _ _ one => camelBound (typedefParts one).1) parts.typedefs
  have arrays := mapMKept (fun _ _ one => camelBound (arrayParts one).1) parts.arrays
  rw [declaredNames, List.filterMap_append, ← declaredNames, ← declaredNames, side,
    List.append_nil]
  simp [declaredNames, shared, constants, record, synonym, typeNames, List.filterMap_map,
    Function.comp_def, structs, typedefs, arrays]

end Pairs

theorem reliedPlain (mode : Mode) : ∀ w ∈ reliedNames mode,
    w.toList.getLast? ≠ some '_' ∧ Identifier.avoiding w = ⟨w, false⟩ := by
  cases mode <;> decide +kernel

theorem capturesIff {mode : Mode} {w : String} (relied : w ∈ reliedNames mode) (name : String) :
    camelIdentifier name = ⟨w, false⟩ ↔ Naming.upperCamelCase name = w := by
  obtain ⟨last, unreserved⟩ := reliedPlain mode w relied
  rw [camelIdentifier, ← unreserved, avoidingIff (camelUnmarked name) (unmarkedOfLast last)]

/-- In generated code each reference to a type of the user stands as its last segment. It is the
declaration of that name exactly if the name is undivided, and captures the name of another type
exactly if its casing is that name. -/
theorem referencesResolved (c : Configuration) (d : Definition) {file : BindingFile}
    (made : ofDefinition c d = .ok file) :
    (typeNames d).length = (declaredNames file.items).length ∧
      List.Forall₂ (fun reference type => ¬IsBuiltin reference → ∃ i, named? type = some i ∧
          Resolved c.mode ((typeNames d).zip (declaredNames file.items)) reference i)
        (references d c.mode) (emittedTypes file.items) := by
  obtain ⟨b, parts, items⟩ := bindingParts made
  rw [items, declaredRead parts, itemsRead]
  have declared : List.Forall₂ (fun n i => i = camelIdentifier n) (typeNames d)
      ((typeNames d).map camelIdentifier) :=
    List.forall₂_map_right_iff.2 (List.forall₂_same.2 fun _ _ => rfl)
  refine ⟨(List.length_map _).symm, (referencesStand parts c.mode).imp ?_⟩
  intro reference type stands user
  refine ⟨_, standsNamed user stands, rfl, fun e mem same => ?_, fun w relied =>
    capturesIff relied _⟩
  rw [List.forall₂_zip declared mem, same, camelIdentifier, camelIdentifier,
    avoidingIff (camelUnmarked _) (camelUnmarked _), lastSegmentCamel]

def referring : Definition where
  package := ⟨"p", []⟩
  interface := ⟨"I", none, 0, 0⟩
  attributes := [⟨"", ".track", "current", true⟩]
  methods := [⟨"", "find", false, [⟨"", "org.demo.self", "key", false, false⟩],
    [⟨"", "album", "found", true, false⟩]⟩]
  broadcasts := [⟨"", "changed", false, [⟨"", "tracks", "now", false, false⟩]⟩]
  structs := [⟨"", ".track", [⟨"", "album", "from", false, false⟩]⟩, ⟨"", "self", []⟩]
  typedefs := [⟨"", "album", "String"⟩]
  arrays := [⟨"", "tracks", ".track"⟩]

theorem referringResolved : ∃ file, ofDefinition { mode := .receiver } referring = .ok file ∧
    (typeNames referring).length = (declaredNames file.items).length ∧
      List.Forall₂ (fun reference type => ¬IsBuiltin reference → ∃ i, named? type = some i ∧
          Resolved .receiver ((typeNames referring).zip (declaredNames file.items)) reference i)
        (references referring .receiver) (emittedTypes file.items) :=
  ⟨_, rfl, referencesResolved { mode := .receiver } referring rfl⟩

def capturing : String :=
  "package p interface I \x7b struct string \x7b String x \x7d attribute string y \x7d"

def captured : Definition where
  package := ⟨"p", []⟩
  interface := ⟨"I", none, 0, 0⟩
  attributes := [⟨"", "string", "y", false⟩]
  methods := []
  broadcasts := []
  structs := [⟨"", "string", [⟨"", "String", "x", false, false⟩]⟩]
  typedefs := []
  arrays := []

/-- The field of the struct, which is a text, is written as the struct itself. -/
theorem capturedElsewhere : Definition.ofText capturing = .ok captured ∧
    "String" ∈ reliedNames .sender ∧ ¬IsBuiltin "string" ∧
    ∃ file, ofDefinition {} captured = .ok file ∧
      (typeNames captured).zip (declaredNames file.items) = [("string", ⟨"String", false⟩)] ∧
      (references captured .sender).zip (emittedTypes file.items) =
        [("String", .builtin .string), ("string", .user ⟨"String", false⟩)] ∧
      Writing.valueType (.builtin .string) = Writing.valueType (.user ⟨"String", false⟩) := by
  refine ⟨by decide +kernel, by decide, ?_, _, rfl, by decide +kernel, by decide +kernel, rfl⟩
  unfold IsBuiltin
  decide +kernel

end Busbind.References
