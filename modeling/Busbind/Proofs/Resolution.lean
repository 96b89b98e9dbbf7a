import Busbind.Binding
import Busbind.Proofs.Outcome

/-! What a resolved part of a definition consists of: the part itself, and each of its names and
types resolved on its own. -/
namespace Busbind.Resolution
open Outcome

theorem ofWordParts {role : NameRole} {name word : String} {differs : Bool} {n : BoundName}
    (bound : BoundName.ofWord role name word differs = .ok n) :
    n = ⟨.avoiding word, differs || isReserved word⟩ := by
  unfold BoundName.ofWord Identifier.ofWord? at bound
  split at bound
  · contradiction
  · rename_i identifier usable
    cases bound
    split at usable <;> cases usable
    rfl

theorem parameterParts {role : NameRole} {p : Parameter} {b : BoundParameter}
    (bound : BoundParameter.bind role p = .ok b) :
    b.source = p ∧ BoundName.snake role p.name = .ok b.name ∧
      ValueType.ofReference p.type p.isArray = .ok b.type := by
  obtain ⟨name, readName, bound⟩ := bindOk bound
  obtain ⟨type, readType, bound⟩ := bindOk bound
  cases bound
  exact ⟨rfl, readName, readType⟩

theorem structParts {s : Struct} {b : BoundStruct} (bound : BoundStruct.bind s = .ok b) :
    b.source = s ∧ BoundName.camel .struct s.name = .ok b.name ∧
      s.fields.mapM (BoundParameter.bind .field) = .ok b.fields := by
  obtain ⟨name, readName, bound⟩ := bindOk bound
  obtain ⟨fields, readFields, bound⟩ := bindOk bound
  cases bound
  exact ⟨rfl, readName, readFields⟩

theorem typedefParts {t : Typedef} {b : BoundAlias} (bound : BoundAlias.bindTypedef t = .ok b) :
    BoundName.camel .typedef t.name = .ok b.name ∧
      ValueType.ofReference t.aliased false = .ok b.type := by
  obtain ⟨name, readName, bound⟩ := bindOk bound
  obtain ⟨type, readType, bound⟩ := bindOk bound
  cases bound
  exact ⟨readName, readType⟩

theorem arrayParts {a : ArrayAlias} {b : BoundAlias} (bound : BoundAlias.bindArray a = .ok b) :
    BoundName.camel .array a.name = .ok b.name ∧
      ValueType.ofReference a.element true = .ok b.type := by
  obtain ⟨name, readName, bound⟩ := bindOk bound
  obtain ⟨type, readType, bound⟩ := bindOk bound
  cases bound
  exact ⟨readName, readType⟩

theorem methodParts {m : Method} {b : BoundMethod} (bound : BoundMethod.bind m = .ok b) :
    b.source = m ∧ BoundName.snake .method m.name = .ok b.name ∧
      m.inputs.mapM (BoundParameter.bind .parameter) = .ok b.arguments ∧
      BoundMethod.bindReplies m = .ok b.replies := by
  obtain ⟨name, readName, bound⟩ := bindOk bound
  obtain ⟨arguments, readArguments, bound⟩ := bindOk bound
  obtain ⟨replies, readReplies, bound⟩ := bindOk bound
  cases bound
  exact ⟨rfl, readName, readArguments, readReplies⟩

theorem attributeParts {a : Attribute} {b : BoundAttribute}
    (bound : BoundAttribute.bind a = .ok b) :
    b.source = a ∧ BoundName.snake .attr a.name = .ok b.name ∧
      ValueType.ofReference a.type a.isArray = .ok b.type := by
  obtain ⟨name, readName, bound⟩ := bindOk bound
  obtain ⟨type, readType, bound⟩ := bindOk bound
  cases bound
  exact ⟨rfl, readName, readType⟩

theorem broadcastParts {c : Broadcast} {b : BoundBroadcast}
    (bound : BoundBroadcast.bind c = .ok b) :
    b.source = c ∧ BoundName.snake .broadcast c.name = .ok b.name ∧
      c.outputs.mapM (BoundParameter.bind .parameter) = .ok b.arguments := by
  obtain ⟨name, readName, bound⟩ := bindOk bound
  obtain ⟨arguments, readArguments, bound⟩ := bindOk bound
  cases bound
  exact ⟨rfl, readName, readArguments⟩

structure Parts (module : Option String) (d : Definition) (b : BoundDefinition) : Prop where
  source : b.source = d
  structs : d.structs.mapM BoundStruct.bind = .ok b.structs
  typedefs : d.typedefs.mapM BoundAlias.bindTypedef = .ok b.typedefs
  arrays : d.arrays.mapM BoundAlias.bindArray = .ok b.arrays
  name : BoundName.camel .interface d.interface.name = .ok b.name
  methods : d.methods.mapM BoundMethod.bind = .ok b.methods
  attributes : d.attributes.mapM BoundAttribute.bind = .ok b.attributes
  broadcasts : d.broadcasts.mapM BoundBroadcast.bind = .ok b.broadcasts
  module : BoundDefinition.bindModule module = .ok b.module

theorem definitionParts {module : Option String} {d : Definition} {b : BoundDefinition}
    (bound : BoundDefinition.bind module d = .ok b) : Parts module d b := by
  obtain ⟨structs, readStructs, bound⟩ := bindOk bound
  obtain ⟨typedefs, readTypedefs, bound⟩ := bindOk bound
  obtain ⟨arrays, readArrays, bound⟩ := bindOk bound
  obtain ⟨name, readName, bound⟩ := bindOk bound
  obtain ⟨methods, readMethods, bound⟩ := bindOk bound
  obtain ⟨attributes, readAttributes, bound⟩ := bindOk bound
  obtain ⟨broadcasts, readBroadcasts, bound⟩ := bindOk bound
  obtain ⟨module', readModule, bound⟩ := bindOk bound
  cases bound
  exact ⟨rfl, readStructs, readTypedefs, readArrays, readName, readMethods, readAttributes,
    readBroadcasts, readModule⟩

theorem bindingParts {c : Configuration} {d : Definition} {file : BindingFile}
    (made : Binding.ofDefinition c d = .ok file) :
    ∃ b, Parts c.module d b ∧ file.items = Binding.shared c.serde b ++ Binding.sideItems b c.mode := by
  rw [Binding.ofDefinition] at made
  cases bound : BoundDefinition.bind c.module d with
  | error e =>
    rw [bound] at made
    contradiction
  | ok b =>
    rw [bound] at made
    cases made
    exact ⟨b, definitionParts bound, rfl⟩

end Busbind.Resolution
