import Busbind.Binding
import Busbind.Proofs.Casing

/-! Which definitions have bindings: those in which every name and type that the bindings need can
be used. The needs are listed in the order in which they are met; where one cannot be used, the
first such is the cause that is reported, whichever side the bindings are for. -/
namespace Busbind.Usability
open Binding Casing

inductive Need
  | name (role : NameRole) (name : String)
  | type (name : String)
  deriving DecidableEq, Repr

def IsUsableType (name : String) : Prop :=
  name ≠ "" ∧ ((∃ t ∈ BuiltinType.all, t.spelling = name) ∨ IsUsableName (Naming.lastSegment name))

namespace Need

def Usable : Need → Prop
  | .name _ s => IsUsableName s
  | .type s => IsUsableType s

def fault : Need → BindingError
  | .name role s => .invalidName role s
  | .type s => if s = "" then .missingType else .invalidName .type (Naming.lastSegment s)

end Need

def parameterNeeds (role : NameRole) (p : Parameter) : List Need :=
  [.name role p.name, .type p.type]

def structNeeds (s : Struct) : List Need :=
  .name .struct s.name :: s.fields.flatMap (parameterNeeds .field)

def typedefNeeds (t : Typedef) : List Need := [.name .typedef t.name, .type t.aliased]

def arrayNeeds (a : ArrayAlias) : List Need := [.name .array a.name, .type a.element]

def replyNeeds (m : Method) : List Need :=
  if m.fireAndForget then [] else m.outputs.map fun p => .type p.type

def methodNeeds (m : Method) : List Need :=
  .name .method m.name :: (m.inputs.flatMap (parameterNeeds .parameter) ++ replyNeeds m)

def attributeNeeds (a : Attribute) : List Need := [.name .attr a.name, .type a.type]

def broadcastNeeds (b : Broadcast) : List Need :=
  .name .broadcast b.name :: b.outputs.flatMap (parameterNeeds .parameter)

def needs (module : Option String) (d : Definition) : List Need :=
  d.structs.flatMap structNeeds ++ (d.typedefs.flatMap typedefNeeds ++
    (d.arrays.flatMap arrayNeeds ++ (.name .interface d.interface.name ::
      (d.methods.flatMap methodNeeds ++ (d.attributes.flatMap attributeNeeds ++
        (d.broadcasts.flatMap broadcastNeeds ++ module.toList.map (Need.name .module)))))))

/-- A step that fails for the first need that cannot be met, and for nothing else. -/
inductive Decided {α : Type} : List Need → Except BindingError α → Prop where
  | met {needs} (a : α) (all : ∀ n ∈ needs, n.Usable) : Decided needs (.ok a)
  | unmet {before n} (after : List Need) (earlier : ∀ m ∈ before, m.Usable) (bad : ¬n.Usable) :
      Decided (before ++ n :: after) (.error n.fault)

section Steps
variable {α β : Type}

theorem decidedOk (a : α) : Decided [] (.ok a) := .met a nofun

theorem decidedBind {needs later : List Need} {x : Except BindingError α}
    {f : α → Except BindingError β} (first : Decided needs x) (next : ∀ a, Decided later (f a)) :
    Decided (needs ++ later) (x >>= f) := by
  cases first with
  | unmet after earlier bad =>
    rw [List.append_assoc, List.cons_append]
    exact .unmet (after ++ later) earlier bad
  | met a all =>
    have rest := next a
    change Decided (needs ++ later) (f a)
    generalize f a = result at rest
    cases rest with
    | met b more =>
      refine .met b fun n mem => ?_
      rcases List.mem_append.1 mem with mem | mem
      · exact all n mem
      · exact more n mem
    | @unmet before n after earlier bad =>
      rw [← List.append_assoc]
      refine .unmet after (fun m mem => ?_) bad
      rcases List.mem_append.1 mem with mem | mem
      · exact all m mem
      · exact earlier m mem

theorem decidedLast {needs : List Need} {x : Except BindingError α} {f : α → Except BindingError β}
    (first : Decided needs x) (next : ∀ a, Decided [] (f a)) : Decided needs (x >>= f) := by
  have both := decidedBind first next
  rwa [List.append_nil] at both

theorem decidedMap {needs : List Need} {x : Except BindingError α} (f : α → β)
    (first : Decided needs x) : Decided needs (x.map f) := by
  have last := decidedLast first fun a => decidedOk (f a)
  cases x <;> exact last

theorem decidedEach {f : α → Except BindingError β} {need : α → List Need}
    (step : ∀ a, Decided (need a) (f a)) (xs : List α) :
    Decided (xs.flatMap need) (xs.mapM f) := by
  induction xs with
  | nil => exact decidedOk []
  | cons x xs ih =>
    rw [List.mapM_cons, List.flatMap_cons]
    exact decidedBind (step x) fun _ => decidedLast ih fun _ => decidedOk _

end Steps

theorem decidedOne {need : Need} {x : Except BindingError α}
    (cases : (need.Usable ∧ ∃ a, x = .ok a) ∨ (¬need.Usable ∧ x = .error need.fault)) :
    Decided [need] x := by
  rcases cases with ⟨good, a, rfl⟩ | ⟨bad, rfl⟩
  · exact .met a (List.forall_mem_singleton.2 good)
  · have none : ∀ m ∈ ([] : List Need), m.Usable := nofun
    exact .unmet [] none bad

theorem ofSpellingKnown (name : String) :
    (∃ t, BuiltinType.ofSpelling? name = some t) ↔ ∃ t ∈ BuiltinType.all, t.spelling = name := by
  rw [← Option.isSome_iff_exists, BuiltinType.ofSpelling?, List.find?_isSome]
  simp only [beq_iff_eq]

theorem snakeDecided (role : NameRole) (name : String) :
    Decided [.name role name] (BoundName.snake role name) := decidedOne (snakeCases role name)

theorem camelDecided (role : NameRole) (name : String) :
    Decided [.name role name] (BoundName.camel role name) := decidedOne (camelCases role name)

theorem ofNameDecided (name : String) : Decided [.type name] (ValueType.ofName name) := by
  apply decidedOne
  unfold ValueType.ofName
  by_cases empty : name = ""
  · refine .inr ⟨fun usable => usable.1 empty, ?_⟩
    simp [empty, Need.fault]
  · rw [if_neg (by simpa using empty)]
    cases found : BuiltinType.ofSpelling? name with
    | some t =>
      have known := (ofSpellingKnown name).1 ⟨t, found⟩
      exact .inl ⟨⟨empty, .inl known⟩, _, rfl⟩
    | none =>
      have unknown : ¬∃ t ∈ BuiltinType.all, t.spelling = name := by
        rw [← ofSpellingKnown, found]
        nofun
      rcases camelCases .type (Naming.lastSegment name) with ⟨good, n, ok⟩ | ⟨bad, fails⟩
      · exact .inl ⟨⟨empty, .inr good⟩, _, by rw [ok]; rfl⟩
      · refine .inr ⟨fun usable => usable.2.elim unknown bad, ?_⟩
        simp only [fails, Except.map, Need.fault, if_neg empty]

theorem ofReferenceDecided (name : String) (isArray : Bool) :
    Decided [.type name] (ValueType.ofReference name isArray) := decidedMap _ (ofNameDecided name)

section Parts

theorem parameterDecided (role : NameRole) (p : Parameter) :
    Decided (parameterNeeds role p) (BoundParameter.bind role p) :=
  decidedBind (snakeDecided role p.name) fun _ =>
    decidedLast (ofReferenceDecided p.type p.isArray) fun _ => decidedOk _

theorem structDecided (s : Struct) : Decided (structNeeds s) (BoundStruct.bind s) :=
  decidedBind (camelDecided .struct s.name) fun _ =>
    decidedLast (decidedEach (parameterDecided .field) s.fields) fun _ => decidedOk _

theorem typedefDecided (t : Typedef) : Decided (typedefNeeds t) (BoundAlias.bindTypedef t) :=
  decidedBind (camelDecided .typedef t.name) fun _ =>
    decidedLast (ofReferenceDecided t.aliased false) fun _ => decidedOk _

theorem arrayDecided (a : ArrayAlias) : Decided (arrayNeeds a) (BoundAlias.bindArray a) :=
  decidedBind (camelDecided .array a.name) fun _ =>
    decidedLast (ofReferenceDecided a.element true) fun _ => decidedOk _

theorem repliesDecided (m : Method) : Decided (replyNeeds m) (BoundMethod.bindReplies m) := by
  unfold replyNeeds BoundMethod.bindReplies
  split
  · exact decidedOk []
  · rw [List.map_eq_flatMap]
    exact decidedEach (fun p => ofReferenceDecided p.type p.isArray) m.outputs

theorem methodDecided (m : Method) : Decided (methodNeeds m) (BoundMethod.bind m) :=
  decidedBind (snakeDecided .method m.name) fun _ =>
    decidedBind (decidedEach (parameterDecided .parameter) m.inputs) fun _ =>
      decidedLast (repliesDecided m) fun _ => decidedOk _

theorem attributeDecided (a : Attribute) : Decided (attributeNeeds a) (BoundAttribute.bind a) :=
  decidedBind (snakeDecided .attr a.name) fun _ =>
    decidedLast (ofReferenceDecided a.type a.isArray) fun _ => decidedOk _

theorem broadcastDecided (b : Broadcast) : Decided (broadcastNeeds b) (BoundBroadcast.bind b) :=
  decidedBind (snakeDecided .broadcast b.name) fun _ =>
    decidedLast (decidedEach (parameterDecided .parameter) b.outputs) fun _ => decidedOk _

theorem moduleDecided (module : Option String) :
    Decided (module.toList.map (Need.name .module)) (BoundDefinition.bindModule module) := by
  cases module with
  | none => exact decidedOk none
  | some name => exact decidedMap some (snakeDecided .module name)

theorem bindDecided (module : Option String) (d : Definition) :
    Decided (needs module d) (BoundDefinition.bind module d) :=
  decidedBind (decidedEach structDecided d.structs) fun _ =>
    decidedBind (decidedEach typedefDecided d.typedefs) fun _ =>
      decidedBind (decidedEach arrayDecided d.arrays) fun _ =>
        decidedBind (camelDecided .interface d.interface.name) fun _ =>
          decidedBind (decidedEach methodDecided d.methods) fun _ =>
            decidedBind (decidedEach attributeDecided d.attributes) fun _ =>
              decidedBind (decidedEach broadcastDecided d.broadcasts) fun _ =>
                decidedLast (moduleDecided module) fun _ => decidedOk _

end Parts

section Outcomes
variable {α : Type} {needs : List Need} {x : Except BindingError α}

theorem decidedMet (h : Decided needs x) : (∃ a, x = .ok a) ↔ ∀ n ∈ needs, n.Usable := by
  cases h with
  | met a all => exact ⟨fun _ => all, fun _ => ⟨a, rfl⟩⟩
  | unmet after earlier bad => exact ⟨nofun, fun all => absurd (all _ (by simp)) bad⟩

open Classical in
theorem firstUnmet {before : List Need} {n : Need} (after : List Need)
    (earlier : ∀ m ∈ before, m.Usable) (bad : ¬n.Usable) :
    (before ++ n :: after).find? (fun m => decide ¬m.Usable) = some n := by
  rw [List.find?_eq_some_iff_append]
  exact ⟨by simpa using bad, before, after, rfl, by simpa using earlier⟩

theorem decidedUnmet (h : Decided needs x) (e : BindingError) :
    x = .error e ↔ ∃ before n after, needs = before ++ n :: after ∧
      (∀ m ∈ before, m.Usable) ∧ ¬n.Usable ∧ e = n.fault := by
  cases h with
  | met a all =>
    refine ⟨nofun, ?_⟩
    rintro ⟨before, n, after, rfl, _, bad, _⟩
    exact absurd (all n (by simp)) bad
  | @unmet before n after earlier bad =>
    constructor
    · intro same
      cases same
      exact ⟨before, n, after, rfl, earlier, bad, rfl⟩
    · rintro ⟨before', n', after', split, earlier', bad', rfl⟩
      have here := firstUnmet after earlier bad
      rw [split, firstUnmet after' earlier' bad'] at here
      rw [Option.some.inj here]

end Outcomes

theorem fileDecided (c : Configuration) (d : Definition) :
    Decided (needs c.module d) (ofDefinition c d) := decidedMap _ (bindDecided c.module d)

theorem boundIffUsable (c : Configuration) (d : Definition) :
    ((∃ file, ofDefinition c d = .ok file) ↔ ∀ n ∈ needs c.module d, n.Usable) ∧
    (∀ e, ofDefinition c d = .error e ↔ ∃ before n after, needs c.module d = before ++ n :: after ∧
      (∀ m ∈ before, m.Usable) ∧ ¬n.Usable ∧ e = n.fault) ∧
    ∀ mode, ((∃ file, ofDefinition (c.withMode mode) d = .ok file) ↔
        ∃ file, ofDefinition c d = .ok file) ∧
      ∀ e, ofDefinition (c.withMode mode) d = .error e ↔ ofDefinition c d = .error e := by
  have here := fileDecided c d
  refine ⟨decidedMet here, decidedUnmet here, fun mode => ?_⟩
  have other : Decided (needs c.module d) (ofDefinition (c.withMode mode) d) :=
    fileDecided (c.withMode mode) d
  constructor
  · rw [decidedMet other, decidedMet here]
  · intro e
    rw [decidedUnmet other, decidedUnmet here]

end Busbind.Usability
