import Busbind.Proofs.OutlineParts

/-! Definitions read from texts have the same outline only if they agree up to the blank edges of
their documentation. Every line of such an outline is plain, so the text falls into its lines, the
lines into the parts, and each part into what it describes. -/
namespace Busbind.Definition

def described (d : Definition) : Definition :=
  { d with interface := { d.interface with description := some (d.interface.description.getD "") } }

end Busbind.Definition

namespace Busbind.Outline
open Canonical WellFormed

section Lines
variable {α : Type} {s t n : String} {xs : List α} {f : α → List Line}

def AllPlain (ls : List Line) : Prop := ∀ l ∈ ls, Plain l.text

theorem bareUnbroken (bare : Bare s) : '\n' ∉ s.toList := bareFree rfl bare

theorem plainBehind (front : indented (s.toList ++ t.toList) = false) (first : '\n' ∉ s.toList)
    (later : '\n' ∉ t.toList) : Plain (s ++ t) := by
  constructor
  · rw [String.toList_append]
    exact fun mem => (List.mem_append.1 mem).elim first later
  · rw [String.toList_append]
    exact front

theorem plainBare (bare : Bare s) (plain : Plain t) : Plain (s ++ t) := by
  refine plainBehind ?_ (bareUnbroken bare) plain.oneLine
  cases chars : s.toList with
  | nil => exact plain.front
  | cons c cs =>
    have visible : c ≠ ' ' := by
      rintro rfl
      exact bareFree rfl bare (chars ▸ List.mem_cons_self)
    simp [indented, visible]

theorem namePlain (bare : Bare s) : Plain s := by
  rw [← String.append_empty (s := s)]
  exact plainBare bare ⟨by decide, rfl⟩

theorem plainBlank (front : s.toList.head? ≠ some ' ') (unbroken : '\n' ∉ s.toList) :
    Plain (" " ++ s) := by
  refine plainBehind ?_ (by decide) unbroken
  cases chars : s.toList with
  | nil => rfl
  | cons c cs =>
    rw [chars] at front
    have visible : c ≠ ' ' := fun same => front (congrArg some same)
    simp [indented, visible]

theorem typedPlain {isArray changes : Bool} (type : Bare t) (name : Bare n) :
    Plain (arrayType t isArray ++ " " ++ (if changes then "^" else "") ++ n) := by
  have marked : Plain (" " ++ ((if changes then "^" else "") ++ n)) := by
    cases changes
    · rw [if_neg Bool.false_ne_true, String.empty_append]
      have front : n.toList.head? ≠ some ' ' :=
        fun blank => bareFree rfl name (List.mem_of_head? blank)
      exact plainBlank front (bareUnbroken name)
    · refine plainBehind (by rw [if_pos rfl, String.toList_append]; rfl) (by decide) ?_
      simpa [String.toList_append] using bareUnbroken name
  rw [arrayType, String.append_assoc, String.append_assoc, String.append_assoc]
  refine plainBare type ?_
  cases isArray
  · simpa using marked
  · exact plainBehind rfl (by decide) marked.oneLine

theorem docPlain (k : Nat) (s : String) : AllPlain (doc k s) := by
  intro l mem
  simp only [doc] at mem
  split at mem
  · contradiction
  · rw [List.mem_singleton.1 mem]
    exact plainBehind rfl (by decide) (Text.quotedUnbroken _)

theorem groupPlain {k : Nat} {label : String} (plain : Plain label)
    (each : ∀ x ∈ xs, AllPlain (f x)) : AllPlain (group k label f xs) := by
  unfold group
  split
  · nofun
  · refine List.forall_mem_cons.2 ⟨plain, fun l mem => ?_⟩
    obtain ⟨x, here, mem⟩ := List.mem_flatMap.1 mem
    exact each x here l mem

theorem parameterPlain {p : Parameter} (k : Nat) (formed : ParameterFormed p) :
    AllPlain (parameter k p) :=
  List.forall_mem_cons.2 ⟨typedPlain (wordBare formed.type.1) (labelBare formed.name),
    docPlain (k + 1) _⟩

theorem parametersPlain {label : String} {ps : List Parameter} (plain : Plain label)
    (formed : ∀ p ∈ ps, ParameterFormed p) : AllPlain (parameters label ps) :=
  groupPlain plain fun p mem => parameterPlain 3 (formed p mem)

theorem attrPlain {a : Attribute} (formed : DeclarationFormed (.attr a)) : AllPlain (attr a) := by
  refine List.forall_mem_cons.2 ⟨?_, docPlain 2 _⟩
  have plain : Plain (arrayType a.type a.isArray ++ " " ++ (if false then "^" else "") ++ a.name) :=
    typedPlain (referenceBare (formed.types _ List.mem_cons_self)) (labelBare formed.name)
  simpa using plain

theorem methodPlain {m : Method} (formed : DeclarationFormed (.method m)) :
    AllPlain (method m) := by
  obtain ⟨inputs, outputs⟩ := List.forall_mem_append.1 formed.parameters
  refine List.forall_mem_append.2 ⟨List.forall_mem_append.2
    ⟨List.forall_mem_cons.2 ⟨?_, docPlain 2 _⟩, ?_⟩, ?_⟩
  · refine plainBare (labelBare formed.name) ?_
    cases m.fireAndForget <;> exact ⟨by decide, rfl⟩
  · exact parametersPlain ⟨by decide, rfl⟩ inputs
  · exact parametersPlain ⟨by decide, rfl⟩ outputs

theorem broadcastPlain {b : Broadcast} (formed : DeclarationFormed (.broadcast b)) :
    AllPlain (broadcast b) := by
  refine List.forall_mem_append.2 ⟨List.forall_mem_cons.2 ⟨?_, docPlain 2 _⟩,
    parametersPlain ⟨by decide, rfl⟩ formed.parameters⟩
  refine plainBare (labelBare formed.name) ?_
  cases b.selective <;> exact ⟨by decide, rfl⟩

theorem structPlain {s : Struct} (formed : DeclarationFormed (.struct s)) :
    AllPlain (struct s) := by
  refine List.forall_mem_append.2 ⟨List.forall_mem_cons.2
    ⟨namePlain (labelBare formed.name), docPlain 2 _⟩, fun l mem => ?_⟩
  obtain ⟨p, here, mem⟩ := List.mem_flatMap.1 mem
  exact parameterPlain 2 (formed.parameters p here) l mem

theorem aliasPlain (named : Bare n) (unbroken : '\n' ∉ t.toList) : Plain (n ++ " = " ++ t) := by
  rw [String.append_assoc]
  exact plainBare named (plainBehind rfl (by decide) unbroken)

theorem typedefPlain {t : Typedef} (formed : DeclarationFormed (.typedef t)) :
    AllPlain (typedef t) := by
  have aliased := bareUnbroken (referenceBare (formed.types t.aliased List.mem_cons_self))
  exact List.forall_mem_cons.2 ⟨aliasPlain (labelBare formed.name) aliased, docPlain 2 _⟩

theorem arrayPlain {a : ArrayAlias} (formed : DeclarationFormed (.array a)) :
    AllPlain (arrayAlias a) := by
  have element := bareUnbroken (referenceBare (formed.types a.element List.mem_cons_self))
  have plain : Plain (a.name ++ " = " ++ (a.element ++ "[]")) :=
    aliasPlain (labelBare formed.name) (by simpa [String.toList_append] using element)
  exact List.forall_mem_cons.2 ⟨by rw [String.append_assoc]; exact plain, docPlain 2 _⟩

theorem importPlain {i : Import} (path : IsImportPath i.path) (source : '\n' ∉ i.source.toList) :
    Plain i.describe := by
  have unbroken : '\n' ∉ i.path.toList := by
    intro mem
    have part := pathParts path _ mem
    contradiction
  rw [Import.describe, String.append_assoc]
  refine plainBehind rfl (by decide) ?_
  split <;> simp [String.toList_append, unbroken, source]

theorem interfacePlain {i : InterfaceClause} (named : IsIdentifier i.name) :
    AllPlain (interface i) := by
  have unbroken := bareUnbroken (wordBare named.1)
  have digits (n : Nat) : '\n' ∉ (toString n).toList := by
    intro mem
    have digit := VersionNumber.decimalDigits n _ mem
    contradiction
  have version (m n : Nat) : '\n' ∉ (" v" ++ (toString m ++ ("." ++ toString n))).toList := by
    simp only [String.toList_append, List.mem_append, digits, or_false]
    decide
  refine List.forall_mem_cons.2 ⟨?_, docPlain 1 _⟩
  simp only [String.append_assoc]
  refine plainBehind rfl (by decide) ?_
  rw [String.toList_append]
  exact fun mem => (List.mem_append.1 mem).elim unbroken (version _ _)

end Lines

/-- A definition of words, as it is read from a text, whose imports stay on their lines. -/
structure Printable (d : Definition) : Prop where
  package : IsIdentifier d.package.name
  imports : ∀ i ∈ d.package.imports, IsImportPath i.path
  sources : ∀ i ∈ d.package.imports, '\n' ∉ i.source.toList
  interface : IsIdentifier d.interface.name
  attributes : ∀ a ∈ d.attributes, DeclarationFormed (.attr a)
  methods : ∀ m ∈ d.methods, DeclarationFormed (.method m)
  broadcasts : ∀ b ∈ d.broadcasts, DeclarationFormed (.broadcast b)
  structs : ∀ s ∈ d.structs, DeclarationFormed (.struct s)
  typedefs : ∀ t ∈ d.typedefs, DeclarationFormed (.typedef t)
  arrays : ∀ a ∈ d.arrays, DeclarationFormed (.array a)

section Definitions
variable {d e : Definition}

theorem printableRead {source : String} (read : Definition.ofText source = .ok d)
    (sources : ∀ i ∈ d.package.imports, '\n' ∉ i.source.toList) : Printable d := by
  obtain ⟨rest, header, _⟩ := ofTextParts read
  obtain ⟨package, imports, interface, _⟩ := clausesFormed (scanSound source) header
  have formed := membersFormed read
  simp only [members, List.mem_append, or_imp, forall_and, List.mem_map, forall_exists_index,
    and_imp, forall_apply_eq_imp_iff₂] at formed
  obtain ⟨⟨⟨⟨⟨attributes, methods⟩, broadcasts⟩, structs⟩, typedefs⟩, arrays⟩ := formed
  exact ⟨package, imports, sources, interface, attributes, methods, broadcasts, structs, typedefs,
    arrays⟩

theorem linesPlain (printable : Printable d) : AllPlain (lines d) := by
  have package : AllPlain (package d.package) := by
    refine List.forall_mem_cons.2 ⟨plainBehind rfl (by decide)
      (bareUnbroken (wordBare printable.package.1)), fun l mem => ?_⟩
    obtain ⟨i, here, rfl⟩ := List.mem_map.1 mem
    exact importPlain (printable.imports i here) (printable.sources i here)
  simp only [AllPlain, lines, List.forall_mem_append]
  refine ⟨⟨⟨⟨⟨⟨⟨package, interfacePlain printable.interface⟩, ?_⟩, ?_⟩, ?_⟩, ?_⟩, ?_⟩, ?_⟩
  · exact groupPlain ⟨by decide, rfl⟩ fun a mem => attrPlain (printable.attributes a mem)
  · exact groupPlain ⟨by decide, rfl⟩ fun m mem => methodPlain (printable.methods m mem)
  · exact groupPlain ⟨by decide, rfl⟩ fun b mem => broadcastPlain (printable.broadcasts b mem)
  · exact groupPlain ⟨by decide, rfl⟩ fun s mem => structPlain (printable.structs s mem)
  · exact groupPlain ⟨by decide, rfl⟩ fun t mem => typedefPlain (printable.typedefs t mem)
  · exact groupPlain ⟨by decide, rfl⟩ fun a mem => arrayPlain (printable.arrays a mem)

def groups (d : Definition) : List (String × List Line) :=
  [("attributes", d.attributes.flatMap attr), ("methods", d.methods.flatMap method),
    ("broadcasts", d.broadcasts.flatMap broadcast), ("structs", d.structs.flatMap struct),
    ("typedefs", d.typedefs.flatMap typedef), ("arrays", d.arrays.flatMap arrayAlias)]

theorem groupsBelow (d : Definition) : ∀ b ∈ groups d, Below 0 b.2 := by
  simp only [groups, List.forall_mem_cons, List.not_mem_nil, false_implies, implies_true, and_true]
  exact ⟨partsBelow Nat.one_pos attrPart, partsBelow Nat.one_pos methodPart,
    partsBelow Nat.one_pos broadcastPart, partsBelow Nat.one_pos structPart,
    partsBelow Nat.one_pos typedefPart, partsBelow Nat.one_pos arrayPart⟩

theorem linesGrouped (d : Definition) : lines d =
    ⟨0, "package " ++ d.package.name⟩ :: (d.package.imports.map (fun i => ⟨1, i.describe⟩) ++
      (interface d.interface ++ (groups d).flatMap (labelled 0))) := by
  simp [lines, package, groups, groupLabelled attrPart, groupLabelled methodPart,
    groupLabelled broadcastPart, groupLabelled structPart, groupLabelled typedefPart,
    groupLabelled arrayPart]

theorem packageApart (printable : Printable d) (printable' : Printable e)
    (name : "package " ++ d.package.name = "package " ++ e.package.name)
    (imports : d.package.imports.map (fun i => (⟨1, i.describe⟩ : Line)) =
      e.package.imports.map fun i => ⟨1, i.describe⟩) : d.package = e.package := by
  have paths : d.package.imports.map id = e.package.imports.map id :=
    mapApart (P := fun i => IsImportPath i.path)
      (fun path path' same => importApart path path' (congrArg Line.text same)) printable.imports
      printable'.imports imports
  rw [List.map_id, List.map_id] at paths
  exact congrArg₂ PackageClause.mk ((String.append_right_inj _).1 name) paths

theorem linesFaithful (printable : Printable d) (printable' : Printable e)
    (same : lines d = lines e) :
    d.described.retold Text.trimmed = e.described.retold Text.trimmed := by
  have below (is : List Import) : Below 0 (is.map fun i => ⟨1, i.describe⟩) := by
    intro l mem
    obtain ⟨i, _, rfl⟩ := List.mem_map.1 mem
    exact Nat.one_pos
  have stop (i : InterfaceClause) (ls : List Line) (l : Line)
      (first : (interface i ++ ls).head? = some l) : l.depth ≤ 0 := by
    cases first
    exact Nat.le_refl 0
  have free (d : Definition) : DocFree 1 ((groups d).flatMap (labelled 0)) := by
    rintro _ first q rfl
    obtain ⟨_, _, same⟩ := labelledFirst _ first
    cases same
  rw [linesGrouped, linesGrouped] at same
  obtain ⟨named, body⟩ := List.cons.inj same
  obtain ⟨imports, body⟩ := belowApart (below _) (below _) (stop _ _) (stop _ _) body
  have package := packageApart printable printable' (congrArg Line.text named) imports
  obtain ⟨titled, body⟩ := List.cons.inj body
  obtain ⟨name, major, minor⟩ := versionedApart (wordBare printable.interface.1)
    (wordBare printable'.interface.1) (congrArg Line.text titled)
  obtain ⟨description, body⟩ := docApart (free d) (free e) body
  have parts := labelledApart body rfl (by simp [groups]) (groupsBelow d) (groupsBelow e)
  simp only [groups, List.cons.injEq, Prod.mk.injEq, true_and, and_true] at parts
  obtain ⟨attributes, methods, broadcasts, structs, typedefs, arrays⟩ := parts
  have attributes := mapApart attrApart printable.attributes printable'.attributes
    (partsApart attrPart attributes)
  have methods := mapApart methodApart printable.methods printable'.methods
    (partsApart methodPart methods)
  have broadcasts := mapApart broadcastApart printable.broadcasts printable'.broadcasts
    (partsApart broadcastPart broadcasts)
  have structs := mapApart structApart printable.structs printable'.structs
    (partsApart structPart structs)
  have typedefs := mapApart typedefApart printable.typedefs printable'.typedefs
    (partsApart typedefPart typedefs)
  have arrays := mapApart arrayApart printable.arrays printable'.arrays
    (partsApart arrayPart arrays)
  simp only [Definition.retold, Definition.described, InterfaceClause.retold, Option.map_some,
    package, name, major, minor, description, attributes, methods, broadcasts, structs, typedefs,
    arrays]

end Definitions

/-- Definitions with the same outline agree in all but the blank edges of their descriptions. -/
theorem outlineFaithful {s t : String} {d e : Definition}
    (read : Definition.ofText s = .ok d) (read' : Definition.ofText t = .ok e)
    (sources : ∀ i ∈ d.package.imports, '\n' ∉ i.source.toList)
    (sources' : ∀ i ∈ e.package.imports, '\n' ∉ i.source.toList) (same : d.outline = e.outline) :
    d.described.retold Text.trimmed = e.described.retold Text.trimmed := by
  have printable := printableRead read sources
  have printable' := printableRead read' sources'
  exact linesFaithful printable printable'
    (linesApart (linesPlain printable) (linesPlain printable') same)

def padded : String :=
  "package p import a* 'm' <** **> interface I \x7b <** in **> attribute [] method \x7b in \x7b " ++
    "<**\tx **> B ^ \x7d \x7d struct S \x7b"

def unpadded : String :=
  "package p import a* 'm' interface I \x7b <**in**> attribute [] method \x7b in \x7b " ++
    "<**x**> B ^ \x7d \x7d struct S \x7b"

def unnamed (description : Option String) (label text : String) : Definition where
  package := ⟨"p", [⟨"a*", "m"⟩]⟩
  interface := ⟨"I", description, 0, 0⟩
  attributes := [⟨label, "", "", true⟩]
  methods := [⟨"", "", false, [⟨text, "B", "", false, true⟩], []⟩]
  broadcasts := []
  structs := [⟨"", "S", []⟩]
  typedefs := []
  arrays := []

def paddedDefinition : Definition := unnamed (some " ") " in " "\tx "

def unpaddedDefinition : Definition := unnamed none "in" "x"

theorem paddedSame : Definition.ofText padded = .ok paddedDefinition ∧
    Definition.ofText unpadded = .ok unpaddedDefinition ∧
    paddedDefinition.outline = unpaddedDefinition.outline ∧
    paddedDefinition.described.retold Text.trimmed =
      unpaddedDefinition.described.retold Text.trimmed := by
  have read : Definition.ofText padded = .ok paddedDefinition := by decide +kernel
  have read' : Definition.ofText unpadded = .ok unpaddedDefinition := by decide +kernel
  have same : paddedDefinition.outline = unpaddedDefinition.outline := by decide +kernel
  exact ⟨read, read', same, outlineFaithful read read' (by decide) (by decide) same⟩

end Busbind.Outline
