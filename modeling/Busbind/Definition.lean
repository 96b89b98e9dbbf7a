import Busbind.Vocabulary

/-! Interface definitions: a package clause, an interface clause and the declarations, kept per
kind in the order in which they were declared. A text left out of a lenient declaration is empty;
whoever needs it to be a name has to check. -/
namespace Busbind

/-- An imported path, with its trailing `*` if it is a wildcard, and the model it comes from,
empty when none is named. -/
structure Import where
  path : String
  source : String
  deriving DecidableEq, Repr

namespace Import

def isWildcard (i : Import) : Bool := i.path.toList.getLast? = some '*'

def describe (i : Import) : String :=
  "import " ++ i.path ++ (if i.source.isEmpty then "" else " from \"" ++ i.source ++ "\"")

end Import

structure PackageClause where
  name : String
  imports : List Import
  deriving DecidableEq, Repr

structure InterfaceClause where
  name : String
  description : Option String
  major : UInt32
  minor : UInt32
  deriving DecidableEq, Repr

/-- A parameter of a method or broadcast, or a field of a struct. `changes` records the mark `^`
before the name. -/
structure Parameter where
  description : String
  type : String
  name : String
  isArray : Bool
  changes : Bool
  deriving DecidableEq, Repr

def arrayType (type : String) (isArray : Bool) : String := type ++ (if isArray then "[]" else "")

namespace Parameter

def describe (p : Parameter) : String :=
  arrayType p.type p.isArray ++ " " ++ (if p.changes then "^" else "") ++ p.name

end Parameter

structure Attribute where
  description : String
  type : String
  name : String
  isArray : Bool
  deriving DecidableEq, Repr

structure Method where
  description : String
  name : String
  fireAndForget : Bool
  inputs : List Parameter
  outputs : List Parameter
  deriving DecidableEq, Repr

structure Broadcast where
  description : String
  name : String
  selective : Bool
  outputs : List Parameter
  deriving DecidableEq, Repr

structure Struct where
  description : String
  name : String
  fields : List Parameter
  deriving DecidableEq, Repr

structure Typedef where
  description : String
  name : String
  aliased : String
  deriving DecidableEq, Repr

structure ArrayAlias where
  description : String
  name : String
  element : String
  deriving DecidableEq, Repr

inductive DeclarationKind
  | attr
  | method
  | broadcast
  | struct
  | typedef
  | array
  deriving DecidableEq, Repr

namespace DeclarationKind

def keyword : DeclarationKind → Keyword
  | .attr => .attr
  | .method => .method
  | .broadcast => .broadcast
  | .struct => .struct
  | .typedef => .typedef
  | .array => .array

def ofKeyword? : Keyword → Option DeclarationKind
  | .attr => some .attr
  | .method => some .method
  | .broadcast => some .broadcast
  | .struct => some .struct
  | .typedef => some .typedef
  | .array => some .array
  | _ => none

theorem keywordFound (d : DeclarationKind) : ofKeyword? d.keyword = some d := by
  cases d <;> rfl

theorem opensIffDeclaration (k : Keyword) :
    (ofKeyword? k).isSome = decide (k.role = .declaration) := by
  cases k <;> rfl

def label (d : DeclarationKind) : String := d.keyword.spelling

end DeclarationKind

inductive Declaration
  | attr (a : Attribute)
  | method (m : Method)
  | broadcast (b : Broadcast)
  | struct (s : Struct)
  | typedef (t : Typedef)
  | array (a : ArrayAlias)
  deriving DecidableEq, Repr

namespace Declaration

def name : Declaration → String
  | .attr a => a.name
  | .method m => m.name
  | .broadcast b => b.name
  | .struct s => s.name
  | .typedef t => t.name
  | .array a => a.name

def description : Declaration → String
  | .attr a => a.description
  | .method m => m.description
  | .broadcast b => b.description
  | .struct s => s.description
  | .typedef t => t.description
  | .array a => a.description

def kind : Declaration → DeclarationKind
  | .attr _ => .attr
  | .method _ => .method
  | .broadcast _ => .broadcast
  | .struct _ => .struct
  | .typedef _ => .typedef
  | .array _ => .array

def attr? : Declaration → Option Attribute
  | .attr a => some a
  | _ => none

def method? : Declaration → Option Method
  | .method m => some m
  | _ => none

def broadcast? : Declaration → Option Broadcast
  | .broadcast b => some b
  | _ => none

def struct? : Declaration → Option Struct
  | .struct s => some s
  | _ => none

def typedef? : Declaration → Option Typedef
  | .typedef t => some t
  | _ => none

def array? : Declaration → Option ArrayAlias
  | .array a => some a
  | _ => none

end Declaration

structure Definition where
  package : PackageClause
  interface : InterfaceClause
  attributes : List Attribute
  methods : List Method
  broadcasts : List Broadcast
  structs : List Struct
  typedefs : List Typedef
  arrays : List ArrayAlias
  deriving DecidableEq, Repr

namespace Definition

def ofDeclarations (package : PackageClause) (interface : InterfaceClause)
    (ds : List Declaration) : Definition where
  package := package
  interface := interface
  attributes := ds.filterMap Declaration.attr?
  methods := ds.filterMap Declaration.method?
  broadcasts := ds.filterMap Declaration.broadcast?
  structs := ds.filterMap Declaration.struct?
  typedefs := ds.filterMap Declaration.typedef?
  arrays := ds.filterMap Declaration.array?

def declarationCount (d : Definition) : Nat :=
  d.attributes.length + d.methods.length + d.broadcasts.length + d.structs.length +
    d.typedefs.length + d.arrays.length

theorem countOfDeclarations (package : PackageClause) (interface : InterfaceClause)
    (ds : List Declaration) :
    (ofDeclarations package interface ds).declarationCount = ds.length := by
  induction ds with
  | nil => rfl
  | cons d ds ih =>
    simp only [declarationCount, ofDeclarations] at ih ⊢
    cases d <;>
      simp [List.filterMap_cons, Declaration.attr?, Declaration.method?, Declaration.broadcast?,
        Declaration.struct?, Declaration.typedef?, Declaration.array?] <;> omega

structure Keeps (d : Definition) (ds : List Declaration) : Prop where
  attributes : d.attributes.map .attr = ds.filter fun x => x.kind = .attr
  methods : d.methods.map .method = ds.filter fun x => x.kind = .method
  broadcasts : d.broadcasts.map .broadcast = ds.filter fun x => x.kind = .broadcast
  structs : d.structs.map .struct = ds.filter fun x => x.kind = .struct
  typedefs : d.typedefs.map .typedef = ds.filter fun x => x.kind = .typedef
  arrays : d.arrays.map .array = ds.filter fun x => x.kind = .array

section Keeping
variable (part? : Declaration → Option α) (whole : α → Declaration) (kind : DeclarationKind)

theorem partsOfKind (part : ∀ x, (part? x).map whole = if x.kind = kind then some x else none)
    (ds : List Declaration) :
    (ds.filterMap part?).map whole = ds.filter fun x => x.kind = kind := by
  rw [List.map_filterMap]
  induction ds with
  | nil => rfl
  | cons d ds ih =>
    rw [List.filterMap_cons, List.filter_cons, part d, ih]
    by_cases same : d.kind = kind
    · simp [same]
    · simp [same]

theorem partsKept (part : ∀ x, (part? x).map whole = if x.kind = kind then some x else none)
    (injective : ∀ a b, whole a = whole b → a = b) (parts : List α) (ds : List Declaration) :
    (parts.map whole = ds.filter fun x => x.kind = kind) ↔ parts = ds.filterMap part? := by
  rw [← partsOfKind part? whole kind part, List.map_inj_right injective]

/-- There is no more to a definition than its clauses and the declarations that it keeps. -/
theorem keepsIff {d : Definition} {ds : List Declaration} :
    d.Keeps ds ↔ d = ofDeclarations d.package d.interface ds := by
  have attributes := partsKept Declaration.attr? .attr .attr (fun x => by cases x <;> rfl)
    (fun _ _ => Declaration.attr.inj) d.attributes ds
  have methods := partsKept Declaration.method? .method .method (fun x => by cases x <;> rfl)
    (fun _ _ => Declaration.method.inj) d.methods ds
  have broadcasts := partsKept Declaration.broadcast? .broadcast .broadcast
    (fun x => by cases x <;> rfl) (fun _ _ => Declaration.broadcast.inj) d.broadcasts ds
  have structs := partsKept Declaration.struct? .struct .struct (fun x => by cases x <;> rfl)
    (fun _ _ => Declaration.struct.inj) d.structs ds
  have typedefs := partsKept Declaration.typedef? .typedef .typedef (fun x => by cases x <;> rfl)
    (fun _ _ => Declaration.typedef.inj) d.typedefs ds
  have arrays := partsKept Declaration.array? .array .array (fun x => by cases x <;> rfl)
    (fun _ _ => Declaration.array.inj) d.arrays ds
  constructor
  · intro kept
    obtain ⟨package, interface, _, _, _, _, _, _⟩ := d
    rw [ofDeclarations, mk.injEq]
    exact ⟨rfl, rfl, attributes.1 kept.attributes, methods.1 kept.methods,
      broadcasts.1 kept.broadcasts, structs.1 kept.structs, typedefs.1 kept.typedefs,
      arrays.1 kept.arrays⟩
  · intro same
    rw [ofDeclarations] at same
    exact ⟨attributes.2 (congrArg Definition.attributes same),
      methods.2 (congrArg Definition.methods same),
      broadcasts.2 (congrArg Definition.broadcasts same),
      structs.2 (congrArg Definition.structs same),
      typedefs.2 (congrArg Definition.typedefs same), arrays.2 (congrArg Definition.arrays same)⟩

end Keeping

def qualifiedName (d : Definition) : String :=
  if d.package.name.isEmpty then d.interface.name else d.package.name ++ "." ++ d.interface.name

end Definition

end Busbind
