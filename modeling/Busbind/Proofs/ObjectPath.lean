import Busbind.Proofs.DocLines
import Busbind.Proofs.WellFormed

/-! The object path that goes with the name of an interface. The steps of the path are the parts of
the name between its dots, without the empty ones, so that the bus takes the path however the dots
stand in the name. -/
namespace Busbind.ObjectPath
open Canonical Casing Naming Text WellFormed

def steps (name : String) : List (List Char) :=
  (name.toList.splitOn '.').filter fun p => !p.isEmpty

def IsStep (p : List Char) : Prop := p ≠ [] ∧ ∀ c ∈ p, IsPart c

structure IsPathOf (path : String) (steps : List (List Char)) : Prop where
  written : path.toList = steps.flatMap fun p => '/' :: p
  some : steps ≠ []
  legal : ∀ p ∈ steps, IsStep p

section Slashes
variable {p rest : List Char} {ps : List (List Char)}

theorem slashFree (parts : ∀ c ∈ p, IsPart c) : '/' ∉ p := by
  intro mem
  rcases parts '/' mem with part | part <;> contradiction

theorem slashesBehind (free : '/' ∉ p) (doubled : ['/', '/'] <:+: p ++ rest) :
    ['/', '/'] <:+: rest := by
  induction p with
  | nil => exact doubled
  | cons c p ih =>
    obtain ⟨other, free⟩ := not_or.1 (List.mem_cons.not.1 free)
    rcases List.infix_cons_iff.1 doubled with front | later
    · exact absurd (List.cons_prefix_cons.1 front).1 other
    · exact ih free later

theorem slashesApart (legal : ∀ p ∈ ps, IsStep p) :
    ¬['/', '/'] <:+: ps.flatMap fun p => '/' :: p := by
  induction ps with
  | nil =>
    rw [List.flatMap_nil, List.infix_nil]
    nofun
  | cons p ps ih =>
    obtain ⟨⟨some, parts⟩, later⟩ := List.forall_mem_cons.1 legal
    have free := slashFree parts
    intro doubled
    rw [List.flatMap_cons, List.cons_append, List.infix_cons_iff] at doubled
    rcases doubled with front | within
    · obtain ⟨c, cs, rfl⟩ := List.exists_cons_of_ne_nil some
      have first := (List.cons_prefix_cons.1 (List.cons_prefix_cons.1 front).2).1
      exact free (first ▸ List.mem_cons_self)
    · exact ih later (slashesBehind free within)

theorem slashLast (legal : ∀ p ∈ ps, IsStep p) :
    (ps.flatMap fun p => '/' :: p).getLast? ≠ some '/' := by
  rcases List.eq_nil_or_concat' ps with rfl | ⟨front, p, rfl⟩
  · nofun
  · obtain ⟨some, parts⟩ := legal p (List.mem_append_right _ List.mem_cons_self)
    obtain ⟨front', c, rfl⟩ := (List.eq_nil_or_concat' p).resolve_left some
    have last : ((front ++ [front' ++ [c]]).flatMap fun p => '/' :: p).getLast? = Option.some c := by
      rw [List.flatMap_append, List.flatMap_singleton, ← List.cons_append, ← List.append_assoc,
        List.getLast?_concat]
    rw [last]
    rintro ⟨⟩
    exact slashFree parts (by simp)

theorem pathShaped {path : String} (isPath : IsPathOf path ps) :
    path ≠ "" ∧ ¬['/', '/'] <:+: path.toList ∧ path.toList.getLast? ≠ some '/' := by
  obtain ⟨written, some, legal⟩ := isPath
  refine ⟨?_, written ▸ slashesApart legal, written ▸ slashLast legal⟩
  rintro rfl
  obtain ⟨p, ps, rfl⟩ := List.exists_cons_of_ne_nil some
  contradiction

end Slashes

section Steps
variable {name : String}

theorem segmentsSteps (name : String) : segments name.toList = steps name := by
  rw [segments, piecesSplit, steps]

theorem stepsJoined (left right : String) :
    steps (left ++ "." ++ right) = steps left ++ steps right := by
  have text : (left ++ "." ++ right).toList = left.toList ++ '.' :: right.toList := by simp
  rw [steps, text, List.splitOn_append_cons_self, List.filter_append, steps, steps]

theorem stepLegal (word : IsWord name) : ∀ p ∈ steps name, IsStep p := by
  intro p mem
  rw [← segmentsSteps] at mem
  obtain ⟨piece, some⟩ := List.mem_filter.1 mem
  refine ⟨by simpa using some, fun c here => ?_⟩
  have part := List.all_eq_true.1 word.2 c ((DocLines.pieceWithin piece).subset here)
  have undotted : c ≠ '.' := fun same => DocLines.piecesUndivided piece (same ▸ here)
  simpa [isWordPart, undotted, IsPart] using part

theorem stepsSome (word : IsWord name) : steps name ≠ [] := by
  obtain ⟨c, front, letter⟩ := (Option.any_eq_true _ _).1 word.1
  obtain ⟨cs, text⟩ := List.head?_eq_some_iff.1 front
  have undotted : c ≠ '.' := by
    rintro rfl
    contradiction
  -- so the first piece has this letter in it
  obtain ⟨p, ps, split⟩ := List.exists_cons_of_ne_nil (List.splitOn_ne_nil '.' cs)
  simp [steps, text, List.splitOn_cons_eq_if_modifyHead, undotted, split]

end Steps

section Reading
variable {source : String} {d : Definition}

theorem headNamed (read : Definition.ofText source = .ok d) :
    IsWord d.package.name ∧ IsWord d.interface.name := by
  obtain ⟨rest, header, _⟩ := ofTextParts read
  obtain ⟨named, _, titled, _⟩ := clausesFormed (scanSound source) header
  exact ⟨named.1, titled.1⟩

theorem qualifiedSteps (named : IsWord d.package.name) :
    steps d.qualifiedName = steps d.package.name ++ steps d.interface.name := by
  have some : d.package.name ≠ "" := by
    intro none
    rw [none] at named
    exact absurd named (by decide)
  rw [Definition.qualifiedName, if_neg (by simpa using some), stepsJoined]

end Reading

theorem pathWritten {name : String} (some : steps name ≠ []) :
    (objectPath name).toList = (steps name).flatMap fun p => '/' :: p := by
  rw [objectPath, String.toList_ofList, path, segmentsSteps]
  split
  · contradiction
  · rfl

theorem pathLegal {source : String} {d : Definition} (read : Definition.ofText source = .ok d) :
    IsPathOf (objectPath d.qualifiedName) (steps d.package.name ++ steps d.interface.name) ∧
      objectPath d.qualifiedName ≠ "" ∧ ¬['/', '/'] <:+: (objectPath d.qualifiedName).toList ∧
      (objectPath d.qualifiedName).toList.getLast? ≠ some '/' := by
  obtain ⟨named, titled⟩ := headNamed read
  have qualified := qualifiedSteps named
  have some : steps d.package.name ++ steps d.interface.name ≠ [] :=
    List.append_ne_nil_of_left_ne_nil (stepsSome named) _
  have legal : ∀ p ∈ steps d.package.name ++ steps d.interface.name, IsStep p :=
    List.forall_mem_append.2 ⟨stepLegal named, stepLegal titled⟩
  have isPath : IsPathOf (objectPath d.qualifiedName) _ :=
    ⟨qualified ▸ pathWritten (qualified ▸ some), some, legal⟩
  exact ⟨isPath, pathShaped isPath⟩

def dotted : String := "package a..b. interface I_1._x. \x7b \x7d"

def dottedDefinition : Definition := .ofDeclarations ⟨"a..b.", []⟩ ⟨"I_1._x.", none, 0, 0⟩ []

theorem dottedPathLegal : Definition.ofText dotted = .ok dottedDefinition ∧
    IsPathOf (objectPath dottedDefinition.qualifiedName) [['a'], ['b'], ['I', '_', '1'], ['_', 'x']] := by
  have read : Definition.ofText dotted = .ok dottedDefinition := by decide +kernel
  have said : steps "a..b." ++ steps "I_1._x." = [['a'], ['b'], ['I', '_', '1'], ['_', 'x']] := by
    decide +kernel
  exact ⟨read, said ▸ (pathLegal read).1⟩

end Busbind.ObjectPath
