import Busbind.Proofs.OutlineLines
import Busbind.Proofs.QuotedText
import Busbind.Proofs.Retold
import Busbind.Proofs.WellFormed

/-! The parts of an outline, each of which tells what it describes up to the blank edges of the
documentation. Words hold no blanks, brackets or marks, so a line comes apart into what it was made
of, the empty names and types of lenient declarations included. -/
namespace Busbind.Outline
open Canonical WellFormed

section Words

def Bare (s : String) : Prop := ∀ c ∈ s.toList, isWordPart c = true

def Stops (p : Char → Bool) (s : String) : Prop := ∀ c, s.toList.head? = some c → p c = false

theorem wordBare {s : String} (word : IsWord s) : Bare s := List.all_eq_true.1 word.2

theorem labelBare {s : String} (label : IsLabel s) : Bare s := by
  rcases labelWord label with rfl | word
  · exact fun _ mem => absurd mem List.not_mem_nil
  · exact wordBare word

theorem referenceBare {s : String} (reference : IsReference s) : Bare s := by
  rcases reference with rfl | identifier
  · exact fun _ mem => absurd mem List.not_mem_nil
  · exact wordBare identifier.1

theorem bareFree {s : String} {c : Char} (other : isWordPart c = false) (bare : Bare s) :
    c ∉ s.toList := by
  intro mem
  rw [bare c mem] at other
  contradiction

theorem stopsAfter {p : Char → Bool} {s : String}
    (first : s.toList.head?.any (fun c => !p c) = true) (t : String) : Stops p (s ++ t) := by
  intro c head
  rw [String.toList_append] at head
  cases chars : s.toList with
  | nil =>
    rw [chars] at first
    contradiction
  | cons d ds =>
    rw [chars] at first head
    cases head
    simpa using first

theorem textApart {p : Char → Bool} {a b t u : String} (all : ∀ c ∈ a.toList, p c = true)
    (all' : ∀ c ∈ b.toList, p c = true) (stop : Stops p t) (stop' : Stops p u)
    (same : a ++ t = b ++ u) : a = b ∧ t = u := by
  rw [← String.toList_inj, String.toList_append, String.toList_append] at same
  obtain ⟨front, back⟩ := spanApart all all' stop stop' same
  exact ⟨String.toList_inj.1 front, String.toList_inj.1 back⟩

theorem typeStops (isArray : Bool) (s : String) :
    Stops isWordPart ((if isArray then "[]" else "") ++ (" " ++ s)) := by
  cases isArray
  · rw [if_neg Bool.false_ne_true, String.empty_append]
    exact stopsAfter (by decide) s
  · exact stopsAfter (by decide) _

variable {t t' n n' : String} {a a' c c' : Bool}

theorem bracketsApart (same : (if a then "[]" else "") ++ (" " ++ t) =
    (if a' then "[]" else "") ++ (" " ++ t')) : a = a' ∧ t = t' := by
  cases a <;> cases a' <;> simp_all [← String.toList_inj, String.toList_append]

theorem markApart (name : Bare n) (name' : Bare n')
    (same : (if c then "^" else "") ++ n = (if c' then "^" else "") ++ n') : c = c' ∧ n = n' := by
  have unmarked {m m' : String} (bare : Bare m) : m ≠ "^" ++ m' := by
    rintro rfl
    exact bareFree (c := '^') rfl bare (by simp [String.toList_append])
  cases c <;> cases c'
  · simpa using same
  · exact absurd (by simpa using same) (unmarked name)
  · exact absurd (by simpa using same.symm) (unmarked name')
  · simpa using same

theorem typedApart (type : Bare t) (type' : Bare t') (name : Bare n) (name' : Bare n')
    (same : arrayType t a ++ " " ++ (if c then "^" else "") ++ n =
      arrayType t' a' ++ " " ++ (if c' then "^" else "") ++ n') :
    t = t' ∧ a = a' ∧ c = c' ∧ n = n' := by
  simp only [arrayType, String.append_assoc] at same
  obtain ⟨rfl, after⟩ := textApart type type' (typeStops a _) (typeStops a' _) same
  obtain ⟨rfl, marked⟩ := bracketsApart after
  exact ⟨rfl, rfl, markApart name name' marked⟩

theorem flaggedApart {flag : String} (visible : flag ≠ "") (stop : Stops isWordPart flag)
    (name : Bare n) (name' : Bare n')
    (same : n ++ (if c then flag else "") = n' ++ (if c' then flag else "")) :
    n = n' ∧ c = c' := by
  have stops (c : Bool) : Stops isWordPart (if c then flag else "") := by
    cases c
    · exact nofun
    · exact stop
  obtain ⟨rfl, flags⟩ := textApart name name' (stops c) (stops c') same
  cases c <;> cases c' <;> simp_all

theorem decimalInjective {m n : Nat} (same : toString m = toString n) : m = n := by
  rw [← VersionNumber.decimalValue m, same, VersionNumber.decimalValue]

end Words

section Documentation
variable {k : Nat} {s t : String} {rest rest' : List Line}

def DocFree (k : Nat) (ls : List Line) : Prop :=
  ∀ l, ls.head? = some l → ∀ q, l ≠ ⟨k, "doc: " ++ q⟩

theorem docApart (free : DocFree k rest) (free' : DocFree k rest')
    (same : doc k s ++ rest = doc k t ++ rest') :
    Text.trimmed s = Text.trimmed t ∧ rest = rest' := by
  have silent {s : String} (empty : Text.trimmed s = "") : doc k s = [] := by
    simp [doc, empty]
  have said {s : String} (some : Text.trimmed s ≠ "") :
      doc k s = [⟨k, "doc: " ++ Text.quoted .people (Text.trimmed s)⟩] := by
    simp [doc, some]
  -- Documentation on one side only is a line that the other side begins with.
  by_cases empty : Text.trimmed s = "" <;> by_cases empty' : Text.trimmed t = ""
  · rw [silent empty, silent empty'] at same
    exact ⟨empty.trans empty'.symm, same⟩
  · rw [silent empty, said empty'] at same
    cases same
    exact absurd rfl (free _ rfl _)
  · rw [said empty, silent empty'] at same
    cases same
    exact absurd rfl (free' _ rfl _)
  · rw [said empty, said empty'] at same
    simp only [List.cons_append, List.nil_append, List.cons.injEq, Line.mk.injEq, true_and,
      String.append_right_inj] at same
    exact ⟨Text.quotedInjective same.1, same.2⟩

theorem docAlone (same : doc k s = doc k t) : Text.trimmed s = Text.trimmed t := by
  have free : DocFree k [] := nofun
  rw [← List.append_nil (doc k s), ← List.append_nil (doc k t)] at same
  exact (docApart free free same).1

end Documentation

section Shape
variable {α : Type} {k j : Nat} {f : α → List Line} {xs : List α}

theorem docBelow (deeper : k < j) (s : String) : Below k (doc j s) := by
  intro l mem
  simp only [doc] at mem
  split at mem
  · contradiction
  · rw [List.mem_singleton.1 mem]
    exact deeper

theorem partsBelow (deeper : k < j) (parts : ∀ x, IsPart j (f x)) : Below k (xs.flatMap f) := by
  intro l mem
  obtain ⟨x, _, mem⟩ := List.mem_flatMap.1 mem
  obtain ⟨head, body, lines, rfl, below⟩ := parts x
  rw [lines] at mem
  rcases List.mem_cons.1 mem with rfl | inside
  · exact deeper
  · exact Nat.lt_trans deeper (below l inside)

theorem parameterPart (k : Nat) (p : Parameter) : IsPart k (parameter k p) :=
  ⟨_, _, rfl, rfl, docBelow (Nat.lt_succ_self k) _⟩

theorem parametersBelow (label : String) (ps : List Parameter) : Below 1 (parameters label ps) := by
  unfold parameters group
  split
  · nofun
  · exact List.forall_mem_cons.2 ⟨Nat.lt_succ_self 1, partsBelow (by decide) (parameterPart 3)⟩

theorem attrPart (a : Attribute) : IsPart 1 (attr a) :=
  ⟨_, _, rfl, rfl, docBelow (Nat.lt_succ_self 1) _⟩

theorem methodPart (m : Method) : IsPart 1 (method m) :=
  ⟨_, _, rfl, rfl, belowAppend (belowAppend (docBelow (Nat.lt_succ_self 1) _)
    (parametersBelow "in" _)) (parametersBelow "out" _)⟩

theorem broadcastPart (b : Broadcast) : IsPart 1 (broadcast b) :=
  ⟨_, _, rfl, rfl, belowAppend (docBelow (Nat.lt_succ_self 1) _) (parametersBelow "out" _)⟩

theorem structPart (s : Struct) : IsPart 1 (struct s) :=
  ⟨_, _, rfl, rfl, belowAppend (docBelow (Nat.lt_succ_self 1) _)
    (partsBelow (Nat.lt_succ_self 1) (parameterPart 2))⟩

theorem typedefPart (t : Typedef) : IsPart 1 (typedef t) :=
  ⟨_, _, rfl, rfl, docBelow (Nat.lt_succ_self 1) _⟩

theorem arrayPart (a : ArrayAlias) : IsPart 1 (arrayAlias a) :=
  ⟨_, _, rfl, rfl, docBelow (Nat.lt_succ_self 1) _⟩

end Shape

section Declarations
variable {k : Nat}

theorem mapApart {α β γ : Type} {P : α → Prop} {f : α → β} {g : α → γ} {xs ys : List α}
    (each : ∀ {x y}, P x → P y → f x = f y → g x = g y) (all : ∀ x ∈ xs, P x)
    (all' : ∀ y ∈ ys, P y) (same : xs.map f = ys.map f) : xs.map g = ys.map g := by
  induction xs generalizing ys with
  | nil =>
    cases ys with
    | nil => rfl
    | cons y ys => contradiction
  | cons x xs ih =>
    cases ys with
    | nil => contradiction
    | cons y ys =>
      obtain ⟨first, later⟩ := List.forall_mem_cons.1 all
      obtain ⟨first', later'⟩ := List.forall_mem_cons.1 all'
      obtain ⟨here, rest⟩ := List.cons.inj same
      rw [List.map_cons, List.map_cons, each first first' here, ih later later' rest]

theorem parameterApart {p q : Parameter} (formed : ParameterFormed p) (formed' : ParameterFormed q)
    (same : parameter k p = parameter k q) :
    p.retold Text.trimmed = q.retold Text.trimmed := by
  obtain ⟨head, docs⟩ := List.cons.inj same
  have described := docAlone docs
  obtain ⟨type, isArray, changes, name⟩ := typedApart (wordBare formed.type.1)
    (wordBare formed'.type.1) (labelBare formed.name) (labelBare formed'.name)
    (congrArg Line.text head)
  simp only [Parameter.retold, described, type, isArray, changes, name]

theorem parametersApart {ps qs : List Parameter} (formed : ∀ p ∈ ps, ParameterFormed p)
    (formed' : ∀ q ∈ qs, ParameterFormed q)
    (same : ps.flatMap (parameter k) = qs.flatMap (parameter k)) :
    ps.map (Parameter.retold Text.trimmed) = qs.map (Parameter.retold Text.trimmed) :=
  mapApart parameterApart formed formed' (partsApart (parameterPart k) same)

theorem labelledFree {bs : List (String × List Line)}
    (other : (bs.map Prod.fst).all (fun s => s.toList.head? != some 'd') = true) :
    DocFree k (bs.flatMap (labelled k)) := by
  rintro _ first q rfl
  obtain ⟨b, mem, same⟩ := labelledFirst _ first
  have front := List.all_eq_true.1 other b.1 (List.mem_map_of_mem mem)
  rw [← (Line.mk.inj same).2, String.toList_append] at front
  contradiction

def sections (description : String) (bs : List (String × List Parameter)) : List Line :=
  doc 2 description ++ bs.flatMap fun b => parameters b.1 b.2

theorem sectionsApart {bs cs : List (String × List Parameter)} {s t : String}
    (same : sections s bs = sections t cs) (labels : bs.map Prod.fst = cs.map Prod.fst)
    (apart : (bs.map Prod.fst).Nodup)
    (other : (bs.map Prod.fst).all (fun s => s.toList.head? != some 'd') = true)
    (formed : ∀ b ∈ bs, ∀ p ∈ b.2, ParameterFormed p)
    (formed' : ∀ c ∈ cs, ∀ p ∈ c.2, ParameterFormed p) :
    Text.trimmed s = Text.trimmed t ∧
      bs.map (fun b => b.2.map (Parameter.retold Text.trimmed)) =
        cs.map fun c => c.2.map (Parameter.retold Text.trimmed) := by
  let lines (b : String × List Parameter) := (b.1, b.2.flatMap (parameter 3))
  have named (bs : List (String × List Parameter)) :
      (bs.map lines).map Prod.fst = bs.map Prod.fst := by
    simp [lines]
  have below (bs : List (String × List Parameter)) : ∀ b ∈ bs.map lines, Below 2 b.2 := by
    intro _ mem
    obtain ⟨b, _, rfl⟩ := List.mem_map.1 mem
    exact partsBelow (by decide) (parameterPart 3)
  have grouped (bs : List (String × List Parameter)) :
      bs.flatMap (fun b => parameters b.1 b.2) = (bs.map lines).flatMap (labelled 2) := by
    simp [List.flatMap_map, parameters, groupLabelled (parameterPart 3), lines]
  rw [sections, sections, grouped, grouped] at same
  obtain ⟨described, groups⟩ := docApart (labelledFree (by rw [named]; exact other))
    (labelledFree (by rw [named, ← labels]; exact other)) same
  have groups := labelledApart groups (by rw [named, named, labels]) (by rw [named]; exact apart)
    (below bs) (below cs)
  refine ⟨described, mapApart (fun first later here => ?_) formed formed' groups⟩
  exact parametersApart first later (Prod.mk.inj here).2

theorem attrApart {a b : Attribute} (formed : DeclarationFormed (.attr a))
    (formed' : DeclarationFormed (.attr b)) (same : attr a = attr b) :
    a.retold Text.trimmed = b.retold Text.trimmed := by
  obtain ⟨head, docs⟩ := List.cons.inj same
  have described := docAlone docs
  obtain ⟨type, isArray, _, name⟩ : a.type = b.type ∧ a.isArray = b.isArray ∧ false = false ∧
      a.name = b.name :=
    typedApart (referenceBare (formed.types _ List.mem_cons_self))
      (referenceBare (formed'.types _ List.mem_cons_self)) (labelBare formed.name)
      (labelBare formed'.name) (by simpa using congrArg Line.text head)
  simp only [Attribute.retold, described, type, isArray, name]

theorem methodApart {m n : Method} (formed : DeclarationFormed (.method m))
    (formed' : DeclarationFormed (.method n)) (same : method m = method n) :
    m.retold Text.trimmed = n.retold Text.trimmed := by
  have all {m : Method} (formed : DeclarationFormed (.method m)) :
      ∀ b ∈ [("in", m.inputs), ("out", m.outputs)], ∀ p ∈ b.2, ParameterFormed p := by
    obtain ⟨inputs, outputs⟩ := List.forall_mem_append.1 formed.parameters
    exact List.forall_mem_cons.2 ⟨inputs, List.forall_mem_singleton.2 outputs⟩
  have lines (m : Method) : method m =
      ⟨1, m.name ++ (if m.fireAndForget then " [fireAndForget]" else "")⟩ ::
        sections m.description [("in", m.inputs), ("out", m.outputs)] := by
    simp [method, sections]
  rw [lines, lines] at same
  obtain ⟨head, body⟩ := List.cons.inj same
  obtain ⟨name, flag⟩ : m.name = n.name ∧ m.fireAndForget = n.fireAndForget :=
    flaggedApart (by decide) (by rintro _ ⟨⟩; rfl) (labelBare formed.name)
      (labelBare formed'.name) (congrArg Line.text head)
  obtain ⟨described, groups⟩ := sectionsApart body rfl (by simp) (by simp)
    (all formed) (all formed')
  obtain ⟨ins, outs⟩ : _ ∧ _ := by simpa using groups
  simp only [Method.retold, described, name, flag, ins, outs]

theorem broadcastApart {b c : Broadcast} (formed : DeclarationFormed (.broadcast b))
    (formed' : DeclarationFormed (.broadcast c)) (same : broadcast b = broadcast c) :
    b.retold Text.trimmed = c.retold Text.trimmed := by
  have all {b : Broadcast} (formed : DeclarationFormed (.broadcast b)) :
      ∀ s ∈ [("out", b.outputs)], ∀ p ∈ s.2, ParameterFormed p :=
    List.forall_mem_singleton.2 formed.parameters
  have lines (b : Broadcast) : broadcast b =
      ⟨1, b.name ++ (if b.selective then " [selective]" else "")⟩ ::
        sections b.description [("out", b.outputs)] := by
    simp [broadcast, sections]
  rw [lines, lines] at same
  obtain ⟨head, body⟩ := List.cons.inj same
  obtain ⟨name, flag⟩ : b.name = c.name ∧ b.selective = c.selective :=
    flaggedApart (by decide) (by rintro _ ⟨⟩; rfl) (labelBare formed.name)
      (labelBare formed'.name) (congrArg Line.text head)
  obtain ⟨described, groups⟩ := sectionsApart body rfl (by simp) (by simp)
    (all formed) (all formed')
  have outs := List.cons.inj groups |>.1
  simp only [Broadcast.retold, described, name, flag, outs]

theorem fieldsFree {ps : List Parameter} (formed : ∀ p ∈ ps, ParameterFormed p) :
    DocFree 2 (ps.flatMap (parameter 2)) := by
  rintro _ first q rfl
  cases ps with
  | nil => contradiction
  | cons p ps =>
    have text := congrArg Line.text (Option.some.inj first)
    have colon : Stops isWordPart (": " ++ q) := stopsAfter (by decide) q
    have word : Bare "doc" := List.all_eq_true.1 (by decide)
    simp only [Parameter.describe, arrayType, String.append_assoc] at text
    rw [show "doc: " ++ q = "doc" ++ (": " ++ q) by rw [← String.append_assoc]; rfl] at text
    obtain ⟨_, after⟩ := textApart (wordBare (formed p List.mem_cons_self).type.1) word
      (typeStops p.isArray _) colon text
    cases array : p.isArray <;> simp [array, ← String.toList_inj, String.toList_append] at after

theorem structApart {s t : Struct} (formed : DeclarationFormed (.struct s))
    (formed' : DeclarationFormed (.struct t)) (same : struct s = struct t) :
    s.retold Text.trimmed = t.retold Text.trimmed := by
  obtain ⟨head, body⟩ := List.cons.inj same
  have name : s.name = t.name := congrArg Line.text head
  obtain ⟨described, last⟩ := docApart (fieldsFree formed.parameters)
    (fieldsFree formed'.parameters) body
  have fields : s.fields.map _ = t.fields.map _ :=
    parametersApart formed.parameters formed'.parameters last
  simp only [Struct.retold, described, name, fields]

theorem aliasApart {a b s t : String} (named : Bare a) (named' : Bare b)
    (same : a ++ " = " ++ s = b ++ " = " ++ t) : a = b ∧ s = t := by
  rw [String.append_assoc, String.append_assoc] at same
  obtain ⟨rfl, after⟩ := textApart named named' (stopsAfter (by decide) s)
    (stopsAfter (by decide) t) same
  exact ⟨rfl, (String.append_right_inj _).1 after⟩

theorem typedefApart {t u : Typedef} (formed : DeclarationFormed (.typedef t))
    (formed' : DeclarationFormed (.typedef u)) (same : typedef t = typedef u) :
    t.retold Text.trimmed = u.retold Text.trimmed := by
  obtain ⟨head, docs⟩ := List.cons.inj same
  have described := docAlone docs
  obtain ⟨name, aliased⟩ : t.name = u.name ∧ t.aliased = u.aliased :=
    aliasApart (labelBare formed.name) (labelBare formed'.name) (congrArg Line.text head)
  simp only [Typedef.retold, described, name, aliased]

theorem arrayApart {a b : ArrayAlias} (formed : DeclarationFormed (.array a))
    (formed' : DeclarationFormed (.array b)) (same : arrayAlias a = arrayAlias b) :
    a.retold Text.trimmed = b.retold Text.trimmed := by
  obtain ⟨head, docs⟩ := List.cons.inj same
  have described := docAlone docs
  have text := (String.append_left_inj _).1 (congrArg Line.text head)
  obtain ⟨name, element⟩ : a.name = b.name ∧ a.element = b.element :=
    aliasApart (labelBare formed.name) (labelBare formed'.name) text
  simp only [ArrayAlias.retold, described, name, element]

end Declarations

section Header

def isPathPart (c : Char) : Bool := isWordPart c || c = '*'

theorem pathParts {s : String} (path : IsImportPath s) :
    ∀ c ∈ s.toList, isPathPart c = true := by
  obtain ⟨base, identifier, rfl | rfl⟩ := path
  · intro c mem
    simp [isPathPart, wordBare identifier.1 c mem]
  · intro c mem
    rw [String.toList_append] at mem
    rcases List.mem_append.1 mem with front | star
    · simp [isPathPart, wordBare identifier.1 c front]
    · rw [List.mem_singleton.1 star]
      rfl

theorem importApart {i j : Import} (path : IsImportPath i.path) (path' : IsImportPath j.path)
    (same : i.describe = j.describe) : i = j := by
  have stop (s : String) :
      Stops isPathPart (if s.isEmpty then "" else " from \"" ++ (s ++ "\"")) := by
    split
    · exact nofun
    · exact stopsAfter (by decide) _
  simp only [Import.describe, String.append_assoc, String.append_right_inj] at same
  obtain ⟨paths, tails⟩ := textApart (pathParts path) (pathParts path') (stop _) (stop _) same
  have sources : i.source = j.source := by
    split_ifs at tails with empty empty' empty'
    · exact (String.isEmpty_iff.1 empty).trans (String.isEmpty_iff.1 empty').symm
    · simp [← String.toList_inj, String.toList_append] at tails
    · simp [← String.toList_inj, String.toList_append] at tails
    · exact (String.append_left_inj _).1 ((String.append_right_inj _).1 tails)
  obtain ⟨_, _⟩ := i
  cases paths
  cases sources
  rfl

theorem versionedApart {n n' : String} {a a' b b' : UInt32} (named : Bare n) (named' : Bare n')
    (same : "interface " ++ n ++ " v" ++ toString a.toNat ++ "." ++ toString b.toNat =
      "interface " ++ n' ++ " v" ++ toString a'.toNat ++ "." ++ toString b'.toNat) :
    n = n' ∧ a = a' ∧ b = b' := by
  simp only [String.append_assoc, String.append_right_inj] at same
  obtain ⟨rfl, version⟩ := textApart named named' (stopsAfter (by decide) _)
    (stopsAfter (by decide) _) same
  obtain ⟨major, minor⟩ := textApart (VersionNumber.decimalDigits _)
    (VersionNumber.decimalDigits _) (stopsAfter (by decide) _) (stopsAfter (by decide) _)
    ((String.append_right_inj _).1 version)
  exact ⟨rfl, UInt32.toNat_inj.1 (decimalInjective major),
    UInt32.toNat_inj.1 (decimalInjective ((String.append_right_inj _).1 minor))⟩

end Header

end Busbind.Outline
