import Mathlib
import Busbind.Proofs.Resolution

/-! Which names have an identifier in either casing: those whose first letter or digit is a
letter. Casing drops or writes anew everything else. -/
namespace Busbind.Casing
open Naming

def IsUsableName (name : String) : Prop :=
  ∃ c, name.toList.find? Char.isAlphanum = some c ∧ c.isAlpha = true

def IsPart (c : Char) : Prop := c.isAlphanum = true ∨ c = '_'

theorem toLowerAlphanum (c : Char) : c.toLower.isAlphanum = c.isAlphanum := by
  by_cases upper : c.isUpper
  · have letter : c.isAlpha = true := by simp [Char.isAlpha, upper]
    simp [Char.isAlphanum, letter]
  · rw [Char.toLower_eq_of_not_isUpper upper]

theorem toUpperAlphanum (c : Char) : c.toUpper.isAlphanum = c.isAlphanum := by
  by_cases lower : c.isLower
  · have letter : c.isAlpha = true := by simp [Char.isAlpha, lower]
    simp [Char.isAlphanum, letter]
  · rw [Char.toUpper_eq_of_not_isLower lower]

theorem snakeParts (started parted : Bool) (before : Option Char) (cs : List Char) :
    ∀ d ∈ snakeFrom started parted before cs, IsPart d := by
  induction cs generalizing started parted before with
  | nil => nofun
  | cons c cs ih =>
    intro d mem
    simp only [snakeFrom] at mem
    split at mem
    · rename_i part
      have word : ∀ e ∈ c.toLower :: snakeFrom true false (some c) cs, IsPart e := by
        intro e mem
        rcases List.mem_cons.1 mem with rfl | mem
        · exact .inl (toLowerAlphanum c ▸ part)
        · exact ih true false (some c) e mem
      split at mem
      · rcases List.mem_cons.1 mem with rfl | mem
        · exact .inr rfl
        · exact word d mem
      · exact word d mem
    · exact ih started true (some c) d mem

theorem camelAlphanum (initial : Bool) (cs : List Char) :
    ∀ d ∈ camelFrom initial cs, d.isAlphanum = true := by
  induction cs generalizing initial with
  | nil => nofun
  | cons c cs ih =>
    intro d mem
    simp only [camelFrom] at mem
    split at mem
    · rename_i part
      rcases List.mem_cons.1 mem with rfl | mem
      · split
        · exact toUpperAlphanum c ▸ part
        · exact part
      · exact ih false d mem
    · exact ih true d mem

theorem camelParts (initial : Bool) (cs : List Char) : ∀ d ∈ camelFrom initial cs, IsPart d :=
  fun d mem => .inl (camelAlphanum initial cs d mem)

theorem snakeFront (parted : Bool) (before : Option Char) (cs : List Char) :
    (snakeFrom false parted before cs).head? = (cs.find? Char.isAlphanum).map Char.toLower := by
  induction cs generalizing parted before with
  | nil => rfl
  | cons c cs ih =>
    simp only [snakeFrom, List.find?_cons]
    cases part : c.isAlphanum with
    | true => rfl
    | false => exact ih true (some c)

theorem camelFront (cs : List Char) :
    (camelFrom true cs).head? = (cs.find? Char.isAlphanum).map Char.toUpper := by
  induction cs with
  | nil => rfl
  | cons c cs ih =>
    simp only [camelFrom, List.find?_cons]
    cases part : c.isAlphanum with
    | true => rfl
    | false => exact ih

theorem wellFormedIff {cs : List Char} (parts : ∀ d ∈ cs, IsPart d) :
    Identifier.isWellFormed cs = true ↔ ∃ c, cs.head? = some c ∧ c.isAlpha = true := by
  cases cs with
  | nil => simp [Identifier.isWellFormed]
  | cons c cs =>
    have later : (cs.all fun d => d.isAlphanum || d = '_') = true := by
      rw [List.all_eq_true]
      intro d mem
      simpa [IsPart] using parts d (List.mem_cons_of_mem c mem)
    simp [Identifier.isWellFormed, later]

theorem snakeUsable (name : String) :
    Identifier.isWellFormed (snakeCase name).toList = true ↔ IsUsableName name := by
  rw [snakeCase, String.toList_ofList, snake, wellFormedIff (snakeParts false false none _),
    snakeFront]
  cases found : name.toList.find? Char.isAlphanum <;> simp [IsUsableName, found]

theorem camelUsable (name : String) :
    Identifier.isWellFormed (upperCamelCase name).toList = true ↔ IsUsableName name := by
  rw [upperCamelCase, String.toList_ofList, camel, wellFormedIff (camelParts true _), camelFront]
  cases found : name.toList.find? Char.isAlphanum <;> simp [IsUsableName, found]

theorem ofWordCases (role : NameRole) {name word : String} (differs : Bool)
    (usable : Identifier.isWellFormed word.toList = true ↔ IsUsableName name) :
    (IsUsableName name ∧ ∃ n, BoundName.ofWord role name word differs = .ok n) ∨
      (¬IsUsableName name ∧
        BoundName.ofWord role name word differs = .error (.invalidName role name)) := by
  unfold BoundName.ofWord Identifier.ofWord?
  by_cases good : IsUsableName name
  · rw [if_pos (usable.2 good)]
    exact .inl ⟨good, _, rfl⟩
  · rw [if_neg (fun formed => good (usable.1 formed))]
    exact .inr ⟨good, rfl⟩

theorem snakeCases (role : NameRole) (name : String) :
    (IsUsableName name ∧ ∃ n, BoundName.snake role name = .ok n) ∨
      (¬IsUsableName name ∧ BoundName.snake role name = .error (.invalidName role name)) :=
  ofWordCases role _ (snakeUsable name)

theorem camelCases (role : NameRole) (name : String) :
    (IsUsableName name ∧ ∃ n, BoundName.camel role name = .ok n) ∨
      (¬IsUsableName name ∧ BoundName.camel role name = .error (.invalidName role name)) :=
  ofWordCases role _ (camelUsable name)

section Segments
open Text (pieces)

theorem piecesSplit (separator : Char) (cs : List Char) :
    pieces separator cs = cs.splitOn separator := by
  induction cs with
  | nil => rfl
  | cons c cs ih =>
    obtain ⟨p, ps, split⟩ := List.exists_cons_of_ne_nil (List.splitOn_ne_nil separator cs)
    simp [pieces, List.splitOn_cons_eq_if_modifyHead, ih, split]

theorem piecesSome (separator : Char) (cs : List Char) : pieces separator cs ≠ [] := by
  rw [piecesSplit]
  exact List.splitOn_ne_nil separator cs

theorem piecesApart (separator : Char) (before behind : List Char) :
    pieces separator (before ++ separator :: behind) =
      pieces separator before ++ pieces separator behind := by
  rw [piecesSplit, piecesSplit, piecesSplit, List.splitOn_append_cons_self]

theorem piecesWhole {separator : Char} {cs : List Char} (absent : separator ∉ cs) :
    pieces separator cs = [cs] := by
  rw [piecesSplit, List.splitOn_eq_singleton absent]

theorem camelApart (initial : Bool) {c : Char} (separates : c.isAlphanum = false)
    (before behind : List Char) :
    camelFrom initial (before ++ c :: behind) = camelFrom initial before ++ camelFrom true behind := by
  induction before generalizing initial with
  | nil => simp [camelFrom, separates]
  | cons d ds ih =>
    simp only [List.cons_append, camelFrom, ih]
    split <;> rfl

theorem camelNone (initial : Bool) {cs : List Char} (none : ∀ c ∈ cs, c.isAlphanum = false) :
    camelFrom initial cs = [] := by
  induction cs generalizing initial with
  | nil => rfl
  | cons c cs ih =>
    simp only [camelFrom, none c List.mem_cons_self, Bool.false_eq_true, if_false]
    exact ih true fun d mem => none d (List.mem_cons_of_mem c mem)

theorem camelEmpty {cs : List Char} (empty : camel cs = []) : ∀ c ∈ cs, c.isAlphanum = false := by
  have front := camelFront cs
  rw [← camel, empty, List.head?_nil, eq_comm, Option.map_eq_none_iff, List.find?_eq_none] at front
  exact fun c mem => Bool.eq_false_iff.2 (front c mem)

def IsUndivided (name : String) : Prop :=
  ∀ before behind, name.toList = before ++ '.' :: behind → ∀ c ∈ before, c.isAlphanum = false

theorem lastDot {cs : List Char} (dotted : '.' ∈ cs) :
    ∃ front last, cs = front ++ '.' :: last ∧ '.' ∉ last ∧
      (pieces '.' cs).getLast?.getD [] = last := by
  -- the last dot is the first one from behind
  obtain ⟨after, front, split, free⟩ := List.eq_append_cons_of_mem (List.mem_reverse.2 dotted)
  have parts : cs = front.reverse ++ '.' :: after.reverse := by
    rw [← List.reverse_reverse cs, split]
    simp
  have behind : '.' ∉ after.reverse := fun mem => free (List.mem_reverse.1 mem)
  refine ⟨front.reverse, after.reverse, parts, behind, ?_⟩
  rw [parts, piecesApart, piecesWhole behind, List.getLast?_concat, Option.getD_some]

theorem lastDotCovers {before behind front last : List Char} (free : '.' ∉ last)
    (same : before ++ '.' :: behind = front ++ '.' :: last) : before <+: front := by
  rcases List.append_eq_append_iff.1 same with ⟨between, rfl, _⟩ | ⟨between, rfl, inLast⟩
  · exact List.prefix_append before between
  · cases between with
    | nil => simp
    | cons c cs =>
      rw [List.cons_append, List.cons.injEq] at inLast
      exact absurd (inLast.2 ▸ List.mem_append_right cs List.mem_cons_self) free

theorem lastSegmentCamel {name : String} :
    upperCamelCase (lastSegment name) = upperCamelCase name ↔ IsUndivided name := by
  rw [upperCamelCase, upperCamelCase, lastSegment, String.toList_ofList, String.ofList_inj]
  by_cases dotted : '.' ∈ name.toList
  · obtain ⟨front, last, parts, free, behind⟩ := lastDot dotted
    have cased : camel name.toList = camel front ++ camel last := by
      rw [parts, camel, camelApart true rfl, camel, camel]
    rw [behind, cased, List.self_eq_append_left]
    constructor
    · intro empty before rest split c mem
      have covered := lastDotCovers free (split.symm.trans parts)
      exact camelEmpty empty c (covered.subset mem)
    · exact fun undivided => camelNone true (undivided front last parts)
  · rw [piecesWhole dotted]
    refine iff_of_true rfl fun before behind split => absurd ?_ dotted
    rw [split]
    exact List.mem_append_right before List.mem_cons_self

end Segments

section Identifiers
variable {role : NameRole} {name : String} {n : BoundName}

def snakeIdentifier (name : String) : Identifier := .avoiding (snakeCase name)

def camelIdentifier (name : String) : Identifier := .avoiding (upperCamelCase name)

theorem snakeBound (bound : BoundName.snake role name = .ok n) :
    n.identifier = snakeIdentifier name := by
  rw [Resolution.ofWordParts bound, snakeIdentifier]

theorem camelBound (bound : BoundName.camel role name = .ok n) :
    n.identifier = camelIdentifier name := by
  rw [Resolution.ofWordParts bound, camelIdentifier]

theorem snakeLast (started parted : Bool) (before : Option Char) (cs : List Char) :
    (snakeFrom started parted before cs).getLast? ≠ some '_' := by
  induction cs generalizing started parted before with
  | nil => nofun
  | cons c cs ih =>
    simp only [snakeFrom]
    split
    · rename_i part
      have lower : c.toLower ≠ '_' := by
        intro same
        rw [← toLowerAlphanum, same] at part
        contradiction
      have last : (c.toLower :: snakeFrom true false (some c) cs).getLast? ≠ some '_' := by
        rw [List.getLast?_cons]
        cases rest : (snakeFrom true false (some c) cs).getLast? with
        | none => simpa using lower
        | some d => simpa [rest] using ih true false (some c)
      split
      · rwa [List.getLast?_cons_cons]
      · exact last
    · exact ih started true (some c)

theorem camelLast (cs : List Char) : (camel cs).getLast? ≠ some '_' := by
  intro marked
  have part := camelAlphanum true cs '_' (List.mem_of_getLast? marked)
  contradiction

theorem unmarkedOfLast {word : String} (last : word.toList.getLast? ≠ some '_') (front : String) :
    word ≠ front ++ "_" := by
  rintro rfl
  simp at last

theorem snakeUnmarked (name : String) : ∀ word, snakeCase name ≠ word ++ "_" := by
  refine unmarkedOfLast ?_
  rw [snakeCase, String.toList_ofList]
  exact snakeLast false false none name.toList

theorem camelUnmarked (name : String) : ∀ word, upperCamelCase name ≠ word ++ "_" := by
  refine unmarkedOfLast ?_
  rw [upperCamelCase, String.toList_ofList]
  exact camelLast name.toList

theorem avoidingText (word : String) :
    (Identifier.avoiding word).text = word ∨ (Identifier.avoiding word).text = word ++ "_" := by
  unfold Identifier.avoiding
  split
  · exact .inl rfl
  · split
    · exact .inl rfl
    · exact .inr rfl

theorem reservedUnmarked {text : String} (reserved : isReserved text = true) :
    ∀ word, text ≠ word ++ "_" := by
  have all : ∀ t ∈ reservedWords, t.toList.getLast? ≠ some '_' := by decide +kernel
  exact unmarkedOfLast (all text (List.contains_iff_mem.1 reserved))

theorem reservedAvoided (word : String) {text : String} (reserved : isReserved text = true) :
    Identifier.avoiding word ≠ ⟨text, false⟩ := by
  unfold Identifier.avoiding
  split
  · rename_i free
    intro same
    rw [(Identifier.mk.inj same).1] at free
    simp [reserved] at free
  · split
    · nofun
    · intro same
      exact reservedUnmarked reserved word (Identifier.mk.inj same).1.symm

theorem avoidingTextInjective {v w : String} (unmarked : ∀ u, v ≠ u ++ "_")
    (unmarked' : ∀ u, w ≠ u ++ "_")
    (same : (Identifier.avoiding v).text = (Identifier.avoiding w).text) : v = w := by
  rcases avoidingText v with left | left <;> rcases avoidingText w with right | right <;>
    rw [left, right] at same
  · exact same
  · exact absurd same (unmarked w)
  · exact absurd same.symm (unmarked' v)
  · exact (String.append_left_inj "_").1 same

theorem snakeTextInjective {a b : String}
    (same : (snakeIdentifier a).text = (snakeIdentifier b).text) :
    snakeIdentifier a = snakeIdentifier b := by
  rw [snakeIdentifier, snakeIdentifier,
    avoidingTextInjective (snakeUnmarked a) (snakeUnmarked b) same]

theorem avoidingIff {v w : String} (unmarked : ∀ u, v ≠ u ++ "_") (unmarked' : ∀ u, w ≠ u ++ "_") :
    Identifier.avoiding v = Identifier.avoiding w ↔ v = w := by
  constructor
  · exact fun same => avoidingTextInjective unmarked unmarked' (congrArg Identifier.text same)
  · exact fun same => congrArg Identifier.avoiding same

end Identifiers

end Busbind.Casing
