import Busbind.Proofs.SnakeCase

/-! Names in upper camel case. They are cased run by run, so that a name may be taken apart at any
character that is no letter or digit. But for the size of the letters it makes no difference whether
the name was put in snake case before. -/
namespace Busbind.CamelCase
open Casing Naming SnakeCase

/-- The maximal runs of letters and digits of a text, in order. -/
def runs (cs : List Char) : List (List Char) :=
  (cs.splitOnP fun c => !c.isAlphanum).filter fun run => !run.isEmpty

def capitalized : List Char → List Char
  | [] => []
  | c :: cs => c.toUpper :: cs

section Runs
variable {cs : List Char}

theorem camelPieces (cs : List Char) :
    ∃ p ps, (cs.splitOnP fun c => !c.isAlphanum) = p :: ps ∧
      ∀ initial, camelFrom initial cs =
        (if initial then capitalized p else p) ++ ps.flatMap capitalized := by
  -- the first piece may go on with a word; every later one begins a word
  induction cs with
  | nil => exact ⟨[], [], rfl, fun initial => by cases initial <;> rfl⟩
  | cons c cs ih =>
    obtain ⟨p, ps, split, cased⟩ := ih
    rw [List.splitOnP_cons_eq_if_modifyHead, split]
    cases part : c.isAlphanum with
    | true =>
      refine ⟨c :: p, ps, rfl, fun initial => ?_⟩
      rw [camelFrom, if_pos part, cased]
      cases initial <;> rfl
    | false =>
      refine ⟨[], p :: ps, rfl, fun initial => ?_⟩
      simp [camelFrom, part, cased, capitalized]

theorem capitalizedSome (ps : List (List Char)) :
    (ps.filter fun p => !p.isEmpty).flatMap capitalized = ps.flatMap capitalized := by
  induction ps with
  | nil => rfl
  | cons p ps ih =>
    cases p with
    | nil => exact ih
    | cons c p => exact congrArg (capitalized (c :: p) ++ ·) ih

theorem camelRuns (cs : List Char) : camel cs = (runs cs).flatMap capitalized := by
  obtain ⟨p, ps, split, cased⟩ := camelPieces cs
  rw [runs, capitalizedSome, split, camel, cased]
  rfl

theorem camelWhole (whole : ∀ c ∈ cs, c.isAlphanum = true) : camel cs = capitalized cs := by
  obtain ⟨p, ps, split, cased⟩ := camelPieces cs
  rw [List.splitOnP_eq_singleton (by simpa using whole)] at split
  cases split
  rw [camel, cased]
  exact List.append_nil _

end Runs

section Recasing

theorem camelCapitalized (cs : List Char) : capitalized (camel cs) = camel cs := by
  have front := camelFront cs
  cases cased : camel cs with
  | nil => rfl
  | cons d ds =>
    rw [← camel, cased, List.head?_cons] at front
    obtain ⟨c, _, upper⟩ := Option.map_eq_some_iff.1 front.symm
    rw [capitalized, ← upper, Char.toUpper_toUpper_eq_toUpper]

theorem camelTwice (cs : List Char) : camel (camel cs) = camel cs := by
  have whole : ∀ c ∈ camel cs, c.isAlphanum = true := camelAlphanum true cs
  rw [camelWhole whole, camelCapitalized]

theorem camelSmall (initial : Bool) (cs : List Char) :
    (camelFrom initial cs).map Char.toLower = smallParts cs := by
  induction cs generalizing initial with
  | nil => rfl
  | cons c cs ih =>
    rw [camelFrom, smallPartsCons]
    split
    · rw [List.map_cons, ih]
      cases initial with
      | true => simp [Char.toLower_toUpper_eq_toLower]
      | false => rfl
    · exact ih true

theorem smallPartsOf {cs : List Char} (parts : ∀ d ∈ cs, IsPart d) :
    smallParts cs = (bare cs).map Char.toLower := by
  have same : cs.filter Char.isAlphanum = bare cs := by
    refine List.filter_congr fun d mem => ?_
    rcases parts d mem with part | rfl
    · have other : d ≠ '_' := by
        rintro rfl
        contradiction
      simp [part, other]
    · rfl
  rw [smallParts, same]

theorem snakeSmall (cs : List Char) : smallParts (snake cs) = smallParts cs := by
  have parts : ∀ d ∈ snake cs, IsPart d := snakeParts false false none cs
  rw [smallPartsOf parts, snakeBare, smallParts, List.map_map]
  congr 1
  funext c
  exact Char.toLower_toLower_eq_toLower c

theorem camelLowered (name : String) :
    (upperCamelCase name).toLower.toList = smallParts name.toList := by
  rw [String.toLower, String.toList_map, upperCamelCase, String.toList_ofList, camel, camelSmall]

end Recasing

theorem camelHomomorphic :
    (∀ (a b : String) (c : Char), c.isAlphanum = false →
      upperCamelCase (a ++ String.singleton c ++ b) = upperCamelCase a ++ upperCamelCase b) ∧
    ∀ name : String, (upperCamelCase name).toList = (runs name.toList).flatMap capitalized ∧
      upperCamelCase (upperCamelCase name) = upperCamelCase name ∧
      (upperCamelCase (snakeCase name)).toLower = (upperCamelCase name).toLower := by
  constructor
  · intro a b c separates
    have parts : (a ++ String.singleton c ++ b).toList = a.toList ++ c :: b.toList := by simp
    rw [upperCamelCase, parts, camel, camelApart true separates, String.ofList_append]
    rfl
  · intro name
    have text : (upperCamelCase name).toList = camel name.toList := String.toList_ofList
    refine ⟨?_, ?_, ?_⟩
    · rw [text, camelRuns]
    · rw [upperCamelCase, text, camelTwice, upperCamelCase]
    · rw [← String.toList_inj, camelLowered, camelLowered, snakeCase, String.toList_ofList,
        snakeSmall]

theorem accentDivides : 'é'.isAlphanum = false ∧
    upperCamelCase ("caf" ++ String.singleton 'é' ++ "barX") = "CafBarX" := by
  have separates : 'é'.isAlphanum = false := by decide
  have left : upperCamelCase "caf" = "Caf" := by decide +kernel
  have right : upperCamelCase "barX" = "BarX" := by decide +kernel
  refine ⟨separates, ?_⟩
  rw [camelHomomorphic.1 "caf" "barX" 'é' separates, left, right]
  decide +kernel

end Busbind.CamelCase
