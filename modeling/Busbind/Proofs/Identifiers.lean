import Busbind.Proofs.Casing

/-! The identifiers of generated code as they are written. Each is a plain word, a reserved word in
its raw form, or a reserved word without one that an underscore at its end keeps apart; and two names
are written alike only where their casings are the same. -/
namespace Busbind.Identifiers
open Casing Naming

def IsPlain (word : String) : Prop :=
  ∃ c cs, word.toList = c :: cs ∧ c.isAlpha = true ∧ ∀ d ∈ cs, IsPart d

def IsMarked (word : String) : Prop := word.toList.getLast? = some '_'

inductive Legal : String → Prop where
  | word {w : String} (plain : IsPlain w) (free : w ∉ reservedWords) (unmarked : ¬IsMarked w) :
      Legal w
  | raw {k : String} (reserved : k ∈ reservedWords) (escapable : k ∉ unescapableWords) :
      Legal ("r#" ++ k)
  | marked {k : String} (unescapable : k ∈ unescapableWords) : Legal (k ++ "_")

/-- What a conversion of names makes of them: which names it takes, how it writes them, and that it
writes two of them alike exactly where they are cased alike. -/
structure Converts (convert : NameRole → String → Except BindingError BoundName)
    (cased : String → String) : Prop where
  usable : ∀ role name, (∃ n, convert role name = .ok n) ↔ IsUsableName name
  legal : ∀ role name n, convert role name = .ok n → Legal n.identifier.spelling
  apart : ∀ role role' a b m n, convert role a = .ok m → convert role' b = .ok n →
    (m.identifier.spelling = n.identifier.spelling ↔ cased a = cased b)

section Words
variable {v w : String}

theorem plainIff : Identifier.isWellFormed w.toList = true ↔ IsPlain w := by
  cases text : w.toList with
  | nil => simp [Identifier.isWellFormed, IsPlain, text]
  | cons c cs => simp [Identifier.isWellFormed, IsPlain, text, IsPart]

theorem spellingCases (w : String) :
    ((Identifier.avoiding w).spelling = w ∧ w ∉ reservedWords) ∨
      ((Identifier.avoiding w).spelling = "r#" ++ w ∧ w ∈ reservedWords ∧ w ∉ unescapableWords) ∨
      ((Identifier.avoiding w).spelling = w ++ "_" ∧ w ∈ unescapableWords) := by
  unfold Identifier.avoiding
  by_cases reserved : w ∈ reservedWords
  · by_cases unescapable : w ∈ unescapableWords
    · exact .inr (.inr ⟨by simp [isReserved, hasRawForm, reserved, unescapable, Identifier.spelling],
        unescapable⟩)
    · exact .inr (.inl ⟨by simp [isReserved, hasRawForm, reserved, unescapable, Identifier.spelling],
        reserved, unescapable⟩)
  · exact .inl ⟨by simp [isReserved, reserved, Identifier.spelling], reserved⟩

theorem avoidingLegal (plain : IsPlain w) (unmarked : ¬IsMarked w) :
    Legal (Identifier.avoiding w).spelling := by
  rcases spellingCases w with ⟨same, free⟩ | ⟨same, reserved, escapable⟩ | ⟨same, unescapable⟩ <;>
    rw [same]
  · exact .word plain free unmarked
  · exact .raw reserved escapable
  · exact .marked unescapable

theorem plainNoHash (plain : IsPlain w) : '#' ∉ w.toList := by
  obtain ⟨c, cs, text, letter, parts⟩ := plain
  rw [text, List.mem_cons]
  rintro (rfl | mem)
  · contradiction
  · rcases parts '#' mem with part | part <;> contradiction

theorem rawHash (w : String) : '#' ∈ ("r#" ++ w).toList := by simp

theorem markedMarked (w : String) : IsMarked (w ++ "_") := by simp [IsMarked]

theorem markedNoHash (plain : IsPlain w) : '#' ∉ (w ++ "_").toList := by
  simpa using plainNoHash plain

/-- A raw form is told by its hash and a marked one by its end, so no two words are written alike. -/
theorem avoidingInjective (plain : IsPlain v) (plain' : IsPlain w) (unmarked : ¬IsMarked v)
    (unmarked' : ¬IsMarked w)
    (same : (Identifier.avoiding v).spelling = (Identifier.avoiding w).spelling) : v = w := by
  rcases spellingCases v with ⟨left, _⟩ | ⟨left, _⟩ | ⟨left, _⟩ <;>
    rcases spellingCases w with ⟨right, _⟩ | ⟨right, _⟩ | ⟨right, _⟩ <;> rw [left, right] at same
  · exact same
  · exact absurd (same ▸ rawHash w) (plainNoHash plain)
  · exact absurd (same ▸ markedMarked w) unmarked
  · exact absurd (same ▸ rawHash v) (plainNoHash plain')
  · exact (String.append_right_inj "r#").1 same
  · exact absurd (same ▸ rawHash v) (markedNoHash plain')
  · exact absurd (same ▸ markedMarked v) unmarked'
  · exact absurd (same ▸ rawHash w) (markedNoHash plain)
  · exact (String.append_left_inj "_").1 same

end Words

theorem converts {convert : NameRole → String → Except BindingError BoundName}
    {cased : String → String}
    (usable : ∀ name, Identifier.isWellFormed (cased name).toList = true ↔ IsUsableName name)
    (unmarked : ∀ name, ¬IsMarked (cased name))
    (decides : ∀ role name, (IsUsableName name ∧ ∃ n, convert role name = .ok n) ∨
      (¬IsUsableName name ∧ convert role name = .error (.invalidName role name)))
    (bound : ∀ role name n, convert role name = .ok n → n.identifier = .avoiding (cased name)) :
    Converts convert cased := by
  have taken (role) (name) : (∃ n, convert role name = .ok n) ↔ IsUsableName name := by
    rcases decides role name with ⟨good, some⟩ | ⟨bad, refused⟩
    · exact ⟨fun _ => good, fun _ => some⟩
    · refine ⟨fun ⟨n, ok⟩ => ?_, fun good => absurd good bad⟩
      rw [refused] at ok
      contradiction
  have plain (role) (name) (n) (ok : convert role name = .ok n) : IsPlain (cased name) :=
    plainIff.1 ((usable name).2 ((taken role name).1 ⟨n, ok⟩))
  refine ⟨taken, fun role name n ok => ?_, fun role role' a b m n left right => ?_⟩
  · rw [bound role name n ok]
    exact avoidingLegal (plain role name n ok) (unmarked name)
  · rw [bound role a m left, bound role' b n right]
    refine ⟨avoidingInjective (plain role a m left) (plain role' b n right) (unmarked a) (unmarked b),
      fun same => by rw [same]⟩

/-- Names that have an identifier are those whose first letter or digit is a letter. The identifier
is legal, and two names share it exactly where they are cased alike, in either casing. -/
theorem identifiersLegal :
    Converts BoundName.snake snakeCase ∧ Converts BoundName.camel upperCamelCase := by
  refine ⟨converts snakeUsable (fun name => ?_) snakeCases fun _ _ _ => snakeBound,
    converts camelUsable (fun name => ?_) camelCases fun _ _ _ => camelBound⟩
  · rw [IsMarked, snakeCase, String.toList_ofList]
    exact snakeLast false false none name.toList
  · rw [IsMarked, upperCamelCase, String.toList_ofList]
    exact camelLast name.toList

end Busbind.Identifiers
