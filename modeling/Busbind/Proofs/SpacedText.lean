import Busbind.Proofs.Spelling

/-! Texts in parts that are set apart by spaces, and the significant tokens they are scanned as. How
much white space stands in front of a part does not show, and a space ends whatever stands before
it. -/
namespace Busbind.Canonical
open Munch Piece

def Scans (cs : List Char) (ts : List Token) : Prop :=
  ∃ ps, Cuts cs ps [] ∧ (ps.map unplacedPiece).filter Token.isSignificant = ts

variable {kind : TokenKind} {literal covered after cs ds : List Char} {ts : List Token}

theorem scansNil : Scans [] [] := ⟨[], .nil [], rfl⟩

theorem scansBehind (forms : Forms kind literal covered after) (h : Scans after ts) :
    Scans (covered ++ after)
      ([token kind (String.ofList literal)].filter Token.isSignificant ++ ts) := by
  obtain ⟨ps, cuts, rfl⟩ := h
  exact ⟨_, cutsAppend (cutsForms forms) cuts, List.filter_append [_] _⟩

theorem scansTrimmed : Scans (cs.dropWhile isSpace) ts ↔ Scans cs ts := by
  cases cs with
  | nil => rfl
  | cons c cs =>
    cases space : isSpace c with
    | false => rw [List.dropWhile_cons, if_neg (by simp [space])]
    | true =>
      have first : Lexeme.cut? c cs =
          some (.plain .whitespace (c :: cs.takeWhile isSpace) (cs.dropWhile isSpace)) := if_pos space
      rw [List.dropWhile_cons, if_pos space]
      constructor
      · rintro ⟨ps, cuts, rfl⟩
        exact ⟨_, .cons first cuts, rfl⟩
      · rintro ⟨ps, cuts, rfl⟩
        cases cuts with
        | cons first' next =>
          cases Option.some.inj (first.symm.trans first')
          exact ⟨_, next, rfl⟩

theorem scansSpace {c : Char} (space : isSpace c = true) : Scans (c :: cs) ts ↔ Scans cs ts := by
  rw [← scansTrimmed, List.dropWhile_cons, if_pos space, scansTrimmed]

theorem scansSpaces (all : ∀ c ∈ cs, isSpace c = true) (h : Scans ds ts) : Scans (cs ++ ds) ts := by
  induction cs with
  | nil => exact h
  | cons c cs ih =>
    obtain ⟨space, all⟩ := List.forall_mem_cons.1 all
    exact (scansSpace space).2 (ih all)

theorem spaceStops (other : kind ≠ .whitespace) : ¬Continues kind literal ' ' := by
  have word : isWordPart ' ' = false := by decide
  cases kind <;> simp_all [Continues]

theorem scansStopped (forms : Forms kind literal covered after) (h : Scans (' ' :: ds) ts) :
    Scans (covered ++ ' ' :: ds)
      ([token kind (String.ofList literal)].filter Token.isSignificant ++ ts) := by
  by_cases description : kind = .description
  · subst description
    obtain ⟨opening, closing, rfl, one | ⟨rfl, _⟩, closes⟩ := forms
    · exact scansBehind ⟨opening, closing, rfl, .inl one, closes⟩ h
    · have stopped : Forms .description literal
          ('<' :: '*' :: opening :: literal ++ '*' :: '*' :: [' ']) ds :=
        ⟨opening, [' '], rfl, .inl rfl, closes⟩
      have closed := scansBehind stopped ((scansSpace (by decide)).1 h)
      simpa using closed
  by_cases whitespace : kind = .whitespace
  · subst whitespace
    obtain ⟨rfl, c, cs, rfl, begins, all, _⟩ := forms
    exact scansSpaces (List.forall_mem_cons.2 ⟨begins, all⟩) h
  refine scansBehind (formsElsewhere forms description fun d front => .inr ?_) h
  cases front
  exact spaceStops whitespace

theorem scansCuts {ps : List Piece} (cuts : Cuts cs ps []) (gap : Gap after) (h : Scans after ts) :
    Scans (cs ++ after) ((ps.map unplacedPiece).filter Token.isSignificant ++ ts) := by
  generalize done : ([] : List Char) = rest at cuts
  induction cuts with
  | nil =>
    subst done
    exact h
  | @cons c cs l ps rest first next ih =>
    have forms := cutForms first
    have later := ih done
    rw [← (Lexeme.cutTiles first).1, List.append_assoc, List.map_cons, ← List.singleton_append,
      List.filter_append, List.append_assoc]
    cases left : l.rest with
    | cons d ds =>
      -- The next lexeme stands right behind this one, as before.
      rw [left] at forms later
      exact scansBehind (formsBefore forms fun _ => id) later
    | nil =>
      rw [left] at forms later
      cases after with
      | nil => exact scansBehind forms later
      | cons d ds =>
        cases gap d rfl
        exact scansStopped forms later

theorem scansWord {w : Word} (proper : w.Proper) (gap : Gap after) (h : Scans after ts) :
    Scans (' ' :: w.text.toList ++ after) (w.tokens.filter Token.isSignificant ++ ts) := by
  obtain ⟨ps, here, tokens⟩ := (spelled proper).cuts after gap
  obtain ⟨qs, later, rfl⟩ := h
  refine (scansSpace (by decide)).2 ⟨_, cutsAppend here later, ?_⟩
  rw [List.map_append, List.filter_append, tokens]

theorem scansSpaced {ws : List Word} (all : ∀ w ∈ ws, w.Proper) : Scans (spaced ws) (visible ws) := by
  induction ws with
  | nil => exact scansNil
  | cons w ws ih =>
    obtain ⟨proper, others⟩ := List.forall_mem_cons.1 all
    have gap : Gap (spaced ws) := spacedApart ws ▸ gapTexts _
    exact scansWord proper gap (ih others)

end Busbind.Canonical
