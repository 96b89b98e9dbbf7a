import Mathlib.Data.List.Chain
import Busbind.Proofs.Pieces

/-! The tokens of a text as a tiling of it: they stand one behind the other without gaps, each
covers what a lexeme of its kind covers there, and the end of the text comes last. The scan gives
the one tiling that there is. -/
namespace Busbind.Tiling
open Munch Piece

structure Occupies (source : String) (s : Span) (before covered after : List Char) : Prop where
  text : source.toList = before ++ covered ++ after
  start : s.start = byteLength before
  stop : s.stop = byteLength (before ++ covered)

def Munched (source : String) (t : Token) : Prop :=
  ∃ before covered after, Occupies source t.span before covered after ∧ covered ≠ [] ∧
    Forms t.kind t.literal.toList covered after

inductive Covers (source : String) : Nat → List Token → Nat → Prop where
  | nil (p) : Covers source p [] p
  | cons {t ts p} (munched : Munched source t) (next : Covers source t.span.stop ts p) :
      Covers source t.span.start (t :: ts) p

structure Tiles (source : String) (tokens : List Token) : Prop where
  munched : ∃ body, tokens = body ++ [Token.endOfInput source.utf8ByteSize] ∧
    ∀ t ∈ body, Munched source t
  begins : ∀ t, tokens.head? = some t → t.span.start = 0
  contiguous : (tokens.map Token.span).IsChain fun s t => t.start = s.stop

theorem byteLengthOfList (cs : List Char) : (String.ofList cs).utf8ByteSize = byteLength cs := by
  induction cs with
  | nil => rfl
  | cons c cs ih =>
    rw [String.ofList_cons, String.utf8ByteSize_append, String.utf8ByteSize_singleton, ih]
    rfl

theorem byteLengthToList (s : String) : byteLength s.toList = s.utf8ByteSize := by
  rw [← byteLengthOfList, String.ofList_toList]

theorem sameDivision {as bs cs ds : List Char} (text : as ++ bs = cs ++ ds)
    (bytes : byteLength as = byteLength cs) : as = cs ∧ bs = ds := by
  induction as generalizing cs with
  | nil =>
    cases cs with
    | nil => exact ⟨rfl, text⟩
    | cons c cs =>
      have := byteLengthPositive (List.cons_ne_nil c cs)
      rw [← bytes] at this
      contradiction
  | cons a as ih =>
    cases cs with
    | nil =>
      have := byteLengthPositive (List.cons_ne_nil a as)
      rw [bytes] at this
      contradiction
    | cons c cs =>
      simp only [List.cons_append, List.cons.injEq] at text
      obtain ⟨rfl, text⟩ := text
      simp only [byteLength, Nat.add_left_cancel_iff] at bytes
      obtain ⟨rfl, same⟩ := ih text bytes
      exact ⟨rfl, same⟩

theorem placedMunched {source : String} {cs rest : List Char} {ps : List Piece}
    (before : List Char)
    (cuts : Cuts cs ps rest) (text : source.toList = before ++ cs) :
    ∀ t ∈ place (byteLength before) ps, Munched source t := by
  induction cuts generalizing before with
  | nil => simp [place]
  | @cons c cs l ps rest first next ih =>
    have tiles := Lexeme.cutTiles first
    intro t mem
    simp only [place, Lexeme.piece, List.mem_cons] at mem
    rcases mem with rfl | mem
    · refine ⟨before, l.covered, l.rest, ⟨?_, rfl, (byteLengthAppend _ _).symm⟩, tiles.2, ?_⟩
      · rw [text, List.append_assoc, tiles.1]
      · rw [String.toList_ofList]
        exact cutForms first
    · rw [← byteLengthAppend] at mem
      refine ih _ ?_ t mem
      rw [text, List.append_assoc, tiles.1]

theorem placedContiguous (p : Nat) (ps : List Piece) :
    ((place p ps ++ [Token.endOfInput (p + byteLength (text ps))]).map Token.span).IsChain
      fun s t => t.start = s.stop := by
  induction ps generalizing p with
  | nil => exact .singleton _
  | cons piece ps ih =>
    have later := ih (p + byteLength piece.covered)
    rw [show p + byteLength piece.covered + byteLength (text ps) =
      p + byteLength (text (piece :: ps)) by simp [text, byteLengthAppend, Nat.add_assoc]] at later
    simp only [place, List.cons_append, List.map_cons]
    cases ps with
    | nil => exact .cons_cons (by simp [Token.endOfInput, text]) later
    | cons _ _ => exact .cons_cons rfl later

section Pieces
variable {source : String} {tokens : List Token} {p q : Nat}

theorem piecesCovered (covers : Covers source q tokens p) {before cs : List Char}
    (text : source.toList = before ++ cs) (begins : q = byteLength before) :
    ∃ ps rest, Cuts cs ps rest ∧ tokens = place q ps ∧ p = q + byteLength (Piece.text ps) := by
  induction covers generalizing before cs with
  | nil q => exact ⟨[], cs, .nil _, rfl, rfl⟩
  | @cons t ts p munched next ih =>
    obtain ⟨front, covered, after, at', _, forms⟩ := munched
    obtain ⟨rfl, rfl⟩ := sameDivision (List.append_assoc front covered after ▸
      at'.text.symm.trans text) (at'.start.symm.trans begins)
    obtain ⟨ps, rest, cuts, same, stop⟩ := ih at'.text at'.stop
    have reach : t.span.stop = t.span.start + byteLength covered := by
      rw [at'.stop, at'.start, byteLengthAppend]
    have both := cutsAppend (cutsForms forms) cuts
    refine ⟨⟨t.kind, t.literal.toList, covered⟩ :: ps, rest, both, ?_, ?_⟩
    · simp only [place, String.ofList_toList, ← reach, same]
    · rw [stop, reach, textCons, byteLengthAppend, Nat.add_assoc]

theorem chainCovers (munched : ∀ t ∈ tokens, Munched source t)
    (begins : ∀ t, (tokens ++ [Token.endOfInput source.utf8ByteSize]).head? = some t →
      t.span.start = p)
    (contiguous : ((tokens ++ [Token.endOfInput source.utf8ByteSize]).map Token.span).IsChain
      fun s t => t.start = s.stop) : Covers source p tokens source.utf8ByteSize := by
  induction tokens generalizing p with
  | nil => exact begins _ rfl ▸ .nil _
  | cons t tokens ih =>
    obtain ⟨first, others⟩ := List.forall_mem_cons.1 munched
    have next : ∀ u, (tokens ++ [Token.endOfInput source.utf8ByteSize]).head? = some u →
        u.span.start = t.span.stop := by
      intro u head
      cases tokens with
      | nil => cases head; exact (List.isChain_cons_cons.1 contiguous).1
      | cons v tokens => cases head; exact (List.isChain_cons_cons.1 contiguous).1
    exact begins t rfl ▸ .cons first (ih others next (List.IsChain.tail contiguous))

theorem piecesOfMunched {rest : List Char} (before : List Char)
    (text : source.toList = before ++ rest) (munched : ∀ t ∈ tokens, Munched source t)
    (begins : ∀ t, (tokens ++ [Token.endOfInput source.utf8ByteSize]).head? = some t →
      t.span.start = byteLength before)
    (contiguous : ((tokens ++ [Token.endOfInput source.utf8ByteSize]).map Token.span).IsChain
      fun s t => t.start = s.stop) :
    ∃ ps, Cuts rest ps [] ∧ tokens = place (byteLength before) ps := by
  obtain ⟨ps, left, cuts, same, stop⟩ :=
    piecesCovered (chainCovers munched begins contiguous) text rfl
  have none : left = [] := by
    by_contra more
    have positive := byteLengthPositive more
    rw [← byteLengthToList, text, byteLengthAppend, cutsText cuts, byteLengthAppend] at stop
    omega
  exact ⟨ps, none ▸ cuts, same⟩

end Pieces

theorem tokensIffTiles (source : String) (tokens : List Token) :
    (Scan.ofText source).tokens? = .ok tokens ↔ Tiles source tokens := by
  rw [completeIff]
  constructor
  · rintro ⟨ps, cuts, rfl⟩
    have whole := cutsText cuts
    have bytes : byteLength (Piece.text ps) = source.utf8ByteSize := by
      rw [← byteLengthToList, whole, List.append_nil]
    refine ⟨⟨place 0 ps, by rw [byteLengthToList], placedMunched [] cuts rfl⟩, ?_, ?_⟩
    · cases ps with
      | nil =>
        have empty : source.utf8ByteSize = 0 := bytes ▸ rfl
        intro t head
        cases head
        rw [byteLengthToList, empty]
        rfl
      | cons piece ps => intro t head; cases head; rfl
    · have chain := placedContiguous 0 ps
      rwa [Nat.zero_add, bytes, ← byteLengthToList] at chain
  · rintro ⟨⟨body, rfl, munched⟩, begins, contiguous⟩
    obtain ⟨ps, cuts, same⟩ := piecesOfMunched [] rfl munched begins contiguous
    exact ⟨ps, cuts, by rw [same, byteLengthToList]; rfl⟩

end Busbind.Tiling
