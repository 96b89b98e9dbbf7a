import Busbind.Grammar
import Busbind.Proofs.Munch

/-! The pieces that a text is cut into, before they have a place, and the scan as their placing
one behind the other. -/
namespace Busbind
open Lexeme (cut?)
open Munch

structure Piece where
  kind : TokenKind
  literal : List Char
  covered : List Char
  deriving DecidableEq, Repr

def Lexeme.piece (l : Lexeme) : Piece := ⟨l.kind, l.literal, l.covered⟩

namespace Piece

def text (ps : List Piece) : List Char := ps.flatMap Piece.covered

def place : Nat → List Piece → List Token
  | _, [] => []
  | p, piece :: ps =>
    let stop := p + byteLength piece.covered
    ⟨piece.kind, String.ofList piece.literal, ⟨p, stop⟩⟩ :: place stop ps

/-- The front of a text is cut into pieces, which leave the last argument. -/
inductive Cuts : List Char → List Piece → List Char → Prop where
  | nil (cs) : Cuts cs [] cs
  | cons {c cs l ps rest} (first : cut? c cs = some l) (next : Cuts l.rest ps rest) :
      Cuts (c :: cs) (l.piece :: ps) rest

theorem cutsText {cs rest : List Char} {ps : List Piece} (h : Cuts cs ps rest) :
    cs = text ps ++ rest := by
  induction h with
  | nil => rfl
  | cons first next ih =>
    rw [← (Lexeme.cutTiles first).1, ih]
    simp [text, Lexeme.piece]

theorem cutsAppend {cs mid rest : List Char} {ps qs : List Piece} (h : Cuts cs ps mid)
    (k : Cuts mid qs rest) : Cuts cs (ps ++ qs) rest := by
  induction h with
  | nil => exact k
  | cons first next ih => exact .cons first (ih k)

theorem cutsOne {c : Char} {cs : List Char} {l : Lexeme} (h : cut? c cs = some l) :
    Cuts (c :: cs) [l.piece] l.rest := .cons h (.nil _)

theorem cutsForms {kind : TokenKind} {literal covered after : List Char}
    (h : Forms kind literal covered after) :
    Cuts (covered ++ after) [⟨kind, literal, covered⟩] after := by
  obtain ⟨c, cs, front, cut⟩ := formsCut h
  rw [front]
  exact cutsOne cut

theorem fromPositionCut {p : Nat} {c : Char} {cs : List Char} {l : Lexeme}
    (h : cut? c cs = some l) :
    Scan.fromPosition p (c :: cs) =
      ⟨place p [l.piece] ++ (Scan.fromPosition (p + byteLength l.covered) l.rest).tokens,
        (Scan.fromPosition (p + byteLength l.covered) l.rest).ending⟩ := by
  rw [Scan.fromPosition]
  split
  · rename_i none
    rw [h] at none
    contradiction
  · rename_i m some
    cases Option.some.inj (h.symm.trans some)
    rfl

theorem fromPositionStuck {p : Nat} {c : Char} {cs : List Char} (h : cut? c cs = none) :
    Scan.fromPosition p (c :: cs) = ⟨[], .unclosed ⟨p, p + byteLength (c :: cs)⟩⟩ := by
  rw [Scan.fromPosition]
  split
  · rfl
  · rename_i some
    rw [h] at some
    contradiction

theorem fromPositionCuts {cs rest : List Char} {ps : List Piece} (h : Cuts cs ps rest) (p : Nat) :
    Scan.fromPosition p cs =
      ⟨place p ps ++ (Scan.fromPosition (p + byteLength (text ps)) rest).tokens,
        (Scan.fromPosition (p + byteLength (text ps)) rest).ending⟩ := by
  induction h generalizing p with
  | nil => simp [place, text, byteLength]
  | cons first next ih =>
    rw [fromPositionCut first, ih]
    simp [place, text, Lexeme.piece, byteLengthAppend, Nat.add_assoc]

theorem cutsTotal (cs : List Char) : ∃ ps rest, Cuts cs ps rest ∧
    (rest = [] ∨ ∃ d ds, rest = d :: ds ∧ cut? d ds = none) := by
  induction size : cs.length using Nat.strongRecOn generalizing cs with
  | ind n ih =>
    cases cs with
    | nil => exact ⟨[], [], .nil _, .inl rfl⟩
    | cons c cs =>
      cases cut : cut? c cs with
      | none => exact ⟨[], c :: cs, .nil _, .inr ⟨c, cs, rfl, cut⟩⟩
      | some l =>
        have shorter := Lexeme.cutShortens cut
        obtain ⟨ps, rest, cuts, stop⟩ := ih l.rest.length (size ▸ shorter) l.rest rfl
        exact ⟨l.piece :: ps, rest, .cons cut cuts, stop⟩

theorem ofTextComplete {source : String} {ps : List Piece} (cuts : Cuts source.toList ps []) :
    Scan.ofText source = ⟨place 0 ps, .complete (byteLength source.toList)⟩ := by
  have scan := fromPositionCuts cuts 0
  have whole := cutsText cuts
  simp only [Scan.fromPosition, Nat.zero_add, List.append_nil] at scan whole
  rw [Scan.ofText, scan, ← whole]

theorem ofTextUnclosed {source : String} {ps : List Piece} {d : Char} {ds : List Char}
    (cuts : Cuts source.toList ps (d :: ds)) (stuck : cut? d ds = none) :
    Scan.ofText source =
      ⟨place 0 ps, .unclosed ⟨byteLength (text ps), byteLength source.toList⟩⟩ := by
  have scan := fromPositionCuts cuts 0
  rw [fromPositionStuck stuck] at scan
  simp only [Nat.zero_add, List.append_nil] at scan
  rw [Scan.ofText, scan, cutsText cuts, byteLengthAppend]

theorem scanCases (source : String) :
    (∃ ps, Cuts source.toList ps [] ∧
      Scan.ofText source = ⟨place 0 ps, .complete (byteLength source.toList)⟩) ∨
    (∃ ps d ds, Cuts source.toList ps (d :: ds) ∧ cut? d ds = none ∧
      Scan.ofText source =
        ⟨place 0 ps, .unclosed ⟨byteLength (text ps), byteLength source.toList⟩⟩) := by
  obtain ⟨ps, rest, cuts, rfl | ⟨d, ds, rfl, stuck⟩⟩ := cutsTotal source.toList
  · exact .inl ⟨ps, cuts, ofTextComplete cuts⟩
  · exact .inr ⟨ps, d, ds, cuts, stuck, ofTextUnclosed cuts stuck⟩

theorem completeIff {source : String} {tokens : List Token} :
    (Scan.ofText source).tokens? = .ok tokens ↔
      ∃ ps, Cuts source.toList ps [] ∧
        tokens = place 0 ps ++ [Token.endOfInput (byteLength source.toList)] := by
  constructor
  · intro complete
    rcases scanCases source with ⟨ps, cuts, scan⟩ | ⟨ps, d, ds, _, _, scan⟩
    · rw [scan] at complete
      exact ⟨ps, cuts, (Except.ok.inj complete).symm⟩
    · rw [scan] at complete
      contradiction
  · rintro ⟨ps, cuts, rfl⟩
    rw [ofTextComplete cuts]
    rfl

theorem placedWithin {p : Nat} {ps : List Piece} {t : Token} (mem : t ∈ place p ps) :
    p ≤ t.span.start ∧ t.span.start ≤ t.span.stop ∧ t.span.stop ≤ p + byteLength (text ps) := by
  induction ps generalizing p with
  | nil => contradiction
  | cons piece ps ih =>
    have total : byteLength (text (piece :: ps)) = byteLength piece.covered + byteLength (text ps) := by
      simp [text, byteLengthAppend]
    simp only [place, List.mem_cons] at mem
    rcases mem with rfl | mem
    · simp only
      omega
    · have := ih mem
      omega

section Joints
variable {less : List Char}

theorem headOfPrefix {after : List Char} (shorter : less <+: after) :
    ∀ d, less.head? = some d → after.head? = some d := by
  obtain ⟨more, rfl⟩ := shorter
  intro d first
  rw [List.head?_append, first]
  rfl

theorem cutsBefore {cs rest : List Char} {ps : List Piece} (h : Cuts cs ps rest)
    (shorter : less <+: rest) : Cuts (text ps ++ less) ps less := by
  induction h with
  | nil => exact .nil _
  | @cons c cs l ps rest first next ih =>
    have front : text ps ++ less <+: l.rest := by
      rw [cutsText next, List.prefix_append_right_inj]
      exact shorter
    have here := cutsForms (formsBefore (cutForms first) (headOfPrefix front))
    have both := cutsAppend here (ih shorter)
    simpa [text, Lexeme.piece] using both

theorem textCons (p : Piece) (ps : List Piece) : text (p :: ps) = p.covered ++ text ps := rfl

theorem textAppend (ps qs : List Piece) : text (ps ++ qs) = text ps ++ text qs :=
  List.flatMap_append

theorem cutsParted {cs rest : List Char} {ps qs : List Piece} (h : Cuts cs (ps ++ qs) rest) :
    ∃ mid, Cuts cs ps mid ∧ Cuts mid qs rest := by
  induction ps generalizing cs with
  | nil => exact ⟨cs, .nil _, h⟩
  | cons p ps ih =>
    cases h with
    | cons first next =>
      obtain ⟨mid, front, later⟩ := ih next
      exact ⟨mid, .cons first front, later⟩

theorem cutsApart {ps qs : List Piece} (h : Cuts (text (ps ++ qs)) (ps ++ qs) []) :
    Cuts (text ps) ps [] ∧ Cuts (text qs) qs [] := by
  obtain ⟨mid, front, later⟩ := cutsParted h
  have whole := cutsText later
  rw [List.append_nil] at whole
  subst whole
  have front' := cutsBefore front List.nil_prefix
  rw [List.append_nil] at front'
  exact ⟨front', later⟩

theorem placeLength (p : Nat) (ps : List Piece) : (place p ps).length = ps.length := by
  induction ps generalizing p with
  | nil => rfl
  | cons x ps ih => exact congrArg Nat.succ (ih _)

theorem placeAppend (p : Nat) (ps qs : List Piece) :
    place p (ps ++ qs) = place p ps ++ place (p + byteLength (text ps)) qs := by
  induction ps generalizing p with
  | nil => rfl
  | cons x ps ih =>
    rw [textCons, byteLengthAppend, ← Nat.add_assoc]
    exact congrArg (_ :: ·) (ih _)

theorem placeSplit {p : Nat} {ps : List Piece} {us vs : List Token} (split : place p ps = us ++ vs) :
    ∃ qs rs, ps = qs ++ rs ∧ us = place p qs ∧ vs = place (p + byteLength (text qs)) rs := by
  induction us generalizing p ps with
  | nil => exact ⟨[], ps, rfl, rfl, split.symm⟩
  | cons u us ih =>
    cases ps with
    | nil => contradiction
    | cons x ps =>
      obtain ⟨rfl, later⟩ := List.cons.inj split
      obtain ⟨qs, rs, rfl, rfl, rfl⟩ := ih later
      refine ⟨x :: qs, rs, rfl, rfl, ?_⟩
      simp [text, byteLengthAppend, Nat.add_assoc]

end Joints

end Piece

end Busbind
