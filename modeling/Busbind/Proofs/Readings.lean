import Busbind.Proofs.Spelling
import Busbind.Proofs.Tiling

/-! Tokens read from a text one after the other, without end. They cover the text, and from then on
its end is read; or they reach a description that is never closed, which is refused once and takes
the remaining text with it. -/
namespace Busbind.Readings
open Canonical (stuckOpens)
open Lexeme (cut? untilClose description?)
open Munch Piece Tiling

structure Progress where
  position : Nat
  ahead : List Char
  deriving DecidableEq, Repr

def Progress.read (s : Progress) : Except Rejection Token × Progress :=
  match s.ahead with
  | [] => (.ok (Token.endOfInput s.position), s)
  | c :: cs =>
    match cut? c cs with
    | none =>
      let stop := s.position + byteLength (c :: cs)
      (.error (.unclosedDescription ⟨s.position, stop⟩), ⟨stop, []⟩)
    | some l =>
      let stop := s.position + byteLength l.covered
      (.ok ⟨l.kind, String.ofList l.literal, ⟨s.position, stop⟩⟩, ⟨stop, l.rest⟩)

def reading (s : Progress) : Nat → Except Rejection Token
  | 0 => s.read.1
  | k + 1 => reading s.read.2 k

def start (source : String) : Progress := ⟨0, source.toList⟩

def Gives (source : String) (results : List (Except Rejection Token)) : Prop :=
  ∀ k, reading (start source) k =
    results[k]?.getD (.ok (Token.endOfInput source.utf8ByteSize))

/-- A description begins at the position and is never closed: after `<*` and one character more, if
there is one, no `**` comes. -/
def OpenAt (source : String) (position : Nat) : Prop :=
  ∃ before after, source.toList = before ++ '<' :: '*' :: after ∧ position = byteLength before ∧
    ¬['*', '*'] <:+: after.drop 1

structure Finishes (source : String) (tokens : List Token) : Prop where
  covers : Covers source 0 tokens source.utf8ByteSize
  gives : Gives source (tokens.map .ok)

structure Breaks (source : String) (tokens : List Token) (position : Nat) : Prop where
  covers : Covers source 0 tokens position
  gives : Gives source
    (tokens.map .ok ++ [.error (.unclosedDescription ⟨position, source.utf8ByteSize⟩)])

section Unclosed

theorem untilCloseNone (cs : List Char) : untilClose cs = none ↔ ¬['*', '*'] <:+: cs := by
  fun_induction untilClose cs with
  | case1 cs => simp [List.infix_cons_iff]
  | case2 c cs other ih =>
    have front : ¬['*', '*'] <+: c :: cs := by
      rintro ⟨ds, same⟩
      obtain ⟨rfl, rfl⟩ := List.cons.inj same
      exact other ds rfl rfl
    rw [Option.map_eq_none_iff, ih, List.infix_cons_iff, not_or]
    exact ⟨fun inside => ⟨front, inside⟩, And.right⟩
  | case3 => simp

theorem descriptionNone (cs : List Char) :
    description? cs = none ↔ ¬['*', '*'] <:+: cs.drop 1 := by
  cases cs with
  | nil => simp [description?]
  | cons c cs => rw [description?, Option.map_eq_none_iff, untilCloseNone]; rfl

theorem cutNone {c : Char} {cs : List Char} :
    cut? c cs = none ↔ ∃ after, c :: cs = '<' :: '*' :: after ∧ ¬['*', '*'] <:+: after.drop 1 := by
  have opening (after : List Char) : cut? '<' ('*' :: after) = description? after := by
    have visible : isSpace '<' = false := by decide
    simp [cut?, visible]
  constructor
  · intro stuck
    obtain ⟨after, rfl, rfl⟩ := stuckOpens stuck
    rw [opening, descriptionNone] at stuck
    exact ⟨after, rfl, stuck⟩
  · rintro ⟨after, same, unclosed⟩
    obtain ⟨rfl, rfl⟩ := List.cons.inj same
    rw [opening, descriptionNone]
    exact unclosed

end Unclosed

section Covering
variable {source : String} {tokens : List Token} {p : Nat}

theorem placedCovers {ps : List Piece} (munched : ∀ t ∈ place p ps, Munched source t) :
    Covers source p (place p ps) (p + byteLength (Piece.text ps)) := by
  induction ps generalizing p with
  | nil => exact .nil p
  | cons x ps ih =>
    obtain ⟨first, later⟩ := List.forall_mem_cons.1 munched
    rw [textCons, byteLengthAppend, ← Nat.add_assoc]
    exact .cons first (ih later)

theorem coversIff :
    Covers source 0 tokens p ↔ ∃ ps rest, Cuts source.toList ps rest ∧ tokens = place 0 ps ∧
      p = byteLength (Piece.text ps) := by
  constructor
  · intro covers
    have whole : source.toList = [] ++ source.toList := rfl
    obtain ⟨ps, rest, cuts, same, stop⟩ := piecesCovered covers whole rfl
    exact ⟨ps, rest, cuts, same, by rw [stop, Nat.zero_add]⟩
  · rintro ⟨ps, rest, cuts, rfl, rfl⟩
    have covers := placedCovers (placedMunched [] cuts rfl)
    rwa [show byteLength [] = 0 from rfl, Nat.zero_add] at covers

end Covering

section Readings
variable {source : String} {tokens : List Token} {p : Nat} {cs rest : List Char} {ps : List Piece}

theorem readingCuts (cuts : Cuts cs ps rest) (p k : Nat) :
    reading ⟨p, cs⟩ k = ((place p ps).map Except.ok)[k]?.getD
      (reading ⟨p + byteLength (Piece.text ps), rest⟩ (k - ps.length)) := by
  induction cuts generalizing p k with
  | nil => rfl
  | @cons c cs l ps rest first next ih =>
    have read : Progress.read ⟨p, c :: cs⟩ =
        (.ok ⟨l.kind, String.ofList l.literal, ⟨p, p + byteLength l.covered⟩⟩,
          ⟨p + byteLength l.covered, l.rest⟩) := by
      simp only [Progress.read, first]
    cases k with
    | zero => rw [reading, read]; rfl
    | succ k =>
      have total : byteLength (Piece.text (l.piece :: ps)) =
          byteLength l.covered + byteLength (Piece.text ps) := byteLengthAppend _ _
      rw [reading, read, ih, total, List.length_cons, Nat.add_sub_add_right, Nat.add_assoc]
      rfl

theorem readingEnded (p k : Nat) : reading ⟨p, []⟩ k = .ok (Token.endOfInput p) := by
  induction k with
  | zero => rfl
  | succ k ih => exact ih

theorem readingStuck {c : Char} (stuck : cut? c cs = none) (p k : Nat) :
    reading ⟨p, c :: cs⟩ k =
      [Except.error (Rejection.unclosedDescription ⟨p, p + byteLength (c :: cs)⟩)][k]?.getD
        (.ok (Token.endOfInput (p + byteLength (c :: cs)))) := by
  have read : Progress.read ⟨p, c :: cs⟩ =
      (.error (.unclosedDescription ⟨p, p + byteLength (c :: cs)⟩),
        ⟨p + byteLength (c :: cs), []⟩) := by
    simp only [Progress.read, stuck]
  cases k with
  | zero => rw [reading, read]; rfl
  | succ k => rw [reading, read, readingEnded]; rfl

theorem finishesCuts (cuts : Cuts source.toList ps []) : Finishes source (place 0 ps) := by
  have whole := cutsText cuts
  rw [List.append_nil] at whole
  have bytes : byteLength (Piece.text ps) = source.utf8ByteSize := by
    rw [← whole, byteLengthToList]
  refine ⟨coversIff.2 ⟨ps, [], cuts, rfl, bytes.symm⟩, fun k => ?_⟩
  rw [start, readingCuts cuts, readingEnded, Nat.zero_add, bytes]

theorem breaksCuts {d : Char} {ds : List Char} (cuts : Cuts source.toList ps (d :: ds))
    (stuck : cut? d ds = none) : Breaks source (place 0 ps) (byteLength (Piece.text ps)) := by
  have bytes : byteLength (Piece.text ps) + byteLength (d :: ds) = source.utf8ByteSize := by
    rw [← byteLengthAppend, ← cutsText cuts, byteLengthToList]
  refine ⟨coversIff.2 ⟨ps, _, cuts, rfl, rfl⟩, fun k => ?_⟩
  rw [start, readingCuts cuts, readingStuck stuck, Nat.zero_add, bytes]
  rcases Nat.lt_or_ge k ps.length with before | behind
  · rw [List.getElem?_append_left (by simpa [placeLength] using before),
      List.getElem?_eq_getElem (by simpa [placeLength] using before)]
    rfl
  · rw [List.getElem?_append_right (by simpa [placeLength] using behind),
      List.getElem?_eq_none (by simpa [placeLength] using behind), List.length_map, placeLength]
    rfl

theorem breaksIff : Breaks source tokens p ↔ Covers source 0 tokens p ∧ OpenAt source p := by
  constructor
  · rintro ⟨covers, gives⟩
    refine ⟨covers, ?_⟩
    obtain ⟨ps, rest, cuts, rfl, rfl⟩ := coversIff.1 covers
    have refused := gives ps.length
    rw [start, readingCuts cuts, List.getElem?_eq_none (by simp [placeLength]),
      List.getElem?_append_right (by simp [placeLength])] at refused
    simp only [List.length_map, placeLength, Nat.sub_self, List.getElem?_cons_zero,
      Option.getD_some, Option.getD_none] at refused
    have whole := cutsText cuts
    cases rest with
    | nil => rw [readingEnded] at refused; contradiction
    | cons d ds =>
      cases cut : cut? d ds with
      | some l => simp [reading, Progress.read, cut] at refused
      | none =>
        obtain ⟨after, same, unclosed⟩ := cutNone.1 cut
        exact ⟨Piece.text ps, after, by rw [whole, same], rfl, unclosed⟩
  · rintro ⟨covers, before, after, text, bytes, unclosed⟩
    obtain ⟨ps, rest, cuts, rfl, rfl⟩ := coversIff.1 covers
    obtain ⟨_, rfl⟩ := sameDivision ((cutsText cuts).symm.trans text) bytes
    exact breaksCuts cuts (cutNone.2 ⟨after, rfl, unclosed⟩)

theorem piecesFew {cs rest : List Char} (cuts : Cuts cs ps rest) : ps.length ≤ cs.length := by
  induction cuts with
  | nil => exact Nat.zero_le _
  | cons first next ih => exact Nat.le_trans (Nat.succ_le_succ ih) (Lexeme.cutShortens first)

theorem readingsListed {results : List (Except Rejection Token)} (gives : Gives source results)
    (count : Nat) :
    (results ++ List.replicate (count - results.length)
      (Except.ok (Token.endOfInput source.utf8ByteSize))).take count =
        (List.range count).map (reading (start source)) := by
  refine List.ext_getElem? fun k => ?_
  rcases Nat.lt_or_ge k count with within | beyond
  · rw [List.getElem?_take_of_lt within, List.getElem?_map, List.getElem?_range within,
      Option.map_some, gives k]
    rcases Nat.lt_or_ge k results.length with before | behind
    · rw [List.getElem?_append_left before, List.getElem?_eq_getElem before]
      rfl
    · rw [List.getElem?_append_right behind, List.getElem?_eq_none behind,
        List.getElem?_replicate_of_lt (by omega)]
      rfl
  · rw [List.getElem?_take_eq_none beyond, List.getElem?_eq_none (by simpa using beyond)]

end Readings

theorem readingsEnd (source : String) :
    (∀ count, (Scan.ofText source).readings count =
      (List.range count).map (reading (start source))) ∧
    ((∃ tokens, Finishes source tokens ∧ tokens.length ≤ source.length ∧
        (Scan.ofText source).tokens? = .ok (tokens ++ [Token.endOfInput source.utf8ByteSize])) ∨
      ∃ tokens p, Breaks source tokens p ∧
        (Scan.ofText source).tokens? =
          .error (.unclosedDescription ⟨p, source.utf8ByteSize⟩)) ∧
    ∀ tokens p, Breaks source tokens p ↔ Covers source 0 tokens p ∧ OpenAt source p := by
  rcases scanCases source with ⟨ps, cuts, scan⟩ | ⟨ps, d, ds, cuts, stuck, scan⟩
  · have finishes := finishesCuts cuts
    refine ⟨fun count => ?_, .inl ⟨_, finishes, ?_, ?_⟩, fun _ _ => breaksIff⟩
    · rw [← readingsListed finishes.gives, scan, byteLengthToList]
      simp [Scan.readings]
    · rw [placeLength, ← String.length_toList]
      exact piecesFew cuts
    · rw [scan, Scan.tokens?, byteLengthToList]
  · have breaks := breaksCuts cuts stuck
    refine ⟨fun count => ?_, .inr ⟨_, _, breaks, ?_⟩, fun _ _ => breaksIff⟩
    · rw [← readingsListed breaks.gives, scan, byteLengthToList]
      simp [Scan.readings]
    · rw [scan, Scan.tokens?, byteLengthToList]

end Busbind.Readings
