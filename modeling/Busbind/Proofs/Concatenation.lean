import Busbind.Proofs.Spelling
import Busbind.Proofs.Tiling

/-! The scan of a text that is put together from two. Where the second does not extend the last token
of the first, its tokens follow those of the first, and they or what refuses it have moved by its
length. -/
namespace Busbind

def Span.shift (n : Nat) (s : Span) : Span := ⟨n + s.start, n + s.stop⟩

def Token.shift (n : Nat) (t : Token) : Token := { t with span := t.span.shift n }

def Rejection.shift (n : Nat) : Rejection → Rejection
  | .unexpected expected found => .unexpected expected (found.shift n)
  | .invalidNumber field found fault => .invalidNumber field (found.shift n) fault
  | .unclosedDescription span => .unclosedDescription (span.shift n)
  | .unreadable reason => .unreadable reason

namespace Concatenation
open Lexeme (cut?)
open Munch Piece Tiling

/-- A description that ends, as its text does, directly behind its closing `**`. -/
def EndsBare (a : String) (t : Token) : Prop :=
  ∃ before opening, Occupies a t.span before
    ('<' :: '*' :: opening :: t.literal.toList ++ ['*', '*']) []

def Apart (a : String) (t : Token) (b : String) : Prop :=
  ∀ d, b.toList.head? = some d →
    match t.kind with
    | .keyword _ | .identifier | .number => d.isAlphanum = false ∧ d ≠ '.' ∧ d ≠ '_'
    | .whitespace => d ≠ ' ' ∧ d ≠ '\t' ∧ d ≠ '\r' ∧ d ≠ '\n'
    | .illegal => t.literal = "<" → d ≠ '*'
    | .description => ¬EndsBare a t
    | .punctuation _ | .endOfInput => True

section Shifting
variable {a b : String} {ps qs : List Piece}

theorem placeShift (n p : Nat) (ps : List Piece) :
    place (n + p) ps = (place p ps).map (Token.shift n) := by
  induction ps generalizing p with
  | nil => rfl
  | cons x ps ih =>
    simp only [place, List.map_cons, ← ih, ← Nat.add_assoc]
    simp only [Token.shift, Span.shift, Nat.add_assoc]

theorem placeJoined (cuts : Cuts a.toList ps []) (qs : List Piece) :
    place 0 (ps ++ qs) = place 0 ps ++ (place 0 qs).map (Token.shift a.utf8ByteSize) := by
  have whole := cutsText cuts
  rw [List.append_nil] at whole
  rw [placeAppend, Nat.zero_add, ← whole, byteLengthToList, ← placeShift, Nat.add_zero]

theorem tokensBehind (alone : Cuts a.toList ps []) (cuts : Cuts (a ++ b).toList ps b.toList) :
    (Scan.ofText (a ++ b)).tokens? =
      match (Scan.ofText b).tokens? with
      | .ok us => .ok (place 0 ps ++ us.map (Token.shift a.utf8ByteSize))
      | .error r => .error (r.shift a.utf8ByteSize) := by
  have bytes : byteLength (a ++ b).toList = a.utf8ByteSize + b.utf8ByteSize := by
    rw [byteLengthToList, String.utf8ByteSize_append]
  rcases scanCases b with ⟨qs, later, scan⟩ | ⟨qs, d, ds, later, stuck, scan⟩
  · have both := cutsAppend cuts later
    rw [scan, ofTextComplete both, placeJoined alone, bytes]
    simp [Scan.tokens?, Token.endOfInput, Token.shift, Span.shift, byteLengthToList]
  · have both := cutsAppend cuts later
    have front : byteLength (Piece.text ps) = a.utf8ByteSize := by
      rw [← byteLengthToList, cutsText alone, List.append_nil]
    rw [scan, ofTextUnclosed both stuck, bytes, textAppend, byteLengthAppend, front]
    simp [Scan.tokens?, Rejection.shift, Span.shift, byteLengthToList]

end Shifting

section Joining
variable {a b : String} {t : Token} {before covered : List Char}

theorem apartStops {d : Char} (apart : Apart a t b) (front : b.toList.head? = some d) :
    ¬Continues t.kind t.literal.toList d := by
  have stops := apart d front
  cases kind : t.kind with
  | keyword k | identifier | number =>
    rw [kind] at stops
    simp [Continues, isWordPart, stops]
  | whitespace =>
    rw [kind] at stops
    simp [Continues, isSpace, stops]
  | illegal =>
    rw [kind] at stops
    rintro ⟨same, star⟩
    exact stops (String.toList_injective same) star
  | punctuation p | description | endOfInput => exact id

theorem formsJoined (forms : Forms t.kind t.literal.toList covered [])
    (stands : Occupies a t.span before covered []) (apart : Apart a t b) :
    Forms t.kind t.literal.toList covered b.toList := by
  by_cases description : t.kind = .description
  · unfold Apart at apart
    rw [description] at forms apart ⊢
    obtain ⟨opening, closing, same, one | ⟨rfl, _⟩, closes⟩ := forms
    · exact ⟨opening, closing, same, .inl one, closes⟩
    · -- The closing takes the next character, so there must be none.
      have bare : EndsBare a t := ⟨before, opening, same ▸ stands⟩
      have none : b.toList = [] := by
        cases text : b.toList with
        | nil => rfl
        | cons d ds => exact absurd bare (apart d (by rw [text]; rfl))
      exact ⟨opening, [], same, .inr ⟨rfl, none⟩, closes⟩
  · exact formsElsewhere forms description fun _ front => .inr (apartStops apart front)

theorem cutsJoined {cs bs : List Char} {ps : List Piece} (cuts : Cuts cs ps [])
    (last : ∀ x, ps.getLast? = some x → Forms x.kind x.literal x.covered bs) :
    Cuts (cs ++ bs) ps bs := by
  generalize ended : ([] : List Char) = rest at cuts
  induction cuts with
  | nil => exact ended ▸ .nil bs
  | @cons c cs l ps rest first next ih =>
    have forms := cutForms first
    have here : Forms l.kind l.literal l.covered (l.rest ++ bs) := by
      cases left : l.rest with
      | nil =>
        rw [left] at next
        cases next
        exact last _ rfl
      | cons d ds => exact formsBefore forms fun _ head => left ▸ head
    have tiles := (Lexeme.cutTiles first).1
    have later : Cuts (l.rest ++ bs) ps bs := by
      refine ih (fun x lies => last x ?_) ended
      rw [List.getLast?_cons, lies]
      rfl
    have both := cutsAppend (cutsForms here) later
    rwa [← List.append_assoc, tiles] at both

theorem lastForms {cs : List Char} {x : Piece} (cuts : Cuts cs [x] []) :
    Forms x.kind x.literal x.covered [] := by
  cases cuts with
  | @cons c cs l _ _ first next =>
    have ended : l.rest = [] := cutsText next
    have forms := cutForms first
    rwa [ended] at forms

theorem tokensJoined {a b : String} {ts : List Token}
    (scanned : (Scan.ofText a).tokens? = .ok (ts ++ [Token.endOfInput a.utf8ByteSize]))
    (apart : ∀ t, ts.getLast? = some t → Apart a t b) :
    (Scan.ofText (a ++ b)).tokens? =
      match (Scan.ofText b).tokens? with
      | .ok us => .ok (ts ++ us.map (Token.shift a.utf8ByteSize))
      | .error r => .error (r.shift a.utf8ByteSize) := by
  obtain ⟨ps, alone, same⟩ := completeIff.1 scanned
  obtain ⟨rfl, _⟩ := List.append_inj' same rfl
  have whole := cutsText alone
  refine tokensBehind alone ?_
  rw [String.toList_append]
  refine cutsJoined alone fun x last => ?_
  obtain ⟨qs, rfl⟩ := List.getLast?_eq_some_iff.1 last
  obtain ⟨mid, _, end'⟩ := cutsParted alone
  rw [textAppend, textCons, show Piece.text [] = [] from rfl] at whole
  simp only [List.append_nil] at whole
  have final : place 0 (qs ++ [x]) = place 0 qs ++ [⟨x.kind, String.ofList x.literal,
      ⟨byteLength (Piece.text qs), byteLength (Piece.text qs ++ x.covered)⟩⟩] := by
    rw [placeAppend, Nat.zero_add, byteLengthAppend]
    rfl
  have apart := apart _ (by rw [final]; exact List.getLast?_concat)
  have stands : Occupies a ⟨byteLength (Piece.text qs), byteLength (Piece.text qs ++ x.covered)⟩
      (Piece.text qs) x.covered [] := ⟨by rw [whole, List.append_nil], rfl, rfl⟩
  have forms : Forms x.kind x.literal x.covered [] := lastForms end'
  rw [← String.toList_ofList (l := x.literal)] at forms ⊢
  exact formsJoined (t := ⟨x.kind, String.ofList x.literal, _⟩) forms stands apart

end Joining

def sated : String := "x <**é***"

def satedTokens : List Token :=
  [⟨.identifier, "x", ⟨0, 1⟩⟩, ⟨.whitespace, " ", ⟨1, 2⟩⟩, ⟨.description, "é", ⟨2, 10⟩⟩]

theorem satedJoined :
    (Scan.ofText sated).tokens? = .ok (satedTokens ++ [Token.endOfInput sated.utf8ByteSize]) ∧
    (∀ t, satedTokens.getLast? = some t → Apart sated t "*<*>") ∧
    (Scan.ofText (sated ++ "*<*>")).tokens? =
      match (Scan.ofText "*<*>").tokens? with
      | .ok us => .ok (satedTokens ++ us.map (Token.shift sated.utf8ByteSize))
      | .error r => .error (r.shift sated.utf8ByteSize) := by
  have scanned : (Scan.ofText sated).tokens? =
      .ok (satedTokens ++ [Token.endOfInput sated.utf8ByteSize]) := by decide +kernel
  have apart : ∀ t, satedTokens.getLast? = some t → Apart sated t "*<*>" := by
    rintro t last d _
    cases last
    rintro ⟨before, opening, text, start, _⟩
    have whole : sated.toList = ['x', ' '] ++ "<**é***".toList := by decide +kernel
    rw [List.append_assoc, whole] at text
    have covered := (sameDivision text start).2
    have lengths : 7 = 6 := congrArg List.length covered
    contradiction
  exact ⟨scanned, apart, tokensJoined scanned apart⟩

end Concatenation
end Busbind
