import Busbind.Proofs.Locality
import Busbind.Proofs.Pointing
import Busbind.Proofs.SpacedText
import Busbind.Proofs.Viability

/-! A rejection of the grammar names the first token that cannot be right. Every text with the same
tokens up to this one is refused in the same way, and what stands before it can be continued to a
definition. -/
namespace Busbind.FirstFault
open Header HeaderGrammar Fronts Viability Munch Piece Unplaced Provenance Tiling Locality
open Canonical hiding text
open Pointing (yielded)

structure Earliest (source : String) (r : Rejection) (t : Token) (k : Nat) : Prop where
  settled : ∀ source', (yielded source').take (k + 1) = (yielded source).take (k + 1) →
    Definition.ofText source' = .error r
  viable : ∃ before covered after, Occupies source t.span before covered after ∧
    ∃ more d, Definition.ofText (String.ofList (before ++ more)) = .ok d

theorem scansWords {cs rest : List Char} {ps : List Piece} (cuts : Cuts cs ps rest)
    {own : List Word} (proper : ∀ w ∈ own, w.Proper) :
    Scans (text ps ++ spaced own) (significant (ps.map unplacedPiece) ++ visible own) := by
  have alone := cutsBefore cuts List.nil_prefix
  rw [List.append_nil] at alone
  exact scansCuts alone (spacedApart own ▸ gapTexts _) (scansSpaced proper)

theorem tokensUnplaced (w : Word) : left w.tokens = w.tokens := by
  cases w with
  | quoted q s => simp [Word.tokens, left, Function.comp_def]
  | _ => rfl

theorem spreadUnplaced (ws : List Word) : left (spread ws) = spread ws := by
  induction ws with
  | nil => rfl
  | cons w ws ih =>
    have split : spread (w :: ws) = blank :: (w.tokens ++ spread ws) := rfl
    have apart : left (w.tokens ++ spread ws) = left w.tokens ++ left (spread ws) := List.map_append
    rw [split, leftCons, apart, tokensUnplaced, ih]
    rfl

theorem viableText {cs rest : List Char} {ps : List Piece} {p : Nat} (cuts : Cuts cs ps rest)
    (complete : Completes HeaderBegins (place p ps)) :
    ∃ more d, Definition.ofText (String.ofList (text ps ++ more)) = .ok d := by
  obtain ⟨own, proper, begins⟩ := complete
  obtain ⟨qs, cuts', tokens⟩ := scansWords cuts proper
  -- Where the tokens stand makes no difference to whether they are a header.
  have placed : significant (place p ps ++ spread own) = significant (place p ps) ++ visible own := by
    rw [significantAppend, significant, significant, spreadVisible]
  rw [← placed] at begins
  obtain ⟨d, read⟩ := (Acceptance.ofScanComplete (p := 0)).2 begins
  have unplaced := ofScanUnplaced 0 (place p ps ++ spread own)
  have apart : left (place p ps ++ spread own) = ps.map unplacedPiece ++ spread own := by
    rw [left, List.map_append, ← left, ← left, leftPlace, spreadUnplaced]
  rw [read, apart] at unplaced
  have begins' := (Acceptance.ofScanComplete (p := 0)).1 ⟨_, unplaced⟩
  have same : significant (ps.map unplacedPiece ++ spread own) = significant (qs.map unplacedPiece) := by
    rw [significantAppend, significant, significant, spreadVisible, significant, tokens]
    rfl
  rw [same] at begins'
  obtain ⟨d', read'⟩ := (Acceptance.ofScanComplete (p := 0)).2 begins'
  refine ⟨spaced own, d', Canonical.ofTextCuts ?_ read'⟩
  rwa [String.toList_ofList]

section Yielded
variable {source : String} {ts us ws : List Token} {e : Ending} {t : Token}

def last : Ending → List Token
  | .complete p => [Token.endOfInput p]
  | .unclosed _ => []

theorem yieldedScan (scan : Scan.ofText source = ⟨ts, e⟩) : yielded source = ts ++ last e := by
  rw [yielded, scan]
  cases e with
  | complete p => rfl
  | unclosed s => exact (List.append_nil _).symm

theorem lastKind (mem : t ∈ last e) : t.kind = .endOfInput := by
  cases e with
  | complete p =>
    obtain rfl := List.mem_singleton.1 mem
    rfl
  | unclosed s => contradiction

theorem splitToken (split : ts ++ last e = us ++ t :: ws) (kind : t.kind ≠ .endOfInput) :
    ∃ vs, ts = us ++ t :: vs := by
  rcases List.append_eq_append_iff.1 split with ⟨more, rfl, tail⟩ | ⟨more, rfl, tail⟩
  · have mem : t ∈ last e := by rw [tail]; simp
    exact absurd (lastKind mem) kind
  · cases more with
    | nil =>
      have mem : t ∈ last e := by rw [List.nil_append] at tail; rw [← tail]; simp
      exact absurd (lastKind mem) kind
    | cons u more =>
      obtain ⟨rfl, _⟩ := List.cons.inj tail
      exact ⟨more, rfl⟩

theorem splitEnd (split : ts ++ last e = us ++ t :: ws) (kind : t.kind = .endOfInput)
    (tokens : ∀ u ∈ ts, u.kind ≠ .endOfInput) :
    us = ts ∧ ∃ p, e = .complete p ∧ t = Token.endOfInput p := by
  have front {more : List Token} (tail : last e = more ++ t :: ws) :
      more = [] ∧ ∃ p, e = .complete p ∧ t = Token.endOfInput p := by
    cases e with
    | unclosed s => simp [last] at tail
    | complete p =>
      cases more with
      | nil =>
        cases tail
        exact ⟨rfl, p, rfl, rfl⟩
      | cons u more => simp [last] at tail
  rcases List.append_eq_append_iff.1 split with ⟨more, rfl, tail⟩ | ⟨more, rfl, tail⟩
  · obtain ⟨rfl, ends⟩ := front tail
    exact ⟨List.append_nil _, ends⟩
  · cases more with
    | nil =>
      obtain ⟨_, ends⟩ : [] = [] ∧ _ := front tail.symm
      exact ⟨(List.append_nil _).symm, ends⟩
    | cons u more =>
      obtain ⟨rfl, _⟩ := List.cons.inj tail
      exact absurd kind (tokens t (by simp))

theorem scannedKinds (scan : Scan.ofText source = ⟨ts, e⟩) : ∀ u ∈ ts, u.kind ≠ .endOfInput := by
  have placed {ps : List Piece} {rest : List Char} (cuts : Cuts source.toList ps rest) :
      ∀ u ∈ place 0 ps, u.kind ≠ .endOfInput := by
    intro u mem kind
    obtain ⟨_, _, _, _, _, forms⟩ := placedMunched [] cuts rfl u mem
    rw [kind] at forms
    exact forms
  rcases scanCases source with ⟨ps, cuts, scan'⟩ | ⟨ps, d, ds, cuts, _, scan'⟩
  · cases scan.symm.trans scan'
    exact placed cuts
  · cases scan.symm.trans scan'
    exact placed cuts

theorem splitAlike {xs ys : List Token} {k : Nat} (found : xs[k]? = some t)
    (alike : ys.take (k + 1) = xs.take (k + 1)) : ∃ vs, ys = xs.take k ++ t :: vs := by
  have front : xs.take (k + 1) = xs.take k ++ [t] := by
    rw [List.take_add_one, found, Option.toList_some]
  refine ⟨ys.drop (k + 1), ?_⟩
  rw [← List.singleton_append, ← List.append_assoc, ← front, ← alike, List.take_append_drop]

end Yielded

section Rejected
variable {source : String} {ts us vs : List Token} {e : Ending} {r : Rejection} {t : Token} {k : Nat}

theorem refusedHeader (blames : Blames r t) (refused : Definition.ofScan ⟨ts, e⟩ = .error r) :
    clauses e ts = .error r := by
  rcases Outcome.bindError refused with header | ⟨c, _, refused⟩
  · exact header
  · cases e with
    | complete p => contradiction
    | unclosed s =>
      cases refused
      contradiction

theorem headerRefused (h : clauses e ts = .error r) : Definition.ofScan ⟨ts, e⟩ = .error r := by
  rw [Definition.ofScan, h]
  rfl

theorem placedOnce {cs rest : List Char} {qs rs : List Piece} {x : Piece}
    (cuts : Cuts cs (qs ++ x :: rs) rest) :
    placed (0 + byteLength (text qs)) x ∉ place 0 qs ∧
      placed (0 + byteLength (text qs)) x ∉
        place (0 + byteLength (text qs) + byteLength x.covered) rs := by
  have some : 0 < byteLength x.covered := by
    obtain ⟨mid, _, later⟩ := cutsParted cuts
    cases later with
    | cons first _ => exact byteLengthPositive (Lexeme.cutTiles first).2
  refine ⟨fun mem => ?_, fun mem => ?_⟩
  · have within := placedWithin mem
    simp only [placed] at within
    omega
  · have within := placedWithin mem
    simp only [placed] at within
    omega

theorem scanned (source : String) : ∃ ps rest e, Cuts source.toList ps rest ∧
    Scan.ofText source = ⟨place 0 ps, e⟩ ∧ ∀ p, e = .complete p →
      rest = [] ∧ p = byteLength source.toList := by
  rcases scanCases source with ⟨ps, cuts, scan⟩ | ⟨ps, d, ds, cuts, _, scan⟩
  · exact ⟨ps, [], _, cuts, scan, fun p same => ⟨rfl, by cases same; rfl⟩⟩
  · exact ⟨ps, d :: ds, _, cuts, scan, nofun⟩

theorem earliestToken {ps : List Piece} {rest : List Char} (cuts : Cuts source.toList ps rest)
    (scan : Scan.ofText source = ⟨place 0 ps, e⟩) (header : clauses e (place 0 ps) = .error r)
    (blames : Blames r t) (kind : t.kind ≠ .endOfInput) (found : (yielded source)[k]? = some t) :
    Earliest source r t k := by
  have alike source' (same : (yielded source').take (k + 1) = (yielded source).take (k + 1)) :=
    splitAlike found same
  obtain ⟨ws, split⟩ := alike source rfl
  generalize (yielded source).take k = us at alike split
  rw [yieldedScan scan] at split
  obtain ⟨vs, split⟩ := splitToken split kind
  obtain ⟨qs, x, rs, rfl, rfl, rfl, rfl⟩ := placeSplitAt split
  obtain ⟨before, behind⟩ := placedOnce cuts
  rw [split] at header
  constructor
  · intro source' same
    obtain ⟨ws', split'⟩ := alike source' same
    obtain ⟨ts', e', scan'⟩ : ∃ ts' e', Scan.ofText source' = ⟨ts', e'⟩ := ⟨_, _, rfl⟩
    rw [yieldedScan scan'] at split'
    obtain ⟨vs', rfl⟩ := splitToken split' kind
    -- The front with the token settles the outcome of both texts.
    have other : ¬Met e _ _ := not_or.2
      ⟨fun mem => behind (List.mem_of_mem_filter mem), fun ⟨p, _, ended⟩ => kind (by rw [ended]; rfl)⟩
    rw [List.append_cons] at header scan'
    have settled := refusedWithin (s := ⟨0, 0⟩) blames other header
    rw [Definition.ofText, scan']
    exact headerRefused (refusedFurther blames settled)
  · have whole := cutsText cuts
    obtain ⟨mid, front, _⟩ := cutsParted cuts
    have awaits := refusedBeyond (s := ⟨0, 0⟩) blames before header
    refine ⟨text qs, x.covered, text rs ++ rest, ⟨?_, ?_, ?_⟩, ?_⟩
    · rw [whole, textAppend, textCons]
      simp
    · exact Nat.zero_add _
    · rw [byteLengthAppend]
      simp [placed]
    · exact viableText front (clausesCompletes awaits)

theorem earliestEnd {ps : List Piece} {p : Nat} (cuts : Cuts source.toList ps [])
    (scan : Scan.ofText source = ⟨place 0 ps, .complete p⟩) (total : p = byteLength source.toList)
    (header : clauses (.complete p) (place 0 ps) = .error r) (blames : Blames r (Token.endOfInput p))
    (found : (yielded source)[k]? = some (Token.endOfInput p)) :
    Earliest source r (Token.endOfInput p) k := by
  have alike source' (same : (yielded source').take (k + 1) = (yielded source).take (k + 1)) :=
    splitAlike found same
  obtain ⟨ws, split⟩ := alike source rfl
  have kinds := scannedKinds scan
  generalize (yielded source).take k = us at alike split
  rw [yieldedScan scan] at split
  obtain ⟨rfl, _⟩ := splitEnd split rfl kinds
  constructor
  · intro source' same
    obtain ⟨ws', split'⟩ := alike source' same
    obtain ⟨ts', e', scan'⟩ : ∃ ts' e', Scan.ofText source' = ⟨ts', e'⟩ := ⟨_, _, rfl⟩
    rw [yieldedScan scan'] at split'
    obtain ⟨rfl, p', rfl, ended⟩ := splitEnd split' rfl (scannedKinds scan')
    cases ended
    rw [Definition.ofText, scan']
    exact headerRefused header
  · have whole := cutsText cuts
    have other : Token.endOfInput p ∉ place 0 ps := fun mem => kinds _ mem rfl
    rw [← List.append_nil (place 0 ps)] at header
    have awaits := refusedBeyond (s := ⟨0, 0⟩) blames other header
    refine ⟨text ps, [], [], ⟨?_, ?_, ?_⟩, viableText cuts (clausesCompletes awaits)⟩
    · rw [whole, List.append_nil, List.append_nil]
    · rw [Token.endOfInput, total, whole, List.append_nil]
    · rw [Token.endOfInput, total, whole]

/-- Every rejection of the grammar names the first token of the text that cannot be right. -/
theorem refusedEarliest (refused : Definition.ofText source = .error r) (blames : Blames r t) :
    (∃ k : Nat, (yielded source)[k]? = some t) ∧
      ∀ k : Nat, (yielded source)[k]? = some t → Earliest source r t k := by
  obtain ⟨ps, rest, e, cuts, scan, complete⟩ := scanned source
  rw [Definition.ofText, scan] at refused
  have header := refusedHeader blames refused
  have met : Met e (place 0 ps) t := blamedMet blames (honestFails clausesHonest header)
  constructor
  · suffices mem : t ∈ yielded source from List.mem_iff_getElem?.1 mem
    rw [yieldedScan scan]
    rcases met with mem | ⟨p, rfl, rfl⟩
    · exact List.mem_append_left _ (List.mem_of_mem_filter mem)
    · exact List.mem_concat_self
  · intro k found
    rcases met with mem | ⟨p, rfl, rfl⟩
    · have kind := scannedKinds scan t (List.mem_of_mem_filter mem)
      exact earliestToken cuts scan header blames kind found
    · obtain ⟨rfl, total⟩ := complete p rfl
      exact earliestEnd cuts scan total header blames found

end Rejected

def unfinished : String := "package p <* é **"

theorem unfinishedEarliest :
    Definition.ofText unfinished = .error (.unexpected .interface (Token.endOfInput 18)) ∧
      Blames (.unexpected .interface (Token.endOfInput 18)) (Token.endOfInput 18) ∧
      (∃ k : Nat, (yielded unfinished)[k]? = some (Token.endOfInput 18)) ∧
      ∀ k : Nat, (yielded unfinished)[k]? = some (Token.endOfInput 18) →
        Earliest unfinished (.unexpected .interface (Token.endOfInput 18)) (Token.endOfInput 18) k := by
  have refused : Definition.ofText unfinished =
      .error (.unexpected .interface (Token.endOfInput 18)) := by decide +kernel
  exact ⟨refused, .unexpected, refusedEarliest refused .unexpected⟩

end Busbind.FirstFault
