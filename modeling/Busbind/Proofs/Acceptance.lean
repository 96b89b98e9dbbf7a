import Busbind.Grammar
import Busbind.Proofs.HeaderComplete
import Busbind.Proofs.HeaderSound
import Busbind.Proofs.Pieces
import Busbind.Proofs.Provenance

/-! Which texts are definitions: those that scan to their end and begin with a header. Nothing
after the header is refused, and a text that does not scan to its end is refused no later than
where its scan stops. -/
namespace Busbind.Acceptance
open HeaderGrammar Outcome Provenance Piece

section Ends
variable {ts : List Token} {last : Token}

theorem blockWithoutEnd {block rest : List Token} (ends : last.kind = .endOfInput)
    (complete : VersionBlock block) (split : ts ++ [last] = block ++ rest) :
    ∃ less, ts = block ++ less := by
  rcases List.eq_nil_or_concat' rest with rfl | ⟨less, x, rfl⟩
  · cases complete with
    | @block v opening closing entries _ _ _ closes =>
      have parts : ts ++ [last] = (v :: opening :: entries) ++ [closing] := by
        rw [split]
        simp
      obtain ⟨_, same⟩ := List.append_inj' parts rfl
      cases same
      rw [closes] at ends
      contradiction
  · rw [← List.append_assoc] at split
    exact ⟨less, (List.append_inj' split rfl).1⟩

theorem versionedWithoutEnd (ends : last.kind = .endOfInput) (h : Versioned (ts ++ [last])) :
    Versioned ts := by
  intro t head keyword
  have front : (ts ++ [last]).head? = some t := by rw [List.head?_append, head]; rfl
  obtain ⟨block, rest, split, complete⟩ := h t front keyword
  obtain ⟨less, same⟩ := blockWithoutEnd ends complete split
  exact ⟨block, less, same, complete⟩

theorem versionedWithEnd (ends : last.kind = .endOfInput) (h : Versioned ts) :
    Versioned (ts ++ [last]) := by
  intro t head keyword
  cases ts with
  | nil =>
    cases head
    rw [ends] at keyword
    contradiction
  | cons u ts =>
    obtain ⟨block, rest, split, complete⟩ := h t head keyword
    exact ⟨block, rest ++ [last], by rw [split, List.append_assoc], complete⟩

theorem headerWithoutEnd (ends : last.kind = .endOfInput) :
    HeaderBegins (ts ++ [last]) ↔ HeaderBegins ts := by
  constructor
  · intro h
    generalize split : ts ++ [last] = all at h
    obtain @⟨p, name, listed, _, keyword, identifier, imports, interface⟩ := h
    obtain @⟨documented, rest, i, name', opening, optional, keyword', identifier', opens, version⟩ :=
      interface
    rcases List.eq_nil_or_concat' rest with rfl | ⟨less, x, rfl⟩
    · have parts : ts ++ [last] =
          (p :: name :: (listed ++ (documented ++ [i, name']))) ++ [opening] := by
        rw [split]
        simp
      obtain ⟨_, same⟩ := List.append_inj' parts rfl
      cases same
      rw [opens] at ends
      contradiction
    · have parts : ts ++ [last] =
          (p :: name :: (listed ++ (documented ++ i :: name' :: opening :: less))) ++ [x] := by
        rw [split]
        simp
      obtain ⟨rfl, same⟩ := List.append_inj' parts rfl
      cases same
      exact .clauses keyword identifier imports
        (.clause optional keyword' identifier' opens (versionedWithoutEnd ends version))
  · intro h
    obtain @⟨p, name, listed, _, keyword, identifier, imports, interface⟩ := h
    obtain @⟨documented, rest, i, name', opening, optional, keyword', identifier', opens, version⟩ :=
      interface
    have parts : (p :: name :: (listed ++ (documented ++ i :: name' :: opening :: rest))) ++ [last] =
        p :: name :: (listed ++ (documented ++ i :: name' :: opening :: (rest ++ [last]))) := by
      simp
    rw [parts]
    exact .clauses keyword identifier imports
      (.clause optional keyword' identifier' opens (versionedWithEnd ends version))

end Ends

theorem significantTokens (ts : List Token) (p : Nat) :
    significant (ts ++ [Token.endOfInput p]) = significant ts ++ [Token.endOfInput p] := by
  simp [significant, Token.isSignificant, Token.endOfInput]

theorem ofScanComplete {ts : List Token} {p : Nat} :
    (∃ d, Definition.ofScan ⟨ts, .complete p⟩ = .ok d) ↔ HeaderBegins (significant ts) := by
  constructor
  · rintro ⟨d, h⟩
    obtain ⟨⟨c, rest⟩, read, _⟩ := bindOk h
    exact clausesSound read
  · intro begins
    obtain ⟨c, rest, read⟩ := clausesComplete (p := p) begins
    exact ⟨_, by rw [Definition.ofScan, read]; rfl⟩

theorem refusedReported {ts : List Token} {e : Ending} {r : Rejection}
    (refused : Definition.ofScan ⟨ts, e⟩ = .error r) : Reported e ts r := by
  have honest : Honest Prod.snd e ts (Header.clauses e ts) := clausesHonest
  unfold Definition.ofScan at refused
  cases read : Header.clauses e ts with
  | error r' =>
    rw [read] at refused
    cases refused
    exact honestFails honest read
  | ok c =>
    rw [read] at refused
    cases e with
    | complete p => contradiction
    | unclosed s =>
      cases refused
      exact .unclosed rfl

theorem ofScanUnclosed {ts : List Token} {s : Span}
    (before : ∀ t ∈ ts, t.span.start ≤ t.span.stop ∧ t.span.stop ≤ s.start) :
    ∃ r, Definition.ofScan ⟨ts, .unclosed s⟩ = .error r ∧ (r = .unclosedDescription s ∨
      ((∃ x t, r = .unexpected x t) ∨ ∃ f t fault, r = .invalidNumber f t fault) ∧
        ∃ place, r.span = some place ∧ place.stop ≤ s.start) := by
  have earlier : ∀ t, Met (.unclosed s) ts t → t.span.ordered.stop ≤ s.start := by
    rintro t (mem | ⟨p, none, _⟩)
    · have mem := List.mem_of_mem_filter mem
      rw [Span.orderedOfLe (before t mem).1]
      exact (before t mem).2
    · contradiction
  obtain ⟨r, refused⟩ : ∃ r, Definition.ofScan ⟨ts, .unclosed s⟩ = .error r := by
    cases read : Header.clauses (.unclosed s) ts <;>
      exact ⟨_, by rw [Definition.ofScan, read]; rfl⟩
  refine ⟨r, refused, ?_⟩
  cases refusedReported refused with
  | @unexpected x t met => exact .inr ⟨.inl ⟨x, t, rfl⟩, _, rfl, earlier t met⟩
  | @invalidNumber f t fault met => exact .inr ⟨.inr ⟨f, t, fault, rfl⟩, _, rfl, earlier t met⟩
  | unclosed ends => cases ends; exact .inl rfl

theorem acceptedIffHeader (source : String) :
    ((∃ d, Definition.ofText source = .ok d) ↔
      ∃ tokens, (Scan.ofText source).tokens? = .ok tokens ∧
        HeaderBegins (tokens.filter Token.isSignificant)) ∧
    ∀ r, (Scan.ofText source).tokens? = .error r → ∃ s, r = .unclosedDescription s ∧
      ∃ r', Definition.ofText source = .error r' ∧ (r' = r ∨
        ((∃ x t, r' = .unexpected x t) ∨ ∃ f t fault, r' = .invalidNumber f t fault) ∧
          ∃ place, r'.span = some place ∧ place.stop ≤ s.start) := by
  rcases scanCases source with ⟨ps, _, scan⟩ | ⟨ps, d, ds, _, _, scan⟩
  · refine ⟨?_, fun r failed => by rw [scan] at failed; contradiction⟩
    rw [Definition.ofText, scan, ofScanComplete]
    constructor
    · intro begins
      refine ⟨_, rfl, ?_⟩
      change HeaderBegins (significant _)
      rw [significantTokens]
      exact (headerWithoutEnd rfl).2 begins
    · rintro ⟨tokens, same, begins⟩
      cases same
      change HeaderBegins (significant _) at begins
      rw [significantTokens] at begins
      exact (headerWithoutEnd rfl).1 begins
  · have before : ∀ t ∈ place 0 ps, t.span.start ≤ t.span.stop ∧
        t.span.stop ≤ byteLength (Piece.text ps) := by
      intro t mem
      have within := placedWithin mem
      omega
    obtain ⟨r', refused, cause⟩ := ofScanUnclosed (s := ⟨_, byteLength source.toList⟩) before
    refine ⟨⟨fun ⟨d, h⟩ => ?_, fun ⟨tokens, h, _⟩ => ?_⟩, ?_⟩
    · rw [Definition.ofText, scan, refused] at h
      contradiction
    · rw [scan] at h
      contradiction
    · intro r failed
      rw [scan] at failed
      cases failed
      exact ⟨_, rfl, r', by rw [Definition.ofText, scan, refused], cause⟩

end Busbind.Acceptance
