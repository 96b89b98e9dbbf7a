import Busbind.Proofs.PushbackReader

/-! The header is read with one slot as it is read from the tokens: with the same outcome, the slot
free whenever a token is handed back, and no more left to read than before. -/
namespace Busbind.Pushback
open Header (nextSignificant)

section Clauses
variable {α β : Type} {e : Ending} {ts rest : List Token} {t : Token} {r : Reader} {n : Nat}

theorem demandThen {k : Unit → Reading α} {kind : TokenKind} {x : Expected}
    {g : List Token → Except Rejection (α × List Token)} (stands : Stands e ts r)
    (goes : ∀ rest r', Stands e rest r' → r'.unread ≤ r.unread → Yields e n (k () r') (g rest)) :
    Yields e n ((demand kind x >>= k) r) (Header.demand e kind x ts >>= g) := by
  rw [demand, bind_assoc]
  refine visibleThen stands (fun q next => by rw [Header.demand, next]; rfl) ?_
  intro t rest r' next taken less
  rw [Header.demand, next]
  by_cases same : t.kind = kind
  · simp only [if_pos same]
    exact goes rest r' (takenStands taken) (by omega)
  · simp only [if_neg same]
    exact rfl

theorem demandIdentifierYields {x : Expected} (stands : Stands e ts r) :
    Yields e r.unread (demandIdentifier x r) (Header.demandIdentifier e x ts) := by
  refine visibleThen stands (fun q next => by rw [Header.demandIdentifier, next]) ?_
  intro t rest r' next taken less
  rw [Header.demandIdentifier, next]
  by_cases identifier : t.kind = .identifier
  · simp only [if_pos identifier]
    exact ⟨rest, rfl, takenStands taken, by omega⟩
  · simp only [if_neg identifier]
    exact rfl

theorem quotedRoundsYield {q : Punctuation} (text : String) {p : Nat} {cs : List Char}
    (scan : Scan.fromPosition p cs = ⟨ts, e⟩) :
    Yields e (byteLength cs) (rounds (quotedRound q) text ⟨p, cs, none⟩)
      ((Header.quoted e q ts).map fun x => (text ++ x.1, x.2)) := by
  induction ts generalizing p cs text with
  | nil =>
    refine endsRounds (nextThen scan (fun x read => by rw [Header.quoted, read]; rfl) ?_)
    intro t rest r read taken less
    obtain ⟨none', _⟩ | ⟨_, rfl, rfl, _, rfl⟩ := taken.token
    · contradiction
    · have kind : (Token.endOfInput r.position).kind = .endOfInput := rfl
      rw [kind, if_neg (by simp), if_pos rfl]
      have last : Taken (.complete r.position) (trimmed []) (Token.endOfInput r.position) [] r := taken
      refine handBackThen last fun r' stands weighs => ?_
      exact ⟨[], by simp [Header.quoted, read, Except.map], stands, by omega⟩
  | cons u us ih =>
    refine endsRounds (nextThen scan (fun x read => by contradiction) ?_)
    rintro _ _ ⟨p', ds, slot⟩ ⟨⟩ taken less
    cases taken.free
    obtain ⟨_, weighs, more⟩ | ⟨none', _⟩ := taken.token
    case inr => contradiction
    have shorter : byteLength ds + u.span.length ≤ byteLength cs := less
    rw [Header.quoted]
    by_cases closes : u.kind = .punctuation q
    · rw [if_pos closes, if_pos closes]
      exact ⟨us, by simp [Except.map], takenStands taken, show byteLength ds ≤ _ by omega⟩
    · rw [if_neg closes, if_neg more, if_neg closes]
      refine ⟨show byteLength ds < byteLength cs by omega, ?_⟩
      have joined : ((Header.quoted e q us).map fun x => (u.literal ++ x.1, x.2)).map
          (fun x => (text ++ x.1, x.2)) =
            (Header.quoted e q us).map fun x => (text ++ u.literal ++ x.1, x.2) := by
        cases Header.quoted e q us <;> simp [Except.map, String.append_assoc]
      rw [joined]
      exact yieldsMono (ih _ taken.scan) (by omega)

theorem quotedYields {q : Punctuation} {m : Nat} (taken : Taken e ts t rest r) (le : r.unread ≤ m) :
    Yields e m (quoted q r) (Header.quoted e q rest) := by
  obtain ⟨p, cs, slot⟩ := r
  cases taken.free
  have yields := quotedRoundsYield (q := q) "" taken.scan
  refine yieldsMono ?_ le
  have same : (Header.quoted e q rest).map (fun x => ("" ++ x.1, x.2)) = Header.quoted e q rest := by
    cases Header.quoted e q rest <;> simp [Except.map]
  rwa [same] at yields

theorem namedSourceYields (stands : Stands e ts r) :
    Yields e r.unread (namedSource r) (Header.namedSource e ts) := by
  refine visibleThen stands (fun q next => by rw [Header.namedSource, next]) ?_
  intro t rest r₁ next taken less
  rw [Header.namedSource, next]
  dsimp only
  cases Header.quoteOf? t with
  | some q => exact quotedYields taken (by omega)
  | none =>
    by_cases identifier : t.kind = .identifier
    · simp only [if_pos identifier]
      exact ⟨rest, rfl, takenStands taken, by omega⟩
    · simp only [if_neg identifier]
      exact handBackThen taken fun r₂ stands weighs => ⟨ts, rfl, stands, by omega⟩

theorem sourceYields (next : nextSignificant e ts = .ok (t, rest))
    (taken : Taken e (trimmed ts) t rest r) (less : r.unread + t.span.length ≤ n) :
    Yields e n (source t r) (Header.source e ts) := by
  rw [source, Header.source, next]
  by_cases word : (decide (t.kind = .identifier) && t.literal == "from") = true
  · simp only [if_pos word]
    exact yieldsMono (namedSourceYields (takenStands taken)) (by omega)
  · simp only [if_neg word]
    cases Header.quoteOf? t with
    | some q => exact quotedYields taken (by omega)
    | none => exact handBackThen taken fun r' stands weighs => ⟨ts, rfl, stands, by omega⟩

theorem importClauseYields (stands : Stands e ts r) :
    Yields e r.unread (importClause r) (Header.importClause e ts) := by
  refine yieldsBind (demandIdentifierYields stands) fun path ts r₁ _ stands less => ?_
  dsimp only
  refine visibleThen stands (fun q next => by rw [Header.wildcard, next]; rfl) ?_
  intro t rest r₂ next taken less'
  rw [Header.wildcard, next]
  by_cases star : t.kind = .punctuation .asterisk
  · simp only [if_pos star]
    refine visibleThen (takenStands taken) (fun q next => ?_) ?_
    · change (Header.source e rest >>= _) = _
      rw [Header.source, next]
      rfl
    · intro u after r₃ next taken less''
      refine yieldsBind (sourceYields next taken less'') fun from' ts r₄ _ stands less => ?_
      exact ⟨ts, rfl, stands, by omega⟩
  · simp only [if_neg star]
    refine yieldsBind (sourceYields next taken less') fun from' ts r₄ _ stands less => ?_
    exact ⟨ts, rfl, stands, by omega⟩

theorem importsYields (stands : Stands e ts r) (is : List Import) :
    Yields e r.unread (rounds importsRound is r)
      ((Header.imports e ts).map fun x => (is ++ x.1, x.2)) := by
  induction size : ts.length using Nat.strongRecOn generalizing ts r is with
  | ind m ih =>
    subst size
    refine endsRounds (eatThen stands nofun (fun q next => ?_) ?_ ?_)
    · rw [Header.importsEq, next]
      rfl
    · intro t rest r₁ next keyword stands less
      rw [Header.importsEq, next]
      simp only [if_pos keyword]
      refine endsBind (importClauseYields stands) (fun q fails => by rw [fails]; rfl) ?_
      rintro i r₂ ⟨after, read, stands, less'⟩
      have shorter := Header.importClauseShortens read
      have used := (Header.nextSignificantShortens next).2 (by rw [keyword]; nofun)
      have listed : ((Header.imports e after).map fun x => (i :: x.1, x.2)).map
          (fun x => (is ++ x.1, x.2)) =
            (Header.imports e after).map fun x => (is ++ [i] ++ x.1, x.2) := by
        cases Header.imports e after <;> simp [Except.map]
      refine ⟨by omega, ?_⟩
      rw [read]
      dsimp only
      rw [listed]
      exact yieldsMono (ih after.length (by omega) stands (is ++ [i]) rfl) (by omega)
    · intro t rest r₁ next other stands less
      rw [Header.importsEq, next]
      simp only [if_neg other]
      exact ⟨ts, by simp [Except.map], stands, less⟩

theorem packageClauseYields (stands : Stands e ts r) :
    Yields e r.unread (packageClause r) (Header.packageClause e ts) := by
  refine demandThen stands fun ts r₁ stands less => ?_
  refine yieldsBind (demandIdentifierYields stands) fun name ts r₂ _ stands less' => ?_
  have listed : (Header.imports e ts).map (fun x => ([] ++ x.1, x.2)) = Header.imports e ts := by
    cases Header.imports e ts <;> rfl
  have imports := importsYields stands []
  rw [listed] at imports
  refine yieldsBind imports fun is ts r₃ _ stands less'' => ?_
  exact ⟨ts, rfl, stands, by omega⟩

theorem versionNumberYields {f : VersionField} (stands : Stands e ts r) :
    Yields e r.unread (versionNumber f r) (Header.versionNumber e f ts) := by
  refine visibleThen stands (fun q next => by rw [Header.versionNumber, next]) ?_
  intro t rest r' next taken less
  rw [Header.versionNumber, next]
  dsimp only
  cases VersionNumber.ofText t.literal with
  | ok v => exact ⟨rest, rfl, takenStands taken, by omega⟩
  | error fault => exact rfl

theorem entryPart {k : TokenKind} {f : VersionField} (h : Header.entryField? k = some f) :
    k ≠ .endOfInput := by
  rintro rfl
  contradiction

theorem versionEntriesYields (stands : Stands e ts r) (major minor : UInt32) :
    Yields e r.unread (rounds entryRound (major, minor) r)
      (Header.versionEntries e major minor ts) := by
  induction size : ts.length using Nat.strongRecOn generalizing ts r major minor with
  | ind m ih =>
    subst size
    refine endsRounds (visibleThen stands (fun q next => by rw [Header.versionEntriesEq, next]) ?_)
    intro t rest r₁ next taken less
    rw [Header.versionEntriesEq, next]
    dsimp only
    cases entry : Header.entryField? t.kind with
    | none =>
      dsimp only
      by_cases closes : t.kind = .punctuation .rightBrace
      · rw [if_pos closes, if_pos closes]
        exact ⟨rest, rfl, takenStands taken, by omega⟩
      · rw [if_neg closes, if_neg closes]
        exact rfl
    | some f =>
      have used := (Header.nextSignificantShortens next).2 (entryPart entry)
      have weighs := takenWeighs taken (entryPart entry)
      have goes {major minor : UInt32} {after : List Token} {r₂ : Reader} {n : UInt32}
          (read : Header.versionNumber e f rest = .ok (n, after)) (stands : Stands e after r₂)
          (less' : r₂.unread ≤ r₁.unread) :
          r₂.unread < r.unread ∧ Yields e r.unread (rounds entryRound (major, minor) r₂)
            (Header.versionEntries e major minor after) := by
        have shorter := Header.versionNumberShortens read
        have later := ih after.length (by omega) stands major minor rfl
        exact ⟨by omega, yieldsMono later (by omega)⟩
      cases f with
      | major | minor =>
        refine endsBind (versionNumberYields (takenStands taken)) (fun q fails => ?_) ?_
        · dsimp only
          rw [fails]
        · rintro n r₂ ⟨after, read, stands, less'⟩
          dsimp only
          rw [read]
          exact goes read stands less'

theorem versionBlockYields (stands : Stands e ts r) :
    Yields e r.unread (versionBlock r) (Header.versionBlock e ts) := by
  refine eatThen stands nofun (fun q next => by rw [Header.versionBlock, next]) ?_ ?_
  · intro t rest r₁ next keyword stands less
    rw [Header.versionBlock, next]
    simp only [if_pos keyword]
    refine demandThen stands fun after r₂ stands less' => ?_
    exact yieldsMono (versionEntriesYields stands 0 0) (by omega)
  · intro t rest r₁ next other stands less
    rw [Header.versionBlock, next]
    simp only [if_neg other]
    exact ⟨ts, rfl, stands, less⟩

theorem interfaceFromYields {description : Option String}
    (next : nextSignificant e ts = .ok (t, rest)) (taken : Taken e (trimmed ts) t rest r)
    (less : r.unread + t.span.length ≤ n) :
    Yields e n (interfaceFrom (description, t) r) (do
      let ts ← Header.demand e (.keyword .interface) .interface ts
      let (name, ts) ← Header.demandIdentifier e .interfaceName ts
      let ts ← Header.demand e (.punctuation .leftBrace) .interfaceBody ts
      let ((major, minor), ts) ← Header.versionBlock e ts
      .ok (⟨name, description, major, minor⟩, ts)) := by
  rw [interfaceFrom, Header.demand, next]
  by_cases keyword : t.kind = .keyword .interface
  · simp only [if_pos keyword]
    refine yieldsBind (demandIdentifierYields (takenStands taken)) ?_
    intro name ts r₁ _ stands less'
    refine demandThen stands fun ts r₂ stands less'' => ?_
    refine yieldsBind (versionBlockYields stands) fun v ts r₃ _ stands last => ?_
    exact ⟨ts, rfl, stands, by omega⟩
  · simp only [if_neg keyword]
    exact rfl

theorem interfaceClauseYields (stands : Stands e ts r) :
    Yields e r.unread (interfaceClause r) (Header.interfaceClause e ts) := by
  rw [Header.interfaceClause, Header.description]
  refine visibleThen stands (fun q next => by rw [next]; rfl) ?_
  intro t rest r₁ next taken less
  rw [next]
  dsimp only
  refine documentedThen (fun plain => ?_) fun described => ?_
  · rw [if_neg plain]
    exact interfaceFromYields next taken less
  · rw [if_pos described]
    refine visibleThen (takenStands taken) (fun q next => ?_) ?_
    · change (Header.demand e _ _ rest >>= _) = _
      rw [Header.demand, next]
      rfl
    · intro u after r₂ next taken less'
      exact interfaceFromYields next taken (by omega)

end Clauses

end Busbind.Pushback
