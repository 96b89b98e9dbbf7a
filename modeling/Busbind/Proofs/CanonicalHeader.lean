import Busbind.Proofs.HeaderGrammar
import Busbind.Proofs.Spelling

/-! The header of a canonical text, read back from the tokens of its words. -/
namespace Busbind.Canonical
open Header HeaderGrammar Munch Piece Unplaced

variable {e : Ending}

theorem nextSpread {w : Word} {t : Token} (one : w.tokens = [t]) (visible : t.isSignificant = true)
    (ws : List Word) : nextSignificant e (spread (w :: ws)) = .ok (t, spread ws) := by
  have skipped : blank.isSignificant = false := rfl
  simp [spread, one, nextSignificant, skipped, visible]

theorem keywordSpread (k : Keyword) (x : Expected) (ws : List Word) :
    demand e (.keyword k) x (spread (.keyword k :: ws)) = .ok (spread ws) := by
  rw [demand, nextSpread rfl rfl]
  exact if_pos rfl

theorem markSpread (p : Punctuation) (x : Expected) (ws : List Word) :
    demand e (.punctuation p) x (spread (.mark p :: ws)) = .ok (spread ws) := by
  rw [demand, nextSpread rfl rfl]
  exact if_pos rfl

theorem identifierSpread (s : String) (x : Expected) (ws : List Word) :
    demandIdentifier e x (spread (.identifier s :: ws)) = .ok (s, spread ws) := by
  rw [demandIdentifier, nextSpread rfl rfl]
  exact if_pos rfl

def Follows (ws : List Word) : Prop :=
  ∃ w us, ws = w :: us ∧
    (w = .keyword .imports ∨ w = .keyword .interface ∨ ∃ d, w = .documentation d)

theorem followsNext {ws : List Word} (h : Follows ws) :
    ∃ t rest, nextSignificant e (spread ws) = .ok (t, rest) ∧
      t.kind ≠ .identifier ∧ t.kind ≠ .punctuation .asterisk ∧ quoteOf? t = none := by
  obtain ⟨w, us, rfl, rfl | rfl | ⟨d, rfl⟩⟩ := h
  · exact ⟨_, _, nextSpread rfl rfl us, nofun, nofun, rfl⟩
  · exact ⟨_, _, nextSpread rfl rfl us, nofun, nofun, rfl⟩
  · exact ⟨_, _, nextSpread rfl rfl us, nofun, nofun, rfl⟩

theorem quotedPieces {q : Punctuation} {cs : List Char} {ps : List Piece} (h : Cuts cs ps [])
    (plain : ¬['<', '*'] <:+: cs) (inside : q.char ∉ cs) {closing : Token}
    (closes : closing.kind = .punctuation q) (ts : List Token) :
    quoted e q (ps.map unplacedPiece ++ closing :: ts) = .ok (String.ofList cs, ts) := by
  generalize empty : ([] : List Char) = rest at h
  induction h with
  | nil =>
    subst empty
    exact if_pos closes
  | @cons c cs l ps rest first next ih =>
    obtain ⟨kind, later⟩ := plainFirst first plain
    have tiles := (Lexeme.cutTiles first).1
    have forms := cutForms first
    rw [← tiles, List.mem_append, not_or] at inside
    have whole := formsWhole forms kind
    have other : l.kind ≠ .punctuation q := by
      intro same
      rw [same] at forms
      obtain ⟨_, d, one, _, rfl⟩ := forms
      exact inside.1 (by simp [one])
    have tail := ih later inside.2 empty
    simp only [List.map_cons, List.cons_append, quoted, tail]
    rw [if_neg (show ¬(unplacedPiece l.piece).kind = .punctuation q from other), ← tiles,
      String.ofList_append, ← whole]
    rfl

theorem quotedSpread {q : Punctuation} {s : String} (proper : IsQuotable q s) (ws : List Word) :
    ∃ rest, nextSignificant e (spread (.quoted q s :: ws)) =
        .ok (token (.punctuation q) (String.ofList [q.char]), rest) ∧
      quoted e q rest = .ok (s, spread ws) := by
  obtain ⟨_, inside, plain⟩ := proper
  refine ⟨left (Scan.ofText s).tokens ++
    token (.punctuation q) (String.ofList [q.char]) :: spread ws, ?_, ?_⟩
  · simp [spread, Word.tokens, nextSignificant, blank, token, Token.isSignificant]
  · obtain ⟨ps, n, cuts, scan⟩ := plainScan plain
    rw [scan, leftPlace, quotedPieces cuts plain inside rfl, String.ofList_toList]

theorem wildcardSpread (wild : Bool) {ws : List Word} {t : Token} {rest : List Token}
    (next : nextSignificant e (spread ws) = .ok (t, rest)) (other : t.kind ≠ .punctuation .asterisk) :
    wildcard e (spread ((if wild then [.mark .asterisk] else []) ++ ws)) = .ok (wild, spread ws) := by
  cases wild with
  | false => simp [wildcard, next, other]
  | true =>
    rw [wildcard, if_pos rfl, List.singleton_append, nextSpread rfl rfl]
    exact if_pos rfl

theorem sourceSpread {i : QuotedImport} {ws : List Word} (proper : ∀ w ∈ sourceWords i, w.Proper)
    (next : Follows ws) :
    source e (spread (sourceWords i ++ ws)) = .ok (i.listed.source, spread ws) := by
  by_cases empty : i.listed.source = ""
  · obtain ⟨t, rest, read, noName, _, noQuote⟩ := followsNext (e := e) next
    simp [sourceWords, empty, source, read, noName, noQuote]
  · simp only [sourceWords, if_neg empty] at proper ⊢
    have quotable : IsQuotable i.quote i.listed.source := proper (.quoted _ _) (by simp)
    obtain ⟨rest, read, inside⟩ := quotedSpread (e := e) quotable ws
    have mark : quoteOf? (token (.punctuation i.quote) (String.ofList [i.quote.char])) =
        some i.quote := by
      rcases quotable.1 with sort | sort <;> rw [sort] <;> rfl
    have from' : namedSource e (spread (.quoted i.quote i.listed.source :: ws)) =
        .ok (i.listed.source, spread ws) := by
      simp only [namedSource, read, mark, inside]
    rw [List.cons_append, source, nextSpread rfl rfl]
    exact from'

theorem sourceNext (i : QuotedImport) {ws : List Word} (next : Follows ws) :
    ∃ t rest, nextSignificant e (spread (sourceWords i ++ ws)) = .ok (t, rest) ∧
      t.kind ≠ .punctuation .asterisk := by
  by_cases empty : i.listed.source = ""
  · obtain ⟨t, rest, read, _, other, _⟩ := followsNext (e := e) next
    exact ⟨t, rest, by rw [sourceWords, if_pos empty]; exact read, other⟩
  · have front : sourceWords i ++ ws =
        .identifier "from" :: .quoted i.quote i.listed.source :: ws := by
      simp [sourceWords, empty]
    exact ⟨token .identifier "from", _, by rw [front]; exact nextSpread rfl rfl _, nofun⟩

theorem pathOfBase (i : Import) : (if i.isWildcard then base i ++ "*" else base i) = i.path := by
  by_cases wild : i.isWildcard = true
  · obtain ⟨before, split⟩ := List.getLast?_eq_some_iff.1 (of_decide_eq_true wild)
    simp only [base, if_pos wild, split, List.dropLast_concat]
    rw [← String.ofList_toList (s := i.path), split, String.ofList_append]
  · simp only [base, if_neg wild]

theorem importSpread {i : QuotedImport} {ws : List Word} (proper : ∀ w ∈ importWords i, w.Proper)
    (next : Follows ws) :
    ∃ rest, nextSignificant e (spread (importWords i ++ ws)) =
        .ok (token (.keyword .imports) "import", rest) ∧
      importClause e rest = .ok (i.listed, spread ws) := by
  have quotes w (mem : w ∈ sourceWords i) : w.Proper := proper w (by simp [importWords, mem])
  have source := sourceSpread (e := e) quotes next
  obtain ⟨t, rest, read, other⟩ := sourceNext (e := e) i next
  refine ⟨spread (.identifier (base i.listed) ::
    ((if i.listed.isWildcard then [.mark .asterisk] else []) ++ (sourceWords i ++ ws))), ?_, ?_⟩
  · simp only [importWords, List.append_assoc, List.cons_append, List.nil_append]
    exact nextSpread rfl rfl _
  · simp only [importClause, identifierSpread, wildcardSpread i.listed.isWildcard read other, source,
      pathOfBase, bind, Except.bind]

theorem interfaceFollows (i : InterfaceClause) (ws : List Word) :
    ∃ w us, interfaceWords i ++ ws = w :: us ∧
      (w = .keyword .interface ∨ ∃ d, w = .documentation d) := by
  cases h : i.description with
  | none => exact ⟨_, _, by simp [interfaceWords, h]; rfl, .inl rfl⟩
  | some d => exact ⟨_, _, by simp [interfaceWords, h]; rfl, .inr ⟨d, rfl⟩⟩

theorem importsFollow (is : List QuotedImport) (i : InterfaceClause) (ws : List Word) :
    Follows (is.flatMap importWords ++ (interfaceWords i ++ ws)) := by
  cases is with
  | nil =>
    obtain ⟨w, us, front, kind⟩ := interfaceFollows i ws
    exact ⟨w, us, front, .inr kind⟩
  | cons first is => exact ⟨_, _, by simp [importWords]; rfl, .inl rfl⟩

theorem importsSpread {is : List QuotedImport} {i : InterfaceClause} {ws : List Word}
    (proper : ∀ w ∈ is.flatMap importWords, w.Proper) :
    imports e (spread (is.flatMap importWords ++ (interfaceWords i ++ ws))) =
      .ok (is.map QuotedImport.listed, spread (interfaceWords i ++ ws)) := by
  induction is with
  | nil =>
    obtain ⟨w, us, front, rfl | ⟨d, rfl⟩⟩ := interfaceFollows i ws
    · rw [importsEq, List.flatMap_nil, List.nil_append, front, nextSpread rfl rfl]
      simp
    · rw [importsEq, List.flatMap_nil, List.nil_append, front, nextSpread rfl rfl]
      simp
  | cons first is ih =>
    rw [List.flatMap_cons] at proper ⊢
    obtain ⟨rest, read, clause⟩ := importSpread (e := e)
      (fun w mem => proper w (List.mem_append_left _ mem)) (importsFollow is i ws)
    have later := ih fun w mem => proper w (List.mem_append_right _ mem)
    rw [importsEq, List.append_assoc, read]
    simp only [if_true, clause, later]
    rfl

theorem numberSpread (f : VersionField) (n : UInt32) (ws : List Word) :
    versionNumber e f (spread (.number n :: ws)) = .ok (n, spread ws) := by
  have value : VersionNumber.ofText (toString n.toNat) = .ok n :=
    (VersionNumber.ofTextIff _ _).2 (VersionNumber.writesDecimal n)
  rw [versionNumber, nextSpread rfl rfl]
  simp only [value]

theorem entriesSpread (major minor : UInt32) (ws : List Word) :
    versionEntries e 0 0 (spread (.keyword .major :: .number major :: .keyword .minor ::
      .number minor :: .mark .rightBrace :: ws)) = .ok ((major, minor), spread ws) := by
  rw [versionEntriesRead (f := .major) (v := (0, 0)) (nextSpread rfl rfl _) rfl (numberSpread _ _ _),
    versionEntriesRead (f := .minor) (nextSpread rfl rfl _) rfl (numberSpread _ _ _),
    versionEntriesEnd (nextSpread rfl rfl _) rfl]
  rfl

theorem versionSpread (i : InterfaceClause) (ws : List Word) :
    versionBlock e (spread (versionWords i ++ ws)) = .ok ((i.major, i.minor), spread ws) := by
  rw [versionWords, braces, List.append_assoc, List.singleton_append, versionBlock,
    nextSpread rfl rfl]
  simp only [if_true, List.cons_append, List.nil_append, markSpread, bind, Except.bind,
    entriesSpread]

theorem descriptionSpread (i : InterfaceClause) (ws : List Word) :
    description e (spread (i.description.toList.map Word.documentation ++
      .keyword .interface :: ws)) = .ok (i.description, spread (.keyword .interface :: ws)) := by
  cases i.description with
  | none =>
    rw [description, Option.toList_none, List.map_nil, List.nil_append, nextSpread rfl rfl]
    simp
  | some d =>
    rw [description, Option.toList_some, List.map_singleton, List.singleton_append,
      nextSpread rfl rfl]
    exact if_pos rfl

theorem interfaceSpread (i : InterfaceClause) (ws : List Word) :
    interfaceClause e (spread (interfaceWords i ++ ws)) = .ok (i, spread ws) := by
  simp only [interfaceWords, List.append_assoc, List.cons_append, List.nil_append,
    interfaceClause, descriptionSpread, keywordSpread, identifierSpread, markSpread, versionSpread,
    bind, Except.bind]

def headingRest (h : Heading) : List Word :=
  .identifier h.package :: (h.imports.flatMap importWords ++ interfaceWords h.interface)

theorem clausesSpread {h : Heading} (proper : ∀ w ∈ headingRest h, w.Proper) (ws : List Word) :
    clauses e ((Word.keyword .package).tokens ++ spread (headingRest h ++ ws)) =
      .ok ((h.packageClause, h.interface), spread ws) := by
  have first (ts : List Token) : demand e (.keyword .package) .package
      ((Word.keyword .package).tokens ++ ts) = .ok ts := rfl
  have imported w (mem : w ∈ h.imports.flatMap importWords) : w.Proper :=
    proper w (by simp [headingRest, mem])
  simp only [clauses, packageClause, first, headingRest, List.cons_append, List.append_assoc,
    identifierSpread, importsSpread imported, interfaceSpread, bind, Except.bind]
  rfl

end Busbind.Canonical
