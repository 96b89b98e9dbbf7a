import Busbind.Proofs.HeaderGrammar
import Busbind.Proofs.Unplaced

/-! White space means nothing where no source of an import is quoted: the readers of the header come
to the same outcome on the significant tokens alone, and those of the declarations read nothing
else. Two texts with the same significant tokens are the same definition, or are refused for the
same cause. -/
namespace Busbind.Spacing
open Header HeaderGrammar Unplaced

def Unquoted (ts : List Token) : Prop :=
  ∀ t ∈ ts.takeWhile (fun t => t.kind ≠ .keyword .interface),
    t.kind ≠ .punctuation .quote ∧ t.kind ≠ .punctuation .singleQuote
instance (ts) : Decidable (Unquoted ts) := by unfold Unquoted; infer_instance

def condensed {α : Type} (r : α × List Token) : α × List Token := (r.1, significant r.2)

section Steps
variable {α β γ δ ε : Type}

theorem bindMapped {f : α → β} {g : γ → δ} {x : Except ε α} {y : Except ε β}
    {k : α → Except ε γ} {l : β → Except ε δ} (first : y = x.map f)
    (next : ∀ a, x = .ok a → l (f a) = (k a).map g) : (y >>= l) = (x >>= k).map g := by
  rw [first]
  cases x with
  | error e => rfl
  | ok a => exact next a rfl

end Steps

section Quotes
variable {e : Ending} {t : Token} {ts rest : List Token}

theorem unquotedTail (unquoted : Unquoted (t :: ts)) (more : t.kind ≠ .keyword .interface) :
    quoteOf? t = none ∧ Unquoted ts := by
  have taken : (t :: ts).takeWhile (fun t => t.kind ≠ .keyword .interface) =
      t :: ts.takeWhile (fun t => t.kind ≠ .keyword .interface) := by
    rw [List.takeWhile_cons, if_pos (by simpa using more)]
  unfold Unquoted at unquoted
  rw [taken, List.forall_mem_cons] at unquoted
  refine ⟨?_, unquoted.2⟩
  unfold quoteOf?
  split
  · exact absurd (by assumption) unquoted.1.1
  · exact absurd (by assumption) unquoted.1.2
  · rfl

theorem unquotedNext (unquoted : Unquoted ts) (read : nextSignificant e ts = .ok (t, rest)) :
    quoteOf? t = none ∧ (t.kind ≠ .keyword .interface → Unquoted rest) := by
  induction ts with
  | nil =>
    cases e with
    | unclosed s => contradiction
    | complete p => cases read; exact ⟨rfl, fun _ => nofun⟩
  | cons u us ih =>
    simp only [nextSignificant] at read
    split at read
    · cases read
      by_cases interface : t.kind = .keyword .interface
      · exact ⟨by simp [quoteOf?, interface], fun other => absurd interface other⟩
      · obtain ⟨plain, later⟩ := unquotedTail unquoted interface
        exact ⟨plain, fun _ => later⟩
    · rename_i skipped
      refine ih (unquotedTail unquoted fun interface => skipped ?_).2 read
      simp [Token.isSignificant, interface]

end Quotes

section Header
variable (e : Ending)

theorem nextSignificantCondensed (ts : List Token) :
    nextSignificant e (significant ts) = (nextSignificant e ts).map condensed := by
  induction ts with
  | nil => cases e <;> rfl
  | cons t ts ih =>
    cases here : t.isSignificant with
    | true => simp [significant, nextSignificant, here, Except.map, condensed]
    | false => simpa [significant, nextSignificant, here] using ih

theorem demandCondensed (kind : TokenKind) (x : Expected) (ts : List Token) :
    demand e kind x (significant ts) = (demand e kind x ts).map significant := by
  simp only [demand, nextSignificantCondensed]
  cases nextSignificant e ts with
  | error r => rfl
  | ok r => simp only [Except.map, condensed]; split <;> rfl

theorem demandIdentifierCondensed (x : Expected) (ts : List Token) :
    demandIdentifier e x (significant ts) = (demandIdentifier e x ts).map condensed := by
  simp only [demandIdentifier, nextSignificantCondensed]
  cases nextSignificant e ts with
  | error r => rfl
  | ok r => simp only [Except.map, condensed]; split <;> rfl

theorem namedSourceCondensed {ts : List Token} (unquoted : Unquoted ts) :
    namedSource e (significant ts) = (namedSource e ts).map condensed := by
  simp only [namedSource, nextSignificantCondensed]
  cases read : nextSignificant e ts with
  | error r => rfl
  | ok r =>
    simp only [Except.map, condensed, (unquotedNext unquoted read).1]
    split <;> rfl

theorem sourceCondensed {ts : List Token} (unquoted : Unquoted ts) :
    source e (significant ts) = (source e ts).map condensed := by
  simp only [source, nextSignificantCondensed]
  cases read : nextSignificant e ts with
  | error r => rfl
  | ok r =>
    obtain ⟨plain, later⟩ := unquotedNext unquoted read
    simp only [Except.map, condensed, plain]
    split
    · rename_i word
      simp only [Bool.and_eq_true, decide_eq_true_eq] at word
      exact namedSourceCondensed e (later (by simp [word.1]))
    · rfl

theorem wildcardCondensed (ts : List Token) :
    wildcard e (significant ts) = (wildcard e ts).map condensed := by
  simp only [wildcard, nextSignificantCondensed]
  cases nextSignificant e ts with
  | error r => rfl
  | ok r => simp only [Except.map, condensed]; split <;> rfl

end Header

section Unquoted
variable {e : Ending} {ts rest : List Token}

theorem demandUnquoted {kind : TokenKind} {x : Expected} (unquoted : Unquoted ts)
    (other : kind ≠ .keyword .interface) (read : demand e kind x ts = .ok rest) :
    Unquoted rest := by
  unfold demand at read
  split at read
  · contradiction
  · rename_i t more next
    split at read <;> cases read
    rename_i same
    exact (unquotedNext unquoted next).2 (same ▸ other)

theorem demandIdentifierUnquoted {x : Expected} {s : String} (unquoted : Unquoted ts)
    (read : demandIdentifier e x ts = .ok (s, rest)) : Unquoted rest := by
  unfold demandIdentifier at read
  split at read
  · contradiction
  · rename_i t more next
    split at read <;> cases read
    rename_i same
    exact (unquotedNext unquoted next).2 (by simp [same])

theorem wildcardUnquoted {b : Bool} (unquoted : Unquoted ts)
    (read : wildcard e ts = .ok (b, rest)) : Unquoted rest := by
  unfold wildcard at read
  split at read
  · contradiction
  · rename_i t more next
    split at read <;> cases read
    · rename_i same
      exact (unquotedNext unquoted next).2 (by simp [same])
    · exact unquoted

theorem namedSourceUnquoted {s : String} (unquoted : Unquoted ts)
    (read : namedSource e ts = .ok (s, rest)) : Unquoted rest := by
  unfold namedSource at read
  split at read
  · contradiction
  · rename_i t more next
    obtain ⟨plain, later⟩ := unquotedNext unquoted next
    simp only [plain] at read
    split at read <;> cases read
    · rename_i same
      exact later (by simp [same])
    · exact unquoted

theorem sourceUnquoted {s : String} (unquoted : Unquoted ts)
    (read : source e ts = .ok (s, rest)) : Unquoted rest := by
  unfold source at read
  split at read
  · contradiction
  · rename_i t more next
    obtain ⟨plain, later⟩ := unquotedNext unquoted next
    simp only [plain] at read
    split at read
    · rename_i word
      simp only [Bool.and_eq_true, decide_eq_true_eq] at word
      exact namedSourceUnquoted (later (by simp [word.1])) read
    · cases read
      exact unquoted

theorem importClauseUnquoted {i : Import} (unquoted : Unquoted ts)
    (read : importClause e ts = .ok (i, rest)) : Unquoted rest := by
  obtain ⟨⟨path, ts₁⟩, readPath, read⟩ := Outcome.bindOk read
  obtain ⟨⟨wild, ts₂⟩, readWild, read⟩ := Outcome.bindOk read
  obtain ⟨⟨s, ts₃⟩, readSource, read⟩ := Outcome.bindOk read
  cases read
  have afterPath := demandIdentifierUnquoted unquoted readPath
  have afterWild := wildcardUnquoted afterPath readWild
  exact sourceUnquoted afterWild readSource

theorem importClauseCondensed (unquoted : Unquoted ts) :
    importClause e (significant ts) = (importClause e ts).map condensed := by
  refine bindMapped (demandIdentifierCondensed e .importPath ts) fun path readPath => ?_
  have afterPath := demandIdentifierUnquoted unquoted readPath
  refine bindMapped (wildcardCondensed e path.2) fun wild readWild => ?_
  have afterWild := wildcardUnquoted afterPath readWild
  exact bindMapped (sourceCondensed e afterWild) fun _ _ => rfl

theorem importsCondensed (unquoted : Unquoted ts) :
    imports e (significant ts) = (imports e ts).map condensed := by
  fun_induction imports e ts with
  | case1 ts r read =>
    rw [importsEq, nextSignificantCondensed, read]
    rfl
  | case2 ts t rest read keyword r clause =>
    have later := (unquotedNext unquoted read).2 (by simp [keyword])
    rw [importsEq, nextSignificantCondensed, read]
    simp only [Except.map, condensed, keyword, if_true, importClauseCondensed later, clause]
  | case3 ts t rest read keyword i after clause ih =>
    have later := (unquotedNext unquoted read).2 (by simp [keyword])
    have same := ih (importClauseUnquoted later clause)
    rw [importsEq, nextSignificantCondensed, read]
    simp only [Except.map, condensed, keyword, if_true, importClauseCondensed later, clause] at same ⊢
    rw [same]
    cases imports e after <;> rfl
  | case4 ts t rest read other =>
    rw [importsEq, nextSignificantCondensed, read]
    simp only [Except.map, condensed, other, if_false]

theorem packageClauseCondensed (unquoted : Unquoted ts) :
    packageClause e (significant ts) = (packageClause e ts).map condensed := by
  refine bindMapped (demandCondensed e _ .package ts) fun rest readKeyword => ?_
  have afterKeyword := demandUnquoted unquoted (by simp) readKeyword
  refine bindMapped (demandIdentifierCondensed e .packageName rest) fun name readName => ?_
  have afterName := demandIdentifierUnquoted afterKeyword readName
  exact bindMapped (importsCondensed afterName) fun _ _ => rfl

end Unquoted

section Interface
variable (e : Ending)

theorem versionNumberCondensed (f : VersionField) (ts : List Token) :
    versionNumber e f (significant ts) = (versionNumber e f ts).map condensed := by
  simp only [versionNumber, nextSignificantCondensed]
  cases nextSignificant e ts with
  | error r => rfl
  | ok r =>
    simp only [Except.map, condensed]
    cases VersionNumber.ofText r.1.literal <;> rfl

theorem versionEntriesCondensed (major minor : UInt32) (ts : List Token) :
    versionEntries e major minor (significant ts) =
      (versionEntries e major minor ts).map condensed := by
  fun_induction versionEntries e major minor ts with
  | case1 major minor ts r read =>
    rw [versionEntriesEq, nextSignificantCondensed, read]
    rfl
  | case2 major minor ts t rest read field entry r number =>
    rw [versionEntriesEq, nextSignificantCondensed, read]
    simp only [Except.map, condensed, entry, versionNumberCondensed, number]
  | case3 major minor ts t rest read n after entry number _ _ ih
  | case4 major minor ts t rest read n after entry number _ _ ih =>
    rw [versionEntriesEq, nextSignificantCondensed, read]
    simp only [Except.map, condensed, entry, versionNumberCondensed, number] at ih ⊢
    exact ih
  | case5 major minor ts t rest read other closes =>
    rw [versionEntriesEq, nextSignificantCondensed, read]
    simp only [Except.map, condensed, other, if_pos closes]
  | case6 major minor ts t rest read other more =>
    rw [versionEntriesEq, nextSignificantCondensed, read]
    simp only [Except.map, condensed, other, more, if_false]

theorem versionBlockCondensed (ts : List Token) :
    versionBlock e (significant ts) = (versionBlock e ts).map condensed := by
  simp only [versionBlock, nextSignificantCondensed]
  cases nextSignificant e ts with
  | error r => rfl
  | ok r =>
    simp only [Except.map, condensed]
    split
    · exact bindMapped (demandCondensed e _ .versionBody r.2) fun rest _ =>
        versionEntriesCondensed e 0 0 rest
    · rfl

theorem descriptionCondensed (ts : List Token) :
    description e (significant ts) = (description e ts).map condensed := by
  simp only [description, nextSignificantCondensed]
  cases nextSignificant e ts with
  | error r => rfl
  | ok r => simp only [Except.map, condensed]; split <;> rfl

theorem interfaceClauseCondensed (ts : List Token) :
    interfaceClause e (significant ts) = (interfaceClause e ts).map condensed :=
  bindMapped (descriptionCondensed e ts) fun described _ =>
    bindMapped (demandCondensed e _ .interface described.2) fun rest _ =>
      bindMapped (demandIdentifierCondensed e .interfaceName rest) fun name _ =>
        bindMapped (demandCondensed e _ .interfaceBody name.2) fun rest _ =>
          bindMapped (versionBlockCondensed e rest) fun _ _ => rfl

theorem clausesCondensed {ts : List Token} (unquoted : Unquoted ts) :
    clauses e (significant ts) = (clauses e ts).map condensed :=
  bindMapped (packageClauseCondensed unquoted) fun package _ =>
    bindMapped (interfaceClauseCondensed e package.2) fun _ _ => rfl

end Interface

theorem ofScanCondensed (e : Ending) {ts : List Token} (unquoted : Unquoted ts) :
    Definition.ofScan ⟨significant ts, e⟩ = Definition.ofScan ⟨ts, e⟩ := by
  simp only [Definition.ofScan, clausesCondensed e unquoted]
  cases clauses e ts with
  | error r => rfl
  | ok r => cases e <;> simp [Except.map, condensed, significant, bind, Except.bind]

section Texts
variable {s s' : String} {ts ts' us us' : List Token}

theorem tokensEnd (scanned : (Scan.ofText s).tokens? = .ok ts) :
    ∃ body p, Scan.ofText s = ⟨body, .complete p⟩ ∧ ts = body ++ [Token.endOfInput p] := by
  cases scan : Scan.ofText s with
  | mk body ending =>
    rw [scan] at scanned
    cases ending with
    | unclosed span => contradiction
    | complete p => exact ⟨body, p, rfl, (Except.ok.inj scanned).symm⟩

def said (ts : List Token) : List (TokenKind × String) :=
  (ts.filter Token.isSignificant).map fun t => (t.kind, t.literal)

theorem leftOfSaid (same : said us = said us') : left (significant us) = left (significant us') := by
  have placed (vs : List Token) :
      left (significant vs) = (said vs).map fun r => ⟨r.1, r.2, ⟨0, 0⟩⟩ := by
    simp [left, significant, said, Token.unplaced]
  rw [placed, placed, same]

theorem saidEnd (us : List Token) (p : Nat) :
    said (us ++ [Token.endOfInput p]) = said us ++ [(.endOfInput, "")] := by
  simp [said, Token.isSignificant, Token.endOfInput]

theorem saidBody {p p' : Nat}
    (same : said (us ++ [Token.endOfInput p]) = said (us' ++ [Token.endOfInput p'])) :
    said us = said us' := by
  rw [saidEnd, saidEnd] at same
  exact List.append_cancel_right same

theorem saidLeft (us : List Token) : said (left us) = said us := by
  rw [said, left, List.filter_map, List.map_map]
  rfl

theorem unquotedBody {last : Token} (unquoted : Unquoted (us ++ [last])) : Unquoted us := by
  intro t mem
  refine unquoted t ?_
  rw [List.takeWhile_append]
  split
  · exact List.mem_append_left _ ((List.takeWhile_prefix _).subset mem)
  · exact mem

theorem sameSignificant (scanned : (Scan.ofText s).tokens? = .ok ts)
    (scanned' : (Scan.ofText s').tokens? = .ok ts') (same : said ts = said ts')
    (unquoted : Unquoted ts) (unquoted' : Unquoted ts') :
    (∃ d, Definition.ofText s = .ok d ∧ Definition.ofText s' = .ok d) ∨
      ∃ r r', Definition.ofText s = .error r ∧ Definition.ofText s' = .error r' ∧
        r.unplaced = r'.unplaced := by
  obtain ⟨us, p, scan, rfl⟩ := tokensEnd scanned
  obtain ⟨us', p', scan', rfl⟩ := tokensEnd scanned'
  have agree : outcome id (Definition.ofText s) = outcome id (Definition.ofText s') := by
    calc outcome id (Definition.ofText s)
        = outcome id (Definition.ofScan ⟨significant us, .complete p⟩) := by
          rw [Definition.ofText, scan, ofScanCondensed _ (unquotedBody unquoted)]
      _ = Definition.ofScan ⟨left (significant us), .complete 0⟩ := (ofScanUnplaced p _).symm
      _ = Definition.ofScan ⟨left (significant us'), .complete 0⟩ := by
          rw [leftOfSaid (saidBody same)]
      _ = outcome id (Definition.ofScan ⟨significant us', .complete p'⟩) := ofScanUnplaced p' _
      _ = outcome id (Definition.ofText s') := by
          rw [Definition.ofText, scan', ofScanCondensed _ (unquotedBody unquoted')]
  cases here : Definition.ofText s with
  | ok d =>
    cases there : Definition.ofText s' with
    | ok d' =>
      rw [here, there] at agree
      cases agree
      exact .inl ⟨d, rfl, rfl⟩
    | error r' => rw [here, there] at agree; contradiction
  | error r =>
    cases there : Definition.ofText s' with
    | ok d' => rw [here, there] at agree; contradiction
    | error r' =>
      rw [here, there] at agree
      exact .inr ⟨r, r', rfl, rfl, Except.error.inj agree⟩

end Texts

def crammed : String :=
  "package p import q*<**d **>interface I\x7b\"attribute A[]a"

def airy : String :=
  "package p import q *\r\n<**d **> interface I \x7b \" attribute A [ ] a\n"

def tokensOf (s : String) : List Token := (Scan.ofText s).tokens ++ [Token.endOfInput s.utf8ByteSize]

theorem crammedSaysAiry : (Scan.ofText crammed).tokens? = .ok (tokensOf crammed) ∧
    (Scan.ofText airy).tokens? = .ok (tokensOf airy) ∧
    said (tokensOf crammed) = said (tokensOf airy) ∧
    Unquoted (tokensOf crammed) ∧ Unquoted (tokensOf airy) ∧
    ((∃ d, Definition.ofText crammed = .ok d ∧ Definition.ofText airy = .ok d) ∨
      ∃ r r', Definition.ofText crammed = .error r ∧ Definition.ofText airy = .error r' ∧
        r.unplaced = r'.unplaced) := by
  have scanned : (Scan.ofText crammed).tokens? = .ok (tokensOf crammed) := by decide +kernel
  have scanned' : (Scan.ofText airy).tokens? = .ok (tokensOf airy) := by decide +kernel
  have same : said (tokensOf crammed) = said (tokensOf airy) := by decide +kernel
  have unquoted : Unquoted (tokensOf crammed) := by decide +kernel
  have unquoted' : Unquoted (tokensOf airy) := by decide +kernel
  exact ⟨scanned, scanned', same, unquoted, unquoted',
    sameSignificant scanned scanned' same unquoted unquoted'⟩

end Busbind.Spacing
