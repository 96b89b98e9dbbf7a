import Busbind.Proofs.Fronts
import Busbind.Proofs.HeaderSound
import Busbind.Proofs.Spelling

/-! Every front of a text that a reader of the header asks more for can be completed: words can be put
behind it with which it is what the reader looks for. -/
namespace Busbind.Viability
open Header HeaderGrammar Fronts Outcome
open Canonical (Word visible)

def Completes (P : List Token → Prop) (ts : List Token) : Prop :=
  ∃ own : List Word, (∀ w ∈ own, w.Proper) ∧ P (significant ts ++ visible own)

section Completing
variable {P Q : List Token → Prop} {ts us rest : List Token}

theorem completesBlank (blank : significant ts = []) (own : List Word) (proper : ∀ w ∈ own, w.Proper)
    (h : P (visible own)) : Completes P ts :=
  ⟨own, proper, by rw [blank]; exact h⟩

theorem completesBehind (us : List Token) (split : significant ts = us ++ significant rest)
    (h : Completes (fun vs => P (us ++ vs)) rest) : Completes P ts := by
  obtain ⟨own, proper, complete⟩ := h
  exact ⟨own, proper, by rw [split, List.append_assoc]; exact complete⟩

theorem completesAfter {t : Token} (takes : significant ts = t :: significant rest)
    (h : Completes (fun vs => P (t :: vs)) rest) : Completes P ts := completesBehind [t] takes h

theorem completesMono (h : Completes P ts) (imp : ∀ vs, P vs → Q vs) : Completes Q ts := by
  obtain ⟨own, proper, complete⟩ := h
  exact ⟨own, proper, imp _ complete⟩

theorem completesThen (h : Completes P ts) (more : List Word) (proper : ∀ w ∈ more, w.Proper)
    (imp : ∀ vs, P vs → Q (vs ++ visible more)) : Completes Q ts := by
  obtain ⟨own, proper', complete⟩ := h
  refine ⟨own ++ more, fun w mem => (List.mem_append.1 mem).elim (proper' w) (proper w), ?_⟩
  rw [visible, List.flatMap_append, ← List.append_assoc]
  exact imp _ complete

end Completing

variable {α : Type} {s : Span} {ts : List Token}

theorem nextOnly {x : Except Rejection α} (h : x = .error (.unclosedDescription s))
    (decided : ∀ t rest, nextSignificant (.unclosed s) ts = .ok (t, rest) →
      x ≠ .error (.unclosedDescription s)) : significant ts = [] := by
  cases read : nextSignificant (.unclosed s) ts with
  | error r => exact (nextAwaits read).2
  | ok found => exact absurd h (decided found.1 found.2 read)

theorem demandAwaits {kind : TokenKind} {x : Expected}
    (h : demand (.unclosed s) kind x ts = .error (.unclosedDescription s)) : significant ts = [] := by
  refine nextOnly h fun t rest read => ?_
  simp only [demand, read]
  split <;> simp

theorem demandIdentifierAwaits {x : Expected}
    (h : demandIdentifier (.unclosed s) x ts = .error (.unclosedDescription s)) :
    significant ts = [] := by
  refine nextOnly h fun t rest read => ?_
  simp only [demandIdentifier, read]
  split <;> simp

theorem wildcardAwaits (h : wildcard (.unclosed s) ts = .error (.unclosedDescription s)) :
    significant ts = [] := by
  refine nextOnly h fun t rest read => ?_
  simp only [wildcard, read]
  split <;> simp

theorem versionNumberAwaits {f : VersionField}
    (h : versionNumber (.unclosed s) f ts = .error (.unclosedDescription s)) :
    significant ts = [] := by
  refine nextOnly h fun t rest read => ?_
  simp only [versionNumber, read]
  split <;> simp

theorem descriptionAwaits (h : description (.unclosed s) ts = .error (.unclosedDescription s)) :
    significant ts = [] := by
  refine nextOnly h fun t rest read => ?_
  simp only [description, read]
  split <;> simp

theorem quotedAwaits {q : Punctuation}
    (h : quoted (.unclosed s) q ts = .error (.unclosedDescription s)) :
    ∀ t ∈ ts, t.kind ≠ .punctuation q := by
  induction ts with
  | nil => nofun
  | cons t ts ih =>
    simp only [quoted] at h
    split at h
    · contradiction
    · rename_i other
      cases tail : quoted (.unclosed s) q ts with
      | ok r => rw [tail] at h; contradiction
      | error r =>
        rw [tail] at h
        cases h
        exact List.forall_mem_cons.2 ⟨other, ih tail⟩

theorem quotedCompletes {q : Punctuation} {opening : Token} {us : List Token}
    (found : significant ts = opening :: significant us) (mark : quoteOf? opening = some q)
    (h : quoted (.unclosed s) q us = .error (.unclosedDescription s)) : Completes Quoted ts := by
  obtain ⟨opens, sort⟩ := quoteOfIff.1 mark
  refine ⟨[.mark q], by simp [Word.Proper], ?_⟩
  rw [found]
  exact .marks sort opens (fun t mem => quotedAwaits h t (List.mem_of_mem_filter mem)) rfl

theorem namedSourceCompletes (h : namedSource (.unclosed s) ts = .error (.unclosedDescription s)) :
    Completes Named ts := by
  unfold namedSource at h
  split at h
  · rename_i read
    exact completesBlank (nextAwaits read).2 [] nofun (.inl (.inl rfl))
  · rename_i t rest read
    split at h
    · rename_i q mark
      have found := nextSignificantTakes read (markMore mark)
      exact completesMono (quotedCompletes found mark h) fun _ => .inr
    · split at h <;> contradiction

theorem sourceCompletes (h : source (.unclosed s) ts = .error (.unclosedDescription s)) :
    Completes (fun us => us = [] ∨ Source us) ts := by
  unfold source at h
  split at h
  · rename_i read
    exact completesBlank (nextAwaits read).2 [] nofun (.inl rfl)
  · rename_i t rest read
    split at h
    · rename_i word
      simp only [Bool.and_eq_true, decide_eq_true_eq, beq_iff_eq] at word
      have found := nextSignificantTakes read (by simp [word.1])
      exact completesAfter found
        (completesMono (namedSourceCompletes h) fun _ named => .inr (.named word.1 word.2 named))
    · split at h
      · rename_i q mark
        have found := nextSignificantTakes read (markMore mark)
        exact completesMono (quotedCompletes found mark h) fun _ quoted => .inr (.quoted quoted)
      · contradiction

theorem importClauseCompletes {keyword : Token} (kind : keyword.kind = .keyword .imports)
    (h : importClause (.unclosed s) ts = .error (.unclosedDescription s)) :
    Completes (fun us => ImportClause (keyword :: us)) ts := by
  rcases bindError h with path | ⟨⟨path, ts₁⟩, readPath, h⟩
  · exact completesBlank (demandIdentifierAwaits path) [.identifier "p"] (by decide +kernel)
      (.clause kind rfl (.inl rfl) (.inl rfl))
  obtain ⟨t, takes, identifier, _⟩ := demandIdentifierSound readPath
  refine completesAfter takes ?_
  rcases bindError h with wild | ⟨⟨wild, ts₂⟩, readWild, h⟩
  · exact completesBlank (wildcardAwaits wild) [] nofun (.clause kind identifier (.inl rfl) (.inl rfl))
  obtain ⟨star, split, optional⟩ := wildcardSound readWild
  refine completesBehind _ split ?_
  rcases bindError h with source | ⟨_, _, h⟩
  · exact completesMono (sourceCompletes source) fun _ source => .clause kind identifier optional source
  · contradiction

def interfaceOwn : List Word := [.keyword .interface, .identifier "I", .mark .leftBrace]

theorem interfaceOwnProper : ∀ w ∈ interfaceOwn, w.Proper := by decide +kernel

theorem interfaceOwnBegins : InterfaceBegins (visible interfaceOwn) :=
  .clause (.inl rfl) rfl rfl rfl nofun

def Listed (ts : List Token) : Prop :=
  ∃ used rest, ts = used ++ rest ∧ Imports used ∧ InterfaceBegins rest

theorem listedImport {clause ts : List Token} (first : ImportClause clause) (h : Listed ts) :
    Listed (clause ++ ts) := by
  obtain ⟨used, rest, rfl, imports, begins⟩ := h
  exact ⟨clause ++ used, rest, (List.append_assoc ..).symm, .cons first imports, begins⟩

theorem listedInterface (h : InterfaceBegins ts) : Listed ts := ⟨[], ts, rfl, .nil, h⟩

theorem importsCompletes (h : imports (.unclosed s) ts = .error (.unclosedDescription s)) :
    Completes Listed ts := by
  fun_induction imports (.unclosed s) ts with
  | case1 ts r read =>
    exact completesBlank (nextAwaits read).2 interfaceOwn interfaceOwnProper
      (listedInterface interfaceOwnBegins)
  | case2 ts t rest read keyword r clause =>
    cases h
    have found := nextSignificantTakes read (by simp [keyword])
    refine completesAfter found ?_
    exact completesThen (importClauseCompletes keyword clause) interfaceOwn interfaceOwnProper
      fun us first => show Listed (t :: us ++ visible interfaceOwn) from
        listedImport first (listedInterface interfaceOwnBegins)
  | case3 ts t rest read keyword i after clause ih =>
    have found := nextSignificantTakes read (by simp [keyword])
    rcases importClauseSound keyword clause with ⟨⟨p, ended⟩, _⟩ | ⟨used, split, first⟩
    · contradiction
    · cases tail : imports (.unclosed s) after with
      | ok r => rw [tail] at h; contradiction
      | error r =>
        rw [tail] at h
        cases h
        rw [split] at found
        exact completesBehind (t :: used) found
          (completesMono (ih tail) fun _ => listedImport first)
  | case4 => contradiction

theorem namedBegins {p : Token} (keyword : p.kind = .keyword .package) :
    HeaderBegins (p :: visible (.identifier "p" :: interfaceOwn)) :=
  HeaderBegins.clauses keyword rfl .nil interfaceOwnBegins

theorem packageClauseCompletes (h : packageClause (.unclosed s) ts = .error (.unclosedDescription s)) :
    Completes HeaderBegins ts := by
  rcases bindError h with keyword | ⟨ts₁, readKeyword, h⟩
  · exact completesBlank (demandAwaits keyword)
      (.keyword .package :: .identifier "p" :: interfaceOwn) (by decide +kernel) (namedBegins rfl)
  obtain ⟨p, takes, keyword⟩ := demandSound (by simp) readKeyword
  refine completesAfter takes ?_
  rcases bindError h with name | ⟨⟨name, ts₂⟩, readName, h⟩
  · exact completesBlank (demandIdentifierAwaits name) (.identifier "p" :: interfaceOwn)
      (by decide +kernel) (namedBegins keyword)
  obtain ⟨name, takesName, identifier, _⟩ := demandIdentifierSound readName
  refine completesAfter takesName ?_
  rcases bindError h with listed | ⟨_, _, h⟩
  · refine completesMono (importsCompletes listed) ?_
    rintro _ ⟨used, rest, rfl, listed, begins⟩
    exact .clauses keyword identifier listed begins
  · contradiction

def Closed (ts : List Token) : Prop :=
  ∃ entries closing, ts = entries ++ [closing] ∧ Entries entries ∧
    closing.kind = .punctuation .rightBrace

theorem closedEntry {f v : Token} (field : f.kind = .keyword .major ∨ f.kind = .keyword .minor)
    (value : ∃ n, VersionNumber.Writes v.literal n) (h : Closed ts) : Closed (f :: v :: ts) := by
  obtain ⟨entries, closing, rfl, inside, closes⟩ := h
  exact ⟨f :: v :: entries, closing, rfl, .cons field value inside, closes⟩

theorem closedBrace : Closed (visible [.mark .rightBrace]) := ⟨[], _, rfl, .nil, rfl⟩

theorem versionEntriesCompletes {major minor : UInt32}
    (h : versionEntries (.unclosed s) major minor ts = .error (.unclosedDescription s)) :
    Completes Closed ts := by
  fun_induction versionEntries (.unclosed s) major minor ts with
  | case1 major minor ts r read =>
    exact completesBlank (nextAwaits read).2 [.mark .rightBrace] (by decide +kernel) closedBrace
  | case2 major minor ts t rest read field entry r number =>
    cases h
    have kind := entryFieldIff.1 ⟨field, entry⟩
    have found := nextSignificantTakes read (by rcases kind with k | k <;> simp [k])
    refine completesAfter found ?_
    exact completesBlank (versionNumberAwaits number) [.number 0, .mark .rightBrace]
      (by decide +kernel) (closedEntry kind ⟨0, VersionNumber.writesDecimal 0⟩ closedBrace)
  | case3 major minor ts t rest read n after entry number _ _ ih
  | case4 major minor ts t rest read n after entry number _ _ ih =>
    obtain ⟨value, takes, kind, writes⟩ := entryTakes read entry number
    exact completesBehind [t, value] takes
      (completesMono (ih h) fun _ => closedEntry kind writes)
  | case5 => contradiction
  | case6 => cases h

theorem versionedOf {block : List Token} (h : VersionBlock block) : Versioned block :=
  fun _ _ _ => ⟨block, [], (List.append_nil _).symm, h⟩

theorem versionBlockCompletes (h : versionBlock (.unclosed s) ts = .error (.unclosedDescription s)) :
    Completes Versioned ts := by
  unfold versionBlock at h
  split at h
  · rename_i read
    exact completesBlank (nextAwaits read).2 [] nofun nofun
  · rename_i t rest read
    split at h
    · rename_i keyword
      have found := nextSignificantTakes read (by simp [keyword])
      refine completesAfter found ?_
      rcases bindError h with opening | ⟨inside, readOpening, h⟩
      · exact completesBlank (demandAwaits opening) [.mark .leftBrace, .mark .rightBrace]
          (by decide +kernel) (versionedOf (.block keyword rfl .nil rfl))
      · obtain ⟨o, takes, opens⟩ := demandSound (by simp) readOpening
        refine completesAfter takes (completesMono (versionEntriesCompletes h) ?_)
        rintro _ ⟨entries, closing, rfl, inside, closes⟩
        exact versionedOf (.block keyword opens inside closes)
    · contradiction

theorem interfaceClauseCompletes
    (h : interfaceClause (.unclosed s) ts = .error (.unclosedDescription s)) :
    Completes InterfaceBegins ts := by
  rcases bindError h with described | ⟨⟨d, ts₁⟩, readDescription, h⟩
  · exact completesBlank (descriptionAwaits described) interfaceOwn interfaceOwnProper
      interfaceOwnBegins
  obtain ⟨used, split, documented⟩ := descriptionSound readDescription
  refine completesBehind _ split ?_
  rcases bindError h with keyword | ⟨ts₂, readKeyword, h⟩
  · exact completesBlank (demandAwaits keyword) interfaceOwn interfaceOwnProper
      (.clause documented rfl rfl rfl nofun)
  obtain ⟨i, takes, keyword⟩ := demandSound (by simp) readKeyword
  refine completesAfter takes ?_
  rcases bindError h with name | ⟨⟨name, ts₃⟩, readName, h⟩
  · exact completesBlank (demandIdentifierAwaits name) (interfaceOwn.drop 1) (by decide +kernel)
      (.clause documented keyword rfl rfl nofun)
  obtain ⟨name, takesName, identifier, _⟩ := demandIdentifierSound readName
  refine completesAfter takesName ?_
  rcases bindError h with opening | ⟨ts₄, readOpening, h⟩
  · exact completesBlank (demandAwaits opening) (interfaceOwn.drop 2) (by decide +kernel)
      (.clause documented keyword identifier rfl nofun)
  obtain ⟨o, takesOpening, opens⟩ := demandSound (by simp) readOpening
  refine completesAfter takesOpening ?_
  rcases bindError h with version | ⟨_, _, h⟩
  · exact completesMono (versionBlockCompletes version) fun _ version =>
      .clause documented keyword identifier opens version
  · contradiction

theorem clausesCompletes (h : clauses (.unclosed s) ts = .error (.unclosedDescription s)) :
    Completes HeaderBegins ts := by
  rcases bindError h with package | ⟨⟨package, ts₁⟩, readPackage, h⟩
  · exact packageClauseCompletes package
  obtain ⟨p, name, after, takes, keyword, identifier, listed⟩ := packageClauseSound readPackage
  rcases listed with ⟨⟨_, ended⟩, _⟩ | ⟨used, rfl, listed⟩
  · contradiction
  refine completesBehind (p :: name :: used) takes ?_
  rcases bindError h with interface | ⟨_, _, h⟩
  · exact completesMono (interfaceClauseCompletes interface) fun _ begins =>
      .clauses keyword identifier listed begins
  · contradiction

end Busbind.Viability
