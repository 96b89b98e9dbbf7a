import Busbind.Proofs.HeaderGrammar

/-! From every text that begins with a header and ends, the readers take it. -/
namespace Busbind.HeaderGrammar
open Header

variable {e : Ending} {ts : List Token}

theorem quotedComplete {q : Punctuation} {body after : List Token} {closing : Token}
    (h : significant ts = body ++ closing :: after) (others : ∀ t ∈ body, t.kind ≠ .punctuation q)
    (closes : closing.kind = .punctuation q) :
    ∃ s rest, quoted e q ts = .ok (s, rest) ∧ significant rest = after := by
  induction ts generalizing body with
  | nil => simp [significant] at h
  | cons t ts ih =>
    simp only [quoted]
    by_cases here : t.isSignificant = true
    · simp only [significant, List.filter_cons, here, if_true] at h
      cases body with
      | nil =>
        cases h
        exact ⟨"", ts, if_pos closes, rfl⟩
      | cons u body =>
        obtain ⟨rfl, later⟩ := List.cons.inj h
        obtain ⟨s, rest, read, left⟩ := ih later fun v mem => others v (List.mem_cons_of_mem t mem)
        exact ⟨t.literal ++ s, rest, by rw [if_neg (others t (by simp)), read]; rfl, left⟩
    · have blank : t.kind ≠ .punctuation q := by
        intro kind
        simp [Token.isSignificant, kind] at here
      obtain ⟨s, rest, read, left⟩ := ih (by simpa [significant, here] using h) others
      exact ⟨t.literal ++ s, rest, by rw [if_neg blank, read]; rfl, left⟩

def Follows (ts : List Token) : Prop :=
  ∃ t us, ts = t :: us ∧
    (t.kind = .keyword .imports ∨ t.kind = .description ∨ t.kind = .keyword .interface)

theorem followsOther {after : List Token} (h : Follows after) :
    ∃ t us, after = t :: us ∧ quoteOf? t = none ∧ t.kind ≠ .identifier ∧
      t.kind ≠ .punctuation .asterisk := by
  obtain ⟨t, us, rfl, kind⟩ := h
  refine ⟨t, us, rfl, ?_⟩
  rcases kind with k | k | k <;> simp [quoteOf?, k]

theorem quotedUsed {used after : List Token} (h : Quoted used)
    (split : significant ts = used ++ after) :
    ∃ opening q more, nextSignificant e ts = .ok (opening, more) ∧ quoteOf? opening = some q ∧
      ∃ s rest, quoted e q more = .ok (s, rest) ∧ significant rest = after := by
  cases h with
  | @marks q opening closing body sort opens inside closes =>
    rw [List.cons_append, List.cons_append, List.append_assoc, List.singleton_append] at split
    obtain ⟨more, read, left⟩ := nextSignificantComplete (e := e) split
    exact ⟨opening, q, more, read, quoteOfIff.2 ⟨opens, sort⟩, quotedComplete left inside closes⟩

theorem namedSourceComplete {used after : List Token} (h : Named used) (next : Follows after)
    (split : significant ts = used ++ after) :
    ∃ s rest, namedSource e ts = .ok (s, rest) ∧ significant rest = after := by
  rcases h with (rfl | ⟨i, rfl, kind⟩) | h
  · obtain ⟨t, us, rfl, noQuote, noName, _⟩ := followsOther next
    obtain ⟨more, read, left⟩ := nextSignificantComplete (e := e) split
    exact ⟨"", ts, by simp [namedSource, read, noQuote, noName], split⟩
  · obtain ⟨more, read, left⟩ := nextSignificantComplete (e := e) split
    have noQuote : quoteOf? i = none := by simp [quoteOf?, kind]
    exact ⟨i.literal, more, by simp [namedSource, read, noQuote, kind], left⟩
  · obtain ⟨opening, q, more, read, mark, s, rest, inside, left⟩ := quotedUsed (e := e) h split
    exact ⟨s, rest, by simp [namedSource, read, mark, inside], left⟩

theorem sourceComplete {used after : List Token} (h : used = [] ∨ Source used)
    (next : Follows after) (split : significant ts = used ++ after) :
    ∃ s rest, source e ts = .ok (s, rest) ∧ significant rest = after := by
  rcases h with rfl | h
  · obtain ⟨t, us, rfl, noQuote, noName, _⟩ := followsOther next
    obtain ⟨more, read, left⟩ := nextSignificantComplete (e := e) split
    exact ⟨"", ts, by simp [source, read, noQuote, noName], split⟩
  cases h with
  | quoted h =>
    obtain ⟨opening, q, more, read, mark, s, rest, inside, left⟩ := quotedUsed (e := e) h split
    have noName : opening.kind ≠ .identifier := by simp [(quoteOfIff.1 mark).1]
    exact ⟨s, rest, by simp [source, read, noName, mark, inside], left⟩
  | @named f us kind word h =>
    obtain ⟨more, read, left⟩ := nextSignificantComplete (e := e) split
    obtain ⟨s, rest, inside, left⟩ := namedSourceComplete (e := e) h next left
    exact ⟨s, rest, by simp [source, read, kind, word, inside], left⟩

theorem wildcardComplete {star after : List Token} (h : Optional (.punctuation .asterisk) star)
    (next : ∃ t us, after = t :: us ∧ t.kind ≠ .punctuation .asterisk)
    (split : significant ts = star ++ after) :
    ∃ b rest, wildcard e ts = .ok (b, rest) ∧ significant rest = after := by
  rcases h with rfl | ⟨t, rfl, kind⟩
  · obtain ⟨t, us, rfl, other⟩ := next
    obtain ⟨more, read, left⟩ := nextSignificantComplete (e := e) split
    exact ⟨false, ts, by simp [wildcard, read, other], split⟩
  · obtain ⟨more, read, left⟩ := nextSignificantComplete (e := e) split
    exact ⟨true, more, by simp [wildcard, read, kind], left⟩

theorem sourceFront {used after : List Token} (h : used = [] ∨ Source used) (next : Follows after) :
    ∃ t us, used ++ after = t :: us ∧ t.kind ≠ .punctuation .asterisk := by
  rcases h with rfl | h
  · obtain ⟨t, us, rfl, _, _, noStar⟩ := followsOther next
    exact ⟨t, us, rfl, noStar⟩
  cases h with
  | quoted h =>
    cases h with
    | @marks q opening closing body sort opens inside closes =>
      refine ⟨opening, body ++ [closing] ++ after, rfl, ?_⟩
      rcases sort with rfl | rfl <;> simp [opens]
  | @named f us kind word h => exact ⟨f, us ++ after, rfl, by simp [kind]⟩

theorem importClauseComplete {keyword : Token} {used after : List Token}
    (h : ImportClause (keyword :: used)) (next : Follows after)
    (split : significant ts = used ++ after) :
    ∃ i rest, importClause e ts = .ok (i, rest) ∧ significant rest = after := by
  cases h with
  | @clause _ path star src _ identifier wild from' =>
    rw [List.cons_append, List.append_assoc] at split
    obtain ⟨ts₁, readPath, left⟩ := demandIdentifierComplete (e := e) (x := .importPath) split identifier
    obtain ⟨b, ts₂, readWild, left⟩ := wildcardComplete (e := e) wild (sourceFront from' next) left
    obtain ⟨s, ts₃, readSource, left⟩ := sourceComplete (e := e) from' next left
    refine ⟨⟨if b then path.literal ++ "*" else path.literal, s⟩, ts₃, ?_, left⟩
    simp only [importClause, readPath, readWild, readSource, bind, Except.bind]

theorem importsFront {used after : List Token} (h : Imports used) (next : InterfaceBegins after) :
    Follows (used ++ after) := by
  cases h with
  | nil =>
    obtain ⟨t, us, rfl, kind⟩ := interfaceFront next
    exact ⟨t, us, rfl, .inr kind⟩
  | cons first later =>
    cases first with
    | clause keyword _ _ _ => exact ⟨_, _, rfl, .inl keyword⟩

theorem importsComplete {used after : List Token} (h : Imports used)
    (next : InterfaceBegins after) (split : significant ts = used ++ after) :
    ∃ is rest, imports e ts = .ok (is, rest) ∧ significant rest = after := by
  induction h generalizing ts with
  | nil =>
    obtain ⟨t, us, rfl, kind⟩ := interfaceFront next
    obtain ⟨more, read, _⟩ := nextSignificantComplete (e := e) split
    have other : t.kind ≠ .keyword .imports := by rcases kind with k | k <;> simp [k]
    exact ⟨[], ts, importsEnd read other, split⟩
  | @cons us vs first later ih =>
    obtain ⟨keyword, used, rfl, kind⟩ : ∃ keyword used, us = keyword :: used ∧
        keyword.kind = .keyword .imports := by
      cases first with
      | clause keyword _ _ _ => exact ⟨_, _, rfl, keyword⟩
    rw [List.append_assoc] at split
    obtain ⟨more, read, left⟩ := nextSignificantComplete (e := e) split
    obtain ⟨i, ts₁, clause, left⟩ :=
      importClauseComplete (e := e) first (importsFront later next) left
    obtain ⟨is, rest, tail, left⟩ := ih left
    exact ⟨i :: is, rest, by rw [importsRead read kind clause, tail]; rfl, left⟩

theorem versionEntriesComplete {entries after : List Token} {closing : Token}
    {v : UInt32 × UInt32} (h : Entries entries) (closes : closing.kind = .punctuation .rightBrace)
    (split : significant ts = entries ++ closing :: after) :
    ∃ w rest, versionEntries e v.1 v.2 ts = .ok (w, rest) ∧ significant rest = after := by
  induction h generalizing ts v with
  | nil =>
    obtain ⟨more, read, left⟩ := nextSignificantComplete (e := e) split
    exact ⟨v, more, versionEntriesEnd read closes, left⟩
  | cons field value next ih =>
    obtain ⟨more, read, left⟩ := nextSignificantComplete (e := e) split
    obtain ⟨f, field⟩ := entryFieldIff.2 field
    obtain ⟨n, writes⟩ := value
    obtain ⟨ts₁, number, left⟩ := versionNumberComplete (e := e) (f := f) left writes
    obtain ⟨w, rest, later, left⟩ := ih left
    exact ⟨w, rest, by rw [versionEntriesRead read field number, later], left⟩

theorem versionBlockComplete {p : Nat} (h : Versioned (significant ts)) :
    ∃ v rest, versionBlock (.complete p) ts = .ok (v, rest) := by
  cases split : significant ts with
  | nil =>
    refine ⟨(0, 0), ts, ?_⟩
    rw [versionBlock, nextSignificantEnd split]
    rfl
  | cons t us =>
    obtain ⟨more, read, left⟩ := nextSignificantComplete (e := .complete p) split
    by_cases keyword : t.kind = .keyword .version
    · obtain ⟨block, after, parts, complete⟩ := h t (by rw [split]; rfl) keyword
      cases complete with
      | @block v opening closing entries _ opens inside closes =>
        rw [split, List.cons_append] at parts
        obtain ⟨rfl, same⟩ := List.cons.inj parts
        rw [same, List.cons_append, List.append_assoc, List.singleton_append] at left
        obtain ⟨ts₁, demanded, left⟩ :=
          demandComplete (e := .complete p) (x := .versionBody) left
        obtain ⟨w, rest, listed, _⟩ :=
          versionEntriesComplete (e := .complete p) (v := (0, 0)) inside closes left
        refine ⟨w, rest, ?_⟩
        rw [opens] at demanded
        simp only [versionBlock, read, if_pos keyword, demanded, bind, Except.bind, listed]
    · exact ⟨(0, 0), ts, by simp [versionBlock, read, keyword]⟩

theorem descriptionComplete {used after : List Token} (h : Optional .description used)
    (next : ∃ t us, after = t :: us ∧ t.kind ≠ .description)
    (split : significant ts = used ++ after) :
    ∃ d rest, description e ts = .ok (d, rest) ∧ significant rest = after := by
  rcases h with rfl | ⟨t, rfl, kind⟩
  · obtain ⟨t, us, rfl, other⟩ := next
    obtain ⟨more, read, left⟩ := nextSignificantComplete (e := e) split
    exact ⟨none, ts, by simp [description, read, other], split⟩
  · obtain ⟨more, read, left⟩ := nextSignificantComplete (e := e) split
    exact ⟨some t.literal, more, by simp [description, read, kind], left⟩

theorem interfaceClauseComplete {p : Nat} (h : InterfaceBegins (significant ts)) :
    ∃ i rest, interfaceClause (.complete p) ts = .ok (i, rest) := by
  generalize split : significant ts = us at h
  cases h with
  | @clause used rest i name opening documented keyword identifier opens version =>
    obtain ⟨d, ts₁, readDescription, left⟩ := descriptionComplete (e := .complete p) documented
      ⟨i, _, rfl, by simp [keyword]⟩ split
    obtain ⟨ts₂, readKeyword, left⟩ := demandComplete (e := .complete p) (x := .interface) left
    obtain ⟨ts₃, readName, left⟩ :=
      demandIdentifierComplete (e := .complete p) (x := .interfaceName) left identifier
    obtain ⟨ts₄, readOpening, left⟩ :=
      demandComplete (e := .complete p) (x := .interfaceBody) left
    obtain ⟨v, ts₅, readVersion⟩ := versionBlockComplete (p := p) (left ▸ version)
    rw [keyword] at readKeyword
    rw [opens] at readOpening
    refine ⟨⟨name.literal, d, v.1, v.2⟩, ts₅, ?_⟩
    simp only [interfaceClause, readDescription, readKeyword, readName, readOpening, readVersion,
      bind, Except.bind]

theorem clausesComplete {p : Nat} (h : HeaderBegins (significant ts)) :
    ∃ c rest, clauses (.complete p) ts = .ok (c, rest) := by
  generalize split : significant ts = us at h
  cases h with
  | @clauses k name used rest keyword identifier listed begins =>
    obtain ⟨ts₁, readKeyword, left⟩ := demandComplete (e := .complete p) (x := .package) split
    obtain ⟨ts₂, readName, left⟩ :=
      demandIdentifierComplete (e := .complete p) (x := .packageName) left identifier
    obtain ⟨is, ts₃, readImports, left⟩ := importsComplete (e := .complete p) listed begins left
    obtain ⟨i, ts₄, readInterface⟩ := interfaceClauseComplete (p := p) (left ▸ begins)
    rw [keyword] at readKeyword
    refine ⟨(⟨name.literal, is⟩, i), ts₄, ?_⟩
    simp only [clauses, packageClause, readKeyword, readName, readImports, readInterface, bind,
      Except.bind]

end Busbind.HeaderGrammar
