import Busbind.Grammar.Header
import Busbind.Proofs.Outcome
import Busbind.Proofs.VersionValue

/-! The grammar of the header, said of significant tokens alone, and what the readers of a single
token or entry do to the significant tokens. -/
namespace Busbind.HeaderGrammar
open Header Outcome

def significant (ts : List Token) : List Token := ts.filter Token.isSignificant

def Optional (kind : TokenKind) (ts : List Token) : Prop := ts = [] ∨ ∃ t, ts = [t] ∧ t.kind = kind

inductive Quoted : List Token → Prop where
  | marks {q : Punctuation} {opening closing : Token} {body : List Token}
      (sort : q = .quote ∨ q = .singleQuote) (opens : opening.kind = .punctuation q)
      (inside : ∀ t ∈ body, t.kind ≠ .punctuation q) (closes : closing.kind = .punctuation q) :
      Quoted (opening :: body ++ [closing])

def Named (ts : List Token) : Prop := Optional .identifier ts ∨ Quoted ts

inductive Source : List Token → Prop where
  | quoted {ts} (h : Quoted ts) : Source ts
  | named {f ts} (kind : f.kind = .identifier) (word : f.literal = "from") (h : Named ts) :
      Source (f :: ts)

inductive ImportClause : List Token → Prop where
  | clause {i path : Token} {star source : List Token} (keyword : i.kind = .keyword .imports)
      (identifier : path.kind = .identifier) (wild : Optional (.punctuation .asterisk) star)
      (from' : source = [] ∨ Source source) : ImportClause (i :: path :: (star ++ source))

inductive Imports : List Token → Prop where
  | nil : Imports []
  | cons {ts us} (first : ImportClause ts) (next : Imports us) : Imports (ts ++ us)

inductive Entries : List Token → Prop where
  | nil : Entries []
  | cons {f v : Token} {ts} (field : f.kind = .keyword .major ∨ f.kind = .keyword .minor)
      (value : ∃ n, VersionNumber.Writes v.literal n) (next : Entries ts) : Entries (f :: v :: ts)

inductive VersionBlock : List Token → Prop where
  | block {v opening closing : Token} {entries : List Token} (keyword : v.kind = .keyword .version)
      (opens : opening.kind = .punctuation .leftBrace) (inside : Entries entries)
      (closes : closing.kind = .punctuation .rightBrace) :
      VersionBlock (v :: opening :: (entries ++ [closing]))

def Versioned (ts : List Token) : Prop :=
  ∀ t, ts.head? = some t → t.kind = .keyword .version → ∃ block rest, ts = block ++ rest ∧
    VersionBlock block

inductive InterfaceBegins : List Token → Prop where
  | clause {description rest : List Token} {i name opening : Token}
      (documented : Optional .description description) (keyword : i.kind = .keyword .interface)
      (identifier : name.kind = .identifier) (opens : opening.kind = .punctuation .leftBrace)
      (version : Versioned rest) :
      InterfaceBegins (description ++ i :: name :: opening :: rest)

inductive HeaderBegins : List Token → Prop where
  | clauses {p name : Token} {imports rest : List Token} (keyword : p.kind = .keyword .package)
      (identifier : name.kind = .identifier) (listed : Imports imports)
      (interface : InterfaceBegins rest) : HeaderBegins (p :: name :: (imports ++ rest))

section Reading
variable {e : Ending} {ts rest : List Token} {t : Token}

theorem significantAppend (ts us : List Token) :
    significant (ts ++ us) = significant ts ++ significant us := List.filter_append ..

theorem significantOfKind {t : Token} (h : t.kind ≠ .whitespace) (ts : List Token) :
    significant (t :: ts) = t :: significant ts := by
  simp [significant, Token.isSignificant, h]

theorem nextSignificantSound (h : nextSignificant e ts = .ok (t, rest)) :
    significant ts = t :: significant rest ∨
      significant ts = [] ∧ ∃ p, e = .complete p ∧ t = Token.endOfInput p := by
  induction ts with
  | nil =>
    cases e with
    | complete p => cases h; exact .inr ⟨rfl, p, rfl, rfl⟩
    | unclosed s => contradiction
  | cons u us ih =>
    simp only [nextSignificant] at h
    split at h
    · rename_i here
      cases h
      exact .inl (by simp [significant, here])
    · rename_i here
      have skipped : significant (u :: us) = significant us := by simp [significant, here]
      rw [skipped]
      exact ih h

theorem nextSignificantTakes (h : nextSignificant e ts = .ok (t, rest))
    (more : t.kind ≠ .endOfInput) : significant ts = t :: significant rest := by
  rcases nextSignificantSound h with found | ⟨_, p, _, rfl⟩
  · exact found
  · contradiction

theorem nextSignificantComplete {us : List Token} (h : significant ts = t :: us) :
    ∃ rest, nextSignificant e ts = .ok (t, rest) ∧ significant rest = us := by
  induction ts with
  | nil => contradiction
  | cons u vs ih =>
    simp only [nextSignificant]
    split
    · rename_i here
      simp only [significant, List.filter_cons, here, if_true, List.cons.injEq] at h
      exact ⟨vs, by rw [h.1], h.2⟩
    · rename_i here
      exact ih (by simpa [significant, here] using h)

theorem nextSignificantEnd {p : Nat} (h : significant ts = []) :
    nextSignificant (.complete p) ts = .ok (Token.endOfInput p, []) := by
  induction ts with
  | nil => rfl
  | cons u us ih =>
    simp only [significant, List.filter_cons] at h
    split at h
    · contradiction
    · rename_i here
      simp only [nextSignificant, if_neg here]
      exact ih h

theorem demandSound {kind : TokenKind} {x : Expected} (proper : kind ≠ .endOfInput)
    (h : demand e kind x ts = .ok rest) :
    ∃ t, significant ts = t :: significant rest ∧ t.kind = kind := by
  unfold demand at h
  split at h
  · contradiction
  · rename_i t more read
    split at h <;> cases h
    rename_i same
    exact ⟨t, nextSignificantTakes read (same ▸ proper), same⟩

theorem demandComplete {us : List Token} {x : Expected} (h : significant ts = t :: us) :
    ∃ rest, demand e t.kind x ts = .ok rest ∧ significant rest = us := by
  obtain ⟨rest, read, left⟩ := nextSignificantComplete (e := e) h
  exact ⟨rest, by simp [demand, read], left⟩

theorem demandIdentifierSound {x : Expected} {s : String}
    (h : demandIdentifier e x ts = .ok (s, rest)) :
    ∃ t, significant ts = t :: significant rest ∧ t.kind = .identifier ∧ t.literal = s := by
  unfold demandIdentifier at h
  split at h
  · contradiction
  · rename_i t more read
    split at h <;> cases h
    rename_i same
    exact ⟨t, nextSignificantTakes read (by simp [same]), same, rfl⟩

theorem demandIdentifierComplete {us : List Token} {x : Expected} (h : significant ts = t :: us)
    (kind : t.kind = .identifier) :
    ∃ rest, demandIdentifier e x ts = .ok (t.literal, rest) ∧ significant rest = us := by
  obtain ⟨rest, read, left⟩ := nextSignificantComplete (e := e) h
  exact ⟨rest, by simp [demandIdentifier, read, kind], left⟩

theorem quoteOfIff {t : Token} {q : Punctuation} :
    quoteOf? t = some q ↔ t.kind = .punctuation q ∧ (q = .quote ∨ q = .singleQuote) := by
  unfold quoteOf?
  constructor
  · intro h
    split at h <;> cases h
    · exact ⟨by assumption, .inl rfl⟩
    · exact ⟨by assumption, .inr rfl⟩
  · rintro ⟨kind, rfl | rfl⟩ <;> simp [kind]

theorem importsRead {keyword : Token} {more after : List Token} {i : Import}
    (read : nextSignificant e ts = .ok (keyword, more)) (kind : keyword.kind = .keyword .imports)
    (clause : importClause e more = .ok (i, after)) :
    imports e ts = (imports e after).map fun r => (i :: r.1, r.2) := by
  rw [importsEq, read]
  simp only [kind, if_true, clause]

theorem importsEnd {other : Token} {more : List Token}
    (read : nextSignificant e ts = .ok (other, more)) (kind : other.kind ≠ .keyword .imports) :
    imports e ts = .ok ([], ts) := by
  rw [importsEq, read]
  simp only [kind, if_false]

theorem versionNumberSound {f : VersionField} {n : UInt32}
    (h : versionNumber e f ts = .ok (n, rest)) :
    ∃ t, significant ts = t :: significant rest ∧ VersionNumber.Writes t.literal n := by
  unfold versionNumber at h
  split at h
  · contradiction
  · rename_i t more read
    split at h
    · rename_i m number
      cases h
      rcases nextSignificantSound read with found | ⟨_, p, _, rfl⟩
      · exact ⟨t, found, (VersionNumber.ofTextIff _ _).1 number⟩
      · contradiction
    · contradiction

theorem versionNumberComplete {f : VersionField} {n : UInt32} {after : List Token}
    (split : significant ts = t :: after) (value : VersionNumber.Writes t.literal n) :
    ∃ rest, versionNumber e f ts = .ok (n, rest) ∧ significant rest = after := by
  obtain ⟨rest, read, left⟩ := nextSignificantComplete (e := e) split
  have number := (VersionNumber.ofTextIff _ _).2 value
  exact ⟨rest, by simp [versionNumber, read, number], left⟩

theorem entryFieldIff {k : TokenKind} :
    (∃ f, entryField? k = some f) ↔ k = .keyword .major ∨ k = .keyword .minor := by
  constructor
  · rintro ⟨f, h⟩
    unfold entryField? at h
    split at h
    · exact .inl rfl
    · exact .inr rfl
    · contradiction
  · rintro (rfl | rfl)
    · exact ⟨.major, rfl⟩
    · exact ⟨.minor, rfl⟩

def entered (f : VersionField) (n : UInt32) (v : UInt32 × UInt32) : UInt32 × UInt32 :=
  match f with
  | .major => (n, v.2)
  | .minor => (v.1, n)

theorem versionEntriesRead {f : VersionField} {n : UInt32} {more after : List Token}
    {v : UInt32 × UInt32} (read : nextSignificant e ts = .ok (t, more))
    (field : entryField? t.kind = some f) (number : versionNumber e f more = .ok (n, after)) :
    versionEntries e v.1 v.2 ts =
      versionEntries e (entered f n v).1 (entered f n v).2 after := by
  rw [versionEntriesEq, read]
  simp only [field, number]
  cases f <;> rfl

theorem versionEntriesEnd {v : UInt32 × UInt32} {more : List Token}
    (read : nextSignificant e ts = .ok (t, more)) (closes : t.kind = .punctuation .rightBrace) :
    versionEntries e v.1 v.2 ts = .ok (v, more) := by
  rw [versionEntriesEq, read]
  simp only [closes, entryField?, if_true]

theorem interfaceFront (h : InterfaceBegins ts) :
    ∃ t us, ts = t :: us ∧ (t.kind = .description ∨ t.kind = .keyword .interface) := by
  cases h with
  | clause documented keyword _ _ _ =>
    rcases documented with rfl | ⟨t, rfl, kind⟩
    · exact ⟨_, _, rfl, .inr keyword⟩
    · exact ⟨t, _, rfl, .inl kind⟩

end Reading

end Busbind.HeaderGrammar
