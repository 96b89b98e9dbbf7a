import Busbind.Definition
import Busbind.Grammar.VersionNumber
import Busbind.Scan

/-! The header of a definition: the package clause with its imports and the interface clause with
its version. Every slip here is a rejection. Readers take the tokens that are left, white space
included, and give back those after what they read; `e` is how the scan ends, which decides what a
reader meets after the last token. -/
namespace Busbind.Header

def next (e : Ending) : List Token → Except Rejection (Token × List Token)
  | t :: ts => .ok (t, ts)
  | [] =>
    match e with
    | .complete position => .ok (Token.endOfInput position, [])
    | .unclosed span => .error (.unclosedDescription span)

def nextSignificant (e : Ending) : List Token → Except Rejection (Token × List Token)
  | t :: ts => if t.isSignificant then .ok (t, ts) else nextSignificant e ts
  | [] => next e []

def demand (e : Ending) (kind : TokenKind) (expected : Expected) (ts : List Token) :
    Except Rejection (List Token) :=
  match nextSignificant e ts with
  | .error r => .error r
  | .ok (t, rest) => if t.kind = kind then .ok rest else .error (.unexpected expected t)

def demandIdentifier (e : Ending) (expected : Expected) (ts : List Token) :
    Except Rejection (String × List Token) :=
  match nextSignificant e ts with
  | .error r => .error r
  | .ok (t, rest) =>
    if t.kind = .identifier then .ok (t.literal, rest) else .error (.unexpected expected t)

/-- The texts of all tokens up to the closing quote, white space included. The end of the text
closes every quote. -/
def quoted (e : Ending) (close : Punctuation) : List Token → Except Rejection (String × List Token)
  | [] => (next e []).map fun r => ("", r.2)
  | t :: ts =>
    if t.kind = .punctuation close then .ok ("", ts)
    else (quoted e close ts).map fun r => (t.literal ++ r.1, r.2)

def quoteOf? (t : Token) : Option Punctuation :=
  match t.kind with
  | .punctuation .quote => some .quote
  | .punctuation .singleQuote => some .singleQuote
  | _ => none

/-- The source after the word `from`: quoted, or one bare identifier. Anything else is left for
whatever reads next. -/
def namedSource (e : Ending) (ts : List Token) : Except Rejection (String × List Token) :=
  match nextSignificant e ts with
  | .error r => .error r
  | .ok (t, rest) =>
    match quoteOf? t with
    | some q => quoted e q rest
    | none => if t.kind = .identifier then .ok (t.literal, rest) else .ok ("", ts)

def source (e : Ending) (ts : List Token) : Except Rejection (String × List Token) :=
  match nextSignificant e ts with
  | .error r => .error r
  | .ok (t, rest) =>
    if t.kind = .identifier && t.literal == "from" then namedSource e rest
    else
      match quoteOf? t with
      | some q => quoted e q rest
      | none => .ok ("", ts)

def wildcard (e : Ending) (ts : List Token) : Except Rejection (Bool × List Token) :=
  match nextSignificant e ts with
  | .error r => .error r
  | .ok (t, rest) =>
    if t.kind = .punctuation .asterisk then .ok (true, rest) else .ok (false, ts)

def importClause (e : Ending) (ts : List Token) : Except Rejection (Import × List Token) := do
  let (path, ts) ← demandIdentifier e .importPath ts
  let (wild, ts) ← wildcard e ts
  let (source, ts) ← source e ts
  .ok (⟨if wild then path ++ "*" else path, source⟩, ts)

theorem nextSignificantShortens {e : Ending} {ts rest : List Token} {t : Token}
    (h : nextSignificant e ts = .ok (t, rest)) :
    rest.length ≤ ts.length ∧ (t.kind ≠ .endOfInput → rest.length < ts.length) := by
  induction ts with
  | nil =>
    cases e <;> simp [nextSignificant, next] at h
    obtain ⟨same, rfl⟩ := h
    subst same
    simp [Token.endOfInput]
  | cons u us ih =>
    simp only [nextSignificant] at h
    split at h
    · cases h
      simp
    · have := ih h
      simp only [List.length_cons]
      omega

theorem demandIdentifierShortens {e : Ending} {expected : Expected} {ts rest : List Token}
    {s : String} (h : demandIdentifier e expected ts = .ok (s, rest)) :
    rest.length ≤ ts.length := by
  unfold demandIdentifier at h
  split at h
  · contradiction
  · rename_i read
    split at h
    · cases h
      exact (nextSignificantShortens read).1
    · contradiction

theorem quotedShortens {e : Ending} {q : Punctuation} {ts rest : List Token} {s : String}
    (h : quoted e q ts = .ok (s, rest)) : rest.length ≤ ts.length := by
  induction ts generalizing s with
  | nil => cases e <;> simp [quoted, next, Except.map] at h; simp [← h.2]
  | cons t ts ih =>
    simp only [quoted] at h
    split at h
    · cases h
      simp
    · cases tail : quoted e q ts with
      | error r => simp [tail, Except.map] at h
      | ok r =>
        simp only [tail, Except.map] at h
        cases h
        exact Nat.le_succ_of_le (ih tail)

theorem namedSourceShortens {e : Ending} {ts rest : List Token} {s : String}
    (h : namedSource e ts = .ok (s, rest)) : rest.length ≤ ts.length := by
  unfold namedSource at h
  split at h
  · contradiction
  · rename_i read
    have shorter := (nextSignificantShortens read).1
    split at h
    · exact Nat.le_trans (quotedShortens h) shorter
    · split at h <;> cases h
      · exact shorter
      · exact Nat.le_refl _

theorem sourceShortens {e : Ending} {ts rest : List Token} {s : String}
    (h : source e ts = .ok (s, rest)) : rest.length ≤ ts.length := by
  unfold source at h
  split at h
  · contradiction
  · rename_i read
    have shorter := (nextSignificantShortens read).1
    split at h
    · exact Nat.le_trans (namedSourceShortens h) shorter
    · split at h
      · exact Nat.le_trans (quotedShortens h) shorter
      · cases h
        exact Nat.le_refl _

theorem wildcardShortens {e : Ending} {ts rest : List Token} {b : Bool}
    (h : wildcard e ts = .ok (b, rest)) : rest.length ≤ ts.length := by
  unfold wildcard at h
  split at h
  · contradiction
  · rename_i read
    split at h <;> cases h
    · exact (nextSignificantShortens read).1
    · exact Nat.le_refl _

theorem importClauseShortens {e : Ending} {ts rest : List Token} {i : Import}
    (h : importClause e ts = .ok (i, rest)) : rest.length ≤ ts.length := by
  simp only [importClause, bind, Except.bind] at h
  split at h
  · contradiction
  · rename_i path
    split at h
    · contradiction
    · rename_i wild
      split at h
      · contradiction
      · rename_i from'
        cases h
        exact Nat.le_trans (sourceShortens from')
          (Nat.le_trans (wildcardShortens wild) (demandIdentifierShortens path))

def imports (e : Ending) (ts : List Token) : Except Rejection (List Import × List Token) :=
  match _h : nextSignificant e ts with
  | .error r => .error r
  | .ok (t, rest) =>
    if _k : t.kind = .keyword .imports then
      match _i : importClause e rest with
      | .error r => .error r
      | .ok (i, rest) => (imports e rest).map fun r => (i :: r.1, r.2)
    else .ok ([], ts)
termination_by ts.length
decreasing_by
  have clause := importClauseShortens _i
  have keyword := (nextSignificantShortens _h).2 (by simp [_k])
  omega

theorem importsEq (e : Ending) (ts : List Token) :
    imports e ts = match nextSignificant e ts with
      | .error r => .error r
      | .ok (t, rest) =>
        if t.kind = .keyword .imports then
          match importClause e rest with
          | .error r => .error r
          | .ok (i, rest) => (imports e rest).map fun r => (i :: r.1, r.2)
        else .ok ([], ts) := by
  rw [imports]
  split
  · simp [*]
  · rename_i read
    rw [read]
    split
    · rename_i keyword
      simp only [keyword, if_true]
      split <;> simp [*]
    · rename_i other
      simp only [other, if_false]

def packageClause (e : Ending) (ts : List Token) :
    Except Rejection (PackageClause × List Token) := do
  let ts ← demand e (.keyword .package) .package ts
  let (name, ts) ← demandIdentifier e .packageName ts
  let (imports, ts) ← imports e ts
  .ok (⟨name, imports⟩, ts)

/-- The number of a version entry, read from the text of whatever token comes next. -/
def versionNumber (e : Ending) (field : VersionField) (ts : List Token) :
    Except Rejection (UInt32 × List Token) :=
  match nextSignificant e ts with
  | .error r => .error r
  | .ok (t, rest) =>
    match VersionNumber.ofText t.literal with
    | .ok n => .ok (n, rest)
    | .error fault => .error (.invalidNumber field t fault)

theorem versionNumberShortens {e : Ending} {f : VersionField} {ts rest : List Token} {n : UInt32}
    (h : versionNumber e f ts = .ok (n, rest)) : rest.length ≤ ts.length := by
  unfold versionNumber at h
  split at h
  · contradiction
  · rename_i read
    split at h
    · cases h
      exact (nextSignificantShortens read).1
    · contradiction

def entryField? : TokenKind → Option VersionField
  | .keyword .major => some .major
  | .keyword .minor => some .minor
  | _ => none

/-- The entries of a version block up to its closing brace. Of two entries for one field the later
counts. -/
def versionEntries (e : Ending) (major minor : UInt32) (ts : List Token) :
    Except Rejection ((UInt32 × UInt32) × List Token) :=
  match _h : nextSignificant e ts with
  | .error r => .error r
  | .ok (t, rest) =>
    match _f : entryField? t.kind with
    | some field =>
      match _n : versionNumber e field rest with
      | .error r => .error r
      | .ok (n, rest) =>
        match field with
        | .major => versionEntries e n minor rest
        | .minor => versionEntries e major n rest
    | none =>
      if t.kind = .punctuation .rightBrace then .ok ((major, minor), rest)
      else .error (.unexpected .versionEntry t)
termination_by ts.length
decreasing_by
  all_goals
    have number := versionNumberShortens _n
    have entry := (nextSignificantShortens _h).2 (by intro k; simp [k, entryField?] at _f)
    omega

theorem versionEntriesEq (e : Ending) (major minor : UInt32) (ts : List Token) :
    versionEntries e major minor ts = match nextSignificant e ts with
      | .error r => .error r
      | .ok (t, rest) =>
        match entryField? t.kind with
        | some field =>
          match versionNumber e field rest with
          | .error r => .error r
          | .ok (n, rest) =>
            match field with
            | .major => versionEntries e n minor rest
            | .minor => versionEntries e major n rest
        | none =>
          if t.kind = .punctuation .rightBrace then .ok ((major, minor), rest)
          else .error (.unexpected .versionEntry t) := by
  rw [versionEntries]
  split
  · simp [*]
  · rename_i read
    rw [read]
    split
    · rename_i field entry
      simp only [entry]
      split
      · simp [*]
      · rename_i number
        simp only [number]
        cases field <;> rfl
    · rename_i entry
      simp only [entry]

def versionBlock (e : Ending) (ts : List Token) :
    Except Rejection ((UInt32 × UInt32) × List Token) :=
  match nextSignificant e ts with
  | .error r => .error r
  | .ok (t, rest) =>
    if t.kind = .keyword .version then do
      let rest ← demand e (.punctuation .leftBrace) .versionBody rest
      versionEntries e 0 0 rest
    else .ok ((0, 0), ts)

def description (e : Ending) (ts : List Token) : Except Rejection (Option String × List Token) :=
  match nextSignificant e ts with
  | .error r => .error r
  | .ok (t, rest) =>
    if t.kind = .description then .ok (some t.literal, rest) else .ok (none, ts)

def interfaceClause (e : Ending) (ts : List Token) :
    Except Rejection (InterfaceClause × List Token) := do
  let (description, ts) ← description e ts
  let ts ← demand e (.keyword .interface) .interface ts
  let (name, ts) ← demandIdentifier e .interfaceName ts
  let ts ← demand e (.punctuation .leftBrace) .interfaceBody ts
  let ((major, minor), ts) ← versionBlock e ts
  .ok (⟨name, description, major, minor⟩, ts)

def clauses (e : Ending) (ts : List Token) :
    Except Rejection ((PackageClause × InterfaceClause) × List Token) := do
  let (package, ts) ← packageClause e ts
  let (interface, ts) ← interfaceClause e ts
  .ok ((package, interface), ts)

end Busbind.Header
