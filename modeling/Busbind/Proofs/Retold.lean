import Busbind.Grammar
import Busbind.Proofs.HeaderSound
import Busbind.Proofs.HeaderText

/-! Tokens at no place, in which the descriptions say something else. The readers decide by the
kinds of tokens and by the texts of those that are no descriptions: what they make of a text is what
they make of the retold tokens, retold, as long as no description stands where a text counts
whatever its kind is. -/
namespace Busbind
variable (g : String → String)

def Token.retoldText (t : Token) : String :=
  if t.kind = .description then g t.literal else t.literal

@[reducible] def Token.retold (t : Token) : Token := ⟨t.kind, t.retoldText g, ⟨0, 0⟩⟩

def Rejection.retold : Rejection → Rejection
  | .unexpected expected found => .unexpected expected (found.retold g)
  | .invalidNumber field found fault => .invalidNumber field (found.retold g) fault
  | .unclosedDescription _ => .unclosedDescription ⟨0, 0⟩
  | .unreadable reason => .unreadable reason

def Parameter.retold (p : Parameter) : Parameter := { p with description := g p.description }

def Attribute.retold (a : Attribute) : Attribute := { a with description := g a.description }

def Method.retold (m : Method) : Method :=
  { m with
    description := g m.description
    inputs := m.inputs.map (Parameter.retold g)
    outputs := m.outputs.map (Parameter.retold g) }

def Broadcast.retold (b : Broadcast) : Broadcast :=
  { b with description := g b.description, outputs := b.outputs.map (Parameter.retold g) }

def Struct.retold (s : Struct) : Struct :=
  { s with description := g s.description, fields := s.fields.map (Parameter.retold g) }

def Typedef.retold (t : Typedef) : Typedef := { t with description := g t.description }

def ArrayAlias.retold (a : ArrayAlias) : ArrayAlias := { a with description := g a.description }

def Declaration.retold : Declaration → Declaration
  | .attr a => .attr (a.retold g)
  | .method m => .method (m.retold g)
  | .broadcast b => .broadcast (b.retold g)
  | .struct s => .struct (s.retold g)
  | .typedef t => .typedef (t.retold g)
  | .array a => .array (a.retold g)

def InterfaceClause.retold (i : InterfaceClause) : InterfaceClause :=
  { i with description := i.description.map g }

def Definition.retold (d : Definition) : Definition where
  package := d.package
  interface := d.interface.retold g
  attributes := d.attributes.map (Attribute.retold g)
  methods := d.methods.map (Method.retold g)
  broadcasts := d.broadcasts.map (Broadcast.retold g)
  structs := d.structs.map (Struct.retold g)
  typedefs := d.typedefs.map (Typedef.retold g)
  arrays := d.arrays.map (ArrayAlias.retold g)

namespace Retold

def told (ts : List Token) : List Token := ts.map (Token.retold g)

def reading {α β : Type} (f : α → β) (r : α × List Token) : β × List Token := (f r.1, told g r.2)

def outcome {α β : Type} (f : α → β) : Except Rejection α → Except Rejection β
  | .ok a => .ok (f a)
  | .error r => .error (r.retold g)

@[simp] theorem toldNil : told g [] = [] := rfl
@[simp] theorem toldCons (t : Token) (ts : List Token) :
    told g (t :: ts) = t.retold g :: told g ts := rfl
@[simp] theorem readingPair {α β : Type} (f : α → β) (a : α) (ts : List Token) :
    reading g f (a, ts) = (f a, told g ts) := rfl
@[simp] theorem outcomeOk {α β : Type} (f : α → β) (a : α) : outcome g f (.ok a) = .ok (f a) := rfl
@[simp] theorem outcomeError {α β : Type} (f : α → β) (r : Rejection) :
    outcome g f (.error r) = .error (r.retold g) := rfl

@[simp] theorem outcomeIf {α β : Type} (f : α → β) (c : Prop) [Decidable c]
    (x y : Except Rejection α) :
    outcome g f (if c then x else y) = if c then outcome g f x else outcome g f y := by
  split <;> rfl

variable {g}

theorem outcomeBind {α β γ δ : Type} {f : α → β} {h : γ → δ} {x : Except Rejection α}
    {y : Except Rejection β} {k : α → Except Rejection γ} {l : β → Except Rejection δ}
    (first : y = outcome g f x) (next : ∀ a, x = .ok a → l (f a) = outcome g h (k a)) :
    (y >>= l) = outcome g h (x >>= k) := by
  rw [first]
  cases x with
  | error r => rfl
  | ok a => exact next a rfl

def Kept (g : String → String) (t : Token) : Prop := t.retoldText g = t.literal

theorem keptOther {t : Token} (other : t.kind ≠ .description) : Kept g t := if_neg other

theorem identifierKept {t : Token} (identifier : t.kind = .identifier) :
    t.retoldText g = t.literal := keptOther (by simp [identifier])

theorem descriptionTold {t : Token} (described : t.kind = .description) :
    t.retoldText g = g t.literal := if_pos described

def KeptAt (g : String → String) (R : List Token → Token → List Token → Prop)
    (us : List Token) : Prop :=
  ∀ before t after, us = before ++ t :: after → R before t after → Kept g t

section Places
variable {R R' : List Token → Token → List Token → Prop} {us : List Token}

theorem keptBehind (used : List Token) (kept : KeptAt g R (used ++ us))
    (place : ∀ before t after, R' before t after → R (used ++ before) t after) :
    KeptAt g R' us := by
  intro before t after split here
  exact kept (used ++ before) t after (by rw [split, List.append_assoc]) (place before t after here)

theorem keptNone : KeptAt g R [] := by
  intro before t after split
  simp at split

end Places

section Agreement
variable {α β γ δ : Type}

def Spent (x : Except Rejection (α × List Token)) : Prop :=
  ∃ a rest, x = .ok (a, rest) ∧ HeaderGrammar.significant rest = []

/-- The retold tokens give what the tokens give, retold, unless both are read to the end. -/
def Agree (g : String → String) (f : α → β) (x : Except Rejection (α × List Token))
    (y : Except Rejection (β × List Token)) : Prop :=
  y = outcome g (reading g f) x ∨ Spent x ∧ Spent y

theorem agreeBind {f : α → β} {h : γ → δ} {x : Except Rejection α} {y : Except Rejection β}
    {k : α → Except Rejection (γ × List Token)} {l : β → Except Rejection (δ × List Token)}
    (first : y = outcome g f x) (next : ∀ a, x = .ok a → Agree g h (k a) (l (f a))) :
    Agree g h (x >>= k) (y >>= l) := by
  rw [first]
  cases x with
  | error r => exact .inl rfl
  | ok a => exact next a rfl

theorem agreeMap (k : α → γ) {x y : Except Rejection (α × List Token)} (first : Agree g id x y) :
    Agree g id (x.map fun r => (k r.1, r.2)) (y.map fun r => (k r.1, r.2)) := by
  rcases first with rfl | ⟨⟨a, rest, rfl, spent⟩, b, rest', rfl, spent'⟩
  · cases x <;> exact .inl rfl
  · exact .inr ⟨⟨k a, rest, rfl, spent⟩, k b, rest', rfl, spent'⟩

end Agreement

section Header
open Header HeaderGrammar HeaderText
variable {p : Nat}

theorem nextSignificantRetold (ts : List Token) :
    nextSignificant (.complete 0) (told g ts) =
      outcome g (fun r => (r.1.retold g, told g r.2)) (nextSignificant (.complete p) ts) := by
  induction ts with
  | nil => rfl
  | cons t ts ih =>
    have same : (t.retold g).isSignificant = t.isSignificant := rfl
    simp only [toldCons, nextSignificant, same, ih, outcomeIf, outcomeOk]

theorem demandRetold (kind : TokenKind) (x : Expected) (ts : List Token) :
    demand (.complete 0) kind x (told g ts) =
      outcome g (told g) (demand (.complete p) kind x ts) := by
  simp only [demand, nextSignificantRetold (p := p) ts]
  cases nextSignificant (.complete p) ts with
  | error r => rfl
  | ok r => simp only [outcomeOk, outcomeIf]; rfl

theorem demandIdentifierRetold (x : Expected) (ts : List Token) :
    demandIdentifier (.complete 0) x (told g ts) =
      outcome g (reading g id) (demandIdentifier (.complete p) x ts) := by
  simp only [demandIdentifier, nextSignificantRetold (p := p) ts]
  cases nextSignificant (.complete p) ts with
  | error r => rfl
  | ok r =>
    simp only [outcomeOk, outcomeIf]
    split
    · rename_i identifier
      rw [identifierKept identifier]
      rfl
    · rfl

theorem quotedClosed {q : Punctuation} {ts : List Token}
    (kept : KeptAt g (Inside q) (significant ts))
    (closed : ∃ u ∈ significant ts, u.kind = .punctuation q) :
    quoted (.complete 0) q (told g ts) =
      outcome g (reading g id) (quoted (.complete p) q ts) := by
  induction ts with
  | nil =>
    obtain ⟨u, mem, _⟩ := closed
    exact absurd mem List.not_mem_nil
  | cons t ts ih =>
    simp only [toldCons, quoted, outcomeIf]
    split
    · rfl
    · rename_i open'
      have rest : Kept g t ∧ KeptAt g (Inside q) (significant ts) ∧
          ∃ u ∈ significant ts, u.kind = .punctuation q := by
        by_cases blank : t.kind = .whitespace
        · have skipped : significant (t :: ts) = significant ts := by
            simp [significant, Token.isSignificant, blank]
          rw [skipped] at kept closed
          exact ⟨keptOther (by simp [blank]), kept, closed⟩
        · rw [significantOfKind blank] at kept closed
          obtain ⟨u, mem, closes⟩ := closed
          have later : u ∈ significant ts := by
            rcases List.mem_cons.1 mem with rfl | later
            · exact absurd closes open'
            · exact later
          refine ⟨kept [] t _ rfl ⟨List.forall_mem_nil _, open', u, later, closes⟩,
            keptBehind [t] kept ?_, u, later, closes⟩
          intro before v after inside
          exact ⟨List.forall_mem_cons.2 ⟨open', inside.1⟩, inside.2⟩
      rw [ih rest.2.1 rest.2.2, rest.1]
      cases quoted (.complete p) q ts <;> rfl

theorem quotedOpen {q : Punctuation} {ts : List Token}
    (open' : ∀ u ∈ significant ts, u.kind ≠ .punctuation q) :
    Spent (quoted (.complete p) q ts) := by
  induction ts with
  | nil => exact ⟨"", [], rfl, rfl⟩
  | cons t ts ih =>
    have rest : t.kind ≠ .punctuation q ∧ ∀ u ∈ significant ts, u.kind ≠ .punctuation q := by
      by_cases blank : t.kind = .whitespace
      · have skipped : significant (t :: ts) = significant ts := by
          simp [significant, Token.isSignificant, blank]
        exact ⟨by simp [blank], skipped ▸ open'⟩
      · rw [significantOfKind blank] at open'
        exact List.forall_mem_cons.1 open'
    obtain ⟨s, us, read, spent⟩ := ih rest.2
    exact ⟨t.literal ++ s, us, by rw [quoted, if_neg rest.1, read]; rfl, spent⟩

theorem significantRetold (ts : List Token) :
    (told g ts).filter Token.isSignificant = told g (ts.filter Token.isSignificant) := by
  rw [told, List.filter_map]
  rfl

theorem quotedRetold {q : Punctuation} {ts : List Token}
    (kept : KeptAt g (Inside q) (significant ts)) :
    Agree g id (quoted (.complete p) q ts) (quoted (.complete 0) q (told g ts)) := by
  by_cases closed : ∃ u ∈ significant ts, u.kind = .punctuation q
  · exact .inl (quotedClosed kept closed)
  · have open' : ∀ u ∈ significant ts, u.kind ≠ .punctuation q :=
      fun u mem closes => closed ⟨u, mem, closes⟩
    refine .inr ⟨quotedOpen open', quotedOpen ?_⟩
    rw [significant, significantRetold, told, List.forall_mem_map]
    exact open'

theorem quoteOfRetold (t : Token) : quoteOf? (t.retold g) = quoteOf? t := rfl

theorem namedSourceRetold {ts : List Token} (kept : KeptAt g InName (significant ts)) :
    Agree g id (namedSource (.complete p) ts) (namedSource (.complete 0) (told g ts)) := by
  simp only [namedSource, nextSignificantRetold (p := p) ts]
  cases read : nextSignificant (.complete p) ts with
  | error r => exact .inl rfl
  | ok r =>
    simp only [outcomeOk, quoteOfRetold]
    cases mark : quoteOf? r.1 with
    | some q =>
      rw [nextSignificantTakes read (markMore mark)] at kept
      exact quotedRetold (keptBehind [r.1] kept fun _ _ _ inside => .quoted mark inside)
    | none =>
      refine .inl ?_
      simp only [outcomeIf]
      split
      · rename_i identifier
        rw [identifierKept identifier]
        rfl
      · rfl

theorem sourceRetold {ts : List Token} (kept : KeptAt g InSource (significant ts)) :
    Agree g id (source (.complete p) ts) (source (.complete 0) (told g ts)) := by
  simp only [source, nextSignificantRetold (p := p) ts]
  cases read : nextSignificant (.complete p) ts with
  | error r => exact .inl rfl
  | ok r =>
    have word : (decide (r.1.kind = .identifier) && r.1.retoldText g == "from") =
        (decide (r.1.kind = .identifier) && r.1.literal == "from") := by
      by_cases identifier : r.1.kind = .identifier
      · rw [identifierKept identifier]
      · simp [identifier]
    simp only [outcomeOk, quoteOfRetold, word]
    split
    · rename_i named
      simp only [Bool.and_eq_true, decide_eq_true_eq, beq_iff_eq] at named
      rw [nextSignificantTakes read (by simp [named.1])] at kept
      exact namedSourceRetold
        (keptBehind [r.1] kept fun _ _ _ inside => .named named.1 named.2 inside)
    · cases mark : quoteOf? r.1 with
      | some q =>
        rw [nextSignificantTakes read (markMore mark)] at kept
        exact quotedRetold
          (keptBehind [r.1] kept fun _ _ _ inside => .quoted (.quoted mark inside))
      | none => exact .inl rfl

theorem wildcardRetold (ts : List Token) :
    wildcard (.complete 0) (told g ts) = outcome g (reading g id) (wildcard (.complete p) ts) := by
  simp only [wildcard, nextSignificantRetold (p := p) ts]
  cases nextSignificant (.complete p) ts with
  | error r => rfl
  | ok r => simp only [outcomeOk, outcomeIf]; rfl

theorem importClauseRetold {ts : List Token} (kept : KeptAt g InClause (significant ts)) :
    Agree g id (importClause (.complete p) ts) (importClause (.complete 0) (told g ts)) := by
  refine agreeBind (demandIdentifierRetold .importPath ts) fun path readPath => ?_
  refine agreeBind (wildcardRetold path.2) fun wild readWild => ?_
  obtain ⟨t, takes, identifier, _⟩ := demandIdentifierSound readPath
  obtain ⟨star, split, optional⟩ := wildcardSound readWild
  rw [takes, split] at kept
  have behind : KeptAt g InSource (significant wild.2) :=
    keptBehind (t :: star) kept fun _ _ _ inside => .source identifier optional inside
  exact agreeMap (Import.mk (if wild.1 then path.1 ++ "*" else path.1)) (sourceRetold behind)

theorem importsSpent {ts : List Token} (spent : significant ts = []) :
    imports (.complete p) ts = .ok ([], ts) :=
  importsEnd (nextSignificantEnd spent) nofun

theorem importsRetold {ts : List Token} (kept : KeptAt g InImports (significant ts)) :
    Agree g id (imports (.complete p) ts) (imports (.complete 0) (told g ts)) := by
  have clauseAgrees {t : Token} {ts rest : List Token} (kept : KeptAt g InImports (significant ts))
      (read : nextSignificant (.complete p) ts = .ok (t, rest))
      (keyword : t.kind = .keyword .imports) :
      Agree g id (importClause (.complete p) rest) (importClause (.complete 0) (told g rest)) := by
    rw [nextSignificantTakes read (by simp [keyword])] at kept
    exact importClauseRetold
      (keptBehind [t] kept fun _ _ _ inside => .clause .nil keyword inside)
  fun_induction imports (.complete p) ts with
  | case1 ts r read =>
    rw [importsEq (.complete 0), nextSignificantRetold (p := p), read]
    exact .inl rfl
  | case2 ts t rest read keyword r clause =>
    rw [importsEq (.complete 0), nextSignificantRetold (p := p), read]
    rcases clauseAgrees kept read keyword with same | ⟨⟨i, after, ok, _⟩, _⟩
    · simp only [outcomeOk, keyword, if_true, same, clause, outcomeError]
      exact .inl rfl
    · rw [clause] at ok
      contradiction
  | case3 ts t rest read keyword i after clause ih =>
    rw [importsEq (.complete 0), nextSignificantRetold (p := p), read]
    simp only [outcomeOk, keyword, if_true]
    rcases clauseAgrees kept read keyword with same | ⟨⟨j, us, ok, spent⟩, k, vs, ok', spent'⟩
    · rw [same, clause]
      refine agreeMap (i :: ·) (ih ?_)
      rw [nextSignificantTakes read (by simp [keyword])] at kept
      rcases importClauseSound keyword clause with all | ⟨used, split, first⟩
      · rw [all.2]
        exact keptNone
      · rw [split] at kept
        refine keptBehind (t :: used) kept ?_
        rintro _ u after ⟨listed, keyword, inside⟩
        rw [← List.append_assoc]
        exact .clause (.cons first listed) keyword inside
    · rw [clause] at ok
      cases ok
      rw [ok']
      simp only [importsSpent spent, importsSpent spent']
      exact .inr ⟨⟨_, _, rfl, spent⟩, _, _, rfl, spent'⟩
  | case4 ts t rest read other =>
    rw [importsEq (.complete 0), nextSignificantRetold (p := p), read]
    simp only [outcomeOk, other, if_false]
    exact .inl rfl

theorem packageClauseRetold {ts : List Token} (kept : KeptAt g QuotedAt (significant ts)) :
    Agree g id (packageClause (.complete p) ts) (packageClause (.complete 0) (told g ts)) := by
  refine agreeBind (demandRetold _ .package ts) fun rest readKeyword => ?_
  refine agreeBind (demandIdentifierRetold .packageName rest) fun name readName => ?_
  obtain ⟨t, takes, keyword⟩ := demandSound (by simp) readKeyword
  obtain ⟨u, takesName, identifier, _⟩ := demandIdentifierSound readName
  rw [takes, takesName] at kept
  have behind : KeptAt g InImports (significant name.2) :=
    keptBehind [t, u] kept fun _ _ _ inside => .source keyword identifier inside
  exact agreeMap (PackageClause.mk name.1) (importsRetold behind)

theorem versionNumberRetold {f : VersionField} {ts : List Token}
    (kept : ∀ t rest, significant ts = t :: rest → Kept g t) :
    versionNumber (.complete 0) f (told g ts) =
      outcome g (reading g id) (versionNumber (.complete p) f ts) := by
  simp only [versionNumber, nextSignificantRetold (p := p) ts]
  cases read : nextSignificant (.complete p) ts with
  | error r => rfl
  | ok r =>
    have same : Kept g r.1 := by
      rcases nextSignificantSound read with found | ⟨_, _, _, last⟩
      · exact kept r.1 _ found
      · rw [last]
        rfl
    simp only [outcomeOk, show r.1.retoldText g = r.1.literal from same]
    cases VersionNumber.ofText r.1.literal <;> rfl

theorem versionEntriesRetold {major minor : UInt32} {ts : List Token}
    (kept : KeptAt g InEntries (significant ts)) :
    versionEntries (.complete 0) major minor (told g ts) =
      outcome g (reading g id) (versionEntries (.complete p) major minor ts) := by
  have valueKept {ts rest : List Token} {t : Token} {f : VersionField}
      (kept : KeptAt g InEntries (significant ts))
      (read : nextSignificant (.complete p) ts = .ok (t, rest))
      (entry : entryField? t.kind = some f) (u : Token) (us : List Token)
      (next : significant rest = u :: us) : Kept g u := by
    have field := entryFieldIff.1 ⟨f, entry⟩
    have found := nextSignificantTakes read (by rcases field with k | k <;> simp [k])
    exact kept [t] u us (by rw [found, next]; rfl) (@InEntries.value [] t u us .nil field)
  fun_induction versionEntries (.complete p) major minor ts with
  | case1 major minor ts r read =>
    rw [versionEntriesEq, nextSignificantRetold (p := p), read]
    rfl
  | case2 major minor ts t rest read field entry r number =>
    rw [versionEntriesEq, nextSignificantRetold (p := p), read]
    simp only [outcomeOk, entry, versionNumberRetold (p := p) (valueKept kept read entry), number,
      outcomeError]
  | case3 major minor ts t rest read n after entry number _ _ ih
  | case4 major minor ts t rest read n after entry number _ _ ih =>
    have later : KeptAt g InEntries (significant after) := by
      obtain ⟨value, takes, field, writes⟩ := entryTakes read entry number
      rw [takes] at kept
      refine keptBehind [t, value] kept ?_
      rintro _ u after ⟨listed, field'⟩
      exact .value (.cons field writes listed) field'
    rw [versionEntriesEq, nextSignificantRetold (p := p), read]
    simp only [outcomeOk, entry, versionNumberRetold (p := p) (valueKept kept read entry), number,
      readingPair, id, ih later]
  | case5 major minor ts t rest read other closes =>
    rw [versionEntriesEq, nextSignificantRetold (p := p), read]
    simp only [outcomeOk, other, if_pos closes, readingPair, id]
  | case6 major minor ts t rest read other more =>
    rw [versionEntriesEq, nextSignificantRetold (p := p), read]
    simp only [outcomeOk, other, more, if_false, outcomeError, Rejection.retold]

theorem versionBlockRetold {ts : List Token} (kept : KeptAt g InBlock (significant ts)) :
    versionBlock (.complete 0) (told g ts) =
      outcome g (reading g id) (versionBlock (.complete p) ts) := by
  simp only [versionBlock, nextSignificantRetold (p := p) ts]
  cases read : nextSignificant (.complete p) ts with
  | error r => rfl
  | ok r =>
    simp only [outcomeOk, outcomeIf]
    split
    · rename_i keyword
      refine outcomeBind (demandRetold _ .versionBody r.2) fun rest opening => ?_
      obtain ⟨o, takes, opens⟩ := demandSound (by simp) opening
      rw [nextSignificantTakes read (by simp [keyword]), takes] at kept
      exact versionEntriesRetold
        (keptBehind [r.1, o] kept fun _ _ _ inside => .entries keyword opens inside)
    · rfl

theorem descriptionRetold (ts : List Token) :
    description (.complete 0) (told g ts) =
      outcome g (reading g (Option.map g)) (description (.complete p) ts) := by
  simp only [description, nextSignificantRetold (p := p) ts]
  cases nextSignificant (.complete p) ts with
  | error r => rfl
  | ok r =>
    simp only [outcomeOk, outcomeIf]
    split
    · rename_i documented
      simp [Token.retoldText, documented]
    · rfl

theorem interfaceClauseRetold {ts : List Token} (kept : KeptAt g InInterface (significant ts)) :
    interfaceClause (.complete 0) (told g ts) =
      outcome g (reading g (InterfaceClause.retold g)) (interfaceClause (.complete p) ts) := by
  refine outcomeBind (descriptionRetold ts) fun described readDescription => ?_
  refine outcomeBind (demandRetold _ .interface described.2) fun ts₁ readKeyword => ?_
  refine outcomeBind (demandIdentifierRetold .interfaceName ts₁) fun name readName => ?_
  refine outcomeBind (demandRetold _ .interfaceBody name.2) fun ts₂ readOpening => ?_
  obtain ⟨used, split, documented⟩ := descriptionSound readDescription
  obtain ⟨i, takes, keyword⟩ := demandSound (by simp) readKeyword
  obtain ⟨n, takesName, identifier, _⟩ := demandIdentifierSound readName
  obtain ⟨o, takesOpening, opens⟩ := demandSound (by simp) readOpening
  have parts : significant ts = (used ++ [i, n, o]) ++ significant ts₂ := by
    rw [split, takes, takesName, takesOpening]
    simp
  rw [parts] at kept
  have behind : KeptAt g InBlock (significant ts₂) := by
    refine keptBehind _ kept fun before t after inside => ?_
    rw [List.append_assoc]
    exact .block documented keyword identifier opens inside
  exact outcomeBind (versionBlockRetold behind) fun _ _ => rfl

theorem interfaceClauseSpent {ts : List Token} (spent : significant ts = []) :
    interfaceClause (.complete p) ts = .error (.unexpected .interface (Token.endOfInput p)) := by
  have undescribed : description (.complete p) ts = .ok (none, ts) := by
    simp [description, nextSignificantEnd spent, Token.endOfInput]
  have missing : demand (.complete p) (.keyword .interface) .interface ts =
      .error (.unexpected .interface (Token.endOfInput p)) := by
    simp [demand, nextSignificantEnd spent, Token.endOfInput]
  rw [interfaceClause, undescribed]
  simp only [bind, Except.bind, missing]

theorem clausesRetold {ts : List Token} (sources : KeptAt g QuotedAt (significant ts))
    (values : KeptAt g ValueAt (significant ts)) :
    clauses (.complete 0) (told g ts) =
      outcome g (reading g (Prod.map id (InterfaceClause.retold g))) (clauses (.complete p) ts) := by
  rcases packageClauseRetold sources with same | ⟨⟨c, us, read, spent⟩, c', us', read', spent'⟩
  · refine outcomeBind same fun package readPackage => ?_
    have behind : KeptAt g InInterface (significant package.2) := by
      obtain ⟨k, name, after, takes, keyword, identifier, listed⟩ := packageClauseSound readPackage
      rcases listed with all | ⟨used, split, listed⟩
      · rw [all.2]
        exact keptNone
      · rw [takes, split] at values
        exact keptBehind (k :: name :: used) values
          fun _ _ _ inside => .entry keyword identifier listed inside
    exact outcomeBind (interfaceClauseRetold behind) fun _ _ => rfl
  · -- The quotation has used up the text, so that no interface can follow.
    rw [clauses, clauses, read, read']
    simp only [bind, Except.bind, interfaceClauseSpent spent, interfaceClauseSpent spent']
    rfl

end Header

section Declarations
open Declarations

theorem typeNameRetold (ts : List Token) :
    typeName (told g ts) = reading g id (typeName ts) := by
  cases ts with
  | nil => rfl
  | cons t ts =>
    simp only [toldCons, typeName]
    split
    · rename_i identifier
      rw [identifierKept identifier]
      rfl
    · rfl

theorem nameRetold (ts : List Token) : name (told g ts) = reading g id (name ts) := by
  cases ts with
  | nil => rfl
  | cons t ts =>
    simp only [toldCons, name]
    split
    · rename_i named
      rw [keptOther (g := g) (t := t) (fun same => by simp [same, TokenKind.isName] at named)]
      rfl
    · rfl

theorem markRetold (kind : TokenKind) (ts : List Token) :
    mark kind (told g ts) = reading g id (mark kind ts) := by
  cases ts with
  | nil => rfl
  | cons t ts => simp only [toldCons, mark]; split <;> rfl

theorem arrayMarkRetold (ts : List Token) :
    arrayMark (told g ts) = reading g id (arrayMark ts) := by
  simp only [arrayMark, markRetold]
  cases mark (.punctuation .leftBracket) ts with
  | mk opened rest => cases opened <;> simp [markRetold]

theorem parameterRetold (description type : String) (ts : List Token) :
    parameter (g description) type (told g ts) =
      reading g (Parameter.retold g) (parameter description type ts) := by
  simp only [parameter, arrayMarkRetold, markRetold, nameRetold, reading]
  rfl

theorem endsListRetold (t : Token) : endsList (t.retold g) = endsList t := rfl

theorem parameterUndescribed (silent : g "" = "") (type : String) (ts : List Token) :
    parameter "" type (told g ts) = reading g (Parameter.retold g) (parameter "" type ts) := by
  have described := parameterRetold (g := g) "" type ts
  rwa [silent] at described

theorem parametersRetold (silent : g "" = "") (ts : List Token) :
    parameters (told g ts) = reading g (List.map (Parameter.retold g)) (parameters ts) := by
  fun_induction parameters ts with
  | case1 => rw [toldNil, parameters]; rfl
  | case2 t ts closes =>
    rw [toldCons, parametersCons, if_pos closes]
    rfl
  | case3 t ts open' ends =>
    rw [toldCons, parametersCons, if_neg open', endsListRetold, if_pos ends]
    rfl
  | case4 t ts open' goes identifier first later ih =>
    rw [toldCons, parametersCons, if_neg open', endsListRetold, if_neg goes,
      if_pos identifier]
    simp only [identifierKept identifier, parameterUndescribed silent, reading, ih, first, later,
      List.map_cons]
  | case5 t open' goes other described =>
    rw [toldCons, parametersCons, if_neg open', endsListRetold, if_neg goes, if_neg other,
      if_pos described]
    rfl
  | case6 t open' goes other described u us identifier first later ih =>
    rw [toldCons, parametersCons, if_neg open', endsListRetold, if_neg goes, if_neg other,
      if_pos described]
    simp only [toldCons, if_pos identifier, identifierKept identifier, descriptionTold described,
      parameterRetold, reading, ih, first, later, List.map_cons]
  | case7 t open' goes other described u us unnamed ends ih =>
    rw [toldCons, parametersCons, if_neg open', endsListRetold, if_neg goes, if_neg other,
      if_pos described]
    simp only [toldCons, if_neg unnamed, endsListRetold]
    exact (if_pos ends).trans ih
  | case8 t open' goes other described u us unnamed ends ih =>
    rw [toldCons, parametersCons, if_neg open', endsListRetold, if_neg goes, if_neg other,
      if_pos described]
    simp only [toldCons, if_neg unnamed, endsListRetold]
    exact (if_neg ends).trans ih
  | case9 t ts open' goes other dropped ih =>
    rw [toldCons, parametersCons, if_neg open', endsListRetold, if_neg goes, if_neg other,
      if_neg dropped]
    exact ih

theorem parameterListRetold (silent : g "" = "") (ts : List Token) :
    parameterList (told g ts) = reading g (List.map (Parameter.retold g)) (parameterList ts) := by
  simp only [parameterList, markRetold]
  cases mark (.punctuation .leftBrace) ts with
  | mk opened rest => cases opened <;> simp [parametersRetold silent]

def groupsTold (g : String → String) (r : Groups) : Groups :=
  ⟨r.inputs.map (Parameter.retold g), r.outputs.map (Parameter.retold g)⟩

theorem groupsRetold (silent : g "" = "") (ts : List Token) :
    groups (told g ts) = reading g (groupsTold g) (groups ts) := by
  fun_induction groups ts with
  | case1 => rw [toldNil, groups]; rfl
  | case2 t ts input list later ih =>
    rw [toldCons, groups, if_pos input]
    simp only [parameterListRetold silent, reading, groupsTold, ih, list, later, List.map_append]
  | case3 t ts other output list later ih =>
    rw [toldCons, groups, if_neg other, if_pos output]
    simp only [parameterListRetold silent, reading, groupsTold, ih, list, later, List.map_append]
  | case4 t ts other noOutput opens ih =>
    rw [toldCons, groups, if_neg other, if_neg noOutput, if_pos opens]
    exact ih
  | case5 t ts other noOutput ends =>
    rw [toldCons, groups, if_neg other, if_neg noOutput, if_neg ends]
    rfl

theorem bodyRetold (silent : g "" = "") (kind : DeclarationKind) (description : String)
    (ts : List Token) :
    body kind (g description) (told g ts) =
      reading g (Declaration.retold g) (body kind description ts) := by
  have rest (us : List Token) : (told g us).drop 1 = told g (us.drop 1) := by cases us <;> rfl
  cases kind <;>
    simp only [body, attr, method, broadcast, struct, typedef, arrayAlias, typeNameRetold,
      nameRetold, arrayMarkRetold, markRetold, groupsRetold silent, parameterListRetold silent,
      reading, rest] <;> rfl

theorem bodyUndescribed (silent : g "" = "") (kind : DeclarationKind) (ts : List Token) :
    body kind "" (told g ts) = reading g (Declaration.retold g) (body kind "" ts) := by
  have described := bodyRetold silent kind "" ts
  rwa [silent] at described

theorem opensRetold (t : Token) : opens? (t.retold g) = opens? t := rfl

theorem declarationsRetold (silent : g "" = "") (ts : List Token) :
    declarations (told g ts) = (declarations ts).map (Declaration.retold g) := by
  fun_induction declarations ts with
  | case1 => rw [toldNil, declarations]; rfl
  | case2 t ts kind opens first ih =>
    simp only [toldCons, declarationsCons, opensRetold, opens, bodyUndescribed silent, reading, ih,
      first, List.map_cons]
  | case3 t other described =>
    simp only [toldCons, declarationsCons, opensRetold, other, if_pos described, toldNil,
      List.map_nil]
  | case4 t other described u us kind opens first ih =>
    rw [toldCons, declarationsCons]
    simp only [opensRetold, other, if_pos described, toldCons, opens, descriptionTold described,
      bodyRetold silent, reading, ih, first, List.map_cons]
  | case5 t other described u us closed again ih =>
    rw [toldCons, declarationsCons]
    simp only [opensRetold, other, if_pos described, toldCons, closed, if_pos again]
    exact ih
  | case6 t other described u us closed dropped ih =>
    rw [toldCons, declarationsCons]
    simp only [opensRetold, other, if_pos described, toldCons, closed, if_neg dropped]
    exact ih
  | case7 t ts other dropped ih =>
    rw [toldCons, declarationsCons]
    simp only [opensRetold, other, if_neg dropped]
    exact ih

end Declarations

section Texts
open HeaderGrammar HeaderText

theorem sortedRetold {α : Type} {sort : Declaration → Option α} {f : α → α}
    (same : ∀ d, sort (Declaration.retold g d) = (sort d).map f) (ds : List Declaration) :
    (ds.map (Declaration.retold g)).filterMap sort = (ds.filterMap sort).map f := by
  rw [List.filterMap_map, List.map_filterMap]
  exact List.filterMap_congr fun d _ => same d

theorem ofDeclarationsRetold (package : PackageClause) (interface : InterfaceClause)
    (ds : List Declaration) :
    Definition.ofDeclarations package (interface.retold g) (ds.map (Declaration.retold g)) =
      (Definition.ofDeclarations package interface ds).retold g := by
  simp only [Definition.ofDeclarations, Definition.retold, Definition.mk.injEq, true_and]
  refine ⟨?_, ?_, ?_, ?_, ?_, ?_⟩ <;> exact sortedRetold (fun d => by cases d <;> rfl) ds

theorem ofScanRetold (silent : g "" = "") (p : Nat) {ts : List Token}
    (sources : KeptAt g QuotedAt (significant ts)) (values : KeptAt g ValueAt (significant ts)) :
    Definition.ofScan ⟨told g ts, .complete 0⟩ =
      outcome g (Definition.retold g) (Definition.ofScan ⟨ts, .complete p⟩) := by
  refine outcomeBind (clausesRetold sources values) fun r _ => ?_
  simp only [reading, significantRetold, declarationsRetold silent]
  exact congrArg Except.ok (ofDeclarationsRetold r.1.1 r.1.2 _)

end Texts

end Retold
end Busbind
