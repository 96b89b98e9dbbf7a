import Busbind.Proofs.HeaderGrammar
import Busbind.Proofs.Provenance

/-! What the readers of the header make of the front of a text. A scan that ends in an open description
stops a reader that asks for more; so the run on the front alone has read something, has refused
something or asks for more, and whatever follows the front does not change the first two. -/
namespace Busbind.Fronts
open Header HeaderGrammar Provenance

variable {e : Ending} {s : Span} {us vs : List Token} {α β : Type}

/-- A run on the front of some tokens, and the run on all of them. Where the first one asks for more,
the second one goes on with what follows. -/
inductive Extends (e : Ending) (vs : List Token) :
    Except Rejection (α × List Token) → Except Rejection (α × List Token) → Prop where
  | read {a rest} : Extends e vs (.ok (a, rest)) (.ok (a, rest ++ vs))
  | refused {r} : Extends e vs (.error r) (.error r)
  | awaits {s blanks x} (blank : blanks.filter Token.isSignificant = [])
      (honest : Honest Prod.snd e (blanks ++ vs) x) :
      Extends e vs (.error (.unclosedDescription s)) x

structure Reads (e : Ending) (vs : List Token)
    (f g : List Token → Except Rejection (α × List Token)) : Prop where
  honest : ∀ ts, Honest Prod.snd e ts (g ts)
  fronts : ∀ us, Extends e vs (f us) (g (us ++ vs))

theorem readsOk {f g : List Token → Except Rejection (α × List Token)} {a : α} {rest : List Token}
    (h : Reads e vs f g) (read : f us = .ok (a, rest)) : g (us ++ vs) = .ok (a, rest ++ vs) := by
  have here := h.fronts us
  rw [read] at here
  generalize g (us ++ vs) = y at here ⊢
  cases here with
  | read => rfl

theorem readsFails {f g : List Token → Except Rejection (α × List Token)}
    {k : α × List Token → Except Rejection (β × List Token)} {r : Rejection} (h : Reads e vs f g)
    (honest : ∀ a, Honest Prod.snd e a.2 (k a)) (read : f us = .error r) :
    Extends e vs (.error r) (g (us ++ vs) >>= k) := by
  have here := h.fronts us
  rw [read] at here
  generalize g (us ++ vs) = y at here ⊢
  cases here with
  | refused => exact .refused
  | awaits blank honest' => exact .awaits blank (honestBind honest' fun a _ => honest a)

theorem readsBind {f g : List Token → Except Rejection (α × List Token)}
    {f' g' : α × List Token → Except Rejection (β × List Token)} (first : Reads e vs f g)
    (next : ∀ a, Reads e vs (fun ts => f' (a, ts)) (fun ts => g' (a, ts))) :
    Reads e vs (fun ts => f ts >>= f') (fun ts => g ts >>= g') := by
  refine ⟨fun ts => honestBind (first.honest ts) fun r _ => (next r.1).honest r.2, fun us => ?_⟩
  cases read : f us with
  | error r => exact readsFails first (fun a => (next a.1).honest a.2) read
  | ok a =>
    rw [readsOk first read]
    exact (next a.1).fronts a.2

theorem readsDone (a : α) : Reads e vs (fun ts => .ok (a, ts)) (fun ts => .ok (a, ts)) :=
  ⟨fun ts => List.suffix_refl ts, fun _ => .read⟩

theorem extendsMap {f : α → β} {x y : Except Rejection (α × List Token)} (h : Extends e vs x y) :
    Extends e vs (x.map fun r => (f r.1, r.2)) (y.map fun r => (f r.1, r.2)) := by
  cases h with
  | read => exact .read
  | refused => exact .refused
  | awaits blank honest => exact .awaits blank (honestMap honest fun _ => rfl)

theorem nextAwaits {r : Rejection} (h : nextSignificant (.unclosed s) us = .error r) :
    r = .unclosedDescription s ∧ us.filter Token.isSignificant = [] := by
  induction us with
  | nil => cases h; exact ⟨rfl, rfl⟩
  | cons u us ih =>
    simp only [nextSignificant] at h
    split at h
    · contradiction
    · rename_i here
      rw [List.filter_cons_of_neg here]
      exact ih h

theorem nextFurther {t : Token} {rest : List Token}
    (h : nextSignificant (.unclosed s) us = .ok (t, rest)) :
    nextSignificant e (us ++ vs) = .ok (t, rest ++ vs) := by
  induction us with
  | nil => contradiction
  | cons u us ih =>
    simp only [nextSignificant, List.cons_append] at h ⊢
    split at h
    · rename_i here
      cases h
      rw [if_pos here]
    · rename_i here
      rw [if_neg here]
      exact ih h

theorem readsNext {f g : List Token → Except Rejection (α × List Token)}
    (honest : ∀ ts, Honest Prod.snd e ts (g ts))
    (fails : ∀ us r, nextSignificant (.unclosed s) us = .error r → f us = .error r)
    (step : ∀ us t rest, nextSignificant (.unclosed s) us = .ok (t, rest) →
      nextSignificant e (us ++ vs) = .ok (t, rest ++ vs) → Extends e vs (f us) (g (us ++ vs))) :
    Reads e vs f g := by
  refine ⟨honest, fun us => ?_⟩
  cases read : nextSignificant (.unclosed s) us with
  | error r =>
    obtain ⟨rfl, blank⟩ := nextAwaits read
    rw [fails us _ read]
    exact .awaits blank (honest _)
  | ok found => exact step us found.1 found.2 read (nextFurther read)

theorem demandThen {f g : List Token → Except Rejection (α × List Token)} (kind : TokenKind)
    (x : Expected) (next : Reads e vs f g) :
    Reads e vs (fun ts => demand (.unclosed s) kind x ts >>= f)
      (fun ts => demand e kind x ts >>= g) := by
  refine readsNext (s := s) ?_ ?_ ?_
  · exact fun ts => honestBind demandHonest fun rest _ => next.honest rest
  · intro us r read
    simp only [demand, read, bind, Except.bind]
  · intro us t rest here there
    by_cases same : t.kind = kind
    · simp only [demand, here, there, if_pos same, bind, Except.bind]
      exact next.fronts rest
    · simp only [demand, here, there, if_neg same, bind, Except.bind]
      exact .refused

theorem demandIdentifierReads (x : Expected) :
    Reads e vs (demandIdentifier (.unclosed s) x) (demandIdentifier e x) := by
  refine readsNext (s := s) (fun _ => demandIdentifierHonest) ?_ ?_
  · intro us r read
    simp only [demandIdentifier, read]
  · intro us t rest here there
    simp only [demandIdentifier, here, there]
    split <;> constructor

theorem quotedReads (q : Punctuation) : Reads e vs (quoted (.unclosed s) q) (quoted e q) := by
  refine ⟨fun _ => quotedHonest, fun us => ?_⟩
  induction us with
  | nil => exact .awaits (List.filter_nil ..) quotedHonest
  | cons u us ih =>
    simp only [quoted, List.cons_append]
    split
    · exact .read
    · exact extendsMap ih

theorem namedSourceReads : Reads e vs (namedSource (.unclosed s)) (namedSource e) := by
  refine readsNext (s := s) (fun _ => namedSourceHonest) ?_ ?_
  · intro us r read
    simp only [namedSource, read]
  · intro us t rest here there
    simp only [namedSource, here, there]
    split
    · exact (quotedReads _).fronts rest
    · split <;> constructor

theorem sourceReads : Reads e vs (source (.unclosed s)) (source e) := by
  refine readsNext (s := s) (fun _ => sourceHonest) ?_ ?_
  · intro us r read
    simp only [source, read]
  · intro us t rest here there
    simp only [source, here, there]
    split
    · exact namedSourceReads.fronts rest
    · split
      · exact (quotedReads _).fronts rest
      · exact .read

theorem wildcardReads : Reads e vs (wildcard (.unclosed s)) (wildcard e) := by
  refine readsNext (s := s) (fun _ => wildcardHonest) ?_ ?_
  · intro us r read
    simp only [wildcard, read]
  · intro us t rest here there
    simp only [wildcard, here, there]
    split <;> constructor

theorem importClauseReads : Reads e vs (importClause (.unclosed s)) (importClause e) := by
  refine readsBind (demandIdentifierReads .importPath) fun path => ?_
  refine readsBind wildcardReads fun wild => ?_
  exact readsBind sourceReads fun from' => readsDone _

theorem importsKeyword {ts rest : List Token} {t : Token}
    (read : nextSignificant e ts = .ok (t, rest)) (keyword : t.kind = .keyword .imports) :
    imports e ts = importClause e rest >>= fun i => (imports e i.2).map fun r => (i.1 :: r.1, r.2) := by
  rw [importsEq, read]
  simp only [keyword, if_true]
  cases importClause e rest <;> rfl

theorem importsReads : Reads e vs (imports (.unclosed s)) (imports e) := by
  refine ⟨fun _ => importsHonest, fun us => ?_⟩
  fun_induction imports (.unclosed s) us with
  | case1 us r read =>
    obtain ⟨rfl, blank⟩ := nextAwaits read
    exact .awaits blank importsHonest
  | case2 us t rest read keyword r clause =>
    rw [importsKeyword (nextFurther read) keyword]
    exact readsFails importClauseReads (fun i => honestMap importsHonest fun _ => rfl) clause
  | case3 us t rest read keyword i after clause ih =>
    rw [importsKeyword (nextFurther read) keyword, readsOk importClauseReads clause]
    exact extendsMap ih
  | case4 us t rest read other =>
    rw [importsEq, nextFurther read]
    simp only [other, if_false]
    exact .read

theorem versionNumberReads (f : VersionField) :
    Reads e vs (versionNumber (.unclosed s) f) (versionNumber e f) := by
  refine readsNext (s := s) (fun _ => versionNumberHonest) ?_ ?_
  · intro us r read
    simp only [versionNumber, read]
  · intro us t rest here there
    simp only [versionNumber, here, there]
    split <;> constructor

theorem entryFurther {f : VersionField} {ts rest : List Token} {t : Token} {v : UInt32 × UInt32}
    (read : nextSignificant e ts = .ok (t, rest)) (field : entryField? t.kind = some f) :
    versionEntries e v.1 v.2 ts = versionNumber e f rest >>= fun n =>
      versionEntries e (entered f n.1 v).1 (entered f n.1 v).2 n.2 := by
  rw [versionEntriesEq, read]
  simp only [field]
  cases versionNumber e f rest with
  | error r => rfl
  | ok n => cases f <;> rfl

theorem versionEntriesReads (major minor : UInt32) :
    Reads e vs (versionEntries (.unclosed s) major minor) (versionEntries e major minor) := by
  refine ⟨fun _ => versionEntriesHonest, fun us => ?_⟩
  fun_induction versionEntries (.unclosed s) major minor us with
  | case1 major minor us r read =>
    obtain ⟨rfl, blank⟩ := nextAwaits read
    exact .awaits blank versionEntriesHonest
  | case2 major minor us t rest read field entry r number =>
    rw [entryFurther (v := (major, minor)) (nextFurther read) entry]
    exact readsFails (versionNumberReads field) (fun n => versionEntriesHonest) number
  | case3 major minor us t rest read n after entry number _ _ ih
  | case4 major minor us t rest read n after entry number _ _ ih =>
    rw [entryFurther (v := (major, minor)) (nextFurther read) entry,
      readsOk (versionNumberReads _) number]
    exact ih
  | case5 major minor us t rest read other closes =>
    rw [versionEntriesEq, nextFurther read]
    simp only [other, if_pos closes]
    exact .read
  | case6 major minor us t rest read other more =>
    rw [versionEntriesEq, nextFurther read]
    simp only [other, if_neg more]
    exact .refused

theorem versionBlockReads : Reads e vs (versionBlock (.unclosed s)) (versionBlock e) := by
  refine readsNext (s := s) (fun _ => versionBlockHonest) ?_ ?_
  · intro us r read
    simp only [versionBlock, read]
  · intro us t rest here there
    simp only [versionBlock, here, there]
    split
    · exact (demandThen _ _ (versionEntriesReads 0 0)).fronts rest
    · exact .read

theorem descriptionReads : Reads e vs (description (.unclosed s)) (description e) := by
  refine readsNext (s := s) (fun _ => descriptionHonest) ?_ ?_
  · intro us r read
    simp only [description, read]
  · intro us t rest here there
    simp only [description, here, there]
    split <;> constructor

theorem packageClauseReads : Reads e vs (packageClause (.unclosed s)) (packageClause e) := by
  refine demandThen _ _ ?_
  refine readsBind (demandIdentifierReads .packageName) fun name => ?_
  exact readsBind importsReads fun listed => readsDone _

theorem interfaceClauseReads : Reads e vs (interfaceClause (.unclosed s)) (interfaceClause e) := by
  refine readsBind descriptionReads fun documented => ?_
  refine demandThen _ _ ?_
  refine readsBind (demandIdentifierReads .interfaceName) fun name => ?_
  refine demandThen _ _ ?_
  exact readsBind versionBlockReads fun version => readsDone _

theorem clausesReads : Reads e vs (clauses (.unclosed s)) (clauses e) := by
  refine readsBind packageClauseReads fun package => ?_
  exact readsBind interfaceClauseReads fun interface => readsDone _

inductive Blames : Rejection → Token → Prop where
  | unexpected {x t} : Blames (.unexpected x t) t
  | invalidNumber {f t fault} : Blames (.invalidNumber f t fault) t

section Blame
variable {ts : List Token} {t : Token} {r : Rejection}

theorem blamedMet (blames : Blames r t) (reported : Reported e ts r) : Met e ts t := by
  cases blames with
  | unexpected => cases reported with | unexpected met => exact met
  | invalidNumber => cases reported with | invalidNumber met => exact met

theorem refusedFurther (blames : Blames r t) (h : clauses (.unclosed s) us = .error r) :
    clauses e (us ++ vs) = .error r := by
  have here : Extends e vs (clauses (.unclosed s) us) (clauses e (us ++ vs)) := clausesReads.fronts us
  rw [h] at here
  generalize clauses e (us ++ vs) = y at here ⊢
  cases here with
  | refused => rfl
  | awaits => nomatch blames

theorem refusedWithin (blames : Blames r t) (other : ¬Met e vs t)
    (h : clauses e (us ++ vs) = .error r) : clauses (.unclosed s) us = .error r := by
  have here : Extends e vs (clauses (.unclosed s) us) (clauses e (us ++ vs)) := clausesReads.fronts us
  rw [h] at here
  generalize clauses (.unclosed s) us = x at here ⊢
  cases here with
  | refused => rfl
  | awaits blank honest =>
    have met : Met e _ t := blamedMet blames honest
    rw [Met, List.filter_append, blank, List.nil_append] at met
    exact absurd met other

theorem refusedBeyond (blames : Blames r t) (other : t ∉ us)
    (h : clauses e (us ++ vs) = .error r) :
    clauses (.unclosed s) us = .error (.unclosedDescription s) := by
  have here : Extends e vs (clauses (.unclosed s) us) (clauses e (us ++ vs)) := clausesReads.fronts us
  have honest : Honest Prod.snd (.unclosed s) us (clauses (.unclosed s) us) := clausesHonest
  rw [h] at here
  generalize clauses (.unclosed s) us = x at here honest ⊢
  cases here with
  | refused =>
    rcases blamedMet blames honest with mem | ⟨_, none, _⟩
    · exact absurd (List.mem_of_mem_filter mem) other
    · contradiction
  | awaits =>
    cases honest with
    | unclosed ends =>
      cases ends
      rfl

end Blame

end Busbind.Fronts
