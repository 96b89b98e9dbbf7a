import Busbind.Grammar.Header

/-! Where the rejections of the header come from: every reader leaves a rear part of its tokens, or
it reports a significant token that it met there, or the description that ends the scan. -/
namespace Busbind.Provenance
open Header

def Met (e : Ending) (ts : List Token) (t : Token) : Prop :=
  t ∈ ts.filter Token.isSignificant ∨ ∃ p, e = .complete p ∧ t = Token.endOfInput p

inductive Reported (e : Ending) (ts : List Token) : Rejection → Prop where
  | unexpected {x t} (met : Met e ts t) : Reported e ts (.unexpected x t)
  | invalidNumber {f t fault} (met : Met e ts t) : Reported e ts (.invalidNumber f t fault)
  | unclosed {span} (ends : e = .unclosed span) : Reported e ts (.unclosedDescription span)

/-- What a reader may give, where `left` says which tokens it leaves. -/
def Honest (left : α → List Token) (e : Ending) (ts : List Token) : Except Rejection α → Prop
  | .ok a => left a <:+ ts
  | .error r => Reported e ts r

section Reading
variable {e : Ending} {ts us rest : List Token} {t : Token} {r : Rejection}

theorem metMono (h : us <:+ ts) (met : Met e us t) : Met e ts t := by
  rcases met with mem | ended
  · exact .inl ((h.filter _).subset mem)
  · exact .inr ended

theorem reportedMono (h : us <:+ ts) (reported : Reported e us r) : Reported e ts r := by
  cases reported with
  | unexpected met => exact .unexpected (metMono h met)
  | invalidNumber met => exact .invalidNumber (metMono h met)
  | unclosed ends => exact .unclosed ends

theorem honestLeaves {left : α → List Token} {x : Except Rejection α} {a : α}
    (honest : Honest left e ts x) (read : x = .ok a) : left a <:+ ts := by
  rwa [read] at honest

theorem honestFails {left : α → List Token} {x : Except Rejection α}
    (honest : Honest left e ts x) (read : x = .error r) : Reported e ts r := by
  rwa [read] at honest

theorem honestMono {left : α → List Token} {x : Except Rejection α} (h : us <:+ ts)
    (honest : Honest left e us x) : Honest left e ts x := by
  cases x with
  | ok a => exact honest.trans h
  | error r => exact reportedMono h honest

theorem honestBind {left : α → List Token} {left' : β → List Token} {x : Except Rejection α}
    {f : α → Except Rejection β} (first : Honest left e ts x)
    (next : ∀ a, x = .ok a → Honest left' e (left a) (f a)) : Honest left' e ts (x >>= f) := by
  cases x with
  | ok a => exact honestMono first (next a rfl)
  | error r => exact first

theorem honestMap {left : α → List Token} {left' : β → List Token} {x : Except Rejection α}
    {f : α → β} (honest : Honest left e ts x) (same : ∀ a, left' (f a) = left a) :
    Honest left' e ts (x.map f) := by
  cases x with
  | ok a => simpa only [Honest, Except.map, same] using honest
  | error r => exact honest

theorem nextSignificantHonest : Honest Prod.snd e ts (nextSignificant e ts) := by
  induction ts with
  | nil =>
    cases e with
    | complete p => exact List.suffix_refl []
    | unclosed span => exact .unclosed rfl
  | cons u us ih =>
    simp only [nextSignificant]
    split
    · exact List.suffix_cons u us
    · exact honestMono (List.suffix_cons u us) ih

theorem nextSignificantMet (read : nextSignificant e ts = .ok (t, rest)) : Met e ts t := by
  induction ts with
  | nil =>
    cases e with
    | complete p => cases read; exact .inr ⟨p, rfl, rfl⟩
    | unclosed span => contradiction
  | cons u us ih =>
    simp only [nextSignificant] at read
    split at read
    · rename_i here
      cases read
      exact .inl (List.mem_filter.2 ⟨List.mem_cons_self, here⟩)
    · exact metMono (List.suffix_cons u us) (ih read)

theorem nextSignificantLeaves (read : nextSignificant e ts = .ok (t, rest)) : rest <:+ ts :=
  honestLeaves nextSignificantHonest read

theorem nextSignificantFails (read : nextSignificant e ts = .error r) : Reported e ts r :=
  honestFails nextSignificantHonest read

theorem demandHonest {kind : TokenKind} {x : Expected} :
    Honest id e ts (demand e kind x ts) := by
  unfold demand
  split
  · exact nextSignificantFails (by assumption)
  · rename_i t rest read
    split
    · exact nextSignificantLeaves read
    · exact .unexpected (nextSignificantMet read)

theorem demandIdentifierHonest {x : Expected} :
    Honest Prod.snd e ts (demandIdentifier e x ts) := by
  unfold demandIdentifier
  split
  · exact nextSignificantFails (by assumption)
  · rename_i t rest read
    split
    · exact nextSignificantLeaves read
    · exact .unexpected (nextSignificantMet read)

theorem quotedHonest {q : Punctuation} : Honest Prod.snd e ts (quoted e q ts) := by
  induction ts with
  | nil =>
    cases e with
    | complete p => exact List.suffix_refl []
    | unclosed span => exact .unclosed rfl
  | cons t ts ih =>
    simp only [quoted]
    split
    · exact List.suffix_cons t ts
    · exact honestMono (List.suffix_cons t ts) (honestMap ih fun _ => rfl)

theorem namedSourceHonest : Honest Prod.snd e ts (namedSource e ts) := by
  unfold namedSource
  split
  · exact nextSignificantFails (by assumption)
  · rename_i t rest read
    split
    · exact honestMono (nextSignificantLeaves read) quotedHonest
    · split
      · exact nextSignificantLeaves read
      · exact List.suffix_refl ts

theorem sourceHonest : Honest Prod.snd e ts (source e ts) := by
  unfold source
  split
  · exact nextSignificantFails (by assumption)
  · rename_i t rest read
    split
    · exact honestMono (nextSignificantLeaves read) namedSourceHonest
    · split
      · exact honestMono (nextSignificantLeaves read) quotedHonest
      · exact List.suffix_refl ts

theorem wildcardHonest : Honest Prod.snd e ts (wildcard e ts) := by
  unfold wildcard
  split
  · exact nextSignificantFails (by assumption)
  · rename_i t rest read
    split
    · exact nextSignificantLeaves read
    · exact List.suffix_refl ts

theorem importClauseHonest : Honest Prod.snd e ts (importClause e ts) := by
  refine honestBind demandIdentifierHonest fun path _ => ?_
  refine honestBind wildcardHonest fun wild _ => ?_
  exact honestBind sourceHonest fun from' _ => List.suffix_refl _

theorem importsHonest : Honest Prod.snd e ts (imports e ts) := by
  fun_induction imports e ts with
  | case1 ts r read => exact nextSignificantFails read
  | case2 ts t rest read _ r failed =>
    exact reportedMono (nextSignificantLeaves read) (honestFails importClauseHonest failed)
  | case3 ts t rest read _ i after clause ih =>
    have leaves : after <:+ rest := honestLeaves importClauseHonest clause
    exact honestMono (leaves.trans (nextSignificantLeaves read)) (honestMap ih fun _ => rfl)
  | case4 ts => exact List.suffix_refl ts

theorem packageClauseHonest : Honest Prod.snd e ts (packageClause e ts) := by
  refine honestBind demandHonest fun keyword _ => ?_
  refine honestBind demandIdentifierHonest fun name _ => ?_
  exact honestBind importsHonest fun listed _ => List.suffix_refl _

theorem versionNumberHonest {f : VersionField} : Honest Prod.snd e ts (versionNumber e f ts) := by
  unfold versionNumber
  split
  · exact nextSignificantFails (by assumption)
  · rename_i t rest read
    split
    · exact nextSignificantLeaves read
    · exact .invalidNumber (nextSignificantMet read)

theorem versionEntriesHonest {major minor : UInt32} :
    Honest Prod.snd e ts (versionEntries e major minor ts) := by
  fun_induction versionEntries e major minor ts with
  | case1 _ _ ts r read => exact nextSignificantFails read
  | case2 _ _ ts t rest read field _ r failed =>
    exact reportedMono (nextSignificantLeaves read) (honestFails versionNumberHonest failed)
  | case3 _ _ ts t rest read n after _ number _ _ ih
  | case4 _ _ ts t rest read n after _ number _ _ ih =>
    have leaves : after <:+ rest := honestLeaves versionNumberHonest number
    exact honestMono (leaves.trans (nextSignificantLeaves read)) ih
  | case5 _ _ ts t rest read => exact nextSignificantLeaves read
  | case6 _ _ ts t rest read => exact .unexpected (nextSignificantMet read)

theorem versionBlockHonest : Honest Prod.snd e ts (versionBlock e ts) := by
  unfold versionBlock
  split
  · exact nextSignificantFails (by assumption)
  · rename_i t rest read
    split
    · exact honestMono (nextSignificantLeaves read)
        (honestBind demandHonest fun _ _ => versionEntriesHonest)
    · exact List.suffix_refl ts

theorem descriptionHonest : Honest Prod.snd e ts (description e ts) := by
  unfold description
  split
  · exact nextSignificantFails (by assumption)
  · rename_i t rest read
    split
    · exact nextSignificantLeaves read
    · exact List.suffix_refl ts

theorem interfaceClauseHonest : Honest Prod.snd e ts (interfaceClause e ts) := by
  refine honestBind descriptionHonest fun documented _ => ?_
  refine honestBind demandHonest fun keyword _ => ?_
  refine honestBind demandIdentifierHonest fun name _ => ?_
  refine honestBind demandHonest fun opening _ => ?_
  exact honestBind versionBlockHonest fun version _ => List.suffix_refl _

theorem clausesHonest : Honest Prod.snd e ts (clauses e ts) := by
  refine honestBind packageClauseHonest fun package _ => ?_
  exact honestBind interfaceClauseHonest fun interface _ => List.suffix_refl _

end Reading

end Busbind.Provenance
