import Busbind.Proofs.HeaderGrammar
import Busbind.Proofs.PushbackHeader

/-! The declarations are read with one slot as they are read from the significant tokens, until the
end of the text or a description that is never closed. With the header this makes reading total:
the slot is never taken twice and every loop gets somewhere. -/
namespace Busbind.Pushback
open HeaderGrammar (significant significantOfKind nextSignificantSound)
open Header (nextSignificant)
open Declarations (endsList opens?)

def Faces (e : Ending) (ts : List Token) (r : Reader) : Prop :=
  ∃ us, Stands e us r ∧ significant us = ts

def Unclosed (e : Ending) (q : Rejection) : Prop :=
  ∃ span, e = .unclosed span ∧ q = .unclosedDescription span

structure Met (e : Ending) (ts : List Token) (t : Token) (bound : Nat) (r : Reader) : Prop where
  taken : ∃ us rest, Taken e (trimmed us) t rest r ∧ significant us = ts ∧
    significant rest = ts.drop 1
  weighs : r.unread + t.span.length ≤ bound

def Follows {α : Type} (e : Ending) (bound : Nat) (x : Except Stop (α × Reader))
    (result : α × List Token) : Prop :=
  Ends x (Unclosed e) fun a r => a = result.1 ∧ Faces e result.2 r ∧ r.unread ≤ bound

section Steps
variable {α β : Type} {e : Ending} {ts : List Token} {t : Token} {r : Reader} {n : Nat}
variable {post : β → Reader → Prop}

theorem metFaces (met : Met e ts t n r) : Faces e (ts.drop 1) r ∧ r.unread ≤ n := by
  obtain ⟨⟨us, rest, taken, _, left⟩, weighs⟩ := met
  exact ⟨⟨rest, takenStands taken, left⟩, by omega⟩

theorem metHandBack {k : Unit → Reading β} (met : Met e ts t n r)
    (goes : ∀ r', Faces e ts r' → r'.unread ≤ n → Ends (k () r') (Unclosed e) post) :
    Ends ((handBack t >>= k) r) (Unclosed e) post := by
  obtain ⟨⟨us, rest, taken, same, _⟩, weighs⟩ := met
  exact handBackThen taken fun r' stands back => goes r' ⟨us, stands, same⟩ (by omega)

theorem significantTrimmed (ts : List Token) : significant (trimmed ts) = significant ts := by
  induction ts with
  | nil => rfl
  | cons t ts ih =>
    cases visible : t.isSignificant with
    | true => simp [trimmed, visible]
    | false =>
      have skipped : significant (t :: ts) = significant ts := by simp [significant, visible]
      have front : trimmed (t :: ts) = trimmed ts := by simp [trimmed, visible]
      rw [skipped, front, ih]

theorem visibleMeets {k : Token → Reading β} (faces : Faces e ts r)
    (met : ∀ t us r', ts = t :: us → t.kind ≠ .endOfInput → Met e (t :: us) t r.unread r' →
      r'.unread < r.unread → Ends (k t r') (Unclosed e) post)
    (ended : ∀ t r', ts = [] → t.kind = .endOfInput → (∃ p, e = .complete p) →
      Met e [] t r.unread r' → Ends (k t r') (Unclosed e) post) :
    Ends ((visible >>= k) r) (Unclosed e) post := by
  obtain ⟨us, stands, rfl⟩ := faces
  refine visibleThen stands (fun q next => ?_) fun t rest r' next taken less => ?_
  · rw [nextTrimmed] at next
    cases front : trimmed us with
    | cons t rest => rw [front] at next; contradiction
    | nil =>
      rw [front] at next
      cases e with
      | complete p => contradiction
      | unclosed span => cases next; exact ⟨span, rfl, rfl⟩
  · rcases taken.token with ⟨front, weighs, more⟩ | ⟨front, rfl, rfl, _, complete⟩
    · have found : significant us = t :: significant rest := by
        rw [← significantTrimmed, front, significantOfKind (trimmedVisible front)]
      rw [found] at met
      exact met t _ r' rfl more ⟨⟨us, rest, taken, found, rfl⟩, less⟩ (by omega)
    · have none : significant us = [] := by
        rw [← significantTrimmed, front]
        rfl
      exact ended _ r' none rfl ⟨_, complete⟩ ⟨⟨us, [], taken, none, rfl⟩, less⟩

theorem followsBind {x : Reading α} {k : α → Reading β} {result : α × List Token}
    (first : Follows e n (x r) result)
    (goes : ∀ r', Faces e result.2 r' → r'.unread ≤ n → Ends (k result.1 r') (Unclosed e) post) :
    Ends ((x >>= k) r) (Unclosed e) post := by
  refine endsBind first (fun _ unclosed => unclosed) fun a r' read => ?_
  obtain ⟨rfl, faces, less⟩ := read
  exact goes r' faces less

theorem endsMono {x : Except Stop (β × Reader)} {refuses : Rejection → Prop}
    {post' : β → Reader → Prop} (h : Ends x refuses post) (more : ∀ b r', post b r' → post' b r') :
    Ends x refuses post' := by
  unfold Ends at h ⊢
  split at h
  · exact more _ _ h
  · exact h
  · exact h
  · exact h

theorem followsMono {x : Except Stop (α × Reader)} {result : α × List Token} {m : Nat}
    (h : Follows e n x result) (le : n ≤ m) : Follows e m x result :=
  endsMono h fun _ _ found => ⟨found.1, found.2.1, found.2.2.trans le⟩

end Steps

section Readers
variable {α : Type} {e : Ending} {ts : List Token} {r : Reader}

theorem takeIfFollows {wanted : TokenKind → Bool} {value : Token → α} {missing : α}
    {read : List Token → α × List Token} (proper : wanted .endOfInput = false)
    (nil : read [] = (missing, []))
    (cons : ∀ t us, read (t :: us) = if wanted t.kind then (value t, us) else (missing, t :: us))
    (faces : Faces e ts r) :
    Follows e r.unread (takeIf wanted value missing r) (read ts) := by
  refine visibleMeets faces ?_ ?_
  · rintro t us r' rfl _ met less
    rw [cons]
    by_cases fits : wanted t.kind = true
    · simp only [if_pos fits]
      exact ⟨rfl, metFaces met⟩
    · simp only [if_neg fits]
      exact metHandBack met fun r'' faces less => ⟨rfl, faces, less⟩
  · rintro t r' rfl kind _ met
    rw [nil, if_neg (by simp [kind, proper])]
    exact metHandBack met fun r'' faces less => ⟨rfl, faces, less⟩

theorem typeNameFollows (faces : Faces e ts r) :
    Follows e r.unread (typeName r) (Declarations.typeName ts) :=
  takeIfFollows rfl rfl (fun t us => by simp [Declarations.typeName]) faces

theorem nameFollows (faces : Faces e ts r) :
    Follows e r.unread (name r) (Declarations.name ts) :=
  takeIfFollows rfl rfl (fun _ _ => rfl) faces

theorem eatFollows (kind : TokenKind) (proper : kind ≠ .endOfInput) (faces : Faces e ts r) :
    Follows e r.unread (eat kind r) (Declarations.mark kind ts) :=
  takeIfFollows (by simpa using proper.symm) rfl (fun t us => by simp [Declarations.mark]) faces

theorem arrayMarkFollows (faces : Faces e ts r) :
    Follows e r.unread (arrayMark r) (Declarations.arrayMark ts) := by
  refine followsBind (eatFollows (.punctuation .leftBracket) nofun faces) fun r' faces less => ?_
  rw [Declarations.arrayMark]
  generalize Declarations.mark (.punctuation .leftBracket) ts = opened at faces ⊢
  rcases opened with ⟨_ | _, rest⟩
  · exact ⟨rfl, faces, less⟩
  · exact followsMono (eatFollows _ nofun faces) less

theorem linkingWordFollows (faces : Faces e ts r) :
    Follows e r.unread (linkingWord r) ((), ts.drop 1) := by
  refine visibleMeets faces ?_ ?_
  · rintro t us r' rfl more met less
    rw [if_neg more]
    exact ⟨rfl, metFaces met⟩
  · rintro t r' rfl kind _ met
    rw [if_pos kind, ← bind_pure (handBack t)]
    exact metHandBack met fun r'' faces less => ⟨rfl, faces, less⟩

theorem typedFollows (description type : String) (faces : Faces e ts r) :
    Follows e r.unread ((do
        let isArray ← arrayMark
        let changes ← eat (.punctuation .circumflex)
        let name ← name
        pure (some (⟨description, type, name, isArray, changes⟩ : Parameter))) r)
      (some (Declarations.parameter description type ts).1,
        (Declarations.parameter description type ts).2) := by
  refine followsBind (arrayMarkFollows faces) fun r₁ faces less => ?_
  refine followsBind (eatFollows (.punctuation .circumflex) nofun faces) fun r₂ faces less' => ?_
  refine followsBind (nameFollows faces) fun r₃ faces less'' => ?_
  exact ⟨rfl, faces, by omega⟩

end Readers

section Lists
variable {e : Ending} {ts us : List Token} {t : Token} {r : Reader}

def Advances (e : Ending) (ts : List Token) (bound : Nat) (p : Option Parameter) (r : Reader) :
    Prop :=
  r.unread < bound ∧ ∃ rest, Faces e rest r ∧ rest.length < ts.length ∧
    Declarations.parameters ts =
      (p.toList ++ (Declarations.parameters rest).1, (Declarations.parameters rest).2)

theorem parameterFollows (faces : Faces e (t :: us) r) (more : t.kind ≠ .punctuation .rightBrace)
    (goes : ¬endsList t) :
    Ends (parameter r) (Unclosed e) (Advances e (t :: us) r.unread) := by
  refine visibleMeets faces ?_ (fun _ _ none => nomatch none)
  rintro _ _ r₁ ⟨⟩ some met less
  have after := (metFaces met).1
  refine documentedThen (fun plain => ?_) fun described => ?_
  · by_cases identifier : t.kind = .identifier
    · simp only [if_pos identifier]
      have shorter := Declarations.parameterShortens "" t.literal us
      refine endsMono (typedFollows "" t.literal after) fun p r' found => ?_
      obtain ⟨rfl, faces, less'⟩ := found
      refine ⟨by omega, _, faces, Nat.lt_succ_of_le shorter, ?_⟩
      exact Declarations.parametersNamed identifier us
    · have dropped : Declarations.parameters (t :: us) = Declarations.parameters us := by
        rw [Declarations.parametersCons, if_neg more, if_neg goes, if_neg identifier, if_neg plain]
      simp only [if_neg identifier]
      rw [if_neg (by simp [more, some, goes])]
      exact ⟨less, us, after, Nat.lt_succ_self _, dropped⟩
  · refine visibleMeets after ?_ ?_
    · rintro u vs r₂ same some' met' less'
      obtain rfl : us = u :: vs := same
      have after' : Faces e vs r₂ := (metFaces met').1
      by_cases identifier : u.kind = .identifier
      · simp only [if_pos identifier]
        have shorter := Declarations.parameterShortens t.literal u.literal vs
        refine endsMono (typedFollows t.literal u.literal after') fun p r' found => ?_
        obtain ⟨rfl, faces, less''⟩ := found
        refine ⟨by omega, _, faces, ?_, Declarations.parametersDocumented described identifier vs⟩
        simp only [List.length_cons]
        omega
      · have next : Declarations.parameters (t :: u :: vs) =
            if u.kind = .punctuation .rightBrace || endsList u then Declarations.parameters (u :: vs)
            else Declarations.parameters vs := by
          rw [Declarations.parametersCons, if_neg more, if_neg goes,
            if_neg (by rw [described]; nofun), if_pos described]
          simp only [if_neg identifier]
        simp only [if_neg identifier, decide_eq_false some', Bool.or_false]
        by_cases ends : (decide (u.kind = .punctuation .rightBrace) || endsList u) = true
        · rw [if_pos ends] at next
          rw [if_pos ends]
          refine metHandBack met' fun r₃ faces less'' => ?_
          exact ⟨by omega, u :: vs, faces, Nat.lt_succ_self _, next⟩
        · rw [if_neg ends] at next
          rw [if_neg ends]
          exact ⟨by omega, vs, after', by simp only [List.length_cons]; omega, next⟩
    · rintro u r₂ same kind _ met'
      obtain rfl : us = [] := same
      have next : Declarations.parameters [t] = ([], []) := by
        rw [Declarations.parametersCons, if_neg more, if_neg goes,
          if_neg (by rw [described]; nofun), if_pos described]
      simp only [kind, reduceCtorEq, if_false]
      rw [if_pos (by simp)]
      refine metHandBack met' fun r₃ faces less'' => ?_
      exact ⟨by omega, [], faces, by simp, by rw [next, Declarations.parameters]; rfl⟩

theorem parametersFollow (faces : Faces e ts r) (ps : List Parameter) :
    Follows e r.unread (rounds listRound ps r)
      (ps ++ (Declarations.parameters ts).1, (Declarations.parameters ts).2) := by
  induction size : ts.length using Nat.strongRecOn generalizing ts r ps with
  | ind n ih =>
    subst size
    refine endsRounds (visibleMeets faces ?_ ?_)
    · rintro t us r₁ rfl some met less
      have after := metFaces met
      by_cases closes : t.kind = .punctuation .rightBrace
      · rw [if_pos closes, Declarations.parametersClosed closes]
        exact ⟨(List.append_nil ps).symm, after⟩
      · rw [if_neg closes]
        -- What the later rounds come to, once a round has left these tokens.
        have later {r₂ : Reader} {rest : List Token} (qs : List Parameter) (faces : Faces e rest r₂)
            (shorter : rest.length < (t :: us).length) (less' : r₂.unread < r.unread)
            (read : Declarations.parameters (t :: us) =
              (qs ++ (Declarations.parameters rest).1, (Declarations.parameters rest).2)) :
            r₂.unread < r.unread ∧ Follows e r.unread (rounds listRound (ps ++ qs) r₂)
              (ps ++ (Declarations.parameters (t :: us)).1, (Declarations.parameters (t :: us)).2) := by
          refine ⟨less', endsMono (ih _ shorter faces (ps ++ qs) rfl) fun b r₃ found => ?_⟩
          rw [read, ← List.append_assoc]
          exact ⟨found.1, found.2.1, by omega⟩
        by_cases brace : t.kind = .punctuation .leftBrace
        · have dropped : Declarations.parameters (t :: us) = Declarations.parameters us := by
            rw [Declarations.parametersCons]
            simp [brace, endsList, TokenKind.startsDeclaration]
          have again := later [] after.1 (Nat.lt_succ_self _) less dropped
          rw [List.append_nil] at again
          rw [if_pos brace]
          exact again
        · rw [if_neg brace]
          by_cases ends : endsList t = true
          · rw [if_pos (by simp [ends]), Declarations.parametersCons, if_neg closes, if_pos ends]
            exact metHandBack met fun r₂ faces less' => ⟨(List.append_nil ps).symm, faces, less'⟩
          · rw [if_neg (by simp [some, ends])]
            refine metHandBack met fun r₂ faces less' => ?_
            refine endsBind (parameterFollows faces closes ends) (fun _ unclosed => unclosed) ?_
            rintro p r₃ ⟨less'', rest, faces, shorter, read⟩
            exact later p.toList faces shorter (by omega) read
    · rintro t r₁ rfl kind _ met
      simp only [kind, reduceCtorEq, if_false]
      rw [if_pos (by simp), Declarations.parameters]
      exact metHandBack met fun r₂ faces less' => ⟨(List.append_nil ps).symm, faces, less'⟩

theorem parameterListFollows (faces : Faces e ts r) :
    Follows e r.unread (parameterList r) (Declarations.parameterList ts) := by
  refine followsBind (eatFollows (.punctuation .leftBrace) nofun faces) fun r' faces less => ?_
  rw [Declarations.parameterList]
  generalize Declarations.mark (.punctuation .leftBrace) ts = opened at faces ⊢
  rcases opened with ⟨_ | _, rest⟩
  · exact ⟨rfl, faces, less⟩
  · exact followsMono (parametersFollow faces []) less

theorem groupsFollow (faces : Faces e ts r) (g : Declarations.Groups) :
    Follows e r.unread (rounds groupsRound g r)
      (⟨g.inputs ++ (Declarations.groups ts).1.inputs,
          g.outputs ++ (Declarations.groups ts).1.outputs⟩,
        (Declarations.groups ts).2) := by
  induction size : ts.length using Nat.strongRecOn generalizing ts r g with
  | ind n ih =>
    subst size
    refine endsRounds (visibleMeets faces ?_ ?_)
    · rintro t us r₁ rfl some met less
      have after : Faces e us r₁ := (metFaces met).1
      by_cases input : t.kind = .keyword .input
      · have shorter := Declarations.parameterListShortens us
        have read : Declarations.groups (t :: us) =
            (⟨(Declarations.parameterList us).1 ++
                (Declarations.groups (Declarations.parameterList us).2).1.inputs,
              (Declarations.groups (Declarations.parameterList us).2).1.outputs⟩,
            (Declarations.groups (Declarations.parameterList us).2).2) := by
          rw [Declarations.groups, if_pos input]
        rw [if_pos input, read]
        refine followsBind (parameterListFollows after) fun r₂ faces less' => ?_
        have later := ih _ (Nat.lt_succ_of_le shorter) faces
          ⟨g.inputs ++ (Declarations.parameterList us).1, g.outputs⟩ rfl
        refine ⟨by omega, endsMono later fun b r₃ found => ?_⟩
        exact ⟨by simp [found.1], found.2.1, by omega⟩
      · rw [if_neg input]
        by_cases output : t.kind = .keyword .output
        · have shorter := Declarations.parameterListShortens us
          have read : Declarations.groups (t :: us) =
              (⟨(Declarations.groups (Declarations.parameterList us).2).1.inputs,
                (Declarations.parameterList us).1 ++
                  (Declarations.groups (Declarations.parameterList us).2).1.outputs⟩,
              (Declarations.groups (Declarations.parameterList us).2).2) := by
            rw [Declarations.groups, if_neg input, if_pos output]
          rw [if_pos output, read]
          refine followsBind (parameterListFollows after) fun r₂ faces less' => ?_
          have later := ih _ (Nat.lt_succ_of_le shorter) faces
            ⟨g.inputs, g.outputs ++ (Declarations.parameterList us).1⟩ rfl
          refine ⟨by omega, endsMono later fun b r₃ found => ?_⟩
          exact ⟨by simp [found.1], found.2.1, by omega⟩
        · rw [if_neg output, Declarations.groups, if_neg input, if_neg output]
          by_cases brace : t.kind = .punctuation .leftBrace
          · rw [if_pos brace, if_pos brace]
            have later := ih _ (Nat.lt_succ_self _) after g rfl
            exact ⟨less, followsMono later (Nat.le_of_lt less)⟩
          · rw [if_neg brace, if_neg brace]
            exact metHandBack met fun r₂ faces less' => ⟨by simp, faces, less'⟩
    · rintro t r₁ rfl kind _ met
      simp only [kind, reduceCtorEq, if_false]
      rw [Declarations.groups]
      exact metHandBack met fun r₂ faces less' => ⟨by simp, faces, less'⟩

end Lists

section Whole
variable {e : Ending} {ts : List Token} {r : Reader}

theorem bodyFollows (kind : DeclarationKind) (description : String) (faces : Faces e ts r) :
    Follows e r.unread (body kind description r) (Declarations.body kind description ts) := by
  cases kind with
  | attr =>
    refine followsBind (typeNameFollows faces) fun r₁ faces less => ?_
    refine followsBind (arrayMarkFollows faces) fun r₂ faces less' => ?_
    refine followsBind (nameFollows faces) fun r₃ faces less'' => ?_
    exact ⟨rfl, faces, by omega⟩
  | method =>
    refine followsBind (nameFollows faces) fun r₁ faces less => ?_
    refine followsBind (eatFollows (.keyword .fireAndForget) nofun faces) fun r₂ faces less' => ?_
    refine followsBind (groupsFollow faces ⟨[], []⟩) fun r₃ faces less'' => ?_
    exact ⟨rfl, faces, by omega⟩
  | broadcast =>
    refine followsBind (nameFollows faces) fun r₁ faces less => ?_
    refine followsBind (eatFollows (.keyword .selective) nofun faces) fun r₂ faces less' => ?_
    refine followsBind (groupsFollow faces ⟨[], []⟩) fun r₃ faces less'' => ?_
    exact ⟨rfl, faces, by omega⟩
  | struct =>
    refine followsBind (nameFollows faces) fun r₁ faces less => ?_
    refine followsBind (parameterListFollows faces) fun r₂ faces less' => ?_
    exact ⟨rfl, faces, by omega⟩
  | typedef =>
    refine followsBind (nameFollows faces) fun r₁ faces less => ?_
    refine followsBind (linkingWordFollows faces) fun r₂ faces less' => ?_
    refine followsBind (typeNameFollows faces) fun r₃ faces less'' => ?_
    exact ⟨rfl, faces, by omega⟩
  | array =>
    refine followsBind (nameFollows faces) fun r₁ faces less => ?_
    refine followsBind (linkingWordFollows faces) fun r₂ faces less' => ?_
    refine followsBind (typeNameFollows faces) fun r₃ faces less'' => ?_
    exact ⟨rfl, faces, by omega⟩

def Finds (e : Ending) (ts : List Token) (bound : Nat) (d : Option Declaration) (r : Reader) :
    Prop :=
  match d with
  | some d => r.unread < bound ∧ ∃ rest, Faces e rest r ∧ rest.length < ts.length ∧
      Declarations.declarations ts = d :: Declarations.declarations rest
  | none => Declarations.declarations ts = [] ∧ ∃ p, e = .complete p

theorem findsMono {us : List Token} {d : Option Declaration} {n m : Nat} (found : Finds e us n d r)
    (shorter : us.length < ts.length) (le : n ≤ m)
    (same : Declarations.declarations ts = Declarations.declarations us) : Finds e ts m d r := by
  cases d with
  | none => exact ⟨same.trans found.1, found.2⟩
  | some d =>
    obtain ⟨less, rest, faces, fewer, read⟩ := found
    exact ⟨by omega, rest, faces, by omega, same.trans read⟩

theorem nextDeclarationFinds (faces : Faces e ts r) :
    Ends (nextDeclaration r) (Unclosed e) (Finds e ts r.unread) := by
  induction size : ts.length using Nat.strongRecOn generalizing ts r with
  | ind n ih =>
    subst size
    -- What the later rounds find, once a round has left these tokens.
    have later {rest : List Token} {r' : Reader} (faces : Faces e rest r')
        (shorter : rest.length < ts.length) (less : r'.unread < r.unread)
        (same : Declarations.declarations ts = Declarations.declarations rest) :
        r'.unread < r.unread ∧
          Ends (rounds declarationRound () r') (Unclosed e) (Finds e ts r.unread) := by
      refine ⟨less, endsMono (ih _ shorter faces rfl) fun d r'' found => ?_⟩
      exact findsMono found shorter (Nat.le_of_lt less) same
    refine endsRounds (visibleMeets faces ?_ ?_)
    · rintro t us r₁ rfl some met less
      have after : Faces e us r₁ := (metFaces met).1
      refine documentedThen (fun plain => ?_) fun described => ?_
      · simp only [if_neg some]
        cases opens : opens? t with
        | some kind =>
          refine followsBind (bodyFollows kind "" after) fun r₂ faces less' => ?_
          have shorter := Declarations.bodyShortens kind "" us
          exact ⟨by omega, _, faces, Nat.lt_succ_of_le shorter,
            Declarations.declarationsOpened opens us⟩
        | none =>
          simp only [if_neg plain]
          have dropped := Declarations.declarationsDropped opens plain us
          exact later after (Nat.lt_succ_self _) less dropped
      · have closed : opens? t = none := by simp [opens?, described]
        refine visibleMeets after ?_ ?_
        · rintro u vs r₂ same some' met' less'
          obtain rfl : us = u :: vs := same
          have after' : Faces e vs r₂ := (metFaces met').1
          simp only [if_neg some']
          cases opens : opens? u with
          | some kind =>
            refine followsBind (bodyFollows kind t.literal after') fun r₃ faces less'' => ?_
            have shorter := Declarations.bodyShortens kind t.literal vs
            exact ⟨by omega, _, faces, by simp only [List.length_cons]; omega,
              Declarations.declarationsDocumented described opens vs⟩
          | none =>
            have next : Declarations.declarations (t :: u :: vs) =
                if u.kind = .description then Declarations.declarations (u :: vs)
                else Declarations.declarations vs := by
              rw [Declarations.declarationsCons, closed]
              simp only [if_pos described, opens]
            by_cases again : u.kind = .description
            · rw [if_pos again] at next
              simp only [if_pos again]
              refine metHandBack met' fun r₃ faces less'' => ?_
              exact later faces (Nat.lt_succ_self _) (by omega) next
            · rw [if_neg again] at next
              simp only [if_neg again]
              exact later after' (by simp only [List.length_cons]; omega) (by omega) next
        · rintro u r₂ same kind complete met'
          obtain rfl : us = [] := same
          have next : Declarations.declarations [t] = [] := by
            rw [Declarations.declarationsCons, closed]
            simp only [if_pos described]
          simp only [if_pos kind]
          exact ⟨next, complete⟩
    · rintro t r₁ rfl kind complete met
      refine documentedThen (fun plain => ?_) fun described => ?_
      · simp only [if_pos kind]
        exact ⟨by rw [Declarations.declarations], complete⟩
      · rw [kind] at described
        contradiction

theorem declarationsFollow (faces : Faces e ts r) (ds : List Declaration) :
    Ends (rounds declarationsRound ds r) (Unclosed e) fun all _ =>
      all = ds ++ Declarations.declarations ts ∧ ∃ p, e = .complete p := by
  induction size : ts.length using Nat.strongRecOn generalizing ts r ds with
  | ind n ih =>
    subst size
    refine endsRounds (endsBind (nextDeclarationFinds faces) (fun _ unclosed => unclosed) ?_)
    rintro (_ | d) r₁ found
    · obtain ⟨none, complete⟩ := found
      exact ⟨by rw [none, List.append_nil], complete⟩
    · obtain ⟨less, rest, faces, shorter, read⟩ := found
      have later := ih rest.length shorter faces (ds ++ [d]) rfl
      refine ⟨less, ?_⟩
      have joined : ds ++ d :: Declarations.declarations rest =
          ds ++ [d] ++ Declarations.declarations rest := List.append_cons ..
      rw [read, joined]
      exact later

theorem wholeReads (text : String) :
    Ends (whole ⟨0, text.toList, none⟩) (fun q => Definition.ofText text = .error q)
      fun d _ => Definition.ofText text = .ok d := by
  generalize scanned : Scan.ofText text = scan
  obtain ⟨ts, e⟩ := scan
  have start : Stands e ts ⟨0, text.toList, none⟩ := .scanning scanned rfl
  rw [Definition.ofText, scanned, Definition.ofScan]
  refine endsBind (packageClauseYields start) (fun q fails => ?_) fun package r₁ read => ?_
  · simp only [Header.clauses, fails, bind, Except.bind]
  obtain ⟨ts₁, packageRead, stands, _⟩ := read
  refine endsBind (interfaceClauseYields stands) (fun q fails => ?_) fun interface r₂ read => ?_
  · simp only [Header.clauses, packageRead, fails, bind, Except.bind]
  obtain ⟨ts₂, interfaceRead, stands, _⟩ := read
  have header : Header.clauses e ts = .ok ((package, interface), ts₂) := by
    simp only [Header.clauses, packageRead, interfaceRead, bind, Except.bind]
  rw [header]
  refine endsBind (declarationsFollow ⟨ts₂, stands, rfl⟩ []) ?_ ?_
  · rintro q ⟨span, rfl, rfl⟩
    rfl
  · rintro ds r₃ ⟨rfl, p, rfl⟩
    exact rfl

theorem definitionTotal (text : String) :
    definition text ≠ .error .slotTaken ∧ definition text ≠ .error .stalled ∧
      definition text = (Definition.ofText text).mapError Stop.rejected := by
  have same : definition text = (Definition.ofText text).mapError Stop.rejected := by
    have ends := wholeReads text
    rw [definition]
    cases read : whole ⟨0, text.toList, none⟩ with
    | ok y =>
      rw [read] at ends
      rw [show Definition.ofText text = .ok y.1 from ends]
      rfl
    | error s =>
      rw [read] at ends
      cases s with
      | rejected q =>
        rw [show Definition.ofText text = .error q from ends]
        rfl
      | slotTaken => exact ends.elim
      | stalled => exact ends.elim
  refine ⟨?_, ?_, same⟩ <;> rw [same] <;> cases Definition.ofText text <;> nofun

end Whole

end Busbind.Pushback
