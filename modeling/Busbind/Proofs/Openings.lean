import Mathlib.Data.List.Basic
import Busbind.Grammar.Declarations
import Busbind.Proofs.HeaderGrammar

/-! The keywords that open declarations. A keyword in linking position, where the word between the
name and the type of an alias stands, opens nothing. From one opening keyword to the next each reader
does what it does at the end of the tokens, with or without the closing braces there, so no
declaration depends on what surrounds it. -/
namespace Busbind.Openings
open Declarations
open HeaderGrammar (significant)

/-- Where a walk over the declarations stands: after an alias keyword its name may come, and after
both one token is in linking position. -/
inductive Place
  | free
  | named
  | linking
  deriving DecidableEq, Repr

namespace Place

def after : DeclarationKind → Place
  | .typedef | .array => .named
  | .attr | .method | .broadcast | .struct => .free

def opening? : Place → Token → Option DeclarationKind
  | .free, t => opens? t
  | .named, _ | .linking, _ => none

def next : Place → Token → Place
  | .free, t => match opens? t with
    | some kind => after kind
    | none => .free
  | .named, t => if t.kind.isName then .linking else .free
  | .linking, _ => .free

end Place

def openings : Place → List Token → List Token
  | _, [] => []
  | place, t :: ts =>
    if (place.opening? t).isSome then t :: openings (place.next t) ts
    else openings (place.next t) ts

def Quiet (ts : List Token) : Prop := ∀ t ∈ ts, opens? t = none

def Barrier (ts : List Token) : Prop := ts = [] ∨ ∃ t us, ts = t :: us ∧ opens? t ≠ none

def Blocked (ts : List Token) : Prop :=
  ts = [] ∨ ∃ t us, ts = t :: us ∧ (t.kind = .punctuation .rightBrace ∨ opens? t ≠ none)

def Halts {α : Type} (read : List Token → α × List Token) : Prop :=
  ∀ ts after, Blocked after → read (ts ++ after) = ((read ts).1, (read ts).2 ++ after)

def Closers (ts : List Token) : Prop := ∀ t ∈ ts, t.kind = .punctuation .rightBrace

/-- A reader that ends at an opening keyword as it does where nothing is left, and whose result the
closing braces directly before that do not change: it uses some of them and leaves the others. -/
def Ends {α : Type} (read : List Token → α × List Token) : Prop :=
  ∀ ts closers after, Closers closers → Barrier after →
    ∃ k, read (ts ++ (closers ++ after)) =
      ((read ts).1, (read ts).2 ++ (closers.drop k ++ after))

theorem barrierHead {t : Token} (opens : opens? t ≠ none) :
    ∃ k : Keyword, t.kind = .keyword k ∧ k.role = .declaration := by
  unfold opens? at opens
  split at opens
  · rename_i k kind
    refine ⟨k, kind, ?_⟩
    have declares := DeclarationKind.opensIffDeclaration k
    rw [Option.isSome_iff_ne_none.2 opens] at declares
    simpa using declares
  · contradiction

section Readers
variable {ts after : List Token}

theorem closersBlocked {closers : List Token} (h : Closers closers) (barrier : Barrier after) :
    Blocked (closers ++ after) := by
  cases closers with
  | cons t ts => exact .inr ⟨t, ts ++ after, rfl, .inl (h t (List.mem_cons_self ..))⟩
  | nil =>
    rcases barrier with rfl | ⟨t, us, rfl, opens⟩
    · exact .inl rfl
    · exact .inr ⟨t, us, rfl, .inr opens⟩

theorem closersNone : Closers [] := nofun

theorem closersDrop {closers : List Token} (h : Closers closers) (k : Nat) :
    Closers (closers.drop k) := fun t mem => h t (List.mem_of_mem_drop mem)

theorem typeNameHalts : Halts typeName := by
  intro ts after blocked
  cases ts with
  | cons t ts => simp only [List.cons_append, typeName]; split <;> rfl
  | nil =>
    rcases blocked with rfl | ⟨t, us, rfl, closes | opens⟩
    · rfl
    · simp [typeName, closes]
    · obtain ⟨k, kind, _⟩ := barrierHead opens
      simp [typeName, kind]

theorem nameHalts : Halts name := by
  intro ts after blocked
  cases ts with
  | cons t ts => simp only [List.cons_append, name]; split <;> rfl
  | nil =>
    rcases blocked with rfl | ⟨t, us, rfl, closes | opens⟩
    · rfl
    · simp [name, closes, TokenKind.isName]
    · obtain ⟨k, kind, role⟩ := barrierHead opens
      simp [name, kind, TokenKind.isName, role]

theorem markHalts {kind : TokenKind} (other : kind ≠ .punctuation .rightBrace)
    (part : ∀ k : Keyword, k.role = .declaration → kind ≠ .keyword k) : Halts (mark kind) := by
  intro ts after blocked
  cases ts with
  | cons t ts => simp only [List.cons_append, mark]; split <;> rfl
  | nil =>
    rcases blocked with rfl | ⟨t, us, rfl, closes | opens⟩
    · rfl
    · simp [mark, closes, other.symm]
    · obtain ⟨k, same, role⟩ := barrierHead opens
      have other : t.kind ≠ kind := fun eq => part k role (eq ▸ same)
      simp [mark, other]

theorem punctuationHalts (p : Punctuation) (other : p ≠ .rightBrace) :
    Halts (mark (.punctuation p)) :=
  markHalts (fun same => other (TokenKind.punctuation.inj same)) fun _ _ => nofun

theorem flagHalts (flag : Keyword) (part : flag.role ≠ .declaration) :
    Halts (mark (.keyword flag)) :=
  markHalts nofun fun _ role same => part (TokenKind.keyword.inj same ▸ role)

theorem arrayMarkHalts : Halts arrayMark := by
  intro ts after blocked
  simp only [arrayMark, punctuationHalts .leftBracket nofun ts after blocked]
  rcases mark (.punctuation .leftBracket) ts with ⟨_ | _, rest⟩
  · rfl
  · exact punctuationHalts .rightBracket nofun rest after blocked

theorem parameterHalts (description type : String) : Halts (parameter description type) := by
  intro ts after blocked
  simp only [parameter, arrayMarkHalts _ after blocked,
    punctuationHalts .circumflex nofun _ after blocked, nameHalts _ after blocked]

theorem parametersBarrier (barrier : Barrier after) : parameters after = ([], after) := by
  rcases barrier with rfl | ⟨t, us, rfl, opens⟩
  · rw [parameters]
  · obtain ⟨k, kind, role⟩ := barrierHead opens
    have ends : endsList t = true := by simp [endsList, TokenKind.startsDeclaration, kind, role]
    rw [parametersCons, if_neg (by simp [kind]), if_pos ends]

theorem parametersClosers {closers : List Token} (h : Closers closers) (barrier : Barrier after) :
    parameters (closers ++ after) = ([], closers.drop 1 ++ after) := by
  cases closers with
  | nil => exact parametersBarrier barrier
  | cons t ts => exact parametersClosed (h t (List.mem_cons_self ..)) _

theorem parametersEnd : Ends parameters := by
  intro ts closers after h barrier
  have blocked := closersBlocked h barrier
  have nothing := parametersClosers h barrier
  fun_induction parameters ts with
  | case1 => exact ⟨1, nothing⟩
  | case2 t ts closes => exact ⟨0, by rw [List.cons_append, parametersCons, if_pos closes]; rfl⟩
  | case3 t ts open' ends =>
    exact ⟨0, by rw [List.cons_append, parametersCons, if_neg open', if_pos ends]; rfl⟩
  | case4 t ts open' goes identifier first later ih =>
    obtain ⟨k, same⟩ := ih
    refine ⟨k, ?_⟩
    rw [List.cons_append, parametersCons, if_neg open', if_neg goes, if_pos identifier]
    simp only [parameterHalts _ _ _ _ blocked, same, first, later]
  | case5 t open' goes other description =>
    refine ⟨1, ?_⟩
    rw [List.cons_append, List.nil_append, parametersCons, if_neg open', if_neg goes, if_neg other,
      if_pos description]
    revert blocked nothing
    generalize closers ++ after = more
    rintro (rfl | ⟨u, us, rfl, closes | opens⟩) nothing
    · rw [parameters] at nothing
      exact nothing
    · simpa only [closes, reduceCtorEq, if_false, decide_true, Bool.true_or, if_true,
        List.nil_append] using nothing
    · obtain ⟨k, kind, role⟩ := barrierHead opens
      have ends : endsList u = true := by simp [endsList, TokenKind.startsDeclaration, kind, role]
      simpa only [kind, reduceCtorEq, if_false, ends, Bool.or_true, if_true, List.nil_append] using
        nothing
  | case6 t open' goes other description u us identifier first later ih =>
    obtain ⟨k, same⟩ := ih
    refine ⟨k, ?_⟩
    rw [List.cons_append, parametersCons, if_neg open', if_neg goes, if_neg other,
      if_pos description]
    simp only [List.cons_append, if_pos identifier, parameterHalts _ _ _ _ blocked, same, first,
      later]
  | case7 t open' goes other description u us unnamed ends ih =>
    obtain ⟨k, same⟩ := ih
    refine ⟨k, ?_⟩
    rw [List.cons_append, parametersCons, if_neg open', if_neg goes, if_neg other,
      if_pos description]
    simp only [List.cons_append, if_neg unnamed]
    exact (if_pos ends).trans same
  | case8 t open' goes other description u us unnamed ends ih =>
    obtain ⟨k, same⟩ := ih
    refine ⟨k, ?_⟩
    rw [List.cons_append, parametersCons, if_neg open', if_neg goes, if_neg other,
      if_pos description]
    simp only [List.cons_append, if_neg unnamed]
    exact (if_neg ends).trans same
  | case9 t ts open' goes other dropped ih =>
    obtain ⟨k, same⟩ := ih
    refine ⟨k, ?_⟩
    rw [List.cons_append, parametersCons, if_neg open', if_neg goes, if_neg other, if_neg dropped]
    exact same

theorem parameterListEnds : Ends parameterList := by
  intro ts closers after h barrier
  have blocked := closersBlocked h barrier
  simp only [parameterList, punctuationHalts .leftBrace nofun ts _ blocked]
  rcases mark (.punctuation .leftBrace) ts with ⟨_ | _, rest⟩
  · exact ⟨0, rfl⟩
  · exact parametersEnd rest closers after h barrier

theorem groupsBlocked (blocked : Blocked after) : groups after = (⟨[], []⟩, after) := by
  rcases blocked with rfl | ⟨t, us, rfl, closes | opens⟩
  · rw [groups]
  · rw [groups]
    simp [closes]
  · obtain ⟨k, kind, role⟩ := barrierHead opens
    have input : k ≠ .input := fun same => by simp [same, Keyword.role] at role
    have output : k ≠ .output := fun same => by simp [same, Keyword.role] at role
    rw [groups]
    simp [kind, input, output]

theorem groupsEnd : Ends groups := by
  intro ts closers after h barrier
  fun_induction groups ts generalizing closers with
  | case1 =>
    have blocked := closersBlocked h barrier
    exact ⟨0, groupsBlocked blocked⟩
  | case2 t ts input list later ih =>
    obtain ⟨k, listed⟩ := parameterListEnds ts closers after h barrier
    obtain ⟨l, same⟩ := ih _ (closersDrop h k)
    refine ⟨k + l, ?_⟩
    rw [List.cons_append, groups, if_pos input]
    simp only [listed, same, List.drop_drop, list, later]
  | case3 t ts other output list later ih =>
    obtain ⟨k, listed⟩ := parameterListEnds ts closers after h barrier
    obtain ⟨l, same⟩ := ih _ (closersDrop h k)
    refine ⟨k + l, ?_⟩
    rw [List.cons_append, groups, if_neg other, if_pos output]
    simp only [listed, same, List.drop_drop, list, later]
  | case4 t ts other another brace ih =>
    obtain ⟨k, same⟩ := ih _ h
    exact ⟨k, by rw [List.cons_append, groups, if_neg other, if_neg another, if_pos brace, same]⟩
  | case5 t ts other another more =>
    refine ⟨0, ?_⟩
    rw [List.cons_append, groups, if_neg other, if_neg another, if_neg more]
    rfl

end Readers

section Left

theorem typeNameLeaves (ts : List Token) : (typeName ts).2 <:+ ts := by
  cases ts with
  | nil => exact List.suffix_refl []
  | cons t ts =>
    simp only [typeName]
    split
    · exact List.suffix_cons t ts
    · exact List.suffix_refl _

theorem nameLeaves (ts : List Token) : (name ts).2 <:+ ts := by
  cases ts with
  | nil => exact List.suffix_refl []
  | cons t ts =>
    simp only [name]
    split
    · exact List.suffix_cons t ts
    · exact List.suffix_refl _

theorem markLeaves (kind : TokenKind) (ts : List Token) : (mark kind ts).2 <:+ ts := by
  cases ts with
  | nil => exact List.suffix_refl []
  | cons t ts =>
    simp only [mark]
    split
    · exact List.suffix_cons t ts
    · exact List.suffix_refl _

theorem arrayMarkLeaves (ts : List Token) : (arrayMark ts).2 <:+ ts := by
  have opening := markLeaves (.punctuation .leftBracket) ts
  unfold arrayMark
  generalize mark (.punctuation .leftBracket) ts = read at opening ⊢
  rcases read with ⟨_ | _, rest⟩
  · exact opening
  · exact (markLeaves _ rest).trans opening

theorem parameterLeaves (description type : String) (ts : List Token) :
    (parameter description type ts).2 <:+ ts :=
  (nameLeaves _).trans ((markLeaves _ _).trans (arrayMarkLeaves ts))

theorem parametersLeave (ts : List Token) : (parameters ts).2 <:+ ts := by
  fun_induction parameters ts with
  | case1 => exact List.suffix_refl []
  | case2 t ts => exact List.suffix_cons t ts
  | case3 => exact List.suffix_refl _
  | case4 t ts _ _ _ first later ih =>
    have shorter := ih.trans (parameterLeaves "" t.literal ts)
    exact shorter.trans (List.suffix_cons t ts)
  | case5 => exact List.nil_suffix
  | case6 t _ _ _ _ u us _ first later ih =>
    have shorter := ih.trans (parameterLeaves t.literal u.literal us)
    exact shorter.trans ((List.suffix_cons u us).trans (List.suffix_cons t _))
  | case7 t _ _ _ _ u us _ _ ih => exact ih.trans (List.suffix_cons t _)
  | case8 t _ _ _ _ u us _ _ ih =>
    exact ih.trans ((List.suffix_cons u us).trans (List.suffix_cons t _))
  | case9 t ts _ _ _ _ ih => exact ih.trans (List.suffix_cons t ts)

theorem parameterListLeaves (ts : List Token) : (parameterList ts).2 <:+ ts := by
  have opening := markLeaves (.punctuation .leftBrace) ts
  unfold parameterList
  generalize mark (.punctuation .leftBrace) ts = read at opening ⊢
  rcases read with ⟨_ | _, rest⟩
  · exact opening
  · exact (parametersLeave rest).trans opening

theorem groupsLeave (ts : List Token) : (groups ts).2 <:+ ts := by
  fun_induction groups ts with
  | case1 => exact List.suffix_refl []
  | case2 t ts _ list later ih =>
    exact (ih.trans (parameterListLeaves ts)).trans (List.suffix_cons t ts)
  | case3 t ts _ _ list later ih =>
    exact (ih.trans (parameterListLeaves ts)).trans (List.suffix_cons t ts)
  | case4 t ts _ _ _ ih => exact ih.trans (List.suffix_cons t ts)
  | case5 => exact List.suffix_refl _

theorem aliasLeaves (ts : List Token) : (typeName ((name ts).2.drop 1)).2 <:+ ts :=
  (typeNameLeaves _).trans ((List.drop_suffix 1 _).trans (nameLeaves ts))

theorem bodyLeaves (kind : DeclarationKind) (description : String) (ts : List Token) :
    (body kind description ts).2 <:+ ts := by
  cases kind with
  | attr => exact (nameLeaves _).trans ((arrayMarkLeaves _).trans (typeNameLeaves ts))
  | method => exact (groupsLeave _).trans ((markLeaves _ _).trans (nameLeaves ts))
  | broadcast => exact (groupsLeave _).trans ((markLeaves _ _).trans (nameLeaves ts))
  | struct => exact (parameterListLeaves _).trans (nameLeaves ts)
  | typedef => exact aliasLeaves ts
  | array => exact aliasLeaves ts

end Left

section Walk
variable {ts after : List Token} {place : Place}

theorem quietOfOpenings (none : openings .free ts = []) : Quiet ts := by
  induction ts with
  | nil => nofun
  | cons t ts ih =>
    cases opens : opens? t with
    | some kind => simp [openings, Place.opening?, opens] at none
    | none =>
      simp only [openings, Place.opening?, Place.next, opens] at none
      exact List.forall_mem_cons.2 ⟨opens, ih none⟩

theorem openingsNamed (ts : List Token) :
    openings .named ts = openings .free ((name ts).2.drop 1) := by
  cases ts with
  | nil => rfl
  | cons t ts =>
    by_cases named : t.kind.isName = true
    · cases ts <;> simp [openings, Place.opening?, Place.next, name, named]
    · simp [openings, Place.opening?, Place.next, name, named]

def walked (place : Place) (ts : List Token) : Place := ts.foldl Place.next place

theorem linkedPresent (linked : walked .named ts = .free) : (name ts).2 ≠ [] := by
  cases ts with
  | nil => contradiction
  | cons t ts =>
    by_cases named : t.kind.isName = true
    · cases ts with
      | nil => simp [walked, Place.next, named] at linked
      | cons u us => simp [name, named]
    · simp [name, named]

theorem openingsSplit (place : Place) (ts : List Token) :
    openings place (significant ts) = [] ∨
      ∃ before t later kind, ts = before ++ t :: later ∧ opens? t = some kind ∧
        openings place (significant before) = [] ∧ walked place (significant before) = .free ∧
        openings place (significant ts) = t :: openings (Place.after kind) (significant later) := by
  induction ts generalizing place with
  | nil => exact .inl rfl
  | cons t ts ih =>
    cases here : t.isSignificant with
    | false =>
      have skipped (us : List Token) : significant (t :: us) = significant us := by
        simp [significant, here]
      rw [skipped]
      rcases ih place with none | ⟨before, u, later, kind, rfl, opens, quiet, free, first⟩
      · exact .inl none
      · refine .inr ⟨t :: before, u, later, kind, rfl, opens, ?_, ?_, first⟩
        · rw [skipped, quiet]
        · rw [skipped, free]
    | true =>
      have kept (us : List Token) : significant (t :: us) = t :: significant us := by
        simp [significant, here]
      rw [kept]
      cases opening : place.opening? t with
      | some kind =>
        have at' : place = .free ∧ opens? t = some kind := by
          cases place <;> simp [Place.opening?] at opening
          exact ⟨rfl, opening⟩
        obtain ⟨rfl, opens⟩ := at'
        refine .inr ⟨[], t, ts, kind, rfl, opens, rfl, rfl, ?_⟩
        simp [openings, opening, Place.next, opens]
      | none =>
        have passed (us : List Token) : openings place (t :: us) = openings (place.next t) us := by
          simp [openings, opening]
        rw [passed]
        rcases ih (place.next t) with none | ⟨before, u, later, kind, rfl, opens, quiet, free, first⟩
        · exact .inl none
        · refine .inr ⟨t :: before, u, later, kind, rfl, opens, ?_, ?_, first⟩
          · rw [kept, passed, quiet]
          · rw [kept]
            exact free

end Walk

def undescribed : Declaration → Declaration
  | .attr a => .attr { a with description := "" }
  | .method m => .method { m with description := "" }
  | .broadcast b => .broadcast { b with description := "" }
  | .struct s => .struct { s with description := "" }
  | .typedef t => .typedef { t with description := "" }
  | .array a => .array { a with description := "" }

section Bodies
variable {ts after : List Token}

theorem bodyKind (kind : DeclarationKind) (description : String) (ts : List Token) :
    (body kind description ts).1.kind = kind := by
  cases kind <;> rfl

theorem undescribedKind (d : Declaration) : (undescribed d).kind = d.kind := by
  cases d <;> rfl

theorem bodyUndescribed (kind : DeclarationKind) (description : String) (ts : List Token) :
    undescribed (body kind description ts).1 = (body kind "" ts).1 ∧
      (body kind description ts).2 = (body kind "" ts).2 := by
  cases kind <;> exact ⟨rfl, rfl⟩

theorem aliasEnds {closers : List Token} (h : Closers closers) (barrier : Barrier after)
    (linked : after = [] ∨ (name ts).2 ≠ []) :
    ∃ k, typeName (((name ts).2 ++ (closers ++ after)).drop 1) =
      ((typeName ((name ts).2.drop 1)).1,
        (typeName ((name ts).2.drop 1)).2 ++ (closers.drop k ++ after)) := by
  cases left : (name ts).2 with
  | cons u us => exact ⟨0, typeNameHalts us _ (closersBlocked h barrier)⟩
  | nil =>
    rcases linked with rfl | linked
    · have blocked := closersBlocked (closersDrop h 1) barrier
      rw [List.append_nil] at blocked
      exact ⟨1, by simpa using typeNameHalts [] _ blocked⟩
    · exact absurd left linked

theorem bodyEnds (kind : DeclarationKind) (description : String) {closers : List Token}
    (h : Closers closers) (barrier : Barrier after)
    (linked : after = [] ∨ (Place.after kind = .named → (name ts).2 ≠ [])) :
    ∃ k, body kind description (ts ++ (closers ++ after)) =
      ((body kind description ts).1, (body kind description ts).2 ++ (closers.drop k ++ after)) := by
  have blocked := closersBlocked h barrier
  cases kind with
  | attr =>
    refine ⟨0, ?_⟩
    simp only [body, attr, typeNameHalts _ _ blocked, arrayMarkHalts _ _ blocked,
      nameHalts _ _ blocked]
    rfl
  | method =>
    obtain ⟨k, same⟩ := groupsEnd (mark (.keyword .fireAndForget) (name ts).2).2 _ _ h barrier
    refine ⟨k, ?_⟩
    simp only [body, method, nameHalts _ _ blocked, flagHalts .fireAndForget nofun _ _ blocked, same]
  | broadcast =>
    obtain ⟨k, same⟩ := groupsEnd (mark (.keyword .selective) (name ts).2).2 _ _ h barrier
    refine ⟨k, ?_⟩
    simp only [body, broadcast, nameHalts _ _ blocked, flagHalts .selective nofun _ _ blocked, same]
  | struct =>
    obtain ⟨k, same⟩ := parameterListEnds (name ts).2 _ _ h barrier
    exact ⟨k, by simp only [body, struct, nameHalts _ _ blocked, same]⟩
  | typedef =>
    obtain ⟨k, same⟩ := aliasEnds h barrier (linked.imp_right fun present => present rfl)
    exact ⟨k, by simp only [body, typedef, nameHalts _ _ blocked, same]⟩
  | array =>
    obtain ⟨k, same⟩ := aliasEnds h barrier (linked.imp_right fun present => present rfl)
    exact ⟨k, by simp only [body, arrayAlias, nameHalts _ _ blocked, same]⟩

theorem quietLeft {us : List Token} (left : us <:+ ts) (quiet : Quiet ts) : Quiet us :=
  fun t mem => quiet t (left.subset mem)

theorem bodyQuiet (kind : DeclarationKind) (description : String)
    (none : openings (Place.after kind) ts = []) : Quiet (body kind description ts).2 := by
  cases kind with
  | attr | method | broadcast | struct =>
    exact quietLeft (bodyLeaves _ description ts) (quietOfOpenings none)
  | typedef =>
    have skipped := quietOfOpenings ((openingsNamed ts).symm.trans none)
    exact quietLeft (typeNameLeaves _) skipped
  | array =>
    have skipped := quietOfOpenings ((openingsNamed ts).symm.trans none)
    exact quietLeft (typeNameLeaves _) skipped

theorem quietDropped (quiet : Quiet ts) (barrier : Barrier after) :
    (declarations (ts ++ after)).map undescribed = (declarations after).map undescribed := by
  induction size : ts.length using Nat.strongRecOn generalizing ts with
  | ind n ih =>
    subst size
    cases ts with
    | nil => rfl
    | cons t ts =>
      obtain ⟨closed, later⟩ := List.forall_mem_cons.1 quiet
      have shorter : ts.length < (t :: ts).length := Nat.lt_succ_self _
      by_cases description : t.kind = .description
      · cases ts with
        | nil =>
          rcases barrier with rfl | ⟨u, us, rfl, opens⟩
          · rw [List.cons_append, List.nil_append, declarationsCons]
            simp [closed, description, declarations]
          · obtain ⟨kind, opens⟩ := Option.ne_none_iff_exists'.1 opens
            obtain ⟨same, rest⟩ := bodyUndescribed kind t.literal us
            rw [List.cons_append, List.nil_append, declarationsDocumented description opens,
              declarationsOpened opens, List.map_cons, List.map_cons, same, rest,
              (bodyUndescribed kind "" us).1]
        | cons u us =>
          obtain ⟨closed', later'⟩ := List.forall_mem_cons.1 later
          rw [List.cons_append, List.cons_append, declarationsCons]
          simp only [closed, description, if_true, closed']
          split
          · exact ih _ shorter later rfl
          · exact ih _ (Nat.lt_trans (Nat.lt_succ_self _) shorter) later' rfl
      · rw [List.cons_append, declarationsDropped closed description]
        exact ih _ shorter later rfl

theorem declarationApart {t : Token} {kind : DeclarationKind} (opens : opens? t = some kind)
    (none : openings (Place.after kind) ts = []) (barrier : Barrier after)
    (linked : after = [] ∨ walked (Place.after kind) ts = .free) :
    (declarations (t :: (ts ++ after))).map undescribed =
      (body kind "" ts).1 :: (declarations after).map undescribed := by
  have left := bodyQuiet kind "" none
  have present : after = [] ∨ (Place.after kind = .named → (name ts).2 ≠ []) :=
    linked.imp_right fun free named => linkedPresent (named ▸ free)
  obtain ⟨k, stops⟩ := bodyEnds kind "" closersNone barrier present
  rw [List.drop_nil, List.nil_append] at stops
  rw [declarationsOpened opens, stops, List.map_cons,
    (bodyUndescribed kind "" ts).1, quietDropped left barrier]

end Bodies

end Busbind.Openings
