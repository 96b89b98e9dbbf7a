import Busbind.Definition
import Busbind.Token

/-! The declarations after the header. Nothing here is a rejection: a part that is missing is left
empty, and a token that does not fit is left for whatever reads next. The readers take significant
tokens only and give back those they did not use. -/
namespace Busbind.Declarations

def typeName : List Token → String × List Token
  | t :: ts => if t.kind = .identifier then (t.literal, ts) else ("", t :: ts)
  | [] => ("", [])

def name : List Token → String × List Token
  | t :: ts => if t.kind.isName then (t.literal, ts) else ("", t :: ts)
  | [] => ("", [])

def mark (kind : TokenKind) : List Token → Bool × List Token
  | t :: ts => if t.kind = kind then (true, ts) else (false, t :: ts)
  | [] => (false, [])

/-- The array mark `[]`. A bracket that is not closed at once is used without effect. -/
def arrayMark (ts : List Token) : Bool × List Token :=
  match mark (.punctuation .leftBracket) ts with
  | (true, rest) => mark (.punctuation .rightBracket) rest
  | (false, rest) => (false, rest)

def parameter (description type : String) (ts : List Token) : Parameter × List Token :=
  let isArray := arrayMark ts
  let changes := mark (.punctuation .circumflex) isArray.2
  let name := name changes.2
  (⟨description, type, name.1, isArray.1, changes.1⟩, name.2)

theorem typeNameShortens (ts : List Token) : (typeName ts).2.length ≤ ts.length := by
  cases ts with
  | nil => simp [typeName]
  | cons t ts => simp only [typeName]; split <;> simp

theorem nameShortens (ts : List Token) : (name ts).2.length ≤ ts.length := by
  cases ts with
  | nil => simp [name]
  | cons t ts => simp only [name]; split <;> simp

theorem markShortens (kind : TokenKind) (ts : List Token) :
    (mark kind ts).2.length ≤ ts.length := by
  cases ts with
  | nil => simp [mark]
  | cons t ts => simp only [mark]; split <;> simp

theorem arrayMarkShortens (ts : List Token) : (arrayMark ts).2.length ≤ ts.length := by
  have opening := markShortens (.punctuation .leftBracket) ts
  unfold arrayMark
  split <;> rename_i rest read <;> rw [read] at opening
  · exact Nat.le_trans (markShortens _ rest) opening
  · exact opening

theorem parameterShortens (description type : String) (ts : List Token) :
    (parameter description type ts).2.length ≤ ts.length :=
  Nat.le_trans (nameShortens _) (Nat.le_trans (markShortens _ _) (arrayMarkShortens ts))

def endsList (t : Token) : Bool := t.kind.startsDeclaration

/-- The parameters of a list whose opening brace has been read. A closing brace ends the list, and
so does a declaration that begins before it. A description belongs to the parameter directly
after it; every token that can begin no parameter is dropped. -/
def parameters : List Token → List Parameter × List Token
  | [] => ([], [])
  | t :: ts =>
    if t.kind = .punctuation .rightBrace then ([], ts)
    else if endsList t then ([], t :: ts)
    else if t.kind = .identifier then
      let first := parameter "" t.literal ts
      let later := parameters first.2
      (first.1 :: later.1, later.2)
    else if t.kind = .description then
      match ts with
      | [] => ([], [])
      | u :: us =>
        if u.kind = .identifier then
          let first := parameter t.literal u.literal us
          let later := parameters first.2
          (first.1 :: later.1, later.2)
        else if u.kind = .punctuation .rightBrace || endsList u then parameters (u :: us)
        else parameters us
    else parameters ts
termination_by ts => ts.length
decreasing_by
  · exact Nat.lt_succ_of_le (parameterShortens "" t.literal ts)
  · exact Nat.lt_succ_of_le (Nat.le_succ_of_le (parameterShortens t.literal u.literal us))
  · exact Nat.lt_succ_self _
  · exact Nat.lt_succ_of_lt (Nat.lt_succ_self _)
  · exact Nat.lt_succ_self _

theorem parametersCons (t : Token) (ts : List Token) :
    parameters (t :: ts) =
      if t.kind = .punctuation .rightBrace then ([], ts)
      else if endsList t then ([], t :: ts)
      else if t.kind = .identifier then
        let first := parameter "" t.literal ts
        (first.1 :: (parameters first.2).1, (parameters first.2).2)
      else if t.kind = .description then
        match ts with
        | [] => ([], [])
        | u :: us =>
          if u.kind = .identifier then
            let first := parameter t.literal u.literal us
            (first.1 :: (parameters first.2).1, (parameters first.2).2)
          else if u.kind = .punctuation .rightBrace || endsList u then parameters (u :: us)
          else parameters us
      else parameters ts := by
  rw [parameters.eq_def]

theorem parametersClosed {t : Token} (kind : t.kind = .punctuation .rightBrace)
    (ts : List Token) : parameters (t :: ts) = ([], ts) := by
  rw [parametersCons, if_pos kind]

theorem parametersNamed {t : Token} (kind : t.kind = .identifier) (ts : List Token) :
    parameters (t :: ts) =
      ((parameter "" t.literal ts).1 :: (parameters (parameter "" t.literal ts).2).1,
        (parameters (parameter "" t.literal ts).2).2) := by
  rw [parametersCons]
  simp [kind, endsList, TokenKind.startsDeclaration]

theorem parametersDocumented {t u : Token} (documented : t.kind = .description)
    (kind : u.kind = .identifier) (us : List Token) :
    parameters (t :: u :: us) =
      ((parameter t.literal u.literal us).1 :: (parameters (parameter t.literal u.literal us).2).1,
        (parameters (parameter t.literal u.literal us).2).2) := by
  rw [parametersCons]
  simp [documented, kind, endsList, TokenKind.startsDeclaration]

theorem parametersDropped {t : Token} (closing : t.kind ≠ .punctuation .rightBrace)
    (ending : t.kind.startsDeclaration = false) (kind : t.kind ≠ .identifier)
    (other : t.kind ≠ .description) (ts : List Token) : parameters (t :: ts) = parameters ts := by
  rw [parametersCons]
  simp [closing, kind, other, endsList, ending]

def parameterList (ts : List Token) : List Parameter × List Token :=
  match mark (.punctuation .leftBrace) ts with
  | (true, rest) => parameters rest
  | (false, rest) => ([], rest)

theorem parametersShortens (ts : List Token) : (parameters ts).2.length ≤ ts.length := by
  fun_induction parameters ts with
  | case1 => exact Nat.le_refl _
  | case2 => exact Nat.le_succ _
  | case3 => exact Nat.le_refl _
  | case4 t ts _ _ _ first later ih =>
    exact Nat.le_succ_of_le (Nat.le_trans ih (parameterShortens "" t.literal ts))
  | case5 => exact Nat.zero_le _
  | case6 t _ _ _ _ u us _ first later ih =>
    have shorter := Nat.le_trans ih (parameterShortens t.literal u.literal us)
    exact Nat.le_succ_of_le (Nat.le_succ_of_le shorter)
  | case7 _ _ _ _ _ _ _ _ _ ih => exact Nat.le_succ_of_le ih
  | case8 _ _ _ _ _ _ _ _ _ ih => exact Nat.le_succ_of_le (Nat.le_succ_of_le ih)
  | case9 _ _ _ _ _ _ ih => exact Nat.le_succ_of_le ih

theorem parameterListShortens (ts : List Token) : (parameterList ts).2.length ≤ ts.length := by
  have opening := markShortens (.punctuation .leftBrace) ts
  unfold parameterList
  split <;> rename_i rest read <;> rw [read] at opening
  · exact Nat.le_trans (parametersShortens rest) opening
  · exact opening

structure Groups where
  inputs : List Parameter
  outputs : List Parameter
  deriving DecidableEq, Repr

/-- The parameter groups of a method or broadcast. Opening braces between them are used without
effect; the first token that is neither one nor a direction ends the body and is left. Groups of
one direction add up. -/
def groups : List Token → Groups × List Token
  | [] => (⟨[], []⟩, [])
  | t :: ts =>
    if t.kind = .keyword .input then
      let list := parameterList ts
      let later := groups list.2
      (⟨list.1 ++ later.1.inputs, later.1.outputs⟩, later.2)
    else if t.kind = .keyword .output then
      let list := parameterList ts
      let later := groups list.2
      (⟨later.1.inputs, list.1 ++ later.1.outputs⟩, later.2)
    else if t.kind = .punctuation .leftBrace then groups ts
    else (⟨[], []⟩, t :: ts)
termination_by ts => ts.length
decreasing_by
  · exact Nat.lt_succ_of_le (parameterListShortens ts)
  · exact Nat.lt_succ_of_le (parameterListShortens ts)
  · exact Nat.lt_succ_self _

theorem groupsShortens (ts : List Token) : (groups ts).2.length ≤ ts.length := by
  fun_induction groups ts with
  | case1 => exact Nat.le_refl _
  | case2 t ts _ list later ih =>
    exact Nat.le_succ_of_le (Nat.le_trans ih (parameterListShortens ts))
  | case3 t ts _ _ list later ih =>
    exact Nat.le_succ_of_le (Nat.le_trans ih (parameterListShortens ts))
  | case4 _ _ _ _ _ ih => exact Nat.le_succ_of_le ih
  | case5 => exact Nat.le_refl _

def attr (description : String) (ts : List Token) : Declaration × List Token :=
  let type := typeName ts
  let isArray := arrayMark type.2
  let name := name isArray.2
  (.attr ⟨description, type.1, name.1, isArray.1⟩, name.2)

def method (description : String) (ts : List Token) : Declaration × List Token :=
  let name := name ts
  let flag := mark (.keyword .fireAndForget) name.2
  let body := groups flag.2
  (.method ⟨description, name.1, flag.1, body.1.inputs, body.1.outputs⟩, body.2)

/-- A broadcast has no inputs: those of its body are dropped. -/
def broadcast (description : String) (ts : List Token) : Declaration × List Token :=
  let name := name ts
  let flag := mark (.keyword .selective) name.2
  let body := groups flag.2
  (.broadcast ⟨description, name.1, flag.1, body.1.outputs⟩, body.2)

def struct (description : String) (ts : List Token) : Declaration × List Token :=
  let name := name ts
  let fields := parameterList name.2
  (.struct ⟨description, name.1, fields.1⟩, fields.2)

/-- The word between the name and the type of an alias is not looked at: one token is skipped,
whatever it is. -/
def typedef (description : String) (ts : List Token) : Declaration × List Token :=
  let name := name ts
  let type := typeName (name.2.drop 1)
  (.typedef ⟨description, name.1, type.1⟩, type.2)

def arrayAlias (description : String) (ts : List Token) : Declaration × List Token :=
  let name := name ts
  let type := typeName (name.2.drop 1)
  (.array ⟨description, name.1, type.1⟩, type.2)

def body (kind : DeclarationKind) (description : String) (ts : List Token) :
    Declaration × List Token :=
  match kind with
  | .attr => attr description ts
  | .method => method description ts
  | .broadcast => broadcast description ts
  | .struct => struct description ts
  | .typedef => typedef description ts
  | .array => arrayAlias description ts

theorem aliasShortens (ts : List Token) :
    (typeName ((name ts).2.drop 1)).2.length ≤ ts.length := by
  have skipped : ((name ts).2.drop 1).length ≤ (name ts).2.length := by simp
  exact Nat.le_trans (typeNameShortens _) (Nat.le_trans skipped (nameShortens ts))

theorem bodyShortens (kind : DeclarationKind) (description : String) (ts : List Token) :
    (body kind description ts).2.length ≤ ts.length := by
  cases kind with
  | attr =>
    exact Nat.le_trans (nameShortens _) (Nat.le_trans (arrayMarkShortens _) (typeNameShortens ts))
  | method =>
    exact Nat.le_trans (groupsShortens _) (Nat.le_trans (markShortens _ _) (nameShortens ts))
  | broadcast =>
    exact Nat.le_trans (groupsShortens _) (Nat.le_trans (markShortens _ _) (nameShortens ts))
  | struct => exact Nat.le_trans (parameterListShortens _) (nameShortens ts)
  | typedef => exact aliasShortens ts
  | array => exact aliasShortens ts

def opens? (t : Token) : Option DeclarationKind :=
  match t.kind with
  | .keyword k => DeclarationKind.ofKeyword? k
  | _ => none

/-- All declarations of the tokens. A description belongs to the declaration directly after it;
every token that can begin no declaration is dropped. -/
def declarations : List Token → List Declaration
  | [] => []
  | t :: ts =>
    match opens? t with
    | some kind =>
      let first := body kind "" ts
      first.1 :: declarations first.2
    | none =>
      if t.kind = .description then
        match ts with
        | [] => []
        | u :: us =>
          match opens? u with
          | some kind =>
            let first := body kind t.literal us
            first.1 :: declarations first.2
          | none => if u.kind = .description then declarations (u :: us) else declarations us
      else declarations ts
termination_by ts => ts.length
decreasing_by
  · exact Nat.lt_succ_of_le (bodyShortens kind "" ts)
  · exact Nat.lt_succ_of_le (Nat.le_succ_of_le (bodyShortens kind t.literal us))
  · exact Nat.lt_succ_self _
  · exact Nat.lt_succ_of_lt (Nat.lt_succ_self _)
  · exact Nat.lt_succ_self _

theorem declarationsCons (t : Token) (ts : List Token) :
    declarations (t :: ts) =
      match opens? t with
      | some kind => (body kind "" ts).1 :: declarations (body kind "" ts).2
      | none =>
        if t.kind = .description then
          match ts with
          | [] => []
          | u :: us =>
            match opens? u with
            | some kind => (body kind t.literal us).1 :: declarations (body kind t.literal us).2
            | none => if u.kind = .description then declarations (u :: us) else declarations us
        else declarations ts := by
  rw [declarations.eq_def]

theorem declarationsOpened {t : Token} {kind : DeclarationKind} (opens : opens? t = some kind)
    (ts : List Token) :
    declarations (t :: ts) = (body kind "" ts).1 :: declarations (body kind "" ts).2 := by
  rw [declarationsCons, opens]

theorem declarationsDocumented {t u : Token} {kind : DeclarationKind}
    (documented : t.kind = .description) (opens : opens? u = some kind) (us : List Token) :
    declarations (t :: u :: us) =
      (body kind t.literal us).1 :: declarations (body kind t.literal us).2 := by
  have none : opens? t = none := by simp [opens?, documented]
  rw [declarationsCons]
  simp only [none, documented, if_true, opens]

theorem declarationsDropped {t : Token} (closed : opens? t = none) (kind : t.kind ≠ .description)
    (ts : List Token) : declarations (t :: ts) = declarations ts := by
  rw [declarationsCons, closed]
  exact if_neg kind

end Busbind.Declarations
