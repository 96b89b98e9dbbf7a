import Busbind.Proofs.CanonicalHeader
import Busbind.Proofs.Openings

/-! Canonical writing with room in it: words, and slots between them in which tokens may stand that
belong to nothing. Each reader takes the words that are its own and passes over such tokens. -/
namespace Busbind.Canonical
open Declarations
open Openings (Closers closersNone)

inductive Slot
  | outside
  | inside
  deriving DecidableEq, Repr

def Slot.admits (s : Slot) (k : TokenKind) : Bool :=
  k ≠ .description && !k.startsDeclaration &&
    match s with
    | .outside => true
    | .inside => k ≠ .identifier && k ≠ .punctuation .rightBrace

inductive Part
  | word (w : Word)
  | slot (s : Slot)

def fixed (ws : List Word) : List Part := ws.map .word

def parameterParts (p : Parameter) : List Part := .slot .inside :: fixed (parameterWords p)

def listParts (ps : List Parameter) : List Part :=
  .word (.mark .leftBrace) :: ps.flatMap parameterParts ++
    [.slot .inside, .word (.mark .rightBrace)]

def partParts : Declaration → List Part
  | .method m =>
    .word (.name m.name) :: fixed (if m.fireAndForget then [.keyword .fireAndForget] else []) ++
      .word (.mark .leftBrace) :: .word (.keyword .input) :: listParts m.inputs ++
        .word (.keyword .output) :: listParts m.outputs ++ [.word (.mark .rightBrace)]
  | .broadcast b =>
    .word (.name b.name) :: fixed (if b.selective then [.keyword .selective] else []) ++
      .word (.mark .leftBrace) :: .word (.keyword .output) :: listParts b.outputs ++
        [.word (.mark .rightBrace)]
  | .struct s => .word (.name s.name) :: listParts s.fields
  | d => fixed (partWords d)

def declarationParts (d : Declaration) : List Part :=
  .slot .outside :: fixed (documented d.description ++ [.keyword d.kind.keyword]) ++ partParts d

def restParts (ds : List Declaration) : List Part :=
  ds.flatMap declarationParts ++ [.slot .outside, .word (.mark .rightBrace), .slot .outside]

def bare : List Part → List Word
  | [] => []
  | .word w :: parts => w :: bare parts
  | .slot _ :: parts => bare parts

section Bare

theorem bareAppend (parts more : List Part) : bare (parts ++ more) = bare parts ++ bare more := by
  induction parts with
  | nil => rfl
  | cons part parts ih => cases part <;> simp [bare, ih]

theorem bareFixed (ws : List Word) : bare (fixed ws) = ws := by
  induction ws with
  | nil => rfl
  | cons w ws ih => exact congrArg (w :: ·) ih

theorem bareFlat {α : Type} {f : α → List Part} {g : α → List Word} (same : ∀ a, bare (f a) = g a)
    (as : List α) : bare (as.flatMap f) = as.flatMap g := by
  induction as with
  | nil => rfl
  | cons a as ih => rw [List.flatMap_cons, List.flatMap_cons, bareAppend, same, ih]

theorem bareList (ps : List Parameter) : bare (listParts ps) = listWords ps := by
  have each (p : Parameter) : bare (parameterParts p) = parameterWords p := bareFixed _
  simp only [listParts, List.cons_append, bare, bareAppend, bareFlat each]
  rfl

theorem barePart (d : Declaration) : bare (partParts d) = partWords d := by
  cases d <;> simp [partParts, partWords, braces, bareAppend, bareFixed, bareList, bare]

theorem bareDeclaration (d : Declaration) : bare (declarationParts d) = declarationWords d := by
  simp [declarationParts, declarationWords, bare, bareAppend, bareFixed, barePart]

theorem bareRest (ds : List Declaration) :
    bare (restParts ds) = ds.flatMap declarationWords ++ [.mark .rightBrace] := by
  rw [restParts, bareAppend, bareFlat bareDeclaration]
  rfl

end Bare

inductive Fills : List Part → List Token → Prop where
  | nil : Fills [] []
  | word {w parts ts} (h : Fills parts ts) :
      Fills (.word w :: parts) (w.tokens.filter Token.isSignificant ++ ts)
  | skip {s parts ts} (h : Fills parts ts) : Fills (.slot s :: parts) ts
  | stray {s parts t ts} (admitted : s.admits t.kind = true) (h : Fills (.slot s :: parts) ts) :
      Fills (.slot s :: parts) (t :: ts)

section Filling
variable {parts : List Part} {ts : List Token}

theorem fillsBare (parts : List Part) : Fills parts (visible (bare parts)) := by
  induction parts with
  | nil => exact .nil
  | cons part parts ih =>
    cases part with
    | word w => exact .word ih
    | slot s => exact .skip ih

theorem fillsFixed {ws : List Word} (h : Fills (fixed ws ++ parts) ts) :
    ∃ rest, ts = visible ws ++ rest ∧ Fills parts rest := by
  induction ws generalizing ts with
  | nil => exact ⟨ts, rfl, h⟩
  | cons w ws ih =>
    cases h with
    | word later =>
      obtain ⟨rest, rfl, fills⟩ := ih later
      exact ⟨rest, (List.append_assoc ..).symm, fills⟩

theorem fillsWord {w : Word} (h : Fills (.word w :: parts) ts) :
    ∃ rest, ts = visible [w] ++ rest ∧ Fills parts rest :=
  fillsFixed (show Fills (fixed [w] ++ parts) ts from h)

end Filling

theorem wordCases (s : String) :
    Lexeme.wordKind s.toList = .identifier ∨
      ∃ k, Lexeme.wordKind s.toList = .keyword k ∧ Keyword.ofSpelling? s = some k := by
  rw [Lexeme.wordKind, String.ofList_toList]
  cases Keyword.ofSpelling? s with
  | none => exact .inl rfl
  | some k => exact .inr ⟨k, rfl, rfl⟩

theorem nameKind {s : String} (h : IsName s) : (Lexeme.wordKind s.toList).isName = true := by
  rcases wordCases s with kind | ⟨k, kind, spelled⟩
  · rw [kind]
    rfl
  · have roles := h.2 k spelled
    rw [kind]
    simp [TokenKind.isName, roles]

theorem nameNoMark (s : String) (p : Punctuation) :
    Lexeme.wordKind s.toList ≠ .punctuation p := by
  rcases wordCases s with kind | ⟨k, kind, _⟩ <;> rw [kind] <;> nofun

section Reading
variable {parts : List Part} {ts : List Token}

theorem visibleAppend (ws vs : List Word) : visible (ws ++ vs) = visible ws ++ visible vs :=
  List.flatMap_append

theorem visibleNil : visible [] = [] := rfl

theorem visibleKeyword (k : Keyword) : visible [.keyword k] = [token (.keyword k) k.spelling] := rfl

theorem visibleIdentifier (s : String) : visible [.identifier s] = [token .identifier s] := rfl

theorem visibleMark (p : Punctuation) :
    visible [.mark p] = [token (.punctuation p) (String.ofList [p.char])] := rfl

theorem visibleDocumentation (d : String) : visible [.documentation d] = [token .description d] := rfl

theorem visibleName (s : String) :
    visible [.name s] = [token (Lexeme.wordKind s.toList) s] := by
  have seen : (token (Lexeme.wordKind s.toList) s).isSignificant = true := by
    rcases wordCases s with kind | ⟨k, kind, _⟩ <;> rw [kind] <;> rfl
  simp [visible, Word.tokens, seen]

theorem nameRead {s : String} (h : IsName s) (ts : List Token) :
    Declarations.name (visible [.name s] ++ ts) = (s, ts) := by
  rw [visibleName]
  exact if_pos (nameKind h)

theorem optionRead {kind : TokenKind} (w : Word) {u t : Token} (shows : visible [w] = [u])
    (sort : u.kind = kind) (set : Bool) (other : t.kind ≠ kind) (ts : List Token) :
    mark kind (visible (if set then [w] else []) ++ t :: ts) = (set, t :: ts) := by
  cases set with
  | false => exact if_neg other
  | true =>
    simp only [if_true, shows]
    exact if_pos sort

theorem bracketsRead (isArray : Bool) {t : Token} (other : t.kind ≠ .punctuation .leftBracket)
    (ts : List Token) :
    arrayMark (visible (brackets isArray) ++ t :: ts) = (isArray, t :: ts) := by
  cases isArray with
  | false =>
    have left : mark (.punctuation .leftBracket) (t :: ts) = (false, t :: ts) := if_neg other
    simp only [brackets, Bool.false_eq_true, if_false, visible, List.flatMap_nil, List.nil_append,
      arrayMark, left]
  | true => rfl

theorem parameterRead {p : Parameter} (named : IsName p.name) (description : String)
    (ts : List Token) :
    parameter description p.type (visible (brackets p.isArray) ++
      (visible (if p.changes then [.mark .circumflex] else []) ++ (visible [.name p.name] ++ ts))) =
        ({ p with description := description }, ts) := by
  have name := nameRead named ts
  rw [visibleName, List.singleton_append] at name ⊢
  have changes : mark (.punctuation .circumflex)
      (visible (if p.changes then [.mark .circumflex] else []) ++
        token (Lexeme.wordKind p.name.toList) p.name :: ts) =
          (p.changes, token (Lexeme.wordKind p.name.toList) p.name :: ts) :=
    optionRead (.mark .circumflex) rfl rfl p.changes (nameNoMark _ _) ts
  obtain ⟨t, us, front, other⟩ : ∃ t us, visible (if p.changes then [.mark .circumflex] else []) ++
      token (Lexeme.wordKind p.name.toList) p.name :: ts = t :: us ∧
        t.kind ≠ .punctuation .leftBracket := by
    cases p.changes with
    | false => exact ⟨_, _, rfl, nameNoMark _ _⟩
    | true => exact ⟨_, _, rfl, nofun⟩
  have array := bracketsRead p.isArray other us
  rw [← front] at array
  simp only [parameter, array, changes, name]

theorem insideDropped {strays : List Token} (admitted : ∀ t ∈ strays, Slot.inside.admits t.kind = true)
    (ts : List Token) : parameters (strays ++ ts) = parameters ts := by
  induction strays with
  | nil => rfl
  | cons t strays ih =>
    obtain ⟨here, later⟩ := List.forall_mem_cons.1 admitted
    simp only [Slot.admits, Bool.and_eq_true, decide_eq_true_eq, Bool.not_eq_true'] at here
    obtain ⟨⟨other, ending⟩, kind, closing⟩ := here
    rw [List.cons_append, parametersDropped closing ending kind other, ih later]

theorem opensNot {t : Token} (ending : t.kind.startsDeclaration = false) : opens? t = none := by
  cases kind : t.kind with
  | keyword k =>
    rw [kind] at ending
    have none : (DeclarationKind.ofKeyword? k).isSome = false :=
      (DeclarationKind.opensIffDeclaration k).trans ending
    simpa [opens?, kind] using none
  | _ => simp [opens?, kind]

theorem outsideDropped {strays : List Token}
    (admitted : ∀ t ∈ strays, Slot.outside.admits t.kind = true) (ts : List Token) :
    declarations (strays ++ ts) = declarations ts := by
  induction strays with
  | nil => rfl
  | cons t strays ih =>
    obtain ⟨here, later⟩ := List.forall_mem_cons.1 admitted
    simp only [Slot.admits, Bool.and_eq_true, decide_eq_true_eq, Bool.not_eq_true', and_true] at here
    obtain ⟨other, ending⟩ := here
    rw [List.cons_append, declarationsDropped (opensNot ending) other, ih later]

theorem fillsSlot {s : Slot} (h : Fills (.slot s :: parts) ts) :
    ∃ strays rest, ts = strays ++ rest ∧ (∀ t ∈ strays, s.admits t.kind = true) ∧
      Fills parts rest := by
  generalize whole : Part.slot s :: parts = all at h
  induction h with
  | nil => nomatch whole
  | word => nomatch whole
  | skip later =>
    cases whole
    exact ⟨[], _, rfl, nofun, later⟩
  | stray admitted _ ih =>
    cases whole
    obtain ⟨strays, rest, rfl, all, later⟩ := ih rfl
    exact ⟨_ :: strays, rest, rfl, List.forall_mem_cons.2 ⟨admitted, all⟩, later⟩

theorem parametersFilled {ps : List Parameter}
    (proper : ∀ w ∈ ps.flatMap parameterWords, w.Proper)
    (h : Fills (ps.flatMap parameterParts ++ .slot .inside :: .word (.mark .rightBrace) :: parts) ts) :
    ∃ rest, Fills parts rest ∧ parameters ts = (ps, rest) := by
  induction ps generalizing ts with
  | nil =>
    obtain ⟨strays, us, rfl, admitted, brace⟩ := fillsSlot h
    obtain ⟨rest, rfl, fills⟩ := fillsWord brace
    exact ⟨rest, fills, (insideDropped admitted _).trans (parametersClosed rfl rest)⟩
  | cons p ps ih =>
    rw [List.flatMap_cons] at proper
    rw [List.flatMap_cons, parameterParts, List.cons_append, List.cons_append, List.append_assoc] at h
    obtain ⟨strays, us, rfl, admitted, first⟩ := fillsSlot h
    obtain ⟨us, rfl, others⟩ := fillsFixed first
    obtain ⟨rest, fills, later⟩ := ih (fun w mem => proper w (List.mem_append_right _ mem)) others
    have named : IsName p.name := proper (.name p.name) (by simp [parameterWords])
    refine ⟨rest, fills, (insideDropped admitted _).trans ?_⟩
    simp only [parameterWords, visibleAppend, visibleIdentifier, List.append_assoc]
    by_cases empty : p.description = ""
    · rw [documented, if_pos empty, visibleNil, List.nil_append, List.singleton_append,
        parametersNamed rfl]
      simp only [parameterRead named, later, ← empty]
    · rw [documented, if_neg empty, visibleDocumentation, List.singleton_append,
        List.singleton_append, parametersDocumented rfl rfl]
      simp only [parameterRead named, later]

theorem listFilled {ps : List Parameter} (proper : ∀ w ∈ ps.flatMap parameterWords, w.Proper)
    (h : Fills (listParts ps ++ parts) ts) :
    ∃ rest, Fills parts rest ∧ parameterList ts = (ps, rest) := by
  rw [listParts, List.cons_append, List.cons_append, List.append_assoc] at h
  obtain ⟨us, rfl, inside⟩ := fillsWord h
  obtain ⟨rest, fills, read⟩ := parametersFilled proper inside
  exact ⟨rest, fills, read⟩

theorem inputFilled {ps : List Parameter} (proper : ∀ w ∈ ps.flatMap parameterWords, w.Proper)
    (h : Fills (listParts ps ++ parts) ts) :
    ∃ rest, Fills parts rest ∧ groups (visible [.keyword .input] ++ ts) =
      (⟨ps ++ (groups rest).1.inputs, (groups rest).1.outputs⟩, (groups rest).2) := by
  obtain ⟨rest, fills, read⟩ := listFilled proper h
  refine ⟨rest, fills, ?_⟩
  rw [visibleKeyword, List.singleton_append, groups, if_pos rfl]
  simp only [read]

theorem outputFilled {ps : List Parameter} (proper : ∀ w ∈ ps.flatMap parameterWords, w.Proper)
    (h : Fills (listParts ps ++ parts) ts) :
    ∃ rest, Fills parts rest ∧ groups (visible [.keyword .output] ++ ts) =
      (⟨(groups rest).1.inputs, ps ++ (groups rest).1.outputs⟩, (groups rest).2) := by
  obtain ⟨rest, fills, read⟩ := listFilled proper h
  refine ⟨rest, fills, ?_⟩
  rw [visibleKeyword, List.singleton_append, groups]
  simp only [TokenKind.keyword.injEq, reduceCtorEq, if_false, if_true, read]

theorem groupsOpen (ts : List Token) : groups (visible [.mark .leftBrace] ++ ts) = groups ts := by
  rw [visibleMark, List.singleton_append, groups]
  simp only [reduceCtorEq, if_false, if_true]

theorem groupsClose (ts : List Token) :
    groups (visible [.mark .rightBrace] ++ ts) = (⟨[], []⟩, visible [.mark .rightBrace] ++ ts) := by
  rw [visibleMark, List.singleton_append, groups]
  simp only [TokenKind.punctuation.injEq, reduceCtorEq, if_false]

theorem closersWord : Closers (visible [.mark .rightBrace]) := by
  rw [visibleMark]
  exact List.forall_mem_singleton.2 rfl

theorem closersDropped {closers : List Token} (h : Closers closers) (ts : List Token) :
    declarations (closers ++ ts) = declarations ts := by
  refine outsideDropped (fun t mem => ?_) ts
  rw [h t mem]
  rfl

theorem braceDropped (ts : List Token) :
    declarations (visible [.mark .rightBrace] ++ ts) = declarations ts :=
  closersDropped closersWord ts

theorem flagRead (k : Keyword) (set : Bool) (ts : List Token) :
    mark (.keyword k) (visible (if set then [.keyword k] else []) ++
      (visible [.mark .leftBrace] ++ ts)) = (set, visible [.mark .leftBrace] ++ ts) := by
  have other : (token (.punctuation .leftBrace) (String.ofList [Punctuation.leftBrace.char])).kind ≠
      .keyword k := nofun
  exact optionRead (.keyword k) rfl rfl set other ts

/-- The reader of a declaration leaves at most a closing brace of it: the body of a method or
broadcast ends there without using it. -/
theorem bodyFilled {d : Declaration} (proper : ∀ w ∈ partWords d, w.Proper)
    (h : Fills (partParts d ++ parts) ts) :
    ∃ closers rest, Closers closers ∧ Fills parts rest ∧
      body d.kind d.description ts = (d, closers ++ rest) := by
  cases d with
  | attr a =>
    have named : IsName a.name := proper (.name a.name) (by simp [partWords])
    obtain ⟨rest, rfl, fills⟩ := fillsFixed h
    have array : arrayMark (visible (brackets a.isArray) ++ (visible [.name a.name] ++ rest)) =
        (a.isArray, visible [.name a.name] ++ rest) := by
      rw [visibleName]
      exact bracketsRead a.isArray (nameNoMark _ _) rest
    have split : visible (partWords (.attr a)) ++ rest = token .identifier a.type ::
        (visible (brackets a.isArray) ++ (visible [.name a.name] ++ rest)) := by
      simp [partWords, visible, Word.tokens, token, Token.isSignificant]
    refine ⟨[], rest, closersNone, fills, ?_⟩
    simp only [split, Declaration.kind, body, attr, typeName, if_true, array, nameRead named]
    rfl
  | method m =>
    have named : IsName m.name := proper (.name m.name) (by simp [partWords])
    have inputs (w) (mem : w ∈ m.inputs.flatMap parameterWords) : w.Proper :=
      proper w (by simp [partWords, listWords, braces, mem])
    have outputs (w) (mem : w ∈ m.outputs.flatMap parameterWords) : w.Proper :=
      proper w (by simp [partWords, listWords, braces, mem])
    simp only [partParts, List.append_assoc, List.cons_append] at h
    obtain ⟨_, rfl, flag⟩ := fillsWord h
    obtain ⟨_, rfl, opening⟩ := fillsFixed flag
    obtain ⟨_, rfl, first⟩ := fillsWord opening
    obtain ⟨_, rfl, list⟩ := fillsWord first
    obtain ⟨_, second, readInputs⟩ := inputFilled inputs list
    obtain ⟨_, rfl, list⟩ := fillsWord second
    obtain ⟨_, closing, readOutputs⟩ := outputFilled outputs list
    obtain ⟨rest, rfl, fills⟩ := fillsWord closing
    refine ⟨_, rest, closersWord, fills, ?_⟩
    simp only [Declaration.kind, body, method, nameRead named, flagRead, groupsOpen, readInputs,
      readOutputs, groupsClose, List.append_nil]
    rfl
  | broadcast b =>
    have named : IsName b.name := proper (.name b.name) (by simp [partWords])
    have outputs (w) (mem : w ∈ b.outputs.flatMap parameterWords) : w.Proper :=
      proper w (by simp [partWords, listWords, braces, mem])
    simp only [partParts, List.append_assoc, List.cons_append] at h
    obtain ⟨_, rfl, flag⟩ := fillsWord h
    obtain ⟨_, rfl, opening⟩ := fillsFixed flag
    obtain ⟨_, rfl, first⟩ := fillsWord opening
    obtain ⟨_, rfl, list⟩ := fillsWord first
    obtain ⟨_, closing, readOutputs⟩ := outputFilled outputs list
    obtain ⟨rest, rfl, fills⟩ := fillsWord closing
    refine ⟨_, rest, closersWord, fills, ?_⟩
    simp only [Declaration.kind, body, broadcast, nameRead named, flagRead, groupsOpen, readOutputs,
      groupsClose, List.append_nil]
    rfl
  | struct s =>
    have named : IsName s.name := proper (.name s.name) (by simp [partWords])
    have fields (w) (mem : w ∈ s.fields.flatMap parameterWords) : w.Proper :=
      proper w (by simp [partWords, listWords, braces, mem])
    obtain ⟨us, rfl, list⟩ := fillsWord h
    obtain ⟨rest, fills, read⟩ := listFilled fields list
    refine ⟨[], rest, closersNone, fills, ?_⟩
    simp only [Declaration.kind, body, struct, nameRead named, read]
    rfl
  | typedef t =>
    have named : IsName t.name := proper (.name t.name) (by simp [partWords])
    obtain ⟨rest, rfl, fills⟩ := fillsFixed h
    have name : Declarations.name (visible [.name t.name, .identifier "is", .identifier t.aliased] ++ rest) =
        (t.name, visible [.identifier "is", .identifier t.aliased] ++ rest) := by
      rw [← List.singleton_append, visibleAppend, List.append_assoc]
      exact nameRead named _
    refine ⟨[], rest, closersNone, fills, ?_⟩
    simp only [partWords, Declaration.kind, body, typedef, name]
    rfl
  | array a =>
    have named : IsName a.name := proper (.name a.name) (by simp [partWords])
    obtain ⟨rest, rfl, fills⟩ := fillsFixed h
    have name : Declarations.name (visible [.name a.name, .identifier "of", .identifier a.element] ++ rest) =
        (a.name, visible [.identifier "of", .identifier a.element] ++ rest) := by
      rw [← List.singleton_append, visibleAppend, List.append_assoc]
      exact nameRead named _
    refine ⟨[], rest, closersNone, fills, ?_⟩
    simp only [partWords, Declaration.kind, body, arrayAlias, name]
    rfl

theorem opensKeyword (d : DeclarationKind) :
    opens? (token (.keyword d.keyword) d.keyword.spelling) = some d :=
  DeclarationKind.keywordFound d

theorem declarationFilled {d : Declaration} (proper : ∀ w ∈ declarationWords d, w.Proper)
    (h : Fills (declarationParts d ++ parts) ts) :
    ∃ rest, Fills parts rest ∧ declarations ts = d :: declarations rest := by
  have own (w) (mem : w ∈ partWords d) : w.Proper := proper w (by simp [declarationWords, mem])
  rw [declarationParts, List.append_assoc, List.cons_append] at h
  obtain ⟨strays, _, rfl, admitted, first⟩ := fillsSlot h
  obtain ⟨us, rfl, later⟩ := fillsFixed first
  obtain ⟨closers, rest, closing, fills, read⟩ := bodyFilled own later
  have dropped := closersDropped closing rest
  refine ⟨rest, fills, (outsideDropped admitted _).trans ?_⟩
  rw [visibleAppend, visibleKeyword, List.append_assoc, List.singleton_append]
  by_cases empty : d.description = ""
  · rw [documented, if_pos empty, visibleNil, List.nil_append,
      declarationsOpened (opensKeyword d.kind), ← empty, read, dropped]
  · rw [documented, if_neg empty, visibleDocumentation, List.singleton_append,
      declarationsDocumented rfl (opensKeyword d.kind)]
    simp only [read, dropped]

theorem declarationsFilled {ds : List Declaration}
    (proper : ∀ w ∈ ds.flatMap declarationWords, w.Proper)
    (h : Fills (ds.flatMap declarationParts ++ parts) ts) :
    ∃ rest, Fills parts rest ∧ declarations ts = ds ++ declarations rest := by
  induction ds generalizing ts with
  | nil => exact ⟨ts, h, rfl⟩
  | cons d ds ih =>
    rw [List.flatMap_cons] at proper
    rw [List.flatMap_cons, List.append_assoc] at h
    obtain ⟨us, others, first⟩ :=
      declarationFilled (fun w mem => proper w (List.mem_append_left _ mem)) h
    obtain ⟨rest, fills, later⟩ := ih (fun w mem => proper w (List.mem_append_right _ mem)) others
    exact ⟨rest, fills, by rw [first, later, List.cons_append]⟩

theorem restFilled {ds : List Declaration} (proper : ∀ w ∈ ds.flatMap declarationWords, w.Proper)
    (h : Fills (restParts ds) ts) : declarations ts = ds := by
  obtain ⟨us, closing, read⟩ := declarationsFilled proper h
  obtain ⟨strays, vs, rfl, before, brace⟩ := fillsSlot closing
  obtain ⟨us, rfl, last⟩ := fillsWord brace
  obtain ⟨more, us, rfl, behind, none⟩ := fillsSlot last
  cases none
  rw [read, outsideDropped before, braceDropped, outsideDropped behind, declarations,
    List.append_nil]

end Reading

end Busbind.Canonical
