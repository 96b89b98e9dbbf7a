import Busbind.Proofs.HeaderSound
import Busbind.Proofs.Locality
import Busbind.Proofs.Stages
import Busbind.Proofs.WellFormed

/-! What documents a declaration: the description directly before the keyword that opens it, unless
that description stands in linking position or in a list that was not closed before the keyword. The
declarations of a text are what their readers make of the openings that the walk over it notes. -/
namespace Busbind.Attachment
open Declarations Openings Stages Stage Header HeaderGrammar Locality
open Outcome (bindOk)
open Provenance (honestLeaves packageClauseHonest)

section Readers
variable {s s' : Stage} {t : Token}

theorem openedInside (slot : Slot) (goes : ¬endsList t = true)
    (open' : t.kind ≠ .punctuation .rightBrace) (heard : String) (ts : List Token) :
    opened (.inside slot .vacant) heard (t :: ts) =
      opened (.inside slot (Point.vacant.next t)) "" ts := by
  rw [openedOn (closedOpens (goesCloses goes) _)]
  simp [Stage.within, open', hears, listens]

theorem openedParameters (slot : Slot) (ts : List Token) :
    opened (.inside slot .vacant) "" ts = opened (closed slot) "" (parameters ts).2 := by
  fun_induction parameters ts with
  | case1 => rfl
  | case2 t ts closes =>
    have ends : (Stage.inside slot .vacant).within t = closed slot := by simp [Stage.within, closes]
    rw [openedOn (closedOpens (punctuationCloses _ t closes) _), ends,
      hearsPlain (by simp [closes])]
  | case3 t ts open' ends =>
    exact openedAlike (openingAlike (endsOpens ends) rfl (closedPlace slot)) "" ts
  | case4 t ts open' goes identifier first later ih =>
    rw [openedInside slot goes open', Point.next, if_pos identifier,
      openedLeads (parameterLeads slot "" t.literal ts), ih]
  | case5 t open' goes other description => rw [openedInside slot goes open']; rfl
  | case6 t open' goes other description u us identifier first later ih =>
    have passes : ¬endsList u = true := by simp [endsList, TokenKind.startsDeclaration, identifier]
    rw [openedInside slot goes open', Point.next, if_neg other,
      openedInside slot passes (by simp [identifier]), Point.next, if_pos identifier,
      openedLeads (parameterLeads slot t.literal u.literal us), ih]
  | case7 t open' goes other description u us unnamed ends ih =>
    rw [openedInside slot goes open', Point.next, if_neg other, ih]
  | case8 t open' goes other description u us unnamed stays ih =>
    simp only [Bool.or_eq_true, decide_eq_true_eq, not_or] at stays
    rw [openedInside slot goes open', Point.next, if_neg other,
      openedInside slot stays.2 stays.1, Point.next, if_neg unnamed, ih]
  | case9 t ts open' goes other dropped ih =>
    rw [openedInside slot goes open', Point.next, if_neg other, ih]

theorem openedList (slot : Slot) (ts : List Token) :
    opened (.due slot) "" ts = opened (closed slot) "" (parameterList ts).2 := by
  cases ts with
  | nil => rfl
  | cons t ts =>
    by_cases brace : t.kind = .punctuation .leftBrace
    · have begins : (Stage.due slot).within t = .inside slot .vacant := by
        simp [Stage.within, listing, brace]
      rw [openedOn (closedOpens (punctuationCloses _ t brace) _), begins,
        hearsPlain (by simp [brace]), openedParameters]
      simp [parameterList, mark, brace]
    · simpa [parameterList, mark, brace] using openedAlike (dueAlike slot brace) "" ts

theorem openedGroups (ts : List Token) :
    opened .grouped "" ts = opened .apart "" (groups ts).2 := by
  fun_induction groups ts with
  | case1 => rfl
  | case2 t ts input list later ih => rw [openedLeads (inputLeads input ts), openedList, closed, ih]
  | case3 t ts other output list later ih =>
    rw [openedLeads (outputLeads output ts), openedList, closed, ih]
  | case4 t ts other another brace ih => rw [openedLeads (braceLeads brace ts), ih]
  | case5 t ts other another more => exact openedAlike (groupsAlike other another more) "" ts

theorem openedDeaf (closed : s.place.opening? t = none) (deaf : s.listens = false)
    (ts : List Token) : opened s "" (t :: ts) = opened (s.within t) "" ts := by
  rw [openedOn closed]
  simp [hears, deaf]

theorem openedNamed (ts : List Token) :
    opened .named "" ts = opened .apart "" ((name ts).2.drop 1) := by
  cases ts with
  | nil => rfl
  | cons t ts =>
    rw [openedDeaf rfl rfl]
    by_cases named : t.kind.isName = true
    · cases ts with
      | nil => simp [name, named, opened]
      | cons u us => simpa [name, named, Stage.within] using openedDeaf (s := .linking) rfl rfl us
    · simp [name, named, Stage.within]

theorem openedBody (kind : DeclarationKind) (description : String) (ts : List Token) :
    opened (begun kind) "" ts = opened .apart "" (body kind description ts).2 := by
  cases kind with
  | attr => exact openedLeads (attrLeads description ts)
  | method =>
    rw [begun, openedLeads (titledLeads rfl ts), openedLeads (flaggedLeads rfl _), openedGroups]
    rfl
  | broadcast =>
    rw [begun, openedLeads (titledLeads rfl ts), openedLeads (flaggedLeads rfl _), openedGroups]
    rfl
  | struct => rw [begun, openedLeads (labelledLeads ts), openedList]; rfl
  | typedef => rw [begun, openedNamed, openedLeads (typeNameApartLeads _)]; rfl
  | array => rw [begun, openedNamed, openedLeads (typeNameApartLeads _)]; rfl

end Readers

section Declarations
variable {t : Token}

def declared (o : Opening) : Declaration := (body o.kind o.documentation o.rest).1

theorem openedKeyword {kind : DeclarationKind} (opens : opens? t = some kind) (heard : String)
    (ts : List Token) :
    opened .apart heard (t :: ts) = ⟨kind, heard, ts⟩ :: opened (begun kind) "" ts := by
  rw [opened]
  simp [place, Place.opening?, opens]

theorem openedApart (closed : opens? t = none) (heard : String) (ts : List Token) :
    opened .apart heard (t :: ts) = opened .apart (Stage.apart.hears t) ts :=
  openedOn (closedOpens closed .apart) heard ts

theorem declarationsDeclared (ts : List Token) :
    declarations ts = (opened .apart "" ts).map declared := by
  fun_induction declarations ts with
  | case1 => rfl
  | case2 t ts kind opens first ih =>
    rw [openedKeyword opens, List.map_cons, openedBody kind "", ih]
    rfl
  | case3 t none description => rw [openedApart none]; rfl
  | case4 t none description u us kind opens first ih =>
    have heard : Stage.apart.hears t = t.literal := by simp [hears, listens, description]
    rw [openedApart none, heard, openedKeyword opens, List.map_cons, openedBody kind t.literal, ih]
    rfl
  | case5 t none description u us none' again ih =>
    -- what is heard first is forgotten at the second description
    rw [ih, openedApart none, openedApart none', openedApart none']
  | case6 t none description u us none' other ih =>
    rw [ih, openedApart none, openedApart none', hearsPlain other]
  | case7 t ts none other ih => rw [ih, openedApart none, hearsPlain other]

end Declarations

section Walk
variable {s : Stage} {t : Token}

def lastHeard : Stage → String → List Token → String
  | _, heard, [] => heard
  | s, _, t :: ts => lastHeard (s.next t) (s.hears t) ts

theorem openingKeyword {p : Place} {kind : DeclarationKind} (opens : p.opening? t = some kind) :
    p = .free ∧ opens? t = some kind := by
  cases p with
  | free => exact ⟨rfl, opens⟩
  | named | linking => contradiction

theorem opensPlain {kind : DeclarationKind} (opens : opens? t = some kind) :
    t.kind ≠ .description := by
  intro description
  simp [opens?, description] at opens

theorem openedSplit {keyword : Token} {kind : DeclarationKind} {before : List Token}
    (opens : (walk s before).place.opening? keyword = some kind) (heard : String)
    (after : List Token) :
    (opened s heard (before ++ keyword :: after))[(openings s.place before).length]? =
      some ⟨kind, lastHeard s heard before, after⟩ := by
  induction before generalizing s heard with
  | nil =>
    have opens : s.place.opening? keyword = some kind := opens
    simp [opened, opens, openings, lastHeard]
  | cons t ts ih =>
    have later := ih (s := s.next t) opens
    rw [nextPlace] at later
    cases opening : s.place.opening? t with
    | some k =>
      have moved : s.next t = begun k := by simp [Stage.next, opening]
      rw [moved] at later
      simpa [opened, openings, opening, lastHeard, moved,
        hearsPlain (opensPlain (openingKeyword opening).2) s] using later ""
    | none =>
      have moved : s.next t = s.within t := by simp [Stage.next, opening]
      rw [moved] at later
      simpa [opened, openings, opening, lastHeard, moved] using later (s.hears t)

theorem openedLength (s : Stage) (heard : String) (ts : List Token) :
    (opened s heard ts).length = (openings s.place ts).length := by
  induction ts generalizing s heard with
  | nil => rfl
  | cons t ts ih =>
    have moved := nextPlace s t
    unfold Stage.next at moved
    cases opening : s.place.opening? t with
    | some k => simp_all [opened, openings]
    | none => simp_all [opened, openings]

def documentation (before : List Token) : String :=
  match before.getLast? with
  | some u => (walk .apart before.dropLast).hears u
  | none => ""

theorem lastHeardConcat (s : Stage) (heard : String) (us : List Token) (u : Token) :
    lastHeard s heard (us ++ [u]) = (walk s us).hears u := by
  induction us generalizing s heard with
  | nil => rfl
  | cons t us ih => exact ih (s.next t) (s.hears t)

theorem documentationHeard (before : List Token) :
    lastHeard .apart "" before = documentation before := by
  rcases before.eq_nil_or_concat' with rfl | ⟨us, u, rfl⟩
  · rfl
  · simp [lastHeardConcat, documentation]

theorem declarationAt {ts before after : List Token} {keyword : Token} {kind : DeclarationKind}
    (split : ts = before ++ keyword :: after)
    (opens : (walk .apart before).place.opening? keyword = some kind) :
    (declarations ts)[(openings .free before).length]? =
      some (declared ⟨kind, documentation before, after⟩) := by
  have noted := openedSplit opens "" after
  rw [← split, documentationHeard] at noted
  rw [declarationsDeclared, List.getElem?_map]
  exact congrArg (Option.map declared) noted

theorem declarationsLength (ts : List Token) :
    (declarations ts).length = (openings .free ts).length := by
  rw [declarationsDeclared, List.length_map, openedLength]
  rfl

end Walk

section Text
variable {e : Ending} {ts rest : List Token} {source : String} {d : Definition}

theorem versionBlockCloses {v : UInt32 × UInt32} (h : versionBlock e ts = .ok (v, rest)) :
    rest = ts ∨ ∃ used closing, significant ts = used ++ closing :: significant rest ∧
      closing.kind = .punctuation .rightBrace := by
  unfold versionBlock at h
  split at h
  · contradiction
  · rename_i t more read
    split at h
    · rename_i keyword
      obtain ⟨inside, opening, h⟩ := bindOk h
      obtain ⟨o, takes, -⟩ := demandSound (by simp) opening
      obtain ⟨entries, closing, split, -, closes⟩ := versionEntriesSound h
      refine .inr ⟨t :: o :: entries, closing, ?_, closes⟩
      rw [nextSignificantTakes read (by simp [keyword]), takes, split]
      rfl
    · cases h
      exact .inl rfl

theorem interfaceCloses {i : InterfaceClause} (h : interfaceClause e ts = .ok (i, rest)) :
    ∃ used brace, significant ts = used ++ brace :: significant rest ∧
      brace.kind ≠ .description := by
  obtain ⟨⟨_, ts₁⟩, readDescription, h⟩ := bindOk h
  obtain ⟨ts₂, readInterface, h⟩ := bindOk h
  obtain ⟨⟨_, ts₃⟩, readName, h⟩ := bindOk h
  obtain ⟨ts₄, readOpening, h⟩ := bindOk h
  obtain ⟨⟨_, ts₅⟩, readVersion, h⟩ := bindOk h
  cases h
  obtain ⟨used, split, -⟩ := descriptionSound readDescription
  obtain ⟨k, takes, -⟩ := demandSound (by simp) readInterface
  obtain ⟨name, takesName, -, -⟩ := demandIdentifierSound readName
  obtain ⟨o, takesOpening, opens⟩ := demandSound (by simp) readOpening
  rcases versionBlockCloses readVersion with rfl | ⟨more, closing, version, closes⟩
  · refine ⟨used ++ [k, name], o, ?_, by simp [opens]⟩
    simp [split, takes, takesName, takesOpening]
  · refine ⟨used ++ k :: name :: o :: more, closing, ?_, by simp [closes]⟩
    simp [split, takes, takesName, takesOpening, version]

/-- The declarations of a text have what their own places in it say of them, in the order of their
keywords. The header ends with a brace, so that none of them is documented by it. -/
structure Documented (source : String) (ds : List Declaration) : Prop where
  header : ∃ front brace, significant (Scan.ofText source).tokens =
    front ++ brace :: significant (afterHeader source) ∧ brace.kind ≠ .description
  number : ds.length = (declarationKeywords source).length
  attached : ∀ before keyword after kind,
    significant (afterHeader source) = before ++ keyword :: after →
    (walk .apart before).place.opening? keyword = some kind →
    ∃ m, ds[(openings .free before).length]? = some m ∧ m.kind = kind ∧
      m.description = documentation before

theorem bodyDescription (kind : DeclarationKind) (description : String) (ts : List Token) :
    (body kind description ts).1.description = description := by
  cases kind <;> rfl

theorem headerCloses {c : PackageClause × InterfaceClause} (h : clauses e ts = .ok (c, rest)) :
    ∃ front brace, significant ts = front ++ brace :: significant rest ∧
      brace.kind ≠ .description := by
  obtain ⟨⟨_, ts₁⟩, readPackage, h⟩ := bindOk h
  obtain ⟨⟨_, ts₂⟩, readInterface, h⟩ := bindOk h
  cases h
  obtain ⟨front, split⟩ := honestLeaves packageClauseHonest readPackage
  obtain ⟨used, brace, takes, plain⟩ := interfaceCloses readInterface
  refine ⟨significant front ++ used, brace, ?_, plain⟩
  rw [← split, significantAppend, takes, List.append_assoc]

theorem readParts (read : Definition.ofText source = .ok d) :
    (∃ c, clauses (Scan.ofText source).ending (Scan.ofText source).tokens =
      .ok (c, afterHeader source)) ∧
      d = .ofDeclarations d.package d.interface
        (declarations (significant (afterHeader source))) := by
  obtain ⟨rest, header, parts⟩ := WellFormed.ofTextParts read
  have left : afterHeader source = rest := by rw [afterHeader, header]
  rw [left]
  exact ⟨⟨_, header⟩, parts⟩

/-- A definition that is read has one declaration for each opening keyword behind the header, and
the documentation of each is the description directly before its keyword, or none where there is no
such description, or where it stands in linking position or in a list that is not closed. -/
theorem documentedBefore (read : Definition.ofText source = .ok d) :
    ∃ ds, d.Keeps ds ∧ Documented source ds := by
  obtain ⟨⟨c, header⟩, parts⟩ := readParts read
  refine ⟨_, Definition.keepsIff.2 parts, headerCloses header, declarationsLength _, ?_⟩
  intro before keyword after kind split opens
  exact ⟨_, declarationAt split opens, bodyKind _ _ _, bodyDescription _ _ _⟩

end Text

def heaped : String :=
  "package p interface I \x7b <**a**> <**b**> method m fireAndForget typedef <**c**> array of " ++
    "<**d**> attribute Int32 x ) <**e**> struct S \x7b <**f**> Int32 y <**g**> broadcast b " ++
    "\x7b in \x7b Int32 z \x7d <**h**> method n <**i**> , typedef t \x7d"

def heapedDefinition : Definition :=
  .ofDeclarations ⟨"p", []⟩ ⟨"I", none, 0, 0⟩
    [.method ⟨"b", "m", true, [], []⟩, .typedef { description := "", name := "", aliased := "" },
      .array ⟨"", "of", ""⟩, .attr ⟨"", "Int32", "x", false⟩,
      .struct ⟨"e", "S", [⟨"f", "Int32", "y", false, false⟩]⟩, .broadcast ⟨"", "b", false, []⟩,
      .method ⟨"h", "n", false, [], []⟩, .typedef { description := "", name := "t", aliased := "" }]

theorem heapedDocumented : Definition.ofText heaped = .ok heapedDefinition ∧
    ∃ ds, heapedDefinition.Keeps ds ∧ Documented heaped ds := by
  have read : Definition.ofText heaped = .ok heapedDefinition := by decide +kernel
  exact ⟨read, documentedBefore read⟩

def unclosed : String := "package p interface I \x7b struct S \x7b Int32 x <**d**> method m \x7d"

theorem unclosedSwallows : ∃ before u keyword after,
    significant (afterHeader unclosed) = before ++ u :: keyword :: after ∧
      walked .free before = .free ∧ u.kind = .description ∧ u.literal = "d" ∧
      opens? keyword = some .method ∧
      ∃ d, Definition.ofText unclosed = .ok d ∧ d.methods.map Method.description = [""] := by
  have tokens : significant (afterHeader unclosed) =
      [⟨.keyword .struct, "struct", ⟨24, 30⟩⟩, ⟨.identifier, "S", ⟨31, 32⟩⟩,
        ⟨.punctuation .leftBrace, "\x7b", ⟨33, 34⟩⟩, ⟨.identifier, "Int32", ⟨35, 40⟩⟩,
        ⟨.identifier, "x", ⟨41, 42⟩⟩] ++
      ⟨.description, "d", ⟨43, 50⟩⟩ :: ⟨.keyword .method, "method", ⟨51, 57⟩⟩ ::
        [⟨.identifier, "m", ⟨58, 59⟩⟩, ⟨.punctuation .rightBrace, "\x7d", ⟨60, 61⟩⟩] := by
    decide +kernel
  have read : Definition.ofText unclosed =
      .ok (.ofDeclarations ⟨"p", []⟩ ⟨"I", none, 0, 0⟩
        [.struct ⟨"", "S", [⟨"", "Int32", "x", false, false⟩]⟩,
          .method ⟨"", "m", false, [], []⟩]) := by
    decide +kernel
  exact ⟨_, _, _, _, tokens, by decide, rfl, rfl, rfl, _, read, rfl⟩

end Busbind.Attachment
