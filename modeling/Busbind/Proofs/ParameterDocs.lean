import Busbind.Proofs.Attachment

/-! What documents a parameter or a field. The reader of a list takes a description together with
the token behind it, so that of the descriptions directly before a type the last one documents the
parameter where their number is odd, and none of them does where it is even. -/
namespace Busbind.ParameterDocs
open Declarations Openings Stages Stage Attachment
open HeaderGrammar (significant)
open Locality (afterHeader declarationKeywords)

def documentation (run : List Token) : String :=
  if run.length % 2 = 1 then (run.getLast?.map Token.literal).getD "" else ""

def told (p : Parameter) : String × String := (p.type, p.description)

def toldIn (slot : Slot) (ms : List Mention) : List (String × String) :=
  (ms.filter fun m => m.slot = slot).map fun m => (m.type.literal, documentation m.run)

def listed (slot slot' : Slot) (ps : List Parameter) : List (String × String) :=
  if slot = slot' then ps.map told else []

section Lists
variable {slot : Slot} {s : Stage} {t : Token} {run ts : List Token}

theorem mentionsOn (closed : opens? t = none) (silent : s.begins? t = none) (run ts : List Token) :
    mentions s run (t :: ts) = mentions (s.within t) (grown run t) ts := by
  rw [mentions, closedOpens closed, silent]

theorem mentionsOpening (opens : opens? t ≠ none) (free : s.place = .free) (run ts : List Token) :
    mentions s run (t :: ts) = [] := by
  obtain ⟨kind, opens⟩ := Option.ne_none_iff_exists'.1 opens
  rw [mentions, free]
  simp [Place.opening?, opens]

theorem mentionsApart (run ts : List Token) : mentions .apart run ts = [] := by
  induction ts generalizing run with
  | nil => rfl
  | cons t ts ih =>
    cases opens : opens? t with
    | some kind => exact mentionsOpening (by simp [opens]) rfl run ts
    | none => rw [mentionsOn opens rfl, Stage.within, ih]

theorem mentionsForget (untyped : t.kind ≠ .identifier) (plain : t.kind ≠ .description)
    (s : Stage) (run ts : List Token) : mentions s run (t :: ts) = mentions s [] (t :: ts) := by
  have silent : s.begins? t = none := by
    unfold begins?
    split
    · simp [untyped]
    · rfl
  rw [mentions, mentions, silent]
  simp [grown, plain]

theorem mentionsPassed (goes : ¬endsList t = true) (open' : t.kind ≠ .punctuation .rightBrace)
    (untyped : t.kind ≠ .identifier) (run ts : List Token) :
    mentions (.inside slot .vacant) run (t :: ts) =
      mentions (.inside slot .vacant) (grown run t) ts := by
  rw [mentionsOn (goesCloses goes) (by simp [begins?, untyped])]
  simp [Stage.within, open', Point.next, untyped]

theorem mentionsTyped (identifier : t.kind = .identifier) (run ts : List Token) :
    mentions (.inside slot .vacant) run (t :: ts) =
      ⟨slot, run, t⟩ :: mentions (.inside slot .typed) [] ts := by
  have closed : opens? t = none := by simp [opens?, identifier]
  rw [mentions, closedOpens closed]
  simp [begins?, identifier, Stage.within, Point.next, grown]

theorem toldTyped (slot slot' : Slot) {run : List Token} (t : Token) (ms : List Mention) :
    toldIn slot' (⟨slot, run, t⟩ :: ms) =
      (if slot = slot' then [(t.literal, documentation run)] else []) ++ toldIn slot' ms := by
  by_cases same : slot = slot' <;> simp [toldIn, same]

theorem listedCons (slot slot' : Slot) (p : Parameter) (ps : List Parameter) :
    listed slot slot' (p :: ps) =
      (if slot = slot' then [told p] else []) ++ listed slot slot' ps := by
  by_cases same : slot = slot' <;> simp [listed, same]

theorem listedNil (slot slot' : Slot) : listed slot slot' [] = [] := ite_self _

/-- The reader of a list and the walk over it come to the same types, with what documents them,
where an even number of descriptions came directly before. -/
theorem parametersTold (slot slot' : Slot) (ts : List Token) :
    ∀ run : List Token, run.length % 2 = 0 →
      toldIn slot' (mentions (.inside slot .vacant) run ts) =
        listed slot slot' (parameters ts).1 ++
          toldIn slot' (mentions (closed slot) [] (parameters ts).2) := by
  -- every round of the reader begins behind an even number of descriptions: it takes one with the
  -- token behind it, and any other token ends the run
  fun_induction parameters ts with
  | case1 => exact fun _ _ => by simp [listed, mentions, toldIn]
  | case2 t ts closes =>
    intro run even
    have ends : (Stage.inside slot .vacant).within t = closed slot := by simp [Stage.within, closes]
    rw [mentionsOn (punctuationCloses _ t closes) (by simp [begins?, closes]), ends, grown,
      if_neg (by simp [closes]), listedNil, List.nil_append]
  | case3 t ts open' ends =>
    intro run even
    rw [mentionsOpening (endsOpens ends) rfl, mentionsOpening (endsOpens ends) (closedPlace slot),
      listedNil, List.nil_append]
  | case4 t ts open' goes identifier first later ih =>
    intro run even
    have undocumented : documentation run = "" := by simp [documentation, even]
    rw [mentionsTyped identifier, toldTyped, undocumented,
      mentionsLeads (parameterLeads slot "" t.literal ts), ih [] rfl, listedCons, List.append_assoc]
    rfl
  | case5 t open' goes other description =>
    intro run even
    rw [mentionsPassed goes open' other]
    simp [mentions, listedNil, toldIn]
  | case6 t open' goes other description u us identifier first later ih =>
    intro run even
    have documented : documentation (grown run t) = t.literal := by
      have odd : (run.length + 1) % 2 = 1 := by omega
      simp [grown, description, documentation, odd]
    rw [mentionsPassed goes open' other, mentionsTyped identifier, toldTyped, documented,
      mentionsLeads (parameterLeads slot t.literal u.literal us), ih [] rfl, listedCons,
      List.append_assoc]
    rfl
  | case7 t open' goes other description u us unnamed ends ih =>
    intro run even
    have plain : u.kind ≠ .description := by
      intro kind
      simp [kind, endsList, TokenKind.startsDeclaration] at ends
    rw [mentionsPassed goes open' other, mentionsForget unnamed plain, ih [] rfl]
  | case8 t open' goes other description u us unnamed stays ih =>
    intro run even
    simp only [Bool.or_eq_true, decide_eq_true_eq, not_or] at stays
    have even' : (grown (grown run t) u).length % 2 = 0 := by
      unfold grown
      split_ifs
      · simp only [List.length_append, List.length_singleton]
        omega
      · rfl
    rw [mentionsPassed goes open' other, mentionsPassed stays.2 stays.1 unnamed, ih _ even']
  | case9 t ts open' goes other dropped ih =>
    intro run even
    rw [mentionsPassed goes open' other, grown, if_neg dropped, ih [] rfl]

theorem listTold (slot slot' : Slot) (ts : List Token) :
    toldIn slot' (mentions (.due slot) [] ts) =
      listed slot slot' (parameterList ts).1 ++
        toldIn slot' (mentions (closed slot) [] (parameterList ts).2) := by
  cases ts with
  | nil => simp [parameterList, mark, mentions, listedNil, toldIn]
  | cons t ts =>
    by_cases brace : t.kind = .punctuation .leftBrace
    · have opening : (Stage.due slot).within t = .inside slot .vacant := by
        simp [Stage.within, listing, brace]
      rw [mentionsOn (punctuationCloses _ t brace) rfl, opening, grown, if_neg (by simp [brace]),
        parametersTold slot slot' ts [] rfl]
      simp [parameterList, mark, brace]
    · rw [mentionsAlike (dueAlike slot brace)]
      simp [parameterList, mark, brace, listedNil]

theorem groupsTold (ts : List Token) :
    toldIn .input (mentions .grouped [] ts) = (groups ts).1.inputs.map told ∧
      toldIn .output (mentions .grouped [] ts) = (groups ts).1.outputs.map told := by
  fun_induction groups ts with
  | case1 => exact ⟨rfl, rfl⟩
  | case2 t ts input list later ih =>
    rw [mentionsLeads (inputLeads input ts), listTold, listTold, closed, ih.1, ih.2]
    exact ⟨List.map_append.symm, rfl⟩
  | case3 t ts other output list later ih =>
    rw [mentionsLeads (outputLeads output ts), listTold, listTold, closed, ih.1, ih.2]
    exact ⟨rfl, List.map_append.symm⟩
  | case4 t ts other another brace ih => rwa [mentionsLeads (braceLeads brace ts)]
  | case5 t ts other another more =>
    rw [mentionsAlike (groupsAlike other another more), mentionsApart]
    exact ⟨rfl, rfl⟩

def lists : Declaration → List (Slot × List Parameter)
  | .method m => [(.input, m.inputs), (.output, m.outputs)]
  | .broadcast b => [(.output, b.outputs)]
  | .struct s => [(.field, s.fields)]
  | .attr _ | .typedef _ | .array _ => []

theorem bodyTold (kind : DeclarationKind) (description : String) (ts : List Token) :
    ∀ list ∈ lists (body kind description ts).1,
      list.2.map told = toldIn list.1 (mentions (begun kind) [] ts) := by
  cases kind with
  | attr | typedef | array => nofun
  | method =>
    have walked : mentions (begun .method) [] ts = mentions .grouped [] _ :=
      mentionsLeads ((titledLeads rfl ts).trans (flaggedLeads rfl _))
    rw [walked]
    simp only [body, method, lists, List.forall_mem_cons, groupsTold, List.not_mem_nil,
      false_implies, implies_true, and_self]
  | broadcast =>
    have walked : mentions (begun .broadcast) [] ts = mentions .grouped [] _ :=
      mentionsLeads ((titledLeads rfl ts).trans (flaggedLeads rfl _))
    rw [walked]
    simp only [body, broadcast, lists, List.forall_mem_cons, groupsTold, List.not_mem_nil,
      false_implies, implies_true, and_self]
  | struct =>
    have walked : mentions (begun .struct) [] ts = mentions (.due .field) [] _ :=
      mentionsLeads (labelledLeads ts)
    intro list mem
    obtain rfl := List.mem_singleton.1 mem
    rw [walked, listTold, closed, mentionsApart]
    exact (List.append_nil _).symm

end Lists

section Runs
variable {s : Stage} {run ts : List Token}

def Stands (ts : List Token) (m : Mention) : Prop :=
  ∃ before after, ts = before ++ (m.run ++ m.type :: after) ∧ m.type.kind = .identifier ∧
    (∀ t ∈ m.run, t.kind = .description) ∧ ∀ t ∈ before.getLast?, t.kind ≠ .description

theorem beginsType {t : Token} {slot : Slot} (begins : s.begins? t = some slot) :
    t.kind = .identifier := by
  unfold begins? at begins
  split at begins
  · by_contra other
    simp [other] at begins
  · contradiction

theorem mentionsStand (described : ∀ t ∈ run, t.kind = .description) :
    ∀ m ∈ mentions s run ts, Stands (run ++ ts) m := by
  induction ts generalizing s run with
  | nil => nofun
  | cons t ts ih =>
    have later : ∀ m ∈ mentions (s.within t) (grown run t) ts, Stands (run ++ t :: ts) m := by
      unfold grown
      split_ifs with description
      · have all : ∀ u ∈ run ++ [t], u.kind = .description := by
          simpa [or_imp, forall_and] using And.intro described description
        simpa using ih (s := s.within t) all
      · intro m mem
        obtain ⟨before, after, split, type, inRun, plain⟩ :=
          ih (s := s.within t) (List.forall_mem_nil _) m mem
        refine ⟨run ++ t :: before, after, ?_, type, inRun, ?_⟩
        · simpa using split
        · cases before with
          | nil => simpa using description
          | cons u us => simpa using plain
    rw [mentions]
    split
    · exact List.forall_mem_nil _
    · split
      · rename_i slot begins
        exact List.forall_mem_cons.2 ⟨⟨[], ts, rfl, beginsType begins, described, by simp⟩, later⟩
      · exact later

end Runs

section Text
variable {source : String} {d : Definition}

structure Told (kind : DeclarationKind) (after : List Token) (m : Declaration) : Prop where
  same : m.kind = kind
  stands : ∀ x ∈ mentions (begun kind) [] after, Stands after x
  told : ∀ list ∈ lists m, list.2.map told = toldIn list.1 (mentions (begun kind) [] after)

/-- A definition that is read has one declaration for each opening keyword behind the header, and
each of their parameters and fields is documented by the last of the descriptions directly before
its type where there is an odd number of them, and by none where there is an even number. -/
theorem typesDocumented (read : Definition.ofText source = .ok d) :
    ∃ ds, d.Keeps ds ∧ ds.length = (declarationKeywords source).length ∧
      ∀ before keyword after kind,
        significant (afterHeader source) = before ++ keyword :: after →
        (walk .apart before).place.opening? keyword = some kind →
        ∃ m, ds[(openings .free before).length]? = some m ∧ Told kind after m := by
  obtain ⟨-, parts⟩ := readParts read
  refine ⟨_, Definition.keepsIff.2 parts, declarationsLength _, ?_⟩
  intro before keyword after kind split opens
  have stands : ∀ x ∈ mentions (begun kind) [] after, Stands after x :=
    mentionsStand (List.forall_mem_nil _)
  exact ⟨_, declarationAt split opens, bodyKind _ _ _, stands, bodyTold kind _ after⟩

end Text

def layered : String :=
  "package p interface I \x7b method m \x7b in \x7b <**a**> Int32 x ^ <**b**> <**c**> String y " ++
    ") <**d**> <**e**> <**f**> A [ ] ^ z \x7d out \x7b <**g**> , B \x7d in \x7b C \x7d \x7d " ++
    "broadcast b \x7b in \x7b D w \x7d out \x7b <**h**> E v \x7d \x7d " ++
    "struct S \x7b <**i**> 1 <**j**> F <**k**> G \x7d"

def layeredDefinition : Definition :=
  .ofDeclarations ⟨"p", []⟩ ⟨"I", none, 0, 0⟩
    [.method ⟨"", "m", false,
      [⟨"a", "Int32", "x", false, false⟩, ⟨"", "String", "y", false, false⟩,
        ⟨"f", "A", "z", true, true⟩, ⟨"", "C", "", false, false⟩],
      [⟨"", "B", "", false, false⟩]⟩,
    .broadcast ⟨"", "b", false, [⟨"h", "E", "v", false, false⟩]⟩,
    .struct ⟨"", "S", [⟨"j", "F", "", false, false⟩, ⟨"k", "G", "", false, false⟩]⟩]

theorem layeredDocumented : Definition.ofText layered = .ok layeredDefinition ∧
    ∃ ds, layeredDefinition.Keeps ds ∧ ds.length = (declarationKeywords layered).length ∧
      ∀ before keyword after kind,
        significant (afterHeader layered) = before ++ keyword :: after →
        (walk .apart before).place.opening? keyword = some kind →
        ∃ m, ds[(openings .free before).length]? = some m ∧ Told kind after m := by
  have read : Definition.ofText layered = .ok layeredDefinition := by decide +kernel
  exact ⟨read, typesDocumented read⟩

def paired : String := "package p interface I \x7b struct S \x7b <**a**> <**b**> Int32 x \x7d \x7d"

theorem pairDropped : ∃ before u type after,
    significant (afterHeader paired) = before ++ u :: type :: after ∧
      u.kind = .description ∧ u.literal = "b" ∧ type.kind = .identifier ∧
      type.literal = "Int32" ∧
      ∃ d, Definition.ofText paired = .ok d ∧
        d.structs.map (fun s => s.fields.map told) = [[("Int32", "")]] := by
  have tokens : significant (afterHeader paired) =
      [⟨.keyword .struct, "struct", ⟨24, 30⟩⟩, ⟨.identifier, "S", ⟨31, 32⟩⟩,
        ⟨.punctuation .leftBrace, "\x7b", ⟨33, 34⟩⟩, ⟨.description, "a", ⟨35, 42⟩⟩] ++
      ⟨.description, "b", ⟨43, 50⟩⟩ :: ⟨.identifier, "Int32", ⟨51, 56⟩⟩ ::
        [⟨.identifier, "x", ⟨57, 58⟩⟩, ⟨.punctuation .rightBrace, "\x7d", ⟨59, 60⟩⟩,
          ⟨.punctuation .rightBrace, "\x7d", ⟨61, 62⟩⟩] := by
    decide +kernel
  have read : Definition.ofText paired =
      .ok (.ofDeclarations ⟨"p", []⟩ ⟨"I", none, 0, 0⟩
        [.struct ⟨"", "S", [⟨"", "Int32", "x", false, false⟩]⟩]) := by
    decide +kernel
  exact ⟨_, _, _, _, tokens, rfl, rfl, rfl, rfl, _, read, rfl⟩

end Busbind.ParameterDocs
