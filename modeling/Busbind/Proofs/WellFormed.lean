import Busbind.Grammar
import Busbind.Proofs.Canonical
import Busbind.Proofs.HeaderGrammar
import Busbind.Proofs.Openings
import Busbind.Proofs.Provenance
import Busbind.Proofs.Spelling
import Busbind.Proofs.Tiling

/-! The texts that stand in a definition, from whatever text it was read. The header leaves nothing
out; in the declarations a name or the type of an attribute or alias may be missing, and then it is
empty. What is there is an identifier, a word that can be a name, or documentation, because the scan
gives every token a text of its kind. -/
namespace Busbind.WellFormed
open Canonical Declarations Header HeaderGrammar Munch Openings Outcome Provenance

def namingKeywords : List Keyword :=
  [.version, .major, .minor, .input, .output, .selective, .fireAndForget]

structure IsLabel (s : String) : Prop where
  word : s = "" ∨ IsIdentifier s ∨ ∃ k ∈ namingKeywords, s = k.spelling
  opensNothing : ∀ k : Keyword, k.role = .header ∨ k.role = .declaration → s ≠ k.spelling

def IsReference (s : String) : Prop := s = "" ∨ IsIdentifier s

def IsImportPath (s : String) : Prop := ∃ base, IsIdentifier base ∧ (s = base ∨ s = base ++ "*")

structure ParameterFormed (p : Parameter) : Prop where
  type : IsIdentifier p.type
  name : IsLabel p.name
  description : IsDocumentation p.description

def outerTypes : Declaration → List String
  | .attr a => [a.type]
  | .typedef t => [t.aliased]
  | .array a => [a.element]
  | .method _ | .broadcast _ | .struct _ => []

def innerParameters : Declaration → List Parameter
  | .method m => m.inputs ++ m.outputs
  | .broadcast b => b.outputs
  | .struct s => s.fields
  | .attr _ | .typedef _ | .array _ => []

structure DeclarationFormed (d : Declaration) : Prop where
  name : IsLabel d.name
  description : IsDocumentation d.description
  types : ∀ s ∈ outerTypes d, IsReference s
  parameters : ∀ p ∈ innerParameters d, ParameterFormed p

def members (d : Definition) : List Declaration :=
  d.attributes.map .attr ++ d.methods.map .method ++ d.broadcasts.map .broadcast ++
    d.structs.map .struct ++ d.typedefs.map .typedef ++ d.arrays.map .array

structure DefinitionFormed (d : Definition) : Prop where
  package : IsIdentifier d.package.name
  imports : ∀ i ∈ d.package.imports, IsImportPath i.path
  interface : IsIdentifier d.interface.name
  description : ∀ s ∈ d.interface.description, IsDocumentation s
  declarations : ∀ m ∈ members d, DeclarationFormed m

def Sound (t : Token) : Prop :=
  match t.kind with
  | .identifier => IsIdentifier t.literal
  | .keyword k => t.literal = k.spelling
  | .description => IsDocumentation t.literal
  | _ => True

def AllSound (ts : List Token) : Prop := ∀ t ∈ ts, Sound t

section Scanning

theorem wordOfRun {covered after : List Char} (run : Run Char.isAlpha isWordPart covered after) :
    IsWord (String.ofList covered) := by
  obtain ⟨c, cs, rfl, letter, parts, _⟩ := run
  have first : isWordPart c = true := by simp [isWordPart, Char.isAlphanum, letter]
  simp only [IsWord, String.toList_ofList, List.head?_cons, Option.any_some, List.all_cons, first,
    Bool.true_and, List.all_eq_true]
  exact ⟨letter, parts⟩

theorem documentationOfClosing {d : String} (closes : ClosesFirst d.toList) :
    IsDocumentation d := by
  constructor
  · rintro ⟨before, after, same⟩
    have shorter := closes before (after ++ ['*', '*']) (by rw [← same]; simp)
    have lengths := congrArg List.length same
    simp only [shorter, List.length_append, List.length_cons, List.length_nil] at lengths
    omega
  · intro last
    obtain ⟨front, same⟩ := List.getLast?_eq_some_iff.1 last
    have shorter := closes front ['*'] (by rw [same]; simp)
    rw [shorter] at same
    simpa using congrArg List.length same

theorem soundOfForms {t : Token} {covered after : List Char}
    (forms : Forms t.kind t.literal.toList covered after) : Sound t := by
  unfold Sound
  cases kind : t.kind with
  | identifier =>
    rw [kind] at forms
    obtain ⟨same, run, other⟩ := forms
    have literal : t.literal = String.ofList covered := by rw [← same, String.ofList_toList]
    rw [literal]
    exact ⟨wordOfRun run, (ofSpellingNone _).2 other⟩
  | keyword k =>
    rw [kind] at forms
    obtain ⟨same, _, spelled⟩ := forms
    simp only [← spelled, ← same, String.ofList_toList]
  | description =>
    rw [kind] at forms
    obtain ⟨_, _, _, _, closes⟩ := forms
    exact documentationOfClosing closes
  | _ => trivial

theorem scanSound (source : String) : AllSound (Scan.ofText source).tokens := by
  have sound {ps : List Piece} {rest : List Char} (cuts : Piece.Cuts source.toList ps rest) :
      AllSound (Piece.place 0 ps) := by
    intro t mem
    obtain ⟨_, _, _, _, _, forms⟩ := Tiling.placedMunched [] cuts rfl t mem
    exact soundOfForms forms
  rcases Piece.scanCases source with ⟨ps, cuts, scan⟩ | ⟨ps, _, _, cuts, _, scan⟩
  · rw [scan]
    exact sound cuts
  · rw [scan]
    exact sound cuts

end Scanning

section Words

theorem spellingInjective {k l : Keyword} (same : k.spelling = l.spelling) : k = l := by
  have found := Keyword.spellingFound k
  rw [same, Keyword.spellingFound] at found
  exact (Option.some.inj found).symm

theorem emptyLabel : IsLabel "" :=
  ⟨.inl rfl, fun k _ => by cases k <;> decide⟩

theorem emptyDocumentation : IsDocumentation "" := by decide

theorem namingIff (k : Keyword) :
    k ∈ namingKeywords ↔ k.role ≠ .declaration ∧ k.role ≠ .header := by
  cases k <;> decide

theorem labelOfName {t : Token} (sound : Sound t) (named : t.kind.isName = true) :
    IsLabel t.literal := by
  unfold Sound at sound
  cases kind : t.kind with
  | identifier =>
    rw [kind] at sound
    exact ⟨.inr (.inl sound), fun k _ => (ofSpellingNone _).1 sound.2 k⟩
  | keyword k =>
    rw [kind] at sound named
    simp only [TokenKind.isName, ne_eq, Bool.and_eq_true, decide_eq_true_eq] at named
    refine ⟨.inr (.inr ⟨k, (namingIff k).2 named, sound⟩), fun l opens same => ?_⟩
    obtain rfl := spellingInjective (sound.symm.trans same)
    rcases opens with header | declaration
    · exact named.2 header
    · exact named.1 declaration
  | _ => simp [kind, TokenKind.isName] at named

theorem labelWord {s : String} (label : IsLabel s) : s = "" ∨ IsWord s := by
  rcases label.word with empty | identifier | ⟨k, _, rfl⟩
  · exact .inl empty
  · exact .inr identifier.1
  · exact .inr (keywordIsWord k)

theorem identifierOfSound {t : Token} (sound : Sound t) (kind : t.kind = .identifier) :
    IsIdentifier t.literal := by
  simpa only [Sound, kind] using sound

theorem documentationOfSound {t : Token} (sound : Sound t) (kind : t.kind = .description) :
    IsDocumentation t.literal := by
  simpa only [Sound, kind] using sound

end Words

section Header
variable {e : Ending} {ts rest : List Token}

theorem soundLeft (sound : AllSound ts) (left : rest <:+ ts) : AllSound rest :=
  fun t mem => sound t (left.subset mem)

theorem soundTaken {t : Token} (sound : AllSound ts)
    (takes : significant ts = t :: significant rest) : Sound t := by
  have mem : t ∈ significant ts := takes ▸ List.mem_cons_self
  exact sound t (List.mem_filter.1 mem).1

theorem demandIdentifierFormed {x : Expected} {s : String} (sound : AllSound ts)
    (read : demandIdentifier e x ts = .ok (s, rest)) : IsIdentifier s ∧ AllSound rest := by
  obtain ⟨t, takes, kind, rfl⟩ := demandIdentifierSound read
  exact ⟨identifierOfSound (soundTaken sound takes) kind,
    soundLeft sound (honestLeaves demandIdentifierHonest read)⟩

theorem importClauseFormed {i : Import} (sound : AllSound ts)
    (read : importClause e ts = .ok (i, rest)) : IsImportPath i.path ∧ AllSound rest := by
  have left := honestLeaves importClauseHonest read
  obtain ⟨⟨path, ts₁⟩, readPath, read⟩ := bindOk read
  obtain ⟨⟨wild, ts₂⟩, readWild, read⟩ := bindOk read
  obtain ⟨⟨s, ts₃⟩, readSource, read⟩ := bindOk read
  cases read
  refine ⟨⟨path, (demandIdentifierFormed sound readPath).1, ?_⟩, soundLeft sound left⟩
  cases wild with
  | true => exact .inr rfl
  | false => exact .inl rfl

theorem importsFormed {is : List Import} (sound : AllSound ts)
    (read : imports e ts = .ok (is, rest)) :
    (∀ i ∈ is, IsImportPath i.path) ∧ AllSound rest := by
  refine ⟨?_, soundLeft sound (honestLeaves importsHonest read)⟩
  fun_induction imports e ts generalizing is with
  | case1 => contradiction
  | case2 => contradiction
  | case3 ts t more next kind i after clause ih =>
    obtain ⟨path, left⟩ :=
      importClauseFormed (soundLeft sound (nextSignificantLeaves next)) clause
    cases tail : imports e after with
    | error r => rw [tail] at read; contradiction
    | ok r =>
      rw [tail] at read
      cases read
      exact List.forall_mem_cons.2 ⟨path, ih left tail⟩
  | case4 ts t more next other =>
    cases read
    exact List.forall_mem_nil _

theorem packageClauseFormed {p : PackageClause} (sound : AllSound ts)
    (read : packageClause e ts = .ok (p, rest)) :
    IsIdentifier p.name ∧ (∀ i ∈ p.imports, IsImportPath i.path) ∧ AllSound rest := by
  obtain ⟨ts₁, readKeyword, read⟩ := bindOk read
  obtain ⟨⟨name, ts₂⟩, readName, read⟩ := bindOk read
  obtain ⟨⟨is, ts₃⟩, readImports, read⟩ := bindOk read
  cases read
  have afterKeyword := soundLeft sound (honestLeaves demandHonest readKeyword)
  obtain ⟨named, afterName⟩ := demandIdentifierFormed afterKeyword readName
  exact ⟨named, importsFormed afterName readImports⟩

theorem descriptionFormed {d : Option String} (sound : AllSound ts)
    (read : description e ts = .ok (d, rest)) : ∀ s ∈ d, IsDocumentation s := by
  unfold description at read
  split at read
  · contradiction
  · rename_i t more next
    split at read <;> cases read
    · rename_i kind
      rintro _ ⟨⟩
      exact documentationOfSound
        (soundTaken sound (nextSignificantTakes next (by simp [kind]))) kind
    · nofun

theorem interfaceClauseFormed {i : InterfaceClause} (sound : AllSound ts)
    (read : interfaceClause e ts = .ok (i, rest)) :
    IsIdentifier i.name ∧ ∀ s ∈ i.description, IsDocumentation s := by
  obtain ⟨⟨d, ts₁⟩, readDescription, read⟩ := bindOk read
  obtain ⟨ts₂, readKeyword, read⟩ := bindOk read
  obtain ⟨⟨name, ts₃⟩, readName, read⟩ := bindOk read
  obtain ⟨ts₄, readOpening, read⟩ := bindOk read
  obtain ⟨⟨v, ts₅⟩, readVersion, read⟩ := bindOk read
  cases read
  have afterDescription := soundLeft sound (honestLeaves descriptionHonest readDescription)
  have afterKeyword := soundLeft afterDescription (honestLeaves demandHonest readKeyword)
  exact ⟨(demandIdentifierFormed afterKeyword readName).1, descriptionFormed sound readDescription⟩

end Header

section Declarations
variable {ts : List Token}

theorem typeNameFormed (sound : AllSound ts) : IsReference (typeName ts).1 := by
  cases ts with
  | nil => exact .inl rfl
  | cons t ts =>
    simp only [typeName]
    split
    · exact .inr (identifierOfSound (sound t List.mem_cons_self) (by assumption))
    · exact .inl rfl

theorem nameFormed (sound : AllSound ts) : IsLabel (name ts).1 := by
  cases ts with
  | nil => exact emptyLabel
  | cons t ts =>
    simp only [name]
    split
    · exact labelOfName (sound t List.mem_cons_self) (by assumption)
    · exact emptyLabel

theorem parameterFormed {description type : String} (documented : IsDocumentation description)
    (typed : IsIdentifier type) (sound : AllSound ts) :
    ParameterFormed (parameter description type ts).1 := by
  have left := (markLeaves (.punctuation .circumflex) _).trans (arrayMarkLeaves ts)
  exact ⟨typed, nameFormed (soundLeft sound left), documented⟩

theorem parametersFormed (sound : AllSound ts) : ∀ p ∈ (parameters ts).1, ParameterFormed p := by
  fun_induction parameters ts with
  | case1 | case2 | case3 | case5 => exact List.forall_mem_nil _
  | case4 t ts _ _ identifier first later ih =>
    obtain ⟨here, after⟩ := List.forall_mem_cons.1 sound
    have typed := identifierOfSound here identifier
    exact List.forall_mem_cons.2 ⟨parameterFormed emptyDocumentation typed after,
      ih (soundLeft after (parameterLeaves "" t.literal ts))⟩
  | case6 t _ _ _ kind u us identifier first later ih =>
    obtain ⟨documents, sound⟩ := List.forall_mem_cons.1 sound
    obtain ⟨here, after⟩ := List.forall_mem_cons.1 sound
    have documented := documentationOfSound documents kind
    have typed := identifierOfSound here identifier
    exact List.forall_mem_cons.2 ⟨parameterFormed documented typed after,
      ih (soundLeft after (parameterLeaves t.literal u.literal us))⟩
  | case7 t _ _ _ _ u us _ _ ih => exact ih (soundLeft sound (List.suffix_cons t _))
  | case8 t _ _ _ _ u us _ _ ih =>
    exact ih (soundLeft sound ((List.suffix_cons u us).trans (List.suffix_cons t _)))
  | case9 t ts _ _ _ _ ih => exact ih (soundLeft sound (List.suffix_cons t ts))

theorem parameterListFormed (sound : AllSound ts) :
    ∀ p ∈ (parameterList ts).1, ParameterFormed p := by
  have opening := soundLeft sound (markLeaves (.punctuation .leftBrace) ts)
  unfold parameterList
  generalize mark (.punctuation .leftBrace) ts = read at opening
  rcases read with ⟨_ | _, rest⟩
  · nofun
  · exact parametersFormed opening

theorem groupsFormed (sound : AllSound ts) :
    (∀ p ∈ (groups ts).1.inputs, ParameterFormed p) ∧
      ∀ p ∈ (groups ts).1.outputs, ParameterFormed p := by
  fun_induction groups ts with
  | case1 | case5 => exact ⟨List.forall_mem_nil _, List.forall_mem_nil _⟩
  | case2 t ts _ list later ih =>
    have after := (List.forall_mem_cons.1 sound).2
    obtain ⟨inputs, outputs⟩ := ih (soundLeft after (parameterListLeaves ts))
    exact ⟨List.forall_mem_append.2 ⟨parameterListFormed after, inputs⟩, outputs⟩
  | case3 t ts _ _ list later ih =>
    have after := (List.forall_mem_cons.1 sound).2
    obtain ⟨inputs, outputs⟩ := ih (soundLeft after (parameterListLeaves ts))
    exact ⟨inputs, List.forall_mem_append.2 ⟨parameterListFormed after, outputs⟩⟩
  | case4 t ts _ _ _ ih => exact ih (List.forall_mem_cons.1 sound).2

theorem aliasFormed (sound : AllSound ts) : IsReference (typeName ((name ts).2.drop 1)).1 := by
  exact typeNameFormed (soundLeft sound ((List.drop_suffix 1 _).trans (nameLeaves ts)))

theorem bodyFormed (kind : DeclarationKind) {description : String}
    (documented : IsDocumentation description) (sound : AllSound ts) :
    DeclarationFormed (body kind description ts).1 := by
  have afterName := soundLeft sound (nameLeaves ts)
  cases kind with
  | attr =>
    have left := (arrayMarkLeaves _).trans (typeNameLeaves ts)
    exact ⟨nameFormed (soundLeft sound left), documented,
      List.forall_mem_singleton.2 (typeNameFormed sound), nofun⟩
  | method =>
    have flagged := soundLeft afterName (markLeaves (.keyword .fireAndForget) _)
    exact ⟨nameFormed sound, documented, nofun, List.forall_mem_append.2 (groupsFormed flagged)⟩
  | broadcast =>
    have flagged := soundLeft afterName (markLeaves (.keyword .selective) _)
    exact ⟨nameFormed sound, documented, nofun, (groupsFormed flagged).2⟩
  | struct => exact ⟨nameFormed sound, documented, nofun, parameterListFormed afterName⟩
  | typedef | array =>
    exact ⟨nameFormed sound, documented, List.forall_mem_singleton.2 (aliasFormed sound), nofun⟩

theorem declarationsFormed (sound : AllSound ts) :
    ∀ d ∈ declarations ts, DeclarationFormed d := by
  fun_induction declarations ts with
  | case1 | case3 => exact List.forall_mem_nil _
  | case2 t ts kind opens first ih =>
    have after := (List.forall_mem_cons.1 sound).2
    exact List.forall_mem_cons.2 ⟨bodyFormed kind emptyDocumentation after,
      ih (soundLeft after (bodyLeaves kind "" ts))⟩
  | case4 t closed described u us kind opens first ih =>
    obtain ⟨documents, sound⟩ := List.forall_mem_cons.1 sound
    have after := (List.forall_mem_cons.1 sound).2
    exact List.forall_mem_cons.2 ⟨bodyFormed kind (documentationOfSound documents described) after,
      ih (soundLeft after (bodyLeaves kind t.literal us))⟩
  | case5 t _ _ u us _ _ ih => exact ih (soundLeft sound (List.suffix_cons t _))
  | case6 t _ _ u us _ _ ih =>
    exact ih (soundLeft sound ((List.suffix_cons u us).trans (List.suffix_cons t _)))
  | case7 t ts _ _ ih => exact ih (soundLeft sound (List.suffix_cons t ts))

end Declarations

theorem membersOfDeclarations (package : PackageClause) (interface : InterfaceClause)
    (ds : List Declaration) :
    ∀ m ∈ members (Definition.ofDeclarations package interface ds), m ∈ ds := by
  intro m mem
  simp only [members, Definition.ofDeclarations, List.mem_append, List.mem_map,
    List.mem_filterMap] at mem
  obtain ((((⟨_, ⟨d, here, kind⟩, rfl⟩ | ⟨_, ⟨d, here, kind⟩, rfl⟩) | ⟨_, ⟨d, here, kind⟩, rfl⟩) |
    ⟨_, ⟨d, here, kind⟩, rfl⟩) | ⟨_, ⟨d, here, kind⟩, rfl⟩) | ⟨_, ⟨d, here, kind⟩, rfl⟩ := mem
  all_goals
    cases d <;> cases kind
    exact here

section Reading
variable {source : String} {d : Definition}

theorem ofTextParts (read : Definition.ofText source = .ok d) : ∃ rest,
    clauses (Scan.ofText source).ending (Scan.ofText source).tokens =
      .ok ((d.package, d.interface), rest) ∧
    d = .ofDeclarations d.package d.interface (declarations (rest.filter Token.isSignificant)) := by
  rw [Definition.ofText, Definition.ofScan] at read
  obtain ⟨⟨⟨package, interface⟩, rest⟩, header, read⟩ := bindOk read
  cases ending : (Scan.ofText source).ending with
  | unclosed span =>
    simp only [ending] at read
    contradiction
  | complete p =>
    simp only [ending] at read
    cases read
    exact ⟨rest, ending ▸ header, rfl⟩

theorem clausesFormed {e : Ending} {ts rest : List Token} {package : PackageClause}
    {interface : InterfaceClause} (sound : AllSound ts)
    (read : clauses e ts = .ok ((package, interface), rest)) :
    IsIdentifier package.name ∧ (∀ i ∈ package.imports, IsImportPath i.path) ∧
      IsIdentifier interface.name ∧ ∀ s ∈ interface.description, IsDocumentation s := by
  obtain ⟨⟨_, ts⟩, readPackage, read⟩ := bindOk read
  obtain ⟨⟨_, _⟩, readInterface, read⟩ := bindOk read
  cases read
  obtain ⟨named, imported, after⟩ := packageClauseFormed sound readPackage
  obtain ⟨titled, documented⟩ := interfaceClauseFormed after readInterface
  exact ⟨named, imported, titled, documented⟩

theorem membersFormed (read : Definition.ofText source = .ok d) :
    ∀ m ∈ members d, DeclarationFormed m := by
  obtain ⟨rest, header, parts⟩ := ofTextParts read
  have left := soundLeft (scanSound source) (honestLeaves clausesHonest header)
  have visible : AllSound (rest.filter Token.isSignificant) :=
    fun t mem => left t (List.mem_filter.1 mem).1
  rw [parts]
  exact fun m mem => declarationsFormed visible m (membersOfDeclarations _ _ _ m mem)

end Reading

theorem readFormed {source : String} {d : Definition} (read : Definition.ofText source = .ok d) :
    DefinitionFormed d := by
  obtain ⟨rest, header, _⟩ := ofTextParts read
  obtain ⟨named, imported, titled, documented⟩ := clausesFormed (scanSound source) header
  exact ⟨named, imported, titled, documented, membersFormed read⟩

def patchy : String :=
  "package p.q import a* import b 'c' <*** *>**> interface I_2 \x7b attribute attribute T [ in " ++
    "<**<*x**y method major \x7b in \x7b 1 A.b \x7b <**d**> B ^ minor method \x7d typedef is of " ++
    "array selective in struct \x7d"

def patchyDefinition : Definition :=
  .ofDeclarations ⟨"p.q", [⟨"a*", ""⟩, ⟨"b", "c"⟩]⟩ ⟨"I_2", some "* *>", 0, 0⟩
    [.attr ⟨"", "", "", false⟩, .attr ⟨"", "T", "in", false⟩,
      .method ⟨"<*x", "major", false,
        [⟨"", "A.b", "", false, false⟩, ⟨"d", "B", "minor", false, true⟩], []⟩,
      .method ⟨"", "", false, [], []⟩,
      .typedef { description := "", name := "is", aliased := "" }, .array ⟨"", "selective", ""⟩,
      .struct ⟨"", "", []⟩]

theorem patchyFormed : Definition.ofText patchy = .ok patchyDefinition ∧
    DefinitionFormed patchyDefinition := by
  have read : Definition.ofText patchy = .ok patchyDefinition := by decide +kernel
  exact ⟨read, readFormed read⟩

end Busbind.WellFormed
