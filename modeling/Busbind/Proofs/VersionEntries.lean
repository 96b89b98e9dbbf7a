import Busbind.Proofs.HeaderComplete
import Busbind.Proofs.Spacing
import Busbind.Proofs.SpacedText

/-! Version blocks with any entries in any order. Where every number fits, the last entry of each
field counts; otherwise the first entry whose number does not fit is refused. -/
namespace Busbind.VersionEntries
open Canonical Header HeaderGrammar Munch Piece Spacing

def IsNumber (w : String) : Prop :=
  w.toList.head?.any Char.isDigit = true ∧ w.toList.all isWordPart = true
instance (w) : Decidable (IsNumber w) := by unfold IsNumber; infer_instance

def value (w : String) : Nat := Nat.ofDigitChars 10 w.toList 0

def Fits (w : String) : Prop := (∀ c ∈ w.toList, c.isDigit = true) ∧ value w ≤ 4294967295

structure Entry where
  field : VersionField
  number : String
  deriving DecidableEq, Repr

def keyword : VersionField → Keyword
  | .major => .major
  | .minor => .minor

abbrev Wording := TokenKind × String

def Entry.wording (e : Entry) : List Wording :=
  [(.keyword (keyword e.field), (keyword e.field).spelling), (.number, e.number)]

def values (f : VersionField) (es : List Entry) : List Nat :=
  (es.filter (·.field = f)).map fun e => value e.number

def last (f : VersionField) (es : List Entry) : Nat := (values f es).getLastD 0

def opening : List Wording :=
  [(.keyword .package, "package"), (.identifier, "p"), (.keyword .interface, "interface"),
    (.identifier, "I"), (.punctuation .leftBrace, "\x7b"), (.keyword .version, "version"),
    (.punctuation .leftBrace, "\x7b")]

def closing : List Wording :=
  [(.punctuation .rightBrace, "\x7d"), (.punctuation .rightBrace, "\x7d")]

def wording (es : List Entry) : List Wording := opening ++ es.flatMap Entry.wording ++ closing

def Encloses (source : String) (ts : List Token) (es : List Entry) : Prop :=
  (Scan.ofText source).tokens? = .ok ts ∧ said ts = wording es ++ [(.endOfInput, "")]

structure Versioned (d : Definition) (es : List Entry) : Prop where
  package : d.package = ⟨"p", []⟩
  name : d.interface.name = "I"
  description : d.interface.description = none
  major : d.interface.major.toNat = last .major es
  minor : d.interface.minor.toNat = last .minor es
  empty : d.Keeps []

section Numbers
variable {w : String}

theorem fittingRead (number : IsNumber w) (fits : Fits w) :
    ∃ n, VersionNumber.ofText w = .ok n ∧ n.toNat = value w := by
  obtain ⟨digits, bounded⟩ := fits
  have same : (UInt32.ofNat (value w)).toNat = value w :=
    UInt32.toNat_ofNat_of_lt' (Nat.lt_succ_of_le bounded)
  refine ⟨.ofNat (value w), (VersionNumber.ofTextIff _ _).2 ?_, same⟩
  refine ⟨w.toList, .inl rfl, ?_, digits, same.symm⟩
  intro none
  rw [IsNumber, none] at number
  exact absurd number.1 (by decide)

theorem otherRefused (number : IsNumber w) (other : ¬Fits w) :
    ∃ fault, VersionNumber.ofText w = .error fault := by
  cases read : VersionNumber.ofText w with
  | error fault => exact ⟨fault, rfl⟩
  | ok n =>
    obtain ⟨ds, text | text, _, digits, sum⟩ := (VersionNumber.ofTextIff _ _).1 read
    · refine absurd ⟨text ▸ digits, ?_⟩ other
      rw [value, text, sum]
      exact Nat.le_of_lt_succ n.toNat_lt
    · -- A plus sign begins no number.
      rw [IsNumber, text] at number
      exact absurd number.1 Bool.false_ne_true

end Numbers

section Reading
variable {e : Ending} {ts : List Token} {kind : TokenKind} {literal : String} {rest : List Wording}

theorem nextSaid (same : said ts = (kind, literal) :: rest) :
    ∃ t us, nextSignificant e ts = .ok (t, us) ∧ t.kind = kind ∧ t.literal = literal ∧
      said us = rest ∧ significant ts = t :: significant us := by
  obtain ⟨t, more, split, one, later⟩ := List.map_eq_cons_iff.1 same
  obtain ⟨us, read, left⟩ := nextSignificantComplete (e := e) split
  cases one
  exact ⟨t, us, read, rfl, rfl, by rw [← later, ← left]; rfl, by rw [left]; exact split⟩

theorem demandSaid {x : Expected} (same : said ts = (kind, literal) :: rest) :
    ∃ t us, demand e kind x ts = .ok us ∧ said us = rest ∧
      significant ts = t :: significant us := by
  obtain ⟨t, us, read, rfl, _, later, split⟩ := nextSaid (e := e) same
  exact ⟨t, us, by simp [demand, read], later, split⟩

theorem identifierSaid {x : Expected} (same : said ts = (.identifier, literal) :: rest) :
    ∃ t us, demandIdentifier e x ts = .ok (literal, us) ∧ said us = rest ∧
      significant ts = t :: significant us := by
  obtain ⟨t, us, read, identifier, rfl, later, split⟩ := nextSaid (e := e) same
  exact ⟨t, us, by simp [demandIdentifier, read, identifier], later, split⟩

theorem clausesOpened (same : said ts = opening ++ rest) :
    ∃ os us, significant ts = os ++ significant us ∧ os.length = 7 ∧ said us = rest ∧
      clauses e ts = (versionEntries e 0 0 us).map fun r =>
        ((⟨"p", []⟩, ⟨"I", none, r.1.1, r.1.2⟩), r.2) := by
  obtain ⟨t₁, us₁, package, same₁, split₁⟩ := demandSaid (e := e) (x := .package) same
  obtain ⟨t₂, us₂, name, same₂, split₂⟩ := identifierSaid (e := e) (x := .packageName) same₁
  obtain ⟨t₃, us₃, next, kind, _, same₃, split₃⟩ := nextSaid (e := e) same₂
  obtain ⟨t₄, us₄, interface, same₄, split₄⟩ := identifierSaid (e := e) (x := .interfaceName) same₃
  obtain ⟨t₅, us₅, body, same₅, split₅⟩ := demandSaid (e := e) (x := .interfaceBody) same₄
  obtain ⟨t₆, us₆, version, block, _, same₆, split₆⟩ := nextSaid (e := e) same₅
  obtain ⟨t₇, us₇, entries, same₇, split₇⟩ := demandSaid (e := e) (x := .versionBody) same₆
  refine ⟨[t₁, t₂, t₃, t₄, t₅, t₆, t₇], us₇, ?_, rfl, same₇, ?_⟩
  · rw [split₁, split₂, split₃, split₄, split₅, split₆, split₇]
    rfl
  · have listed : imports e us₂ = .ok ([], us₂) := importsEnd next (by simp [kind])
    have undescribed : description e us₂ = .ok (none, us₂) := by simp [description, next, kind]
    have keyword : demand e (.keyword .interface) .interface us₂ = .ok us₃ := by
      simp [demand, next, kind]
    simp only [clauses, packageClause, interfaceClause, versionBlock, package, name, listed,
      undescribed, keyword, interface, body, version, block, entries, bind, Except.bind, if_true]
    cases versionEntries e 0 0 us₇ <;> rfl

def part (f : VersionField) (v : UInt32 × UInt32) : UInt32 :=
  match f with
  | .major => v.1
  | .minor => v.2

theorem lastEntered {f : VersionField} {entry : Entry} {es : List Entry} {n : UInt32}
    {v : UInt32 × UInt32} (same : n.toNat = value entry.number) :
    (values f (entry :: es)).getLastD (part f v).toNat =
      (values f es).getLastD (part f (entered entry.field n v)).toNat := by
  by_cases here : entry.field = f
  · subst here
    rw [values, List.filter_cons_of_pos (by simp), List.map_cons, List.getLastD_cons, ← same]
    cases entry.field <;> rfl
  · rw [values, List.filter_cons_of_neg (by simpa using here)]
    revert here
    cases entry.field <;> cases f <;> simp [part, entered, values]

theorem keywordEnters {t : Token} {f : VersionField} (kind : t.kind = .keyword (keyword f)) :
    entryField? t.kind = some f := by
  rw [kind]
  cases f <;> rfl

theorem entriesRead {es : List Entry} {v : UInt32 × UInt32} (numbers : ∀ e ∈ es, IsNumber e.number)
    (fit : ∀ e ∈ es, Fits e.number)
    (same : said ts = es.flatMap Entry.wording ++ (.punctuation .rightBrace, literal) :: rest) :
    ∃ w us, versionEntries e v.1 v.2 ts = .ok (w, us) ∧ said us = rest ∧
      ∀ f, (part f w).toNat = (values f es).getLastD (part f v).toNat := by
  induction es generalizing ts v with
  | nil =>
    obtain ⟨t, us, read, closes, _, later, _⟩ := nextSaid (e := e) same
    exact ⟨v, us, versionEntriesEnd read closes, later, fun _ => rfl⟩
  | cons entry es ih =>
    obtain ⟨number, others⟩ := List.forall_mem_cons.1 numbers
    obtain ⟨fits, more⟩ := List.forall_mem_cons.1 fit
    obtain ⟨t, us, read, kind, _, here, _⟩ := nextSaid (e := e) same
    obtain ⟨t', us', written, _, text, later, _⟩ := nextSaid (e := e) here
    obtain ⟨n, digits, counts⟩ := fittingRead number fits
    have entered : versionNumber e entry.field us = .ok (n, us') := by
      simp [versionNumber, written, text, digits]
    obtain ⟨w, rest, listed, behind, parts⟩ := ih others more later
    refine ⟨w, rest, ?_, behind, fun f => ?_⟩
    · rw [versionEntriesRead read (keywordEnters kind) entered, listed]
    · rw [parts f, lastEntered counts]

theorem entriesRefused {front : List Entry} {entry : Entry} {v : UInt32 × UInt32}
    (numbers : ∀ e ∈ front, IsNumber e.number) (fit : ∀ e ∈ front, Fits e.number)
    (number : IsNumber entry.number) (other : ¬Fits entry.number)
    (same : said ts = front.flatMap Entry.wording ++ (entry.wording ++ rest)) :
    ∃ os t us fault, significant ts = os ++ t :: us ∧ os.length = 2 * front.length + 1 ∧
      t.kind = .number ∧ t.literal = entry.number ∧
      versionEntries e v.1 v.2 ts = .error (.invalidNumber entry.field t fault) := by
  induction front generalizing ts v with
  | nil =>
    obtain ⟨t, us, read, kind, _, here, split⟩ := nextSaid (e := e) same
    obtain ⟨t', us', written, kind', text, _, split'⟩ := nextSaid (e := e) here
    obtain ⟨fault, refused⟩ := otherRefused number other
    refine ⟨[t], t', significant us', fault, by rw [split, split']; rfl, rfl, kind', text, ?_⟩
    have stops : versionNumber e entry.field us = .error (.invalidNumber entry.field t' fault) := by
      simp [versionNumber, written, text, refused]
    rw [versionEntriesEq, read]
    simp only [keywordEnters kind, stops]
  | cons first front ih =>
    obtain ⟨here', others⟩ := List.forall_mem_cons.1 numbers
    obtain ⟨fits, more⟩ := List.forall_mem_cons.1 fit
    obtain ⟨t, us, read, kind, _, here, split⟩ := nextSaid (e := e) same
    obtain ⟨t', us', written, _, text, later, split'⟩ := nextSaid (e := e) here
    obtain ⟨n, digits, _⟩ := fittingRead here' fits
    have entered : versionNumber e first.field us = .ok (n, us') := by
      simp [versionNumber, written, text, digits]
    obtain ⟨os, u, vs, fault, place, count, parts⟩ := ih others more later
    refine ⟨t :: t' :: os, u, vs, fault, by rw [split, split', place]; rfl, ?_, ?_⟩
    · simp only [List.length_cons]
      omega
    · rw [versionEntriesRead read (keywordEnters kind) entered]
      exact parts

end Reading

section Writing

def Stands (r : Wording) : Prop :=
  r.1 ≠ .whitespace ∧ ∀ after, Gap after → Forms r.1 r.2.toList r.2.toList after

theorem keywordStands (k : Keyword) : Stands (.keyword k, k.spelling) :=
  ⟨nofun, fun _ gap => ⟨rfl, runOfWord (keywordIsWord k) gap, String.ofList_toList⟩⟩

theorem identifierStands {s : String} (h : IsIdentifier s) : Stands (.identifier, s) := by
  refine ⟨nofun, fun after gap => ⟨rfl, runOfWord h.1 gap, ?_⟩⟩
  rw [String.ofList_toList]
  exact (ofSpellingNone s).1 h.2

theorem numberStands {w : String} (h : IsNumber w) : Stands (.number, w) :=
  ⟨nofun, fun _ gap => ⟨rfl, runOfFront h.1 h.2 gap⟩⟩

theorem markStands (p : Punctuation) : Stands (.punctuation p, String.ofList [p.char]) := by
  refine ⟨nofun, fun after _ => ?_⟩
  rw [String.toList_ofList]
  exact markForms p after

theorem wordingStands {es : List Entry} (numbers : ∀ e ∈ es, IsNumber e.number) :
    ∀ r ∈ wording es, Stands r := by
  have named (s : String) (h : IsIdentifier s) := identifierStands h
  simp only [wording, List.forall_mem_append, List.forall_mem_flatMap]
  refine ⟨⟨?_, fun e mem => ?_⟩, ?_⟩
  · simp only [opening, List.forall_mem_cons]
    exact ⟨keywordStands .package, named "p" (by decide), keywordStands .interface,
      named "I" (by decide), markStands .leftBrace, keywordStands .version, markStands .leftBrace,
      nofun⟩
  · simp only [Entry.wording, List.forall_mem_cons]
    exact ⟨keywordStands _, numberStands (numbers e mem), nofun⟩
  · simp only [closing, List.forall_mem_cons]
    exact ⟨markStands .rightBrace, markStands .rightBrace, nofun⟩

theorem standingScans {rs : List Wording} (all : ∀ r ∈ rs, Stands r) :
    Scans (apart (rs.map Prod.snd)) (rs.map fun r => token r.1 r.2) := by
  induction rs with
  | nil => exact scansNil
  | cons r rs ih =>
    obtain ⟨⟨shown, forms⟩, others⟩ := List.forall_mem_cons.1 all
    have first := scansBehind (forms _ (gapTexts _)) (ih others)
    have kept : [token r.1 (String.ofList r.2.toList)].filter Token.isSignificant =
        [token r.1 r.2] := by
      simp [Token.isSignificant, shown, String.ofList_toList]
    rw [kept] at first
    exact (scansSpace (by decide)).2 first

theorem enclosed {es : List Entry} (numbers : ∀ e ∈ es, IsNumber e.number) :
    ∃ source ts, Encloses source ts es := by
  let source := " ".intercalate ((wording es).map Prod.snd)
  have parts : source.toList = "package".toList ++ apart ((wording es).tail.map Prod.snd) :=
    intercalateApart ..
  obtain ⟨ps, cuts, shown⟩ := (scansSpace (by decide)).1 (standingScans (wordingStands numbers))
  have whole : Cuts source.toList ps [] := parts ▸ cuts
  refine ⟨source, _, completeIff.2 ⟨ps, whole, rfl⟩, ?_⟩
  rw [saidEnd, ← saidLeft, leftPlace, said, shown, List.map_map]
  exact congrArg (· ++ _) (List.map_id _)

end Writing

section Whole
variable {source : String} {ts : List Token} {es : List Entry}

theorem enclosedRead (h : Encloses source ts es) :
    ∃ p os us vs, significant ts = os ++ significant us ++ vs ∧ os.length = opening.length ∧
      said us = es.flatMap Entry.wording ++ closing ∧
      Definition.ofText source = (versionEntries (.complete p) 0 0 us).map fun r =>
        .ofDeclarations ⟨"p", []⟩ ⟨"I", none, r.1.1, r.1.2⟩
          (Declarations.declarations (significant r.2)) := by
  obtain ⟨complete, same⟩ := h
  obtain ⟨body, p, scan, rfl⟩ := tokensEnd complete
  rw [saidEnd] at same
  have inside : said body = opening ++ (es.flatMap Entry.wording ++ closing) := by
    rw [← List.append_assoc]
    exact List.append_cancel_right same
  obtain ⟨os, us, split, count, later, opened⟩ := clausesOpened (e := .complete p) inside
  refine ⟨p, os, us, _, by rw [significantAppend, split], count, later, ?_⟩
  rw [Definition.ofText, scan]
  simp only [Definition.ofScan, opened, bind, Except.bind]
  cases versionEntries (.complete p) 0 0 us <;> rfl

theorem closedNothing {us : List Token} (h : said us = [(.punctuation .rightBrace, "\x7d")]) :
    Declarations.declarations (significant us) = [] := by
  obtain ⟨t, rest, split, brace, behind⟩ := List.map_eq_cons_iff.1 h
  have closes : t.kind = .punctuation .rightBrace := congrArg Prod.fst brace
  have dropped : Declarations.opens? t = none := by simp [Declarations.opens?, closes]
  rw [significant, split, List.map_eq_nil_iff.1 behind,
    Declarations.declarationsDropped dropped (by simp [closes])]
  simp [Declarations.declarations]

end Whole

theorem entriesExact (es : List Entry) (numbers : ∀ e ∈ es, IsNumber e.number) :
    (∃ source ts, Encloses source ts es) ∧
    ∀ source ts, Encloses source ts es →
      ((∀ e ∈ es, Fits e.number) → ∃ d, Definition.ofText source = .ok d ∧ Versioned d es) ∧
      ∀ front e later, es = front ++ e :: later → (∀ f ∈ front, Fits f.number) → ¬Fits e.number →
        ∃ t fault, (significant ts)[opening.length + 2 * front.length + 1]? = some t ∧
          t.kind = .number ∧ t.literal = e.number ∧
          Definition.ofText source = .error (.invalidNumber e.field t fault) := by
  refine ⟨enclosed numbers, fun source ts encloses => ?_⟩
  obtain ⟨p, os, us, vs, place, count, same, read⟩ := enclosedRead encloses
  refine ⟨fun fit => ?_, fun front e later parts fit other => ?_⟩
  · obtain ⟨w, rest, listed, behind, lasts⟩ :=
      entriesRead (e := .complete p) (v := (0, 0)) numbers fit same
    refine ⟨.ofDeclarations ⟨"p", []⟩ ⟨"I", none, w.1, w.2⟩ [], ?_, rfl, rfl, rfl, lasts .major,
      lasts .minor, Definition.keepsIff.2 rfl⟩
    rw [read, listed, Except.map, closedNothing behind]
  · rw [parts, List.flatMap_append, List.flatMap_cons, List.append_assoc, List.append_assoc] at same
    rw [parts, List.forall_mem_append, List.forall_mem_cons] at numbers
    obtain ⟨before, t, after, fault, split, length, number, text, refused⟩ :=
      entriesRefused (e := .complete p) (v := (0, 0)) numbers.1 fit numbers.2.1 other same
    refine ⟨t, fault, ?_, number, text, by rw [read, refused]; rfl⟩
    have index : opening.length + 2 * front.length + 1 = (os ++ before).length := by
      rw [List.length_append]
      omega
    rw [place, split, ← List.append_assoc, List.append_assoc, List.cons_append, index,
      List.getElem?_append_right (Nat.le_refl _), Nat.sub_self]
    rfl

def crossing : List Entry :=
  [⟨.minor, "007"⟩, ⟨.major, "4294967295"⟩, ⟨.minor, "4294967296"⟩, ⟨.major, "1a.b_2"⟩]

theorem crossingExact : (∀ e ∈ crossing, IsNumber e.number) ∧
    (∃ source ts, Encloses source ts crossing) ∧
    ∀ source ts, Encloses source ts crossing →
      ((∀ e ∈ crossing, Fits e.number) →
        ∃ d, Definition.ofText source = .ok d ∧ Versioned d crossing) ∧
      ∀ front e later, crossing = front ++ e :: later → (∀ f ∈ front, Fits f.number) →
        ¬Fits e.number →
        ∃ t fault, (significant ts)[opening.length + 2 * front.length + 1]? = some t ∧
          t.kind = .number ∧ t.literal = e.number ∧
          Definition.ofText source = .error (.invalidNumber e.field t fault) := by
  have numbers : ∀ e ∈ crossing, IsNumber e.number := by decide +kernel
  exact ⟨numbers, entriesExact crossing numbers⟩

end Busbind.VersionEntries
