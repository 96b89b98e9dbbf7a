import Busbind.Proofs.CanonicalHeader
import Busbind.Proofs.Openings
import Busbind.Proofs.Provenance
import Busbind.Proofs.Tiling

/-! Each declaration of a text is decided by the part of the text that it stands in, from the keyword
that opens it to the next such keyword: that part alone, put behind the shortest header, declares
the same. No part opens two declarations and none is left out. -/
namespace Busbind.Locality
open Header HeaderGrammar Declarations Openings Piece Unplaced Munch Tiling Provenance
open Canonical hiding text

def afterHeader (source : String) : List Token :=
  match clauses (Scan.ofText source).ending (Scan.ofText source).tokens with
  | .ok (_, rest) => rest
  | .error _ => []

def declarationKeywords (source : String) : List Token :=
  openings .free (significant (afterHeader source))

def extents (stop : Nat) : List Token → List Span
  | [] => []
  | [t] => [⟨t.span.start, stop⟩]
  | t :: u :: ts => ⟨t.span.start, u.span.start⟩ :: extents stop (u :: ts)

def preface : String := "package p interface I \x7b "

/-- The text of an extent declares this alone, up to what documents it. -/
def StandsAlone (source : String) (extent : Span) (d : Declaration) : Prop :=
  ∃ before covered after, Occupies source extent before covered after ∧
    ∃ alone, Definition.ofText (preface ++ String.ofList covered) = .ok alone ∧
      alone.package = ⟨"p", []⟩ ∧ alone.interface = ⟨"I", none, 0, 0⟩ ∧
      alone.Keeps [undescribed d]

structure Apart (source : String) (keywords : List Token) (ds : List Declaration) : Prop where
  kinds : List.Forall₂ (fun t d => opens? t = some d.kind) keywords ds
  alone : List.Forall₂ (StandsAlone source) (extents source.utf8ByteSize keywords) ds

section Placing
variable {p : Nat} {ps : List Piece}

def placed (p : Nat) (x : Piece) : Token :=
  ⟨x.kind, String.ofList x.literal, ⟨p, p + byteLength x.covered⟩⟩

theorem placeCons (p : Nat) (x : Piece) (ps : List Piece) :
    place p (x :: ps) = placed p x :: place (p + byteLength x.covered) ps := rfl

theorem placeSplitAt {us vs : List Token} {t : Token} (split : place p ps = us ++ t :: vs) :
    ∃ qs x rs, ps = qs ++ x :: rs ∧ us = place p qs ∧ t = placed (p + byteLength (text qs)) x ∧
      vs = place (p + byteLength (text qs) + byteLength x.covered) rs := by
  obtain ⟨qs, rs, rfl, rfl, last⟩ := placeSplit split
  cases rs with
  | nil => contradiction
  | cons x rs =>
    obtain ⟨rfl, rfl⟩ := List.cons.inj last
    exact ⟨qs, x, rs, rfl, rfl, rfl, rfl⟩

end Placing

theorem openingsUnplaced (place : Place) (ts : List Token) :
    openings place (left ts) = left (openings place ts) := by
  induction ts generalizing place with
  | nil => rfl
  | cons t ts ih =>
    have same : place.opening? t.unplaced = place.opening? t := by cases place <;> rfl
    have next : place.next t.unplaced = place.next t := by cases place <;> rfl
    simp only [leftCons, openings, same, next, ih]
    split <;> rfl

section Alone

def prefaceWords : List Word :=
  [.identifier "p", .keyword .interface, .identifier "I", .mark .leftBrace]

theorem prefaceJoined :
    preface.toList = (joined (.keyword .package :: prefaceWords)).toList ++ [' '] := by
  decide +kernel

theorem prefaceProper : ∀ w ∈ Word.keyword .package :: prefaceWords, w.Proper := by
  decide +kernel

theorem prefaceRead {e : Ending} {t : Token} (opens : opens? t ≠ none) (ts : List Token) :
    clauses e ((Word.keyword .package).tokens ++ spread prefaceWords ++ blank :: t :: ts) =
      .ok ((⟨"p", []⟩, ⟨"I", none, 0, 0⟩), blank :: t :: ts) := by
  obtain ⟨k, kind, role⟩ := barrierHead opens
  have version : k ≠ .version := fun same => by simp [same, Keyword.role] at role
  have visible : t.isSignificant = true := by simp [Token.isSignificant, kind]
  have skipped : blank.isSignificant = false := rfl
  have next : nextSignificant e (blank :: t :: ts) = .ok (t, ts) := by
    simp [nextSignificant, skipped, visible]
  have block : versionBlock e (blank :: t :: ts) = .ok ((0, 0), blank :: t :: ts) := by
    rw [versionBlock, next]
    simp [kind, version]
  generalize blank :: t :: ts = after at block
  have package : packageClause e ((Word.keyword .package).tokens ++ spread prefaceWords ++ after) =
      .ok (⟨"p", []⟩, spread (prefaceWords.drop 1) ++ after) := by
    have keyword : demand e (.keyword .package) .package
        ((Word.keyword .package).tokens ++ spread prefaceWords ++ after) =
          .ok (spread prefaceWords ++ after) := rfl
    have name : demandIdentifier e .packageName (spread prefaceWords ++ after) =
        .ok ("p", spread (prefaceWords.drop 1) ++ after) := rfl
    have listed : imports e (spread (prefaceWords.drop 1) ++ after) =
        .ok ([], spread (prefaceWords.drop 1) ++ after) := by
      have first : nextSignificant e (spread (prefaceWords.drop 1) ++ after) =
        .ok (token (.keyword .interface) "interface", spread (prefaceWords.drop 2) ++ after) := rfl
      exact importsEnd first (by decide)
    simp only [packageClause, keyword, name, listed, bind, Except.bind]
  have interface : interfaceClause e (spread (prefaceWords.drop 1) ++ after) =
      .ok (⟨"I", none, 0, 0⟩, after) := by
    have description : description e (spread (prefaceWords.drop 1) ++ after) =
        .ok (none, spread (prefaceWords.drop 1) ++ after) := rfl
    have keyword : demand e (.keyword .interface) .interface (spread (prefaceWords.drop 1) ++ after) =
        .ok (spread (prefaceWords.drop 2) ++ after) := rfl
    have name : demandIdentifier e .interfaceName (spread (prefaceWords.drop 2) ++ after) =
        .ok ("I", spread (prefaceWords.drop 3) ++ after) := rfl
    have opening : demand e (.punctuation .leftBrace) .interfaceBody
        (spread (prefaceWords.drop 3) ++ after) = .ok after := rfl
    simp only [interfaceClause, description, keyword, name, opening, block, bind, Except.bind]
  simp only [clauses, package, interface, bind, Except.bind]

variable {x : Piece} {ps : List Piece} {kind : DeclarationKind}

theorem openingVisible (cuts : Cuts (text (x :: ps)) (x :: ps) [])
    (opens : opens? (unplacedPiece x) = some kind) :
    ∀ d, (text (x :: ps)).head? = some d → isSpace d = false := by
  obtain ⟨k, keyword, _⟩ := barrierHead (Option.ne_none_iff_exists'.2 ⟨kind, opens⟩)
  generalize whole : text (x :: ps) = cs at cuts
  cases cuts with
  | @cons c cs l _ _ first next =>
    have forms := cutForms first
    rw [show l.kind = .keyword k from keyword] at forms
    obtain ⟨_, _, covers, visible⟩ := frontOfRun forms.2.1 fun c => letterNotSpace
    have tiles := (Lexeme.cutTiles first).1
    rw [covers] at tiles
    intro d head
    rw [← tiles] at head
    cases head
    exact visible

theorem prefaceCuts (cuts : Cuts (text (x :: ps)) (x :: ps) [])
    (opens : opens? (unplacedPiece x) = some kind) :
    ∃ qs, Cuts (preface ++ String.ofList (text (x :: ps))).toList (qs ++ x :: ps) [] ∧
      qs.map unplacedPiece = (Word.keyword .package).tokens ++ spread prefaceWords ++ [blank] := by
  have gap : Gap (' ' :: text (x :: ps)) := fun d head => by cases head; rfl
  obtain ⟨qs, front, words⟩ := joinedCuts prefaceProper gap
  have space : Forms .whitespace [' '] [' '] (text (x :: ps)) :=
    ⟨rfl, ' ', [], rfl, rfl, nofun, openingVisible cuts opens⟩
  have whole := cutsAppend front (cutsAppend (cutsForms space) cuts)
  refine ⟨qs ++ [⟨.whitespace, [' '], [' ']⟩], ?_, by rw [List.map_append, words]; rfl⟩
  simpa [prefaceJoined] using whole

theorem aloneRead (cuts : Cuts (text (x :: ps)) (x :: ps) [])
    (opens : opens? (unplacedPiece x) = some kind)
    (apart : openings (Place.after kind) (significant (ps.map unplacedPiece)) = []) :
    Definition.ofText (preface ++ String.ofList (text (x :: ps))) =
      .ok (Definition.ofDeclarations ⟨"p", []⟩ ⟨"I", none, 0, 0⟩
        [(body kind "" (significant (ps.map unplacedPiece))).1]) := by
  obtain ⟨qs, front, words⟩ := prefaceCuts cuts opens
  refine ofTextCuts front ?_
  have header := prefaceRead (e := .complete 0) (Option.ne_none_iff_exists'.2 ⟨kind, opens⟩)
    (ps.map unplacedPiece)
  have keyword : (unplacedPiece x).kind ≠ .whitespace := by
    obtain ⟨k, keyword, _⟩ := barrierHead (Option.ne_none_iff_exists'.2 ⟨kind, opens⟩)
    rw [keyword]
    nofun
  -- What the reader of the declaration leaves is dropped.
  have dropped : declarations (body kind "" (significant (ps.map unplacedPiece))).2 = [] := by
    have left := quietDropped (bodyQuiet kind "" apart) (.inl rfl)
    rw [List.append_nil, declarations, List.map_nil] at left
    exact List.map_eq_nil_iff.1 left
  have read : declarations (significant (blank :: unplacedPiece x :: ps.map unplacedPiece)) =
      [(body kind "" (significant (ps.map unplacedPiece))).1] := by
    have skipped (ts : List Token) : significant (blank :: ts) = significant ts := rfl
    rw [skipped, significantOfKind keyword, declarationsOpened opens, dropped]
  have tokens : (qs ++ x :: ps).map unplacedPiece =
      (Word.keyword .package).tokens ++ spread prefaceWords ++
        blank :: unplacedPiece x :: ps.map unplacedPiece := by
    rw [List.map_append, words]
    simp
  rw [significant] at read
  rw [tokens, Definition.ofScan]
  simp only [header, read, bind, Except.bind]

end Alone

section Tails
variable {source : String} {x : Piece} {ps : List Piece} {kind : DeclarationKind} {p : Nat}

theorem openingKept {t : Token} (opens : opens? t = some kind) (ts : List Token) :
    significant (t :: ts) = t :: significant ts := by
  obtain ⟨k, keyword, _⟩ := barrierHead (Option.ne_none_iff_exists'.2 ⟨kind, opens⟩)
  exact significantOfKind (by rw [keyword]; nofun) ts

theorem openingsOpened {t : Token} (opens : opens? t = some kind) (ts : List Token) :
    openings .free (significant (t :: ts)) =
      t :: openings (Place.after kind) (significant ts) := by
  rw [openingKept opens]
  simp [openings, Place.opening?, Place.next, opens]

theorem apartUndescribed {keywords : List Token} {ds : List Declaration}
    (h : Apart source keywords (ds.map undescribed)) : Apart source keywords ds := by
  obtain ⟨kinds, alone⟩ := h
  rw [List.forall₂_map_right_iff] at kinds alone
  constructor
  · refine kinds.imp fun t d same => ?_
    rw [same, undescribedKind]
  · refine alone.imp fun extent d stands => ?_
    have twice : undescribed (undescribed d) = undescribed d := by cases d <;> rfl
    rwa [StandsAlone, twice] at stands

theorem standsAlone {before after : List Char} {q stop : Nat}
    (cuts : Cuts (text (x :: ps)) (x :: ps) [])
    (whole : source.toList = before ++ text (x :: ps) ++ after)
    (start : p = byteLength before) (stops : stop = byteLength (before ++ text (x :: ps)))
    (opens : opens? (placed p x) = some kind)
    (none : openings (Place.after kind) (significant (place q ps)) = []) :
    StandsAlone source ⟨p, stop⟩ (body kind "" (significant (place q ps))).1 := by
  have unplaced : significant (ps.map unplacedPiece) = left (significant (place q ps)) := by
    rw [← leftPlace q]
    exact significantUnplaced _
  have apart : openings (Place.after kind) (significant (ps.map unplacedPiece)) = [] := by
    rw [unplaced, openingsUnplaced, none]
    rfl
  have same : (body kind "" (significant (ps.map unplacedPiece))).1 =
      (body kind "" (significant (place q ps))).1 := by
    rw [unplaced, bodyUnplaced]
    rfl
  refine ⟨before, _, after, ⟨whole, start, stops⟩, _, aloneRead cuts opens apart, rfl, rfl, ?_⟩
  rw [(bodyUndescribed kind "" _).1, ← same]
  exact Definition.keepsIff.2 rfl

theorem tailApart {before : List Char} (cuts : Cuts (text (x :: ps)) (x :: ps) [])
    (whole : source.toList = before ++ text (x :: ps)) (start : p = byteLength before)
    (opens : opens? (placed p x) = some kind) :
    Apart source (openings .free (significant (place p (x :: ps))))
      ((declarations (significant (place p (x :: ps)))).map undescribed) := by
  induction size : ps.length using Nat.strongRecOn generalizing x ps kind p before with
  | ind n ih =>
    subst size
    have ofKind (ts : List Token) : opens? (placed p x) = some (body kind "" ts).1.kind := by
      rw [opens, bodyKind]
    rw [placeCons, openingsOpened opens, openingKept opens]
    rcases openingsSplit (Place.after kind) (place (p + byteLength x.covered) ps) with
      none | ⟨us, t, later, other, split, next, quiet, free, first⟩
    · -- This is the last declaration, and its extent is what is left of the text.
      have apart := declarationApart opens none (.inl rfl) (.inl rfl)
      rw [List.append_nil, declarations, List.map_nil] at apart
      rw [none, apart]
      have last : source.utf8ByteSize = byteLength (before ++ text (x :: ps)) := by
        rw [← whole, byteLengthToList]
      have alone := standsAlone cuts (by rw [whole, List.append_nil]) start last opens none
      exact ⟨.cons (ofKind _) .nil, .cons alone .nil⟩
    · obtain ⟨qs, y, rs, rfl, rfl, rfl, rfl⟩ := placeSplitAt split
      -- The extent ends where the next keyword stands, and the rest is a tail again.
      rw [← List.cons_append] at cuts whole
      rw [textAppend] at whole
      obtain ⟨here, later⟩ := cutsApart cuts
      have there : p + byteLength x.covered + byteLength (text qs) =
          byteLength (before ++ text (x :: qs)) := by
        rw [start, textCons, byteLengthAppend, byteLengthAppend, Nat.add_assoc]
      generalize p + byteLength x.covered + byteLength (text qs) = q at *
      have alone := standsAlone here (by rw [whole, List.append_assoc]) start there opens quiet
      have fewer : rs.length < (qs ++ y :: rs).length := by
        simp only [List.length_append, List.length_cons]
        omega
      have tail := ih rs.length fewer later (by rw [whole, List.append_assoc]) there next rfl
      have barrier : Barrier (significant (place q (y :: rs))) :=
        .inr ⟨_, _, openingKept next _, by simp [next]⟩
      have apart := declarationApart opens quiet barrier (.inr free)
      rw [first, split, ← placeCons, significantAppend, apart]
      rw [placeCons, openingsOpened next] at tail
      exact ⟨.cons (ofKind _) tail.kinds, .cons alone tail.alone⟩

theorem restApart {before : List Char} (cuts : Cuts (text ps) ps [])
    (whole : source.toList = before ++ text ps) (start : p = byteLength before) :
    Apart source (openings .free (significant (place p ps)))
      (declarations (significant (place p ps))) := by
  refine apartUndescribed ?_
  rcases openingsSplit .free (place p ps) with
    none | ⟨us, t, later, kind, split, opens, quiet, free, first⟩
  · have dropped := quietDropped (quietOfOpenings none) (.inl rfl)
    rw [List.append_nil, declarations, List.map_nil] at dropped
    rw [none, dropped]
    exact ⟨.nil, .nil⟩
  · obtain ⟨us, x, ps, rfl, rfl, rfl, rfl⟩ := placeSplitAt split
    have later := (cutsApart cuts).2
    rw [textAppend, ← List.append_assoc] at whole
    have there : p + byteLength (text us) = byteLength (before ++ text us) := by
      rw [start, byteLengthAppend]
    have tail := tailApart later whole there opens
    have barrier : Barrier (significant (place (p + byteLength (text us)) (x :: ps))) :=
      .inr ⟨_, _, openingKept opens _, by simp [opens]⟩
    have dropped := quietDropped (quietOfOpenings quiet) barrier
    rw [first, split, ← placeCons, significantAppend, dropped]
    rwa [placeCons, openingsOpened opens] at tail

end Tails

theorem declarationsApart {source : String} {d : Definition}
    (ok : Definition.ofText source = .ok d) :
    ∃ ds, d.Keeps ds ∧ Apart source (declarationKeywords source) ds := by
  rcases scanCases source with ⟨ps, cuts, scan⟩ | ⟨ps, _, _, _, _, scan⟩
  · rw [Definition.ofText, scan, Definition.ofScan] at ok
    obtain ⟨⟨⟨package, interface⟩, rest⟩, header, ok⟩ := Outcome.bindOk ok
    cases ok
    have keywords : declarationKeywords source = openings .free (significant rest) := by
      rw [declarationKeywords, afterHeader, scan, header]
    obtain ⟨front, split⟩ := honestLeaves clausesHonest header
    obtain ⟨qs, rs, rfl, rfl, rfl⟩ := placeSplit split.symm
    have whole := cutsText cuts
    rw [List.append_nil] at whole
    rw [whole] at cuts
    rw [textAppend] at whole
    refine ⟨_, Definition.keepsIff.2 rfl, ?_⟩
    rw [keywords]
    exact restApart (cutsApart cuts).2 whole (Nat.zero_add _)
  · rw [Definition.ofText, scan, Definition.ofScan] at ok
    obtain ⟨read, header, ok⟩ := Outcome.bindOk ok
    contradiction

def tangled : String :=
  "package p interface I \x7b typedef method array method M in \x7b struct S \x7b " ++
    "<** of no one **> attribute A [ B <** of the last **> broadcast \x7d"

def tangledDefinition : Definition :=
  .ofDeclarations ⟨"p", []⟩ ⟨"I", none, 0, 0⟩
    [.typedef ⟨ "", "", ""⟩, .array ⟨"", "", "M"⟩, .struct ⟨"", "S", []⟩,
      .attr ⟨"", "A", "B", false⟩, .broadcast ⟨" of the last ", "", false, []⟩]

theorem tangledApart : Definition.ofText tangled = .ok tangledDefinition ∧
    ∃ ds, tangledDefinition.Keeps ds ∧ Apart tangled (declarationKeywords tangled) ds := by
  have read : Definition.ofText tangled = .ok tangledDefinition := by decide +kernel
  exact ⟨read, declarationsApart read⟩

end Busbind.Locality
