import Busbind.Proofs.Fronts
import Busbind.Proofs.Interspersed
import Busbind.Proofs.SpacedText

/-! Reading undoes canonical writing: the header of a canonical text is read back from its words
whatever comes after them, and the declarations from what fills their parts. -/
namespace Busbind.Canonical
open Munch Piece

theorem wordsSplit (h : Heading) (ds : List Declaration) :
    words h ds = .keyword .package :: (headingRest h ++ bare (restParts ds)) := by
  simp [words, headingRest, bareRest]

theorem properBehind {h : Heading} {ds : List Declaration} (proper : ∀ w ∈ words h ds, w.Proper) :
    ∀ w ∈ bare (restParts ds), w.Proper := by
  intro w mem
  refine proper w ?_
  rw [wordsSplit]
  exact List.mem_cons_of_mem _ (List.mem_append_right _ mem)

theorem headingRead {h : Heading} {source : String} {cs : List Char} {vs : List Token}
    (proper : ∀ w ∈ Word.keyword .package :: headingRest h, w.Proper)
    (headed : source.toList = (joined (.keyword .package :: headingRest h)).toList ++ cs)
    (gap : Gap cs) (scans : Scans cs vs) :
    Definition.ofText source =
      .ok (Definition.ofDeclarations h.packageClause h.interface (Declarations.declarations vs)) := by
  obtain ⟨qs, later, rfl⟩ := scans
  obtain ⟨ps, front, tokens⟩ := joinedCuts proper gap
  refine ofTextCuts (headed ▸ cutsAppend front later) ?_
  -- The header is read from its own words, so from them with any tokens behind.
  have own : Header.clauses (.unclosed ⟨0, 0⟩) (ps.map unplacedPiece) =
      .ok ((h.packageClause, h.interface), []) := by
    have spread := clausesSpread (e := .unclosed ⟨0, 0⟩) (List.forall_mem_cons.1 proper).2 []
    rwa [List.append_nil, ← tokens] at spread
  have header : Header.clauses (.complete 0) (ps.map unplacedPiece ++ qs.map unplacedPiece) =
      .ok ((h.packageClause, h.interface), qs.map unplacedPiece) :=
    Fronts.readsOk Fronts.clausesReads own
  simp only [Definition.ofScan, List.map_append, header, bind, Except.bind]

theorem properParts {h : Heading} {ds : List Declaration} (proper : ∀ w ∈ words h ds, w.Proper) :
    (∀ w ∈ Word.keyword .package :: headingRest h, w.Proper) ∧
      ∀ w ∈ ds.flatMap declarationWords, w.Proper := by
  rw [wordsSplit, ← List.cons_append, bareRest] at proper
  exact ⟨fun w mem => proper w (List.mem_append_left _ mem),
    fun w mem => proper w (List.mem_append_right _ (List.mem_append_left _ mem))⟩

theorem headedRead {h : Heading} {ds : List Declaration} {source : String} {cs : List Char}
    {vs : List Token} (proper : ∀ w ∈ words h ds, w.Proper)
    (headed : source.toList = (joined (.keyword .package :: headingRest h)).toList ++ cs)
    (gap : Gap cs) (scans : Scans cs vs) (fills : Fills (restParts ds) vs) :
    Definition.ofText source =
      .ok (Definition.ofDeclarations h.packageClause h.interface ds) := by
  obtain ⟨heading, declared⟩ := properParts proper
  rw [headingRead heading headed gap scans, restFilled declared fills]

theorem parsedBack (h : Heading) (ds : List Declaration) (proper : ∀ w ∈ words h ds, w.Proper) :
    ∃ d, Definition.ofText (text h ds) = .ok d ∧ d.package = h.packageClause ∧
      d.interface = h.interface ∧ d.Keeps ds := by
  have headed : (text h ds).toList = (joined (.keyword .package :: headingRest h)).toList ++
      spaced (bare (restParts ds)) := by
    rw [text, wordsSplit, joinedSpaced, joinedSpaced, spaced, List.flatMap_append, List.append_assoc]
    rfl
  have gap : Gap (spaced (bare (restParts ds))) := spacedApart _ ▸ gapTexts _
  have read := headedRead proper headed gap (scansSpaced (properBehind proper)) (fillsBare _)
  exact ⟨_, read, rfl, rfl, Definition.keepsIff.2 rfl⟩

def crowdedHeading : Heading where
  package := "org.example"
  imports := [⟨⟨"org.types.*", "a <b> \"c\".fidl"⟩, .singleQuote⟩, ⟨⟨"from", ""⟩, .quote⟩,
    ⟨⟨"more", "it's * here"⟩, .quote⟩]
  interface := ⟨"Crowded", some "", 4294967295, 0⟩

def crowded : List Declaration :=
  [.method ⟨"", "in", true, [⟨"* a \x7d b *<", "Count", "out", true, true⟩],
      [⟨"", "String", "in", false, true⟩]⟩,
    .attr ⟨"<* x", "Level", "version", true⟩, .typedef ⟨ "", "minor", "is"⟩,
    .array ⟨" attribute ", "major", "of"⟩, .broadcast ⟨"", "selective", true, []⟩,
    .struct ⟨"", "fireAndForget", [⟨"", "Count", "selective", false, false⟩]⟩]

theorem crowdedParsedBack : (∀ w ∈ words crowdedHeading crowded, w.Proper) ∧
    ∃ d, Definition.ofText (text crowdedHeading crowded) = .ok d ∧
      d.package = crowdedHeading.packageClause ∧ d.interface = crowdedHeading.interface ∧
      d.Keeps crowded := by
  have proper : ∀ w ∈ words crowdedHeading crowded, w.Proper := by decide +kernel
  exact ⟨proper, parsedBack crowdedHeading crowded proper⟩

end Busbind.Canonical
