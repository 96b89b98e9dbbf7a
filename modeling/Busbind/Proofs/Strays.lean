import Busbind.Proofs.RoundTrip

/-! Strays: tokens that belong to nothing, written between the declarations of a canonical text and
between the parameters of its lists. They do not change what the text defines. -/
namespace Busbind.Canonical
open Munch Piece

def Stray (s : Slot) (x : String) : Prop :=
  (Scan.ofText x).ending = .complete (byteLength x.toList) ∧
    ∀ t ∈ (Scan.ofText x).tokens, s.admits t.kind = true
instance (s x) : Decidable (Stray s x) := by unfold Stray; infer_instance

def slots : List Part → List Slot
  | [] => []
  | .word _ :: parts => slots parts
  | .slot s :: parts => s :: slots parts

def filled : List Part → List (List String) → List String
  | [], _ => []
  | .word w :: parts, xss => w.text :: filled parts xss
  | .slot _ :: parts, xss => xss.headD [] ++ filled parts xss.tail

def strewn (h : Heading) (ds : List Declaration) (xss : List (List String)) : String :=
  " ".intercalate
    ((Word.keyword .package :: headingRest h).map Word.text ++ filled (restParts ds) xss)

theorem filledNothing (parts : List Part) : filled parts [] = (bare parts).map Word.text := by
  induction parts with
  | nil => rfl
  | cons part parts ih =>
    cases part with
    | word w => exact congrArg (w.text :: ·) ih
    | slot s => exact ih

theorem strewnNothing (h : Heading) (ds : List Declaration) : strewn h ds [] = text h ds := by
  rw [strewn, filledNothing, ← List.map_append, text, joined, wordsSplit, List.cons_append]

theorem fillsStrays {s : Slot} {parts : List Part} {us ts : List Token}
    (admitted : ∀ t ∈ us, s.admits t.kind = true) (h : Fills (.slot s :: parts) ts) :
    Fills (.slot s :: parts) (us ++ ts) := by
  induction us with
  | nil => exact h
  | cons u us ih =>
    obtain ⟨here, later⟩ := List.forall_mem_cons.1 admitted
    exact .stray here (ih later)

theorem strayCuts {s : Slot} {x : String} (h : Stray s x) :
    ∃ ps, Cuts x.toList ps [] ∧ ∀ t ∈ ps.map unplacedPiece, s.admits t.kind = true := by
  obtain ⟨complete, admitted⟩ := h
  rcases scanCases x with ⟨ps, cuts, scan⟩ | ⟨ps, d, ds, _, _, scan⟩
  · refine ⟨ps, cuts, fun t mem => ?_⟩
    rw [← leftPlace 0 ps] at mem
    obtain ⟨u, placed, rfl⟩ := List.mem_map.1 mem
    exact admitted u (by rwa [scan])
  · rw [scan] at complete
    nomatch complete

theorem straysScans {s : Slot} {parts : List Part} {xs ys : List String} {ts : List Token}
    (stray : ∀ x ∈ xs, Stray s x) (h : Scans (apart ys) ts) (fills : Fills (.slot s :: parts) ts) :
    ∃ vs, Scans (apart (xs ++ ys)) vs ∧ Fills (.slot s :: parts) vs := by
  induction xs with
  | nil => exact ⟨ts, h, fills⟩
  | cons x xs ih =>
    obtain ⟨here, others⟩ := List.forall_mem_cons.1 stray
    obtain ⟨vs, later, between⟩ := ih others
    obtain ⟨ps, cuts, admitted⟩ := strayCuts here
    refine ⟨_, (scansSpace (by decide)).2 (scansCuts cuts (gapTexts _) later), ?_⟩
    exact fillsStrays (fun t mem => admitted t (List.mem_of_mem_filter mem)) between

theorem filledScans {parts : List Part} {xss : List (List String)}
    (proper : ∀ w ∈ bare parts, w.Proper)
    (stray : ∀ p ∈ (slots parts).zip xss, ∀ x ∈ p.2, Stray p.1 x) :
    ∃ vs, Scans (apart (filled parts xss)) vs ∧ Fills parts vs := by
  induction parts generalizing xss with
  | nil => exact ⟨[], scansNil, .nil⟩
  | cons part parts ih =>
    cases part with
    | word w =>
      obtain ⟨here, others⟩ := List.forall_mem_cons.1 proper
      obtain ⟨vs, later, fills⟩ := ih others stray
      exact ⟨_, scansWord here (gapTexts _) later, .word fills⟩
    | slot s =>
      cases xss with
      | nil =>
        have none : ∀ p ∈ (slots parts).zip ([] : List (List String)), ∀ x ∈ p.2, Stray p.1 x := by
          simp
        obtain ⟨vs, later, fills⟩ := ih proper none
        exact ⟨vs, later, .skip fills⟩
      | cons xs xss =>
        obtain ⟨here, others⟩ := List.forall_mem_cons.1 stray
        obtain ⟨vs, later, fills⟩ := ih proper others
        exact straysScans here later (.skip fills)

theorem strewnApart (h : Heading) (ds : List Declaration) (xss : List (List String)) :
    (strewn h ds xss).toList =
      (joined (.keyword .package :: headingRest h)).toList ++ apart (filled (restParts ds) xss) := by
  rw [strewn, joined, List.map_cons, List.cons_append, intercalateApart, intercalateApart, apart,
    List.flatMap_append, List.append_assoc]
  rfl

theorem strewnRead {h : Heading} {ds : List Declaration} {xss : List (List String)}
    (proper : ∀ w ∈ words h ds, w.Proper)
    (stray : ∀ p ∈ (slots (restParts ds)).zip xss, ∀ x ∈ p.2, Stray p.1 x) :
    Definition.ofText (strewn h ds xss) =
      .ok (Definition.ofDeclarations h.packageClause h.interface ds) := by
  obtain ⟨vs, later, fills⟩ := filledScans (properBehind proper) stray
  exact headedRead proper (strewnApart h ds xss) (gapTexts _) later fills

theorem straysIgnored (h : Heading) (ds : List Declaration) (xss : List (List String))
    (proper : ∀ w ∈ words h ds, w.Proper)
    (stray : ∀ p ∈ (slots (restParts ds)).zip xss, ∀ x ∈ p.2, Stray p.1 x) :
    Definition.ofText (strewn h ds xss) = Definition.ofText (text h ds) ∧
      Definition.ofText (text h ds) =
        .ok (Definition.ofDeclarations h.packageClause h.interface ds) := by
  have none : ∀ p ∈ (slots (restParts ds)).zip ([] : List (List String)), ∀ x ∈ p.2, Stray p.1 x := by
    simp
  have plain := strewnRead proper none
  rw [strewnNothing] at plain
  exact ⟨(strewnRead proper stray).trans plain.symm, plain⟩

def litter : List (List String) :=
  [["version", "\x7d", "'", "9.x"], ["^", "["], ["in \x7b", "out"], ["\x7b", "1"], [], ["]", "["],
    ["is", "\x7b", "*"], ["interface"], ["stray"], ["\""], ["out", "<", "* *", ">"]]

theorem litteredIgnored : (∀ w ∈ words crowdedHeading crowded, w.Proper) ∧
    (∀ p ∈ (slots (restParts crowded)).zip litter, ∀ x ∈ p.2, Stray p.1 x) ∧
    Definition.ofText (strewn crowdedHeading crowded litter) =
        Definition.ofText (text crowdedHeading crowded) ∧
      Definition.ofText (text crowdedHeading crowded) =
        .ok (Definition.ofDeclarations crowdedHeading.packageClause crowdedHeading.interface
          crowded) := by
  have proper : ∀ w ∈ words crowdedHeading crowded, w.Proper := by decide +kernel
  have stray : ∀ p ∈ (slots (restParts crowded)).zip litter, ∀ x ∈ p.2, Stray p.1 x := by
    decide +kernel
  exact ⟨proper, stray, straysIgnored crowdedHeading crowded litter proper stray⟩

end Busbind.Canonical
