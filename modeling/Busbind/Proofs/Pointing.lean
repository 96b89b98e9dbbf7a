import Busbind.Proofs.Acceptance
import Busbind.Proofs.Spelling
import Busbind.Proofs.Tiling

/-! What a rejection points at. The place is that of a token of the text, which the rejection names,
or of the description that is never closed; it lies between characters of the text, and the offset
and length that it is kept as do not change it. -/
namespace Busbind.Pointing
open Munch Piece Provenance Tiling
open Acceptance (refusedReported)

/-- The tokens that the scan of a text yields, with the end of the text as the last one. A description
that is never closed ends the scan without a token. -/
def yielded (source : String) : List Token :=
  match (Scan.ofText source).ending with
  | .complete p => (Scan.ofText source).tokens ++ [Token.endOfInput p]
  | .unclosed _ => (Scan.ofText source).tokens

structure ShowsToken (source : String) (place : Span) (covered : List Char) (t : Token) : Prop where
  yields : t ∈ yielded source
  span : t.span = place
  literal : t.kind ≠ .description → t.literal = String.ofList covered
  ended : t.kind = .endOfInput →
    t.literal = "" ∧ place = ⟨source.utf8ByteSize, source.utf8ByteSize⟩

inductive Shows (source : String) (place : Span) (covered after : List Char) : Rejection → Prop where
  | unexpected {x t} (shows : ShowsToken source place covered t) :
      Shows source place covered after (.unexpected x t)
  | invalidNumber {f t fault} (shows : ShowsToken source place covered t) :
      Shows source place covered after (.invalidNumber f t fault)
  | unclosed (ends : (Scan.ofText source).ending = .unclosed place) (last : after = [])
      (opens : ['<', '*'] <+: covered) :
      Shows source place covered after (.unclosedDescription place)

structure PointsAt (source : String) (r : Rejection) (place : Span) : Prop where
  marked : r.span = some place
  within : place.start ≤ place.stop ∧ place.stop ≤ source.utf8ByteSize
  shows : ∃ before covered after, Occupies source place before covered after ∧
    Shows source place covered after r

section Places
variable {source : String} {s : Span} {before covered after : List Char} {t : Token}

theorem occupiedWithin (h : Occupies source s before covered after) :
    s.start ≤ s.stop ∧ s.stop ≤ source.utf8ByteSize := by
  rw [h.start, h.stop, ← byteLengthToList, h.text, byteLengthAppend, byteLengthAppend,
    byteLengthAppend]
  omega

theorem munchedShown (mem : t ∈ yielded source) (munched : Munched source t) :
    ∃ before covered after, Occupies source t.span before covered after ∧
      ShowsToken source t.span covered t := by
  obtain ⟨before, covered, after, stands, _, forms⟩ := munched
  refine ⟨before, covered, after, stands, mem, rfl, fun other => ?_, fun ended => ?_⟩
  · rw [← formsWhole forms other, String.ofList_toList]
  · rw [ended] at forms
    exact forms.elim

theorem endShown (mem : Token.endOfInput source.utf8ByteSize ∈ yielded source) :
    ∃ before covered after,
      Occupies source (Token.endOfInput source.utf8ByteSize).span before covered after ∧
      ShowsToken source (Token.endOfInput source.utf8ByteSize).span covered
        (Token.endOfInput source.utf8ByteSize) := by
  refine ⟨source.toList, [], [], ⟨by simp, ?_, ?_⟩, mem, rfl, fun _ => rfl, fun _ => ⟨rfl, rfl⟩⟩
  · exact (byteLengthToList source).symm
  · rw [List.append_nil]
    exact (byteLengthToList source).symm

theorem metShown {ps : List Piece} {rest : List Char} {e : Ending} (cuts : Cuts source.toList ps rest)
    (scan : Scan.ofText source = ⟨place 0 ps, e⟩)
    (complete : ∀ p, e = .complete p → p = source.utf8ByteSize) (met : Met e (place 0 ps) t) :
    ∃ before covered after, Occupies source t.span before covered after ∧
      ShowsToken source t.span covered t := by
  rcases met with mem | ⟨p, rfl, rfl⟩
  · have mem := List.mem_of_mem_filter mem
    refine munchedShown ?_ (placedMunched [] cuts rfl t mem)
    rw [yielded, scan]
    cases e with
    | complete p => exact List.mem_append_left _ mem
    | unclosed s => exact mem
  · obtain rfl := complete p rfl
    refine endShown ?_
    rw [yielded, scan]
    exact List.mem_concat_self

end Places

theorem reportedPoints {source : String} {ps : List Piece} {rest : List Char} {e : Ending}
    {r : Rejection} (cuts : Cuts source.toList ps rest)
    (scan : Scan.ofText source = ⟨place 0 ps, e⟩)
    (complete : ∀ p, e = .complete p → p = source.utf8ByteSize)
    (unclosed : ∀ s, e = .unclosed s → ∃ before covered, Occupies source s before covered [] ∧
      ['<', '*'] <+: covered)
    (reported : Reported e (place 0 ps) r) : ∃ place, PointsAt source r place := by
  cases reported with
  | unexpected met =>
    obtain ⟨before, covered, after, stands, shows'⟩ := metShown cuts scan complete met
    have within := occupiedWithin stands
    exact ⟨_, congrArg some (Span.orderedOfLe within.1), within, before, covered, after, stands,
      .unexpected shows'⟩
  | invalidNumber met =>
    obtain ⟨before, covered, after, stands, shows'⟩ := metShown cuts scan complete met
    have within := occupiedWithin stands
    exact ⟨_, congrArg some (Span.orderedOfLe within.1), within, before, covered, after, stands,
      .invalidNumber shows'⟩
  | unclosed ends =>
    subst ends
    obtain ⟨before, covered, stands, opens⟩ := unclosed _ rfl
    have within := occupiedWithin stands
    exact ⟨_, congrArg some (Span.orderedOfLe within.1), within, before, covered, [], stands,
      .unclosed (by rw [scan]) rfl opens⟩

theorem rejectionPoints {source : String} {r : Rejection}
    (refused : Definition.ofText source = .error r) : ∃ place, PointsAt source r place := by
  rw [Definition.ofText] at refused
  rcases scanCases source with ⟨ps, cuts, scan⟩ | ⟨ps, d, ds, cuts, stuck, scan⟩
  · rw [scan] at refused
    refine reportedPoints cuts scan (fun p same => ?_) (fun s same => ?_) (refusedReported refused)
    · cases same
      exact byteLengthToList source
    · contradiction
  · rw [scan] at refused
    refine reportedPoints cuts scan (fun p same => ?_) (fun s same => ?_) (refusedReported refused)
    · contradiction
    · cases same
      obtain ⟨es, rfl, rfl⟩ := Canonical.stuckOpens stuck
      have whole := cutsText cuts
      refine ⟨Piece.text ps, '<' :: '*' :: es, ⟨?_, rfl, ?_⟩, es, rfl⟩
      · rw [List.append_nil, whole]
      · rw [whole]

def miscounted : String := "package p <**é 世**> interface I \x7b version \x7b major 1a \x7d"

theorem miscountedPoints :
    Definition.ofText miscounted =
        .error (.invalidNumber .major ⟨.number, "1a", ⟨53, 55⟩⟩ .invalidDigit) ∧
      ∃ place, PointsAt miscounted
        (.invalidNumber .major ⟨.number, "1a", ⟨53, 55⟩⟩ .invalidDigit) place := by
  have refused : Definition.ofText miscounted =
      .error (.invalidNumber .major ⟨.number, "1a", ⟨53, 55⟩⟩ .invalidDigit) := by decide +kernel
  exact ⟨refused, rejectionPoints refused⟩

end Busbind.Pointing
