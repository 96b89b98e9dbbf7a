import Busbind.Proofs.Retold
import Busbind.Proofs.Spacing

/-! What descriptions can change about a text. Where none stands between the quotation marks of a
source or as the value of a version entry, the definition is the same up to its descriptions, or the
text is refused for the same cause. As the value of an entry a description is read as a number. -/
namespace Busbind.Undocumented
open Header HeaderGrammar HeaderText Retold
open Spacing (tokensEnd tokensOf)

def blank (_ : String) : String := ""

def seen (t : Token) : TokenKind × Option String :=
  (t.kind, if t.kind = .description then none else some t.literal)

theorem toldSeen (ts : List Token) :
    told blank ts = (ts.map seen).map fun r => ⟨r.1, r.2.getD "", ⟨0, 0⟩⟩ := by
  rw [told, List.map_map]
  refine List.map_congr_left fun t _ => ?_
  by_cases described : t.kind = .description
  · simp [Token.retold, Token.retoldText, blank, seen, described]
  · simp [Token.retold, Token.retoldText, seen, described]

section Texts
variable {s s' : String} {ts ts' us us' : List Token}

theorem seenBody {p p' : Nat} (same : (us ++ [Token.endOfInput p]).map seen =
    (us' ++ [Token.endOfInput p']).map seen) : us.map seen = us'.map seen := by
  rw [List.map_append, List.map_append] at same
  exact List.append_cancel_right same

theorem undescribedKept {R : List Token → Token → List Token → Prop} {p : Nat}
    (further : ∀ {before t after}, R before t after → ∀ more, R before t (after ++ more))
    (free : Undescribed R (us ++ [Token.endOfInput p])) : KeptAt blank R (significant us) := by
  intro before t after split here
  refine keptOther (free before t (after ++ [Token.endOfInput p]) ?_ (further here _))
  rw [significantAppend, split]
  simp [significant, Token.isSignificant, Token.endOfInput]

theorem ofTextBlank {p : Nat} (scan : Scan.ofText s = ⟨us, .complete p⟩)
    (sources : Undescribed QuotedAt (us ++ [Token.endOfInput p]))
    (values : Undescribed ValueAt (us ++ [Token.endOfInput p])) :
    outcome blank (Definition.retold blank) (Definition.ofText s) =
      Definition.ofScan ⟨told blank us, .complete 0⟩ := by
  rw [Definition.ofText, scan]
  exact (ofScanRetold rfl p (undescribedKept quotedFurther sources)
    (undescribedKept valueFurther values)).symm

theorem sameUndocumented (scanned : (Scan.ofText s).tokens? = .ok ts)
    (scanned' : (Scan.ofText s').tokens? = .ok ts') (same : ts.map seen = ts'.map seen)
    (sources : Undescribed QuotedAt ts) (sources' : Undescribed QuotedAt ts')
    (values : Undescribed ValueAt ts) (values' : Undescribed ValueAt ts') :
    (∃ d d', Definition.ofText s = .ok d ∧ Definition.ofText s' = .ok d' ∧
        d.retold blank = d'.retold blank) ∨
      ∃ r r', Definition.ofText s = .error r ∧ Definition.ofText s' = .error r' ∧
        r.retold blank = r'.retold blank := by
  obtain ⟨us, p, scan, rfl⟩ := tokensEnd scanned
  obtain ⟨us', p', scan', rfl⟩ := tokensEnd scanned'
  have agree : outcome blank (Definition.retold blank) (Definition.ofText s) =
      outcome blank (Definition.retold blank) (Definition.ofText s') := by
    rw [ofTextBlank scan sources values, ofTextBlank scan' sources' values', toldSeen, toldSeen,
      seenBody same]
  cases here : Definition.ofText s with
  | ok d =>
    cases there : Definition.ofText s' with
    | ok d' =>
      rw [here, there] at agree
      exact .inl ⟨d, d', rfl, rfl, Except.ok.inj agree⟩
    | error r' => rw [here, there] at agree; contradiction
  | error r =>
    cases there : Definition.ofText s' with
    | ok d' => rw [here, there] at agree; contradiction
    | error r' =>
      rw [here, there] at agree
      exact .inr ⟨r, r', rfl, rfl, Except.error.inj agree⟩

theorem undescribedBy {R : List Token → Token → List Token → Prop} (rule : List Token → Bool)
    (ruled : ∀ before t after, R before t after → rule before = true)
    (free : ∀ n < (significant ts).length, rule ((significant ts).take n) = true →
      ∀ t ∈ (significant ts)[n]?, t.kind ≠ .description) : Undescribed R ts := by
  intro before t after split here
  refine free before.length ?_ ?_ t ?_
  · simp [split]
  · rw [split, List.take_left]
    exact ruled before t after here
  · simp [split]

def behindMark (before : List Token) : Bool := before.any fun o => (quoteOf? o).isSome

def behindField (before : List Token) : Bool :=
  before.getLast?.any fun f => f.kind = .keyword .major || f.kind = .keyword .minor

theorem sourcesUndescribed (free : ∀ n < (significant ts).length,
    behindMark ((significant ts).take n) = true → ∀ t ∈ (significant ts)[n]?, t.kind ≠ .description) :
    Undescribed QuotedAt ts := by
  refine undescribedBy behindMark (fun before t after here => ?_) free
  simpa [behindMark] using quotedMarked here

theorem valuesUndescribed (free : ∀ n < (significant ts).length,
    behindField ((significant ts).take n) = true → ∀ t ∈ (significant ts)[n]?, t.kind ≠ .description) :
    Undescribed ValueAt ts := by
  refine undescribedBy behindField (fun before t after here => ?_) free
  obtain ⟨f, last, field⟩ := valueNamed here
  rw [behindField, last]
  simpa using field

end Texts

def annotated : String :=
  "package p <**a**> interface I\x7bversion\x7bmajor 1\x7d<**b**><**c**>" ++
    "method m\x7bin\x7b<**d**>T x<**e**>\x7d\x7d'1"

def reannotated : String :=
  "package p <**1\n2**> interface I\x7bversion\x7bmajor 1\x7d<**struct S**><****>" ++
    "method m\x7bin\x7b<**'**>T x<**\x7d**>\x7d\x7d'1"

theorem reannotatedSame : (Scan.ofText annotated).tokens? = .ok (tokensOf annotated) ∧
    (Scan.ofText reannotated).tokens? = .ok (tokensOf reannotated) ∧
    (tokensOf annotated).map seen = (tokensOf reannotated).map seen ∧
    Undescribed QuotedAt (tokensOf annotated) ∧ Undescribed QuotedAt (tokensOf reannotated) ∧
    Undescribed ValueAt (tokensOf annotated) ∧ Undescribed ValueAt (tokensOf reannotated) ∧
    ((∃ d d', Definition.ofText annotated = .ok d ∧ Definition.ofText reannotated = .ok d' ∧
        d.retold blank = d'.retold blank) ∨
      ∃ r r', Definition.ofText annotated = .error r ∧ Definition.ofText reannotated = .error r' ∧
        r.retold blank = r'.retold blank) := by
  have scanned : (Scan.ofText annotated).tokens? = .ok (tokensOf annotated) := by decide +kernel
  have scanned' : (Scan.ofText reannotated).tokens? = .ok (tokensOf reannotated) := by
    decide +kernel
  have same : (tokensOf annotated).map seen = (tokensOf reannotated).map seen := by decide +kernel
  have sources : Undescribed QuotedAt (tokensOf annotated) := sourcesUndescribed (by decide +kernel)
  have sources' : Undescribed QuotedAt (tokensOf reannotated) :=
    sourcesUndescribed (by decide +kernel)
  have values : Undescribed ValueAt (tokensOf annotated) := valuesUndescribed (by decide +kernel)
  have values' : Undescribed ValueAt (tokensOf reannotated) :=
    valuesUndescribed (by decide +kernel)
  exact ⟨scanned, scanned', same, sources, sources', values, values',
    sameUndocumented scanned scanned' same sources sources' values values'⟩

def describedVersion (text : String) : String :=
  "package p interface I \x7b version \x7b major <**" ++ text ++ "**> \x7d \x7d"

theorem describedVersionRead :
    (Scan.ofText (describedVersion "1")).tokens? = .ok (tokensOf (describedVersion "1")) ∧
      (Scan.ofText (describedVersion "x")).tokens? = .ok (tokensOf (describedVersion "x")) ∧
      (tokensOf (describedVersion "1")).map seen = (tokensOf (describedVersion "x")).map seen ∧
      Undescribed QuotedAt (tokensOf (describedVersion "1")) ∧
      Undescribed QuotedAt (tokensOf (describedVersion "x")) ∧
      (∃ d, Definition.ofText (describedVersion "1") = .ok d) ∧
      ∃ r, Definition.ofText (describedVersion "x") = .error r := by
  have sources : Undescribed QuotedAt (tokensOf (describedVersion "1")) :=
    sourcesUndescribed (by decide +kernel)
  have sources' : Undescribed QuotedAt (tokensOf (describedVersion "x")) :=
    sourcesUndescribed (by decide +kernel)
  have read : Definition.ofText (describedVersion "1") =
      .ok ⟨⟨"p", []⟩, ⟨"I", none, 1, 0⟩, [], [], [], [], [], []⟩ := by decide +kernel
  have refused : Definition.ofText (describedVersion "x") =
      .error (.invalidNumber .major ⟨.description, "x", ⟨40, 47⟩⟩ .invalidDigit) := by
    decide +kernel
  exact ⟨by decide +kernel, by decide +kernel, by decide +kernel, sources, sources', ⟨_, read⟩,
    _, refused⟩

end Busbind.Undocumented
