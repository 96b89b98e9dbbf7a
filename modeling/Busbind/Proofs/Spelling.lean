import Busbind.Proofs.Canonical
import Busbind.Proofs.Pieces
import Busbind.Proofs.Unplaced
import Busbind.Proofs.VersionValue

/-! The tokens of a text that is made of words: those of each word, with a blank between two
words. -/
namespace Busbind.Canonical
open Munch Piece Unplaced

@[reducible] def token (kind : TokenKind) (literal : String) : Token := ⟨kind, literal, ⟨0, 0⟩⟩

def blank : Token := token .whitespace " "

namespace Word

def tokens : Word → List Token
  | .keyword k => [token (.keyword k) k.spelling]
  | .identifier s => [token .identifier s]
  | .name s => [token (Lexeme.wordKind s.toList) s]
  | .number n => [token .number (toString n.toNat)]
  | .mark p => [token (.punctuation p) (String.ofList [p.char])]
  | .documentation d => [token .description d]
  | .quoted q s =>
    [token (.punctuation q) (String.ofList [q.char])] ++ left (Scan.ofText s).tokens ++
      [token (.punctuation q) (String.ofList [q.char])]

end Word

def spread (ws : List Word) : List Token := ws.flatMap fun w => blank :: w.tokens

def visible (ws : List Word) : List Token := ws.flatMap fun w => w.tokens.filter Token.isSignificant

theorem spreadVisible (ws : List Word) :
    (spread ws).filter Token.isSignificant = visible ws := by
  induction ws with
  | nil => rfl
  | cons w ws ih =>
    have skipped : blank.isSignificant = false := rfl
    simp only [spread, visible, List.flatMap_cons] at ih ⊢
    simp [ih, skipped]

def unplacedPiece (p : Piece) : Token := token p.kind (String.ofList p.literal)

theorem leftPlace (p : Nat) (ps : List Piece) : left (place p ps) = ps.map unplacedPiece := by
  induction ps generalizing p with
  | nil => rfl
  | cons piece ps ih => simp only [place, leftCons, ih, List.map_cons]; rfl

def Gap (after : List Char) : Prop := ∀ d, after.head? = some d → d = ' '

structure Spelled (w : Word) : Prop where
  front : ∃ c cs, w.text.toList = c :: cs ∧ isSpace c = false
  cuts : ∀ after, Gap after →
    ∃ ps, Cuts (w.text.toList ++ after) ps after ∧ ps.map unplacedPiece = w.tokens

theorem gapStop {after : List Char} (gap : Gap after) :
    ∀ d, after.head? = some d → isWordPart d = false := by
  intro d head
  rw [gap d head]
  decide

theorem runOfFront {first : Char → Bool} {s : String} {after : List Char}
    (begins : s.toList.head?.any first = true) (all : s.toList.all isWordPart = true)
    (gap : Gap after) : Run first isWordPart s.toList after := by
  cases text : s.toList with
  | nil => rw [text] at begins; contradiction
  | cons c cs =>
    rw [text] at begins all
    simp only [List.all_cons, Bool.and_eq_true, List.all_eq_true] at all
    exact ⟨c, cs, rfl, by simpa using begins, all.2, gapStop gap⟩

theorem runOfWord {s : String} {after : List Char} (word : IsWord s) (gap : Gap after) :
    Run Char.isAlpha isWordPart s.toList after := runOfFront word.1 word.2 gap

theorem frontOfRun {first part : Char → Bool} {covered after : List Char}
    (h : Run first part covered after) (visible : ∀ c, first c = true → isSpace c = false) :
    ∃ c cs, covered = c :: cs ∧ isSpace c = false := by
  obtain ⟨c, cs, same, begins, _⟩ := h
  exact ⟨c, cs, same, visible c begins⟩

theorem noneAfter : Gap [] := nofun

theorem spelledOne {w : Word} (kind : TokenKind) (literal : List Char)
    (front : ∃ c cs, w.text.toList = c :: cs ∧ isSpace c = false)
    (forms : ∀ after, Gap after → Forms kind literal w.text.toList after)
    (same : w.tokens = [token kind (String.ofList literal)]) : Spelled w :=
  ⟨front, fun after gap => ⟨_, cutsForms (forms after gap), same.symm⟩⟩

theorem spelledWord {w : Word} {s : String} (word : IsWord s) (text : w.text = s)
    (same : w.tokens = [token (Lexeme.wordKind s.toList) s]) : Spelled w := by
  refine spelledOne (Lexeme.wordKind s.toList) s.toList ?_ ?_ ?_
  · rw [text]
    exact frontOfRun (runOfWord word noneAfter) fun c => letterNotSpace
  · intro after gap
    rw [text]
    have run := runOfWord word gap
    simp only [Lexeme.wordKind, String.ofList_toList]
    split
    · rename_i k found
      refine ⟨rfl, run, ?_⟩
      rw [String.ofList_toList]
      exact (ofSpellingIff s k).1 found
    · rename_i missing
      refine ⟨rfl, run, ?_⟩
      rw [String.ofList_toList]
      exact (ofSpellingNone s).1 missing
  · rw [same, String.ofList_toList]

theorem keywordIsWord (k : Keyword) : IsWord k.spelling := by cases k <;> decide

theorem keywordKind (k : Keyword) : Lexeme.wordKind k.spelling.toList = .keyword k := by
  rw [Lexeme.wordKind, String.ofList_toList, Keyword.spellingFound]

theorem identifierKind {s : String} (h : IsIdentifier s) :
    Lexeme.wordKind s.toList = .identifier := by
  rw [Lexeme.wordKind, String.ofList_toList, h.2]

theorem digitIsPart {c : Char} (h : c.isDigit = true) : isWordPart c = true := by
  simp [isWordPart, Char.isAlphanum, h]

theorem runOfNumber (n : Nat) {after : List Char} (gap : Gap after) :
    Run Char.isDigit isWordPart (toString n).toList after := by
  have digits := VersionNumber.decimalDigits n
  cases text : (toString n).toList with
  | nil => exact absurd text (VersionNumber.decimalSome n)
  | cons c cs =>
    rw [text] at digits
    refine ⟨c, cs, rfl, digits c (by simp), fun d mem => ?_, gapStop gap⟩
    exact digitIsPart (digits d (List.mem_cons_of_mem c mem))

theorem spelledNumber (n : UInt32) : Spelled (.number n) := by
  refine spelledOne .number (toString n.toNat).toList ?_ ?_ ?_
  · exact frontOfRun (runOfNumber n.toNat noneAfter) fun c => digitNotSpace
  · exact fun after gap => ⟨rfl, runOfNumber n.toNat gap⟩
  · rw [String.ofList_toList]
    rfl

theorem markForms (p : Punctuation) (after : List Char) :
    Forms (.punctuation p) [p.char] [p.char] after :=
  ⟨rfl, p.char, rfl, markAlone p after, rfl⟩

theorem spelledMark (p : Punctuation) : Spelled (.mark p) := by
  have text : (Word.mark p).text.toList = [p.char] := String.toList_ofList
  refine spelledOne (.punctuation p) [p.char] ?_ ?_ rfl
  · exact ⟨p.char, [], text, (markAlone p []).1⟩
  · intro after gap
    rw [text]
    exact markForms p after

theorem closesFirstOf {d : String} (h : IsDocumentation d) : ClosesFirst d.toList := by
  obtain ⟨inside, last⟩ := h
  intro before after same
  rcases List.append_eq_append_iff.1 same with ⟨m, rfl, tail⟩ | ⟨m, split, tail⟩
  · have lengths := congrArg List.length tail
    simp only [List.length_append, List.length_cons, List.length_nil] at lengths
    rw [List.length_eq_zero_iff.1 (show m.length = 0 by omega), List.append_nil]
  · -- The two stars cannot begin inside the text: it has no such pair and no star at its end.
    match m, tail with
    | [], _ => rw [split, List.append_nil]
    | [c], tail =>
      cases tail
      rw [split] at last
      simp at last
    | c :: c' :: m, tail =>
      cases tail
      exact absurd ⟨before, m, by rw [split]; simp⟩ inside

theorem spelledDocumentation {d : String} (h : IsDocumentation d) : Spelled (.documentation d) := by
  have text : (Word.documentation d).text.toList =
      '<' :: '*' :: '*' :: d.toList ++ '*' :: '*' :: ['>'] := by
    simp [Word.text]
  refine spelledOne .description d.toList ?_ ?_ ?_
  · exact ⟨'<', _, text, by decide⟩
  · exact fun after gap => ⟨'*', ['>'], text, .inl rfl, closesFirstOf h⟩
  · rw [String.ofList_toList]
    rfl

theorem stuckOpens {c : Char} {cs : List Char} (h : Lexeme.cut? c cs = none) :
    ∃ ds, c = '<' ∧ cs = '*' :: ds := by
  unfold Lexeme.cut? at h
  repeat' split at h <;> try contradiction
  rename_i opening
  simp only [Bool.and_eq_true, decide_eq_true_eq] at opening
  obtain ⟨ds, same⟩ := List.head?_eq_some_iff.1 opening.2
  exact ⟨ds, opening.1, same⟩

def Blunt (b : List Char) : Prop :=
  ∀ d, b.head? = some d → isWordPart d = false ∧ isSpace d = false ∧ d ≠ '*'

theorem headAppend {after b : List Char} {d : Char} (h : (after ++ b).head? = some d) :
    after.head? = some d ∨ b.head? = some d := by
  cases after with
  | nil => exact .inr h
  | cons a as => exact .inl h

theorem bluntStops {kind : TokenKind} {literal b : List Char} {d : Char} (blunt : Blunt b)
    (front : b.head? = some d) : ¬Continues kind literal d := by
  obtain ⟨word, space, star⟩ := blunt d front
  cases kind <;> simp [Continues, word, space, star]

theorem formsExtend {kind : TokenKind} {literal covered after b : List Char}
    (h : Forms kind literal covered after) (plain : kind ≠ .description) (blunt : Blunt b) :
    Forms kind literal covered (after ++ b) :=
  formsElsewhere h plain fun _ front => (headAppend front).imp_right (bluntStops blunt)

theorem plainFirst {c : Char} {cs : List Char} {l : Lexeme} (first : Lexeme.cut? c cs = some l)
    (plain : ¬['<', '*'] <:+: c :: cs) : l.kind ≠ .description ∧ ¬['<', '*'] <:+: l.rest := by
  have tiles := (Lexeme.cutTiles first).1
  have forms := cutForms first
  constructor
  · intro kind
    rw [kind] at forms
    obtain ⟨opening, closing, covers, _⟩ := forms
    refine plain ⟨[], opening :: l.literal ++ '*' :: '*' :: closing ++ l.rest, ?_⟩
    rw [← tiles, covers]
    simp
  · exact fun inside => plain (inside.trans ⟨l.covered, [], by rw [← tiles, List.append_nil]⟩)

theorem cutsExtend {cs rest b : List Char} {ps : List Piece} (h : Cuts cs ps rest)
    (plain : ¬['<', '*'] <:+: cs) (blunt : Blunt b) : Cuts (cs ++ b) ps (rest ++ b) := by
  induction h with
  | nil => exact .nil _
  | cons first next ih =>
    obtain ⟨kind, later⟩ := plainFirst first plain
    have here := cutsForms (formsExtend (cutForms first) kind blunt)
    rw [← List.append_assoc, (Lexeme.cutTiles first).1] at here
    exact cutsAppend here (ih later)

theorem plainScan {s : String} (plain : ¬['<', '*'] <:+: s.toList) :
    ∃ ps n, Cuts s.toList ps [] ∧ Scan.ofText s = ⟨place 0 ps, .complete n⟩ := by
  rcases scanCases s with ⟨ps, cuts, scan⟩ | ⟨ps, d, ds, cuts, stuck, _⟩
  · exact ⟨ps, _, cuts, scan⟩
  · obtain ⟨es, rfl, rfl⟩ := stuckOpens stuck
    exact absurd ⟨Piece.text ps, es, by rw [cutsText cuts]; simp⟩ plain

theorem spelledQuoted {q : Punctuation} {s : String} (h : IsQuotable q s) :
    Spelled (.quoted q s) := by
  obtain ⟨sort, _, plain⟩ := h
  have text : (Word.quoted q s).text.toList = [q.char] ++ s.toList ++ [q.char] := by
    simp [Word.text]
  refine ⟨⟨q.char, _, text, (markAlone q []).1⟩, fun after _ => ?_⟩
  obtain ⟨ps, n, cuts, scan⟩ := plainScan plain
  have blunt : Blunt (q.char :: after) := by
    rintro d head
    cases head
    rcases sort with rfl | rfl <;> decide
  have inside := cutsExtend cuts plain blunt
  refine ⟨[⟨.punctuation q, [q.char], [q.char]⟩] ++ ps ++
    [⟨.punctuation q, [q.char], [q.char]⟩], ?_, ?_⟩
  · rw [text, List.append_assoc, List.append_assoc, List.append_assoc]
    exact cutsAppend (cutsForms (markForms q _))
      (cutsAppend inside (cutsForms (markForms q after)))
  · simp only [Word.tokens, scan, leftPlace, List.map_append]
    rfl

theorem spelled {w : Word} (proper : w.Proper) : Spelled w := by
  cases w with
  | keyword k =>
    exact spelledWord (keywordIsWord k) rfl (by rw [keywordKind]; rfl)
  | identifier s => exact spelledWord proper.1 rfl (by rw [identifierKind proper]; rfl)
  | name s => exact spelledWord proper.1 rfl rfl
  | number n => exact spelledNumber n
  | mark p => exact spelledMark p
  | documentation d => exact spelledDocumentation proper
  | quoted q s => exact spelledQuoted proper

def apart (xs : List String) : List Char := xs.flatMap fun x => ' ' :: x.toList

theorem intercalateApart (x : String) (xs : List String) :
    (" ".intercalate (x :: xs)).toList = x.toList ++ apart xs := by
  induction xs generalizing x with
  | nil => simp [apart]
  | cons y xs ih =>
    rw [String.intercalate_cons_cons]
    simp [ih y, apart]

theorem gapApart (xs : List String) {after : List Char} (gap : Gap after) :
    Gap (apart xs ++ after) := by
  cases xs with
  | nil => exact gap
  | cons x xs =>
    intro d head
    cases head
    rfl

theorem gapTexts (xs : List String) : Gap (apart xs) := by
  have gap := gapApart xs noneAfter
  rwa [List.append_nil] at gap

def spaced (ws : List Word) : List Char := ws.flatMap fun w => ' ' :: w.text.toList

theorem spacedApart (ws : List Word) : spaced ws = apart (ws.map Word.text) := by
  rw [apart, List.flatMap_map, spaced]

theorem joinedSpaced (w : Word) (ws : List Word) :
    (joined (w :: ws)).toList = w.text.toList ++ spaced ws := by
  rw [joined, List.map_cons, intercalateApart, spacedApart]

theorem gapSpaced (ws : List Word) {after : List Char} (gap : Gap after) :
    Gap (spaced ws ++ after) := by
  rw [spacedApart]
  exact gapApart _ gap

theorem spacedCuts {ws : List Word} (all : ∀ w ∈ ws, w.Proper) {after : List Char}
    (gap : Gap after) :
    ∃ ps, Cuts (spaced ws ++ after) ps after ∧ ps.map unplacedPiece = spread ws := by
  induction ws with
  | nil => exact ⟨[], .nil _, rfl⟩
  | cons w ws ih =>
    obtain ⟨proper, others⟩ := List.forall_mem_cons.1 all
    obtain ⟨⟨c, cs, front, visible⟩, cuts⟩ := spelled proper
    obtain ⟨ps, here, tokens⟩ := cuts (spaced ws ++ after) (gapSpaced ws gap)
    obtain ⟨qs, later, rest⟩ := ih others
    have space : Forms .whitespace [' '] [' '] (w.text.toList ++ (spaced ws ++ after)) := by
      refine ⟨rfl, ' ', [], rfl, rfl, nofun, fun d head => ?_⟩
      rw [front] at head
      cases head
      exact visible
    refine ⟨[⟨.whitespace, [' '], [' ']⟩] ++ (ps ++ qs), ?_, ?_⟩
    · have one := cutsAppend (cutsForms space) (cutsAppend here later)
      simpa [spaced] using one
    · simp only [List.map_append, tokens, rest, spread, List.flatMap_cons]
      rfl

theorem joinedCuts {w : Word} {ws : List Word} (all : ∀ v ∈ w :: ws, v.Proper) {after : List Char}
    (gap : Gap after) :
    ∃ ps, Cuts ((joined (w :: ws)).toList ++ after) ps after ∧
      ps.map unplacedPiece = w.tokens ++ spread ws := by
  obtain ⟨proper, others⟩ := List.forall_mem_cons.1 all
  obtain ⟨ps, here, tokens⟩ := (spelled proper).cuts (spaced ws ++ after) (gapSpaced ws gap)
  obtain ⟨qs, later, rest⟩ := spacedCuts others gap
  refine ⟨ps ++ qs, ?_, by rw [List.map_append, tokens, rest]⟩
  rw [joinedSpaced, List.append_assoc]
  exact cutsAppend here later

theorem ofTextCuts {source : String} {ps : List Piece} {d : Definition}
    (cuts : Cuts source.toList ps [])
    (read : Definition.ofScan ⟨ps.map unplacedPiece, .complete 0⟩ = .ok d) :
    Definition.ofText source = .ok d := by
  have scan := fromPositionCuts cuts 0
  simp only [Scan.fromPosition, List.append_nil, Nat.zero_add] at scan
  rw [← leftPlace 0 ps, ofScanUnplaced (byteLength (Piece.text ps))] at read
  rw [Definition.ofText, Scan.ofText, scan]
  cases outcome : Definition.ofScan ⟨place 0 ps, .complete (byteLength (Piece.text ps))⟩ with
  | error r => rw [outcome] at read; contradiction
  | ok e => rw [outcome] at read; exact read

end Busbind.Canonical
