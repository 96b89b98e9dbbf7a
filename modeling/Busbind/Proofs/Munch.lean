import Mathlib.Data.List.TakeWhile
import Busbind.Scan

/-! What a lexeme of each kind covers, said of the text alone: a run that the next character does
not extend, a description up to its first `**`, or a single character. The front of a text is cut
into a lexeme exactly when the lexeme covers it in this sense. -/
namespace Busbind.Munch
open Lexeme (cut? plain untilClose description? wordKind symbolKind)

def Run (first part : Char → Bool) (covered after : List Char) : Prop :=
  ∃ c cs, covered = c :: cs ∧ first c = true ∧ (∀ d ∈ cs, part d = true) ∧
    ∀ d, after.head? = some d → part d = false

/-- The first `**` after the text is the one directly behind it. -/
def ClosesFirst (literal : List Char) : Prop :=
  ∀ before after, literal ++ ['*', '*'] = before ++ '*' :: '*' :: after → before = literal

/-- The markers around a description: `<*` with one more character, whatever it is, and `**` with
one more character unless the text ends there. -/
def Described (literal covered after : List Char) : Prop :=
  ∃ opening closing, covered = '<' :: '*' :: opening :: literal ++ '*' :: '*' :: closing ∧
    (closing.length = 1 ∨ closing = [] ∧ after = []) ∧ ClosesFirst literal

def Alone (c : Char) (after : List Char) : Prop :=
  isSpace c = false ∧ c.isAlpha = false ∧ c.isDigit = false ∧
    ¬(c = '<' ∧ after.head? = some '*')

def Forms (kind : TokenKind) (literal covered after : List Char) : Prop :=
  match kind with
  | .keyword k =>
    literal = covered ∧ Run Char.isAlpha isWordPart covered after ∧
      String.ofList covered = k.spelling
  | .punctuation p =>
    literal = covered ∧ ∃ c, covered = [c] ∧ Alone c after ∧ p.char = c
  | .identifier =>
    literal = covered ∧ Run Char.isAlpha isWordPart covered after ∧
      ∀ k : Keyword, String.ofList covered ≠ k.spelling
  | .number => literal = covered ∧ Run Char.isDigit isWordPart covered after
  | .description => Described literal covered after
  | .whitespace => literal = covered ∧ Run isSpace isSpace covered after
  | .illegal =>
    literal = covered ∧ ∃ c, covered = [c] ∧ Alone c after ∧ ∀ p : Punctuation, p.char ≠ c
  | .endOfInput => False

theorem formsWhole {kind : TokenKind} {literal covered after : List Char}
    (h : Forms kind literal covered after) (other : kind ≠ .description) : literal = covered := by
  cases kind <;> first | exact h.1 | contradiction

theorem spaceNotWord {c : Char} (h : isSpace c = true) :
    c.isAlpha = false ∧ c.isDigit = false ∧ isWordPart c = false := by
  simp only [isSpace, Bool.or_eq_true, decide_eq_true_eq] at h
  rcases h with ((h | h) | h) | h <;> subst h <;> decide

theorem letterNotSpace {c : Char} (h : c.isAlpha = true) : isSpace c = false := by
  by_contra space
  rw [(spaceNotWord (by simpa using space)).1] at h
  contradiction

theorem digitNotSpace {c : Char} (h : c.isDigit = true) : isSpace c = false := by
  by_contra space
  rw [(spaceNotWord (by simpa using space)).2.1] at h
  contradiction

theorem digitNotLetter {c : Char} (h : c.isDigit = true) : c.isAlpha = false := by
  have small : c.val.toNat ≤ '9'.val.toNat := (Char.isDigit_iff_toNat.1 h).2
  have notFrom (d : Char) (above : '9'.val.toNat < d.val.toNat) : ¬d.val ≤ c.val := by
    intro from'
    have := UInt32.le_iff_toNat_le.1 from'
    omega
  have upper : c.isUpper = false := decide_eq_false fun both => notFrom 'A' (by decide) both.1
  have lower : c.isLower = false := by
    change (decide ('a'.val ≤ c.val) && decide (c.val ≤ 'z'.val)) = false
    rw [decide_eq_false (notFrom 'a' (by decide)), Bool.false_and]
  change (c.isUpper || c.isLower) = false
  rw [upper, lower, Bool.or_false]

theorem ofSpellingIff (s : String) (k : Keyword) :
    Keyword.ofSpelling? s = some k ↔ s = k.spelling := by
  constructor
  · intro found
    have same := List.find?_some found
    exact (beq_iff_eq.1 same).symm
  · intro same
    rw [same]
    exact Keyword.spellingFound k

theorem ofSpellingNone (s : String) :
    Keyword.ofSpelling? s = none ↔ ∀ k : Keyword, s ≠ k.spelling := by
  constructor
  · intro missing k same
    rw [(ofSpellingIff s k).2 same] at missing
    contradiction
  · intro other
    cases found : Keyword.ofSpelling? s with
    | none => rfl
    | some k => exact absurd ((ofSpellingIff s k).1 found) (other k)

theorem ofCharIff (c : Char) (p : Punctuation) :
    Punctuation.ofChar? c = some p ↔ p.char = c := by
  constructor
  · intro found
    have same := List.find?_some found
    exact beq_iff_eq.1 same
  · intro same
    rw [← same]
    exact Punctuation.charFound p

theorem ofCharNone (c : Char) :
    Punctuation.ofChar? c = none ↔ ∀ p : Punctuation, p.char ≠ c := by
  constructor
  · intro missing p same
    rw [(ofCharIff c p).2 same] at missing
    contradiction
  · intro other
    cases found : Punctuation.ofChar? c with
    | none => rfl
    | some p => exact absurd ((ofCharIff c p).1 found) (other p)

theorem runOfSpan {first part : Char → Bool} {c : Char} (cs : List Char) (h : first c = true) :
    Run first part (c :: cs.takeWhile part) (cs.dropWhile part) := by
  refine ⟨c, cs.takeWhile part, rfl, h, fun d mem => List.mem_takeWhile_imp mem, ?_⟩
  intro d head
  have stop := List.head?_dropWhile_not part cs
  rw [head] at stop
  simpa using stop

theorem spanOfRun {α : Type} {part : α → Bool} {cs after : List α} (all : ∀ d ∈ cs, part d = true)
    (stop : ∀ d, after.head? = some d → part d = false) :
    (cs ++ after).takeWhile part = cs ∧ (cs ++ after).dropWhile part = after := by
  rw [List.takeWhile_append_of_pos all, List.dropWhile_append_of_pos all]
  cases after with
  | nil => simp
  | cons d ds => simp [stop d rfl]

theorem closesFirstTail {c : Char} {literal : List Char} (rest : List Char)
    (other : ¬∃ cs, c :: literal ++ '*' :: '*' :: rest = '*' :: '*' :: cs)
    (closes : ClosesFirst literal) : ClosesFirst (c :: literal) := by
  intro before after same
  cases before with
  | nil =>
    refine absurd ⟨after ++ rest, ?_⟩ other
    have longer := congrArg (· ++ rest) same
    simpa using longer
  | cons b before =>
    simp only [List.cons_append, List.cons.injEq] at same
    rw [closes before after same.2, same.1]

theorem untilCloseIff {cs literal rest : List Char} :
    untilClose cs = some (literal, rest) ↔
      cs = literal ++ '*' :: '*' :: rest ∧ ClosesFirst literal := by
  constructor
  · intro found
    refine ⟨Lexeme.untilCloseSplit found, ?_⟩
    fun_induction untilClose cs generalizing literal with
    | case1 cs =>
      cases found
      intro before after same
      have lengths := congrArg List.length same
      simp only [List.length_append, List.length_cons, List.length_nil] at lengths
      exact List.length_eq_zero_iff.1 (by omega)
    | case2 c cs other ih =>
      obtain ⟨r, hr, same⟩ := Option.map_eq_some_iff.1 found
      cases same
      refine closesFirstTail r.2 ?_ (ih hr)
      rintro ⟨ds, opening⟩
      rw [List.cons_append, ← Lexeme.untilCloseSplit hr] at opening
      injection opening with first more
      exact other ds first more
    | case3 => contradiction
  · rintro ⟨same, closes⟩
    induction literal generalizing cs with
    | nil => rw [same]; rfl
    | cons c literal ih =>
      have later : ClosesFirst literal := by
        intro before after eq
        have := closes (c :: before) after (by rw [List.cons_append, eq]; rfl)
        exact (List.cons.inj this).2
      have alone : ∀ ds, c = '*' → literal ++ '*' :: '*' :: rest = '*' :: ds → False := by
        intro ds first more
        have front : ∃ es, literal ++ ['*', '*'] = '*' :: es := by
          cases literal with
          | nil => exact ⟨['*'], rfl⟩
          | cons d literal => exact ⟨literal ++ ['*', '*'], by simp at more; simp [more.1]⟩
        obtain ⟨es, front⟩ := front
        have := closes [] es (by rw [List.cons_append, front, first]; rfl)
        contradiction
      rw [same, List.cons_append, untilClose, ih rfl later]
      · rfl
      · exact alone

theorem cutForms {c : Char} {cs : List Char} {l : Lexeme} (h : cut? c cs = some l) :
    Forms l.kind l.literal l.covered l.rest := by
  unfold cut? at h
  split at h
  case isTrue space => cases h; exact ⟨rfl, runOfSpan cs space⟩
  case isFalse space =>
  split at h
  case isTrue letter =>
    cases h
    simp only [plain, wordKind]
    split
    case h_1 k found => exact ⟨rfl, runOfSpan cs letter, (ofSpellingIff _ k).1 found⟩
    case h_2 missing => exact ⟨rfl, runOfSpan cs letter, (ofSpellingNone _).1 missing⟩
  case isFalse letter =>
  split at h
  case isTrue digit => cases h; exact ⟨rfl, runOfSpan cs digit⟩
  case isFalse digit =>
  split at h
  case isTrue opening =>
    simp only [Bool.and_eq_true, decide_eq_true_eq] at opening
    cases cs with
    | nil => simp at opening
    | cons d cs =>
      cases cs with
      | nil => simp [description?] at h
      | cons e cs =>
        obtain ⟨r, hr, same⟩ := Option.map_eq_some_iff.1 h
        subst same
        refine ⟨e, r.2.take 1, rfl, ?_, (untilCloseIff.1 hr).2⟩
        cases r.2 <;> simp
  case isFalse opening =>
    cases h
    have alone : Alone c cs := by
      refine ⟨by simpa using space, by simpa using letter, by simpa using digit, ?_⟩
      simpa using opening
    simp only [plain, symbolKind]
    split
    case h_1 p found => exact ⟨rfl, c, rfl, alone, (ofCharIff c p).1 found⟩
    case h_2 missing => exact ⟨rfl, c, rfl, alone, (ofCharNone c).1 missing⟩

theorem cutWord {c : Char} {cs after : List Char} (letter : c.isAlpha = true)
    (all : ∀ d ∈ cs, isWordPart d = true)
    (stop : ∀ d, after.head? = some d → isWordPart d = false) :
    cut? c (cs ++ after) = some (plain (wordKind (c :: cs)) (c :: cs) after) := by
  obtain ⟨taken, dropped⟩ := spanOfRun all stop
  simp [cut?, letterNotSpace letter, letter, taken, dropped]

theorem cutAlone {c : Char} {after : List Char} (alone : Alone c after) :
    cut? c after = some (plain (symbolKind c) [c] after) := by
  obtain ⟨space, letter, digit, opening⟩ := alone
  simp [cut?, space, letter, digit, opening]

theorem formsCut {kind : TokenKind} {literal covered after : List Char}
    (h : Forms kind literal covered after) :
    ∃ c cs, covered ++ after = c :: cs ∧ cut? c cs = some ⟨kind, literal, covered, after⟩ := by
  cases kind with
  | keyword k =>
    obtain ⟨rfl, ⟨c, cs, rfl, letter, all, stop⟩, spelled⟩ := h
    refine ⟨c, cs ++ after, rfl, ?_⟩
    rw [cutWord letter all stop, wordKind, (ofSpellingIff _ k).2 spelled]
    rfl
  | punctuation p =>
    obtain ⟨rfl, c, rfl, alone, same⟩ := h
    refine ⟨c, after, rfl, ?_⟩
    rw [cutAlone alone, symbolKind, (ofCharIff c p).2 same]
    rfl
  | identifier =>
    obtain ⟨rfl, ⟨c, cs, rfl, letter, all, stop⟩, other⟩ := h
    refine ⟨c, cs ++ after, rfl, ?_⟩
    rw [cutWord letter all stop, wordKind, (ofSpellingNone _).2 other]
    rfl
  | number =>
    obtain ⟨rfl, c, cs, rfl, digit, all, stop⟩ := h
    refine ⟨c, cs ++ after, rfl, ?_⟩
    obtain ⟨taken, dropped⟩ := spanOfRun all stop
    simp [cut?, digitNotSpace digit, digitNotLetter digit, digit, taken, dropped, plain]
  | description =>
    obtain ⟨opening, closing, rfl, ending, closes⟩ := h
    refine ⟨'<', '*' :: opening :: literal ++ '*' :: '*' :: closing ++ after, by simp, ?_⟩
    have found : untilClose (literal ++ '*' :: '*' :: (closing ++ after)) =
        some (literal, closing ++ after) := untilCloseIff.2 ⟨rfl, closes⟩
    have parted : (closing ++ after).take 1 = closing ∧ (closing ++ after).drop 1 = after := by
      rcases ending with one | ⟨rfl, rfl⟩
      · obtain ⟨d, rfl⟩ := List.length_eq_one_iff.1 one
        simp
      · simp
    have notSpace : isSpace '<' = false := by decide
    simp [cut?, notSpace, description?, found, parted.1, parted.2, -List.drop_one]
  | whitespace =>
    obtain ⟨rfl, c, cs, rfl, space, all, stop⟩ := h
    refine ⟨c, cs ++ after, rfl, ?_⟩
    obtain ⟨taken, dropped⟩ := spanOfRun all stop
    simp [cut?, space, taken, dropped, plain]
  | illegal =>
    obtain ⟨rfl, c, rfl, alone, other⟩ := h
    refine ⟨c, after, rfl, ?_⟩
    rw [cutAlone alone, symbolKind, (ofCharNone c).2 other]
    rfl
  | endOfInput => exact h.elim

theorem markAlone (p : Punctuation) (after : List Char) : Alone p.char after := by
  cases p <;> exact ⟨by decide, by decide, by decide, fun h => absurd h.1 (by decide)⟩

def Continues (kind : TokenKind) (literal : List Char) (d : Char) : Prop :=
  match kind with
  | .keyword _ | .identifier | .number => isWordPart d = true
  | .whitespace => isSpace d = true
  | .illegal => literal = ['<'] ∧ d = '*'
  | .punctuation _ | .description | .endOfInput => False

theorem formsElsewhere {kind : TokenKind} {literal covered after less : List Char}
    (h : Forms kind literal covered after) (other : kind ≠ .description)
    (head : ∀ d, less.head? = some d → after.head? = some d ∨ ¬Continues kind literal d) :
    Forms kind literal covered less := by
  have run {first part : Char → Bool} (more : ∀ d, part d = true → Continues kind literal d)
      (h : Run first part covered after) : Run first part covered less := by
    obtain ⟨c, cs, same, begins, all, stop⟩ := h
    refine ⟨c, cs, same, begins, all, fun d front => ?_⟩
    rcases head d front with front | done
    · exact stop d front
    · exact Bool.eq_false_iff.2 fun part => done (more d part)
  cases kind with
  | keyword k => exact ⟨h.1, run (fun _ => id) h.2.1, h.2.2⟩
  | punctuation p =>
    obtain ⟨same, _, one, _, rfl⟩ := h
    exact ⟨same, p.char, one, markAlone p less, rfl⟩
  | identifier => exact ⟨h.1, run (fun _ => id) h.2.1, h.2.2⟩
  | number => exact ⟨h.1, run (fun _ => id) h.2⟩
  | description => contradiction
  | whitespace => exact ⟨h.1, run (fun _ => id) h.2⟩
  | illegal =>
    obtain ⟨same, c, one, ⟨space, letter, digit, opening⟩, char⟩ := h
    refine ⟨same, c, one, ⟨space, letter, digit, fun both => ?_⟩, char⟩
    rcases head _ both.2 with front | done
    · exact opening ⟨both.1, front⟩
    · exact done ⟨by rw [same, one, both.1], rfl⟩
  | endOfInput => exact h.elim

theorem formsBefore {kind : TokenKind} {literal covered after less : List Char}
    (h : Forms kind literal covered after)
    (head : ∀ d, less.head? = some d → after.head? = some d) : Forms kind literal covered less := by
  by_cases description : kind = .description
  · subst description
    obtain ⟨opening, closing, same, ends, closes⟩ := h
    refine ⟨opening, closing, same, ?_, closes⟩
    rcases ends with one | ⟨none, rfl⟩
    · exact .inl one
    · exact .inr ⟨none, List.head?_eq_none_iff.1 (Option.eq_none_iff_forall_ne_some.2 fun d front =>
        nomatch head d front)⟩
  · exact formsElsewhere h description fun d front => .inl (head d front)

end Busbind.Munch
