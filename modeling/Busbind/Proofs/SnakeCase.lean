import Mathlib.Data.List.Infix
import Busbind.Proofs.Casing

/-! Names in snake case. The letters and digits of a name are kept, and an underscore stands before
exactly those that begin a word after another one, which leaves only one way to write the name. A
name that is in snake case already is left as it is. -/
namespace Busbind.SnakeCase
open Casing Naming

/-- A word begins at `c` after another one. What stands directly before `c` separates words, or `c`
is a capital after a small letter or a digit, or the last of several capitals before a small
letter. -/
def BeginsWord (before : List Char) (c : Char) (behind : List Char) : Prop :=
  (∃ d ∈ before, d.isAlphanum = true) ∧ ∃ b ∈ before.getLast?,
    b.isAlphanum = false ∨ (c.isUpper = true ∧
      ((b.isLower = true ∨ b.isDigit = true) ∨
        (b.isUpper = true ∧ ∃ a ∈ behind.head?, a.isLower = true)))

def smallParts (cs : List Char) : List Char := (cs.filter Char.isAlphanum).map Char.toLower

def bare (word : List Char) : List Char := word.filter (· ≠ '_')

/-- `word` is `name` in snake case. What is written for a part of the name is found by the parts
before it: they, and only they, are written before it. -/
structure IsSnakeOf (name word : List Char) : Prop where
  kept : bare word = smallParts name
  parted : ∀ before c behind, name = before ++ c :: behind → c.isAlphanum = true →
    ∃ left right, word = left ++ c.toLower :: right ∧ bare left = smallParts before ∧
      (left.getLast? = some '_' ↔ BeginsWord before c behind)
  edges : word.head? ≠ some '_' ∧ word.getLast? ≠ some '_'
  single : ¬['_', '_'] <:+: word

section Parts
variable {c : Char}

theorem smallPartsCons (c : Char) (cs : List Char) :
    smallParts (c :: cs) = if c.isAlphanum then c.toLower :: smallParts cs else smallParts cs := by
  unfold smallParts
  rw [List.filter_cons]
  split <;> rfl

theorem bareCons (other : c ≠ '_') (cs : List Char) : bare (c :: cs) = c :: bare cs :=
  List.filter_cons_of_pos (by simpa using other)

theorem bareAppend (left right : List Char) : bare (left ++ right) = bare left ++ bare right :=
  List.filter_append left right

theorem lowerNotMark (part : c.isAlphanum = true) : c.toLower ≠ '_' := by
  intro same
  rw [← toLowerAlphanum, same] at part
  contradiction

end Parts

section Resuming

def resumed (seen cs : List Char) : List Char :=
  snakeFrom (seen.any Char.isAlphanum) (seen.getLast?.any fun b => !b.isAlphanum) seen.getLast? cs

def begins (before : List Char) (c : Char) (behind : List Char) : Bool :=
  before.any Char.isAlphanum && ((before.getLast?.any fun b => !b.isAlphanum) ||
    startsWord before.getLast? c behind.head?)

def gap (before : List Char) (c : Char) (behind : List Char) : List Char :=
  if begins before c behind then ['_'] else []

variable {seen cs : List Char} {c : Char}

theorem beginsIff (before : List Char) (c : Char) (behind : List Char) :
    begins before c behind = true ↔ BeginsWord before c behind := by
  unfold begins startsWord BeginsWord
  cases before.getLast? with
  | none => simp
  | some b =>
    cases behind.head? with
    | none => simp
    | some a => simp

instance (before c behind) : Decidable (BeginsWord before c behind) :=
  decidable_of_iff _ (beginsIff before c behind)

theorem bareGap (before behind : List Char) (c : Char) : bare (gap before c behind) = [] := by
  unfold gap
  split <;> rfl

theorem resumedPart (part : c.isAlphanum = true) :
    resumed seen (c :: cs) = gap seen c cs ++ c.toLower :: resumed (seen ++ [c]) cs := by
  have later : resumed (seen ++ [c]) cs = snakeFrom true false (some c) cs := by
    simp [resumed, part]
  rw [later, resumed, snakeFrom, if_pos part, gap, begins]
  split <;> rfl

theorem resumedSeparator (separates : c.isAlphanum = false) :
    resumed seen (c :: cs) = resumed (seen ++ [c]) cs := by
  simp [resumed, snakeFrom, separates]

theorem resumedFront (seen front cs : List Char) :
    ∃ out, resumed seen (front ++ cs) = out ++ resumed (seen ++ front) cs ∧
      bare out = smallParts front ∧ out.getLast? ≠ some '_' := by
  -- no underscore is last: one is only written together with the part that it stands before
  induction front generalizing seen with
  | nil => exact ⟨[], by simp, rfl, nofun⟩
  | cons c front ih =>
    obtain ⟨out, split, kept, last⟩ := ih (seen ++ [c])
    rw [List.append_assoc, List.singleton_append] at split
    cases part : c.isAlphanum with
    | true =>
      refine ⟨gap seen c (front ++ cs) ++ c.toLower :: out, ?_, ?_, ?_⟩
      · rw [List.cons_append, resumedPart part, split]
        simp
      · rw [smallPartsCons, if_pos part, ← kept, bareAppend, bareGap, List.nil_append,
          bareCons (lowerNotMark part)]
      · rw [List.getLast?_append_cons, List.getLast?_cons]
        cases back : out.getLast? with
        | none => simpa using lowerNotMark part
        | some d => simpa [back] using last
    | false =>
      refine ⟨out, ?_, ?_, last⟩
      · rw [List.cons_append, resumedSeparator part, split]
      · rw [smallPartsCons, part, kept]
        rfl

end Resuming

section Normal
variable {cs : List Char}

def IsSmall (c : Char) : Prop := c.isAlphanum = true ∧ c.isUpper = false

inductive Parted : List Char → Prop where
  | single {c} (small : IsSmall c) : Parted [c]
  | next {c cs} (small : IsSmall c) (rest : Parted cs) : Parted (c :: cs)
  | mark {c cs} (small : IsSmall c) (rest : Parted cs) : Parted (c :: '_' :: cs)

theorem lowerSmall {c : Char} (part : c.isAlphanum = true) : IsSmall c.toLower :=
  ⟨toLowerAlphanum c ▸ part, Char.isUpper_toLower_eq_false c⟩

theorem smallKept {c : Char} (small : IsSmall c) : c.toLower = c :=
  Char.toLower_eq_of_not_isUpper (by simp [small.2])

theorem snakeParted (started passed : Bool) (before : Option Char) (cs : List Char) :
    snakeFrom started passed before cs = [] ∨ Parted (snakeFrom started passed before cs) ∨
      (started = true ∧ ∃ rest, snakeFrom started passed before cs = '_' :: rest ∧ Parted rest) := by
  induction cs generalizing started passed before with
  | nil => exact .inl rfl
  | cons c cs ih =>
    simp only [snakeFrom]
    split
    · rename_i part
      -- the word that `c` stands in is the same with an underscore before it or without
      have word : Parted (c.toLower :: snakeFrom true false (some c) cs) := by
        rcases ih true false (some c) with none | rest | ⟨_, rest, marked, parted⟩
        · rw [none]
          exact .single (lowerSmall part)
        · exact .next (lowerSmall part) rest
        · rw [marked]
          exact .mark (lowerSmall part) parted
      split
      · rename_i begins
        exact .inr (.inr ⟨(Bool.and_eq_true_iff.1 begins).1, _, rfl, word⟩)
      · exact .inr (.inl word)
    · exact ih started true (some c)

theorem partedKept (parted : Parted cs) (started passed : Bool) (before : Option Char) :
    snakeFrom started passed before cs = if started && passed then '_' :: cs else cs := by
  have plain {c : Char} (small : IsSmall c) (started passed : Bool) (before : Option Char)
      (cs : List Char) : snakeFrom started passed before (c :: cs) =
        if started && passed then '_' :: c :: snakeFrom true false (some c) cs
        else c :: snakeFrom true false (some c) cs := by
    simp [snakeFrom, startsWord, small.1, small.2, smallKept small]
  induction parted generalizing started passed before with
  | single small => rw [plain small]; rfl
  | next small _ ih => rw [plain small, ih]; rfl
  | @mark c cs small _ ih =>
    have passed : snakeFrom true false (some c) ('_' :: cs) = snakeFrom true true (some '_') cs := rfl
    rw [plain small, passed, ih]
    rfl

theorem partedFirst (parted : Parted cs) : cs.head? ≠ some '_' := by
  have other {c : Char} (small : IsSmall c) : some c ≠ some '_' := by
    rintro ⟨⟩
    exact absurd small.1 (by decide)
  cases parted with
  | single small => exact other small
  | next small _ => exact other small
  | mark small _ => exact other small

theorem partedSingle (parted : Parted cs) : ¬['_', '_'] <:+: cs := by
  have first {c : Char} {cs : List Char} (parted : Parted (c :: cs)) : '_' ≠ c :=
    fun same => partedFirst parted (by rw [same]; rfl)
  induction parted with
  | single small =>
    intro doubled
    have short := doubled.length_le
    contradiction
  | next small rest ih =>
    rw [List.infix_cons_iff, not_or]
    exact ⟨fun front => first (.next small rest) (List.cons_prefix_cons.1 front).1, ih⟩
  | mark small rest ih =>
    rw [List.infix_cons_iff, List.infix_cons_iff, not_or, not_or]
    refine ⟨fun front => first (.mark small rest) (List.cons_prefix_cons.1 front).1, ?_, ih⟩
    intro front
    obtain ⟨after, same⟩ := (List.cons_prefix_cons.1 front).2
    exact partedFirst rest (by rw [← same]; rfl)

theorem snakeFormed (cs : List Char) : snake cs = [] ∨ Parted (snake cs) := by
  rcases snakeParted false false none cs with none | parted | ⟨started, _⟩
  · exact .inl none
  · exact .inr parted
  · contradiction

theorem snakeTwice (cs : List Char) : snake (snake cs) = snake cs := by
  rcases snakeFormed cs with none | parted
  · rw [none]
    rfl
  · exact partedKept parted false false none

end Normal

section Names

theorem snakeBare (cs : List Char) : bare (snake cs) = smallParts cs := by
  obtain ⟨out, split, kept, _⟩ := resumedFront [] cs []
  rw [List.append_nil] at split
  rw [← kept, ← List.append_nil out]
  exact congrArg bare split

theorem snakeSplit {before behind : List Char} {c : Char} (part : c.isAlphanum = true) :
    ∃ left right, snake (before ++ c :: behind) = left ++ c.toLower :: right ∧
      bare left = smallParts before ∧ (left.getLast? = some '_' ↔ BeginsWord before c behind) := by
  obtain ⟨out, split, kept, last⟩ := resumedFront [] before (c :: behind)
  refine ⟨out ++ gap before c behind, resumed (before ++ [c]) behind, ?_, ?_, ?_⟩
  · rw [List.nil_append, resumedPart part, ← List.append_assoc] at split
    exact split
  · rw [bareAppend, bareGap, List.append_nil, kept]
  · rw [← beginsIff, gap]
    split
    · rename_i word
      simp [word]
    · rename_i goesOn
      simpa [goesOn] using last

theorem snakeOf (cs : List Char) : IsSnakeOf cs (snake cs) := by
  have formed := snakeFormed cs
  refine ⟨snakeBare cs, ?_, ⟨?_, snakeLast false false none cs⟩, ?_⟩
  · rintro before c behind rfl part
    exact snakeSplit part
  · rcases formed with none | parted
    · rw [none]
      nofun
    · exact partedFirst parted
  · rcases formed with none | parted
    · rw [none, List.infix_nil]
      nofun
    · exact partedSingle parted

end Names

section Determined
variable {name word word' out left right after before behind : List Char} {c x : Char}

theorem bareMarks (none : bare word = []) : ∀ d ∈ word, d = '_' := by
  simpa [bare, List.filter_eq_nil_iff] using none

theorem partedTwice (split : left ++ x :: right = out ++ after) (part : x ≠ '_')
    (same : bare left = bare out) (single : ¬['_', '_'] <:+: left ++ x :: right) :
    left = out ∨ left = out ++ ['_'] := by
  -- what one of the two has more than the other is underscores
  rcases List.append_eq_append_iff.1 split with ⟨mid, whole, rest⟩ | ⟨mid, whole, rest⟩
  · rw [whole, bareAppend, List.self_eq_append_right] at same
    cases mid with
    | nil => exact .inl (by simpa using whole.symm)
    | cons d mid =>
      obtain rfl := (List.cons_eq_cons.1 rest).1
      exact absurd (bareMarks same x List.mem_cons_self) part
  · rw [whole, bareAppend, List.append_right_eq_self] at same
    have marks := bareMarks same
    match mid, marks with
    | [], _ => exact .inl (by simpa using whole)
    | [d], marks => exact .inr (by rw [whole, marks d List.mem_cons_self])
    | d :: e :: mid, marks =>
      obtain rfl := marks d List.mem_cons_self
      obtain rfl := marks e (List.mem_cons_of_mem _ List.mem_cons_self)
      exact absurd ⟨out, mid ++ x :: right, by simp [whole]⟩ single

theorem nextDetermined (isOf : IsSnakeOf name word) (split : name = before ++ c :: behind)
    (part : c.isAlphanum = true) (reached : word = out ++ after)
    (kept : bare out = smallParts before) (last : out.getLast? ≠ some '_') :
    ∃ right, word = out ++ gap before c behind ++ c.toLower :: right := by
  obtain ⟨left, right, here, same, marked⟩ := isOf.parted before c behind split part
  refine ⟨right, ?_⟩
  rw [← beginsIff] at marked
  rcases partedTwice (here ▸ reached) (lowerNotMark part) (same.trans kept.symm)
    (here ▸ isOf.single) with rfl | rfl
  · rw [gap, if_neg fun begins => last (marked.2 begins), List.append_nil, here]
  · rw [gap, if_pos (marked.1 (by simp)), here]

theorem frontDetermined (isOf : IsSnakeOf name word) (isOf' : IsSnakeOf name word')
    (split : name = before ++ behind) :
    ∃ out after after', word = out ++ after ∧ word' = out ++ after' ∧
      bare out = smallParts before ∧ out.getLast? ≠ some '_' := by
  induction before using List.reverseRecOn generalizing behind with
  | nil => exact ⟨[], word, word', rfl, rfl, rfl, nofun⟩
  | append_singleton before c ih =>
    rw [List.append_assoc, List.singleton_append] at split
    obtain ⟨out, after, after', reached, reached', kept, last⟩ := ih split
    have said : smallParts (before ++ [c]) = smallParts before ++ smallParts [c] := by
      simp [smallParts]
    cases part : c.isAlphanum with
    | true =>
      have mark := lowerNotMark part
      obtain ⟨right, next⟩ := nextDetermined isOf split part reached kept last
      obtain ⟨right', next'⟩ := nextDetermined isOf' split part reached' kept last
      refine ⟨out ++ gap before c behind ++ [c.toLower], right, right', by simp [next],
        by simp [next'], ?_, by simpa using mark⟩
      rw [said, bareAppend, bareAppend, bareGap, List.append_nil, kept, smallPartsCons, if_pos part,
        bareCons mark]
      rfl
    | false =>
      refine ⟨out, after, after', reached, reached', ?_, last⟩
      rw [said, smallPartsCons, part, kept]
      exact (List.append_nil _).symm

theorem endDetermined (isOf : IsSnakeOf name word) (reached : word = out ++ after)
    (kept : bare out = smallParts name) : word = out := by
  have none : bare after = [] := by
    have whole := isOf.kept
    rwa [reached, bareAppend, kept, List.append_right_eq_self] at whole
  rcases List.eq_nil_or_concat' after with rfl | ⟨front, d, rfl⟩
  · rw [reached, List.append_nil]
  · have mark := bareMarks none d (by simp)
    exact absurd (by simp [reached, mark]) isOf.edges.2

theorem snakeDetermined (isOf : IsSnakeOf name word) (isOf' : IsSnakeOf name word') :
    word = word' := by
  obtain ⟨out, after, after', reached, reached', kept, _⟩ :=
    frontDetermined isOf isOf' (List.append_nil name).symm
  rw [endDetermined isOf reached kept, endDetermined isOf' reached' kept]

end Determined

/-- A name in snake case has the letters and digits of the name in order, the letters small, with one
underscore before each that begins a word after another one and no other underscores. It is the only
word of which that holds, and snake case does not change it any more. -/
theorem snakeExact (name : String) :
    IsSnakeOf name.toList (snakeCase name).toList ∧
      (∀ word : String, IsSnakeOf name.toList word.toList → word = snakeCase name) ∧
      snakeCase (snakeCase name) = snakeCase name := by
  have text : (snakeCase name).toList = snake name.toList := String.toList_ofList
  have isOf : IsSnakeOf name.toList (snakeCase name).toList := by
    rw [text]
    exact snakeOf name.toList
  refine ⟨isOf, fun word other => String.toList_inj.1 (snakeDetermined other isOf), ?_⟩
  rw [snakeCase, text, snakeTwice, snakeCase]

theorem acronymParted : BeginsWord "eHTTP".toList 'S' "erver".toList ∧
    ∃ left right, (snakeCase "eHTTPServer").toList = left ++ 's' :: right ∧
      bare left = "ehttp".toList ∧ left.getLast? = some '_' := by
  have begins : BeginsWord "eHTTP".toList 'S' "erver".toList := by decide +kernel
  have said : smallParts "eHTTP".toList = "ehttp".toList := by decide +kernel
  have name : "eHTTPServer".toList = "eHTTP".toList ++ 'S' :: "erver".toList := by decide +kernel
  have part : 'S'.isAlphanum = true := by decide
  obtain ⟨left, right, split, kept, last⟩ := (snakeExact "eHTTPServer").1.parted _ _ _ name part
  exact ⟨begins, left, right, split, kept.trans said, last.2 begins⟩

end Busbind.SnakeCase
