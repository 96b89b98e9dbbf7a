import Mathlib.Data.List.Basic
import Busbind.Outline
import Busbind.Proofs.Munch

/-! The structure of an outline, recovered from its text. A line is plain when it stays on one line
and begins with one blank at most: then the blanks in front of it are its depth. A part is a line
with deeper lines below it, so the parts of one depth come apart, and so do labelled groups of them
of which some are left out. -/
namespace Busbind.Outline

section Spans
variable {α : Type} {p : α → Bool} {xs ys rest rest' : List α}

theorem spanApart (all : ∀ x ∈ xs, p x = true) (all' : ∀ y ∈ ys, p y = true)
    (stop : ∀ x, rest.head? = some x → p x = false)
    (stop' : ∀ x, rest'.head? = some x → p x = false) (same : xs ++ rest = ys ++ rest') :
    xs = ys ∧ rest = rest' := by
  obtain ⟨front, back⟩ := Munch.spanOfRun all stop
  obtain ⟨front', back'⟩ := Munch.spanOfRun all' stop'
  rw [same] at front back
  exact ⟨front.symm.trans front', back.symm.trans back'⟩

end Spans

section Indentation

def indented : List Char → Bool
  | ' ' :: ' ' :: _ => true
  | _ => false

structure Plain (s : String) : Prop where
  oneLine : '\n' ∉ s.toList
  front : indented s.toList = false

theorem depthApart {a b : Nat} {t u : List Char} (plain : indented t = false)
    (plain' : indented u = false)
    (same : List.replicate (2 * a) ' ' ++ t = List.replicate (2 * b) ' ' ++ u) : a = b ∧ t = u := by
  have deeper (n : Nat) (v : List Char) : List.replicate (2 * (n + 1)) ' ' ++ v =
      ' ' :: ' ' :: (List.replicate (2 * n) ' ' ++ v) := rfl
  induction a generalizing b with
  | zero =>
    cases b with
    | zero => exact ⟨rfl, same⟩
    | succ b =>
      rw [deeper] at same
      rw [show t = _ from same] at plain
      contradiction
  | succ a ih =>
    rw [deeper] at same
    cases b with
    | zero =>
      rw [show u = _ from same.symm] at plain'
      contradiction
    | succ b =>
      rw [deeper] at same
      obtain ⟨rfl, rest⟩ := ih (List.cons.inj (List.cons.inj same).2).2
      exact ⟨rfl, rest⟩

theorem lineApart {l m : Line} {rest rest' : List Char} (plain : Plain l.text)
    (plain' : Plain m.text) (same : l.render.toList ++ rest = m.render.toList ++ rest') :
    l = m ∧ rest = rest' := by
  have ended (l : Line) (rest : List Char) : l.render.toList ++ rest =
      (List.replicate (2 * l.depth) ' ' ++ l.text.toList) ++ '\n' :: rest := by
    simp [Line.render, String.toList_append]
  have unbroken {l : Line} (plain : Plain l.text) :
      ∀ c ∈ List.replicate (2 * l.depth) ' ' ++ l.text.toList, decide (c ≠ '\n') = true := by
    intro c mem
    refine decide_eq_true fun broken => ?_
    rcases List.mem_append.1 (broken ▸ mem) with blank | text
    · exact absurd (List.eq_of_mem_replicate blank) (by decide)
    · exact plain.oneLine text
  have stop (rest : List Char) :
      ∀ c, ('\n' :: rest).head? = some c → decide (c ≠ '\n') = false := by
    rintro _ ⟨⟩
    rfl
  rw [ended, ended] at same
  obtain ⟨front, back⟩ := spanApart (unbroken plain) (unbroken plain') (stop rest) (stop rest') same
  obtain ⟨depth, text⟩ := depthApart plain.front plain'.front front
  obtain ⟨_, _⟩ := l
  obtain ⟨_, _⟩ := m
  cases depth
  cases String.toList_inj.1 text
  exact ⟨rfl, (List.cons.inj back).2⟩

theorem linesApart {ls ms : List Line} (plain : ∀ l ∈ ls, Plain l.text)
    (plain' : ∀ m ∈ ms, Plain m.text)
    (same : String.join (ls.map Line.render) = String.join (ms.map Line.render)) : ls = ms := by
  have some (l : Line) (ls : List Line) :
      String.join ((l :: ls).map Line.render) ≠ String.join ([].map Line.render) := by
    simp [Line.render, String.join_cons, String.append_eq_empty_iff]
  induction ls generalizing ms with
  | nil =>
    cases ms with
    | nil => rfl
    | cons m ms => exact absurd same.symm (some m ms)
  | cons l ls ih =>
    cases ms with
    | nil => exact absurd same (some l ls)
    | cons m ms =>
      obtain ⟨first, later⟩ := List.forall_mem_cons.1 plain
      obtain ⟨first', later'⟩ := List.forall_mem_cons.1 plain'
      rw [List.map_cons, List.map_cons, String.join_cons, String.join_cons, ← String.toList_inj,
        String.toList_append, String.toList_append] at same
      obtain ⟨rfl, rest⟩ := lineApart first first' same
      rw [ih later later' (String.toList_inj.1 rest)]

end Indentation

section Parts
variable {α : Type} {k : Nat} {f : α → List Line} {xs ys : List α}

def Below (k : Nat) (ls : List Line) : Prop := ∀ l ∈ ls, k < l.depth

def IsPart (k : Nat) (ls : List Line) : Prop :=
  ∃ head body, ls = head :: body ∧ head.depth = k ∧ Below k body

theorem belowAppend {ls ms : List Line} (first : Below k ls) (later : Below k ms) :
    Below k (ls ++ ms) :=
  List.forall_mem_append.2 ⟨first, later⟩

theorem belowApart {ls ms rest rest' : List Line} (below : Below k ls) (below' : Below k ms)
    (stop : ∀ l, rest.head? = some l → l.depth ≤ k)
    (stop' : ∀ l, rest'.head? = some l → l.depth ≤ k)
    (same : ls ++ rest = ms ++ rest') : ls = ms ∧ rest = rest' :=
  spanApart (p := fun l => decide (k < l.depth)) (fun l mem => decide_eq_true (below l mem))
    (fun l mem => decide_eq_true (below' l mem))
    (fun l first => decide_eq_false (Nat.not_lt.2 (stop l first)))
    (fun l first => decide_eq_false (Nat.not_lt.2 (stop' l first))) same

theorem partsFirst (parts : ∀ x, IsPart k (f x)) (l : Line)
    (first : (xs.flatMap f).head? = some l) : l.depth ≤ k := by
  cases xs with
  | nil => contradiction
  | cons x xs =>
    obtain ⟨head, body, lines, depth, _⟩ := parts x
    rw [List.flatMap_cons, lines] at first
    cases first
    exact Nat.le_of_eq depth

theorem partsApart (parts : ∀ x, IsPart k (f x)) (same : xs.flatMap f = ys.flatMap f) :
    xs.map f = ys.map f := by
  have some (x : α) (xs : List α) : (x :: xs).flatMap f ≠ [] := by
    obtain ⟨head, body, lines, _, _⟩ := parts x
    simp [List.flatMap_cons, lines]
  induction xs generalizing ys with
  | nil =>
    cases ys with
    | nil => rfl
    | cons y ys => exact absurd same.symm (some y ys)
  | cons x xs ih =>
    cases ys with
    | nil => exact absurd same (some x xs)
    | cons y ys =>
      obtain ⟨head, body, lines, _, below⟩ := parts x
      obtain ⟨head', body', lines', _, below'⟩ := parts y
      rw [List.flatMap_cons, List.flatMap_cons, lines, lines'] at same
      obtain ⟨heads, after⟩ := List.cons.inj same
      obtain ⟨bodies, later⟩ := belowApart below below' (partsFirst parts) (partsFirst parts) after
      rw [List.map_cons, List.map_cons, lines, lines', heads, bodies, ih later]

def labelled (k : Nat) (b : String × List Line) : List Line :=
  if b.2 = [] then [] else ⟨k, b.1⟩ :: b.2

theorem groupLabelled (parts : ∀ x, IsPart (k + 1) (f x)) (label : String) (xs : List α) :
    group k label f xs = labelled k (label, xs.flatMap f) := by
  cases xs with
  | nil => rfl
  | cons x xs =>
    obtain ⟨head, body, lines, _, _⟩ := parts x
    simp [group, labelled, List.flatMap_cons, lines]

variable {bs cs : List (String × List Line)}

theorem labelledFirst (l : Line) (first : (bs.flatMap (labelled k)).head? = some l) :
    ∃ b ∈ bs, l = ⟨k, b.1⟩ := by
  induction bs with
  | nil => contradiction
  | cons b bs ih =>
    rw [List.flatMap_cons, labelled] at first
    split at first
    · obtain ⟨c, mem, same⟩ := ih first
      exact ⟨c, List.mem_cons_of_mem _ mem, same⟩
    · cases first
      exact ⟨b, List.mem_cons_self, rfl⟩

theorem labelledApart (same : bs.flatMap (labelled k) = cs.flatMap (labelled k))
    (labels : bs.map Prod.fst = cs.map Prod.fst) (apart : (bs.map Prod.fst).Nodup)
    (below : ∀ b ∈ bs, Below k b.2) (below' : ∀ c ∈ cs, Below k c.2) : bs = cs := by
  have depth {bs : List (String × List Line)} (l : Line)
      (first : (bs.flatMap (labelled k)).head? = some l) : l.depth ≤ k := by
    obtain ⟨_, _, rfl⟩ := labelledFirst l first
    exact Nat.le_refl k
  -- Where only one side has lines under a label, the label comes again further down on the other.
  have other {label : String} {bs : List (String × List Line)} {ls : List Line}
      (new : label ∉ bs.map Prod.fst) : bs.flatMap (labelled k) ≠ ⟨k, label⟩ :: ls := by
    intro same
    have first : (bs.flatMap (labelled k)).head? = some ⟨k, label⟩ := by rw [same]; rfl
    obtain ⟨b, mem, line⟩ := labelledFirst _ first
    exact new ((Line.mk.inj line).2 ▸ List.mem_map_of_mem mem)
  induction bs generalizing cs with
  | nil => exact (List.map_eq_nil_iff.1 labels.symm).symm
  | cons b bs ih =>
    cases cs with
    | nil => contradiction
    | cons c cs =>
      obtain ⟨label, body⟩ := b
      obtain ⟨_, body'⟩ := c
      obtain ⟨rfl, later⟩ := List.cons.inj labels
      obtain ⟨new, apart⟩ := List.nodup_cons.1 apart
      obtain ⟨here, below⟩ := List.forall_mem_cons.1 below
      obtain ⟨here', below'⟩ := List.forall_mem_cons.1 below'
      have bodies : body = body' ∧ bs.flatMap (labelled k) = cs.flatMap (labelled k) := by
        rw [List.flatMap_cons, List.flatMap_cons, labelled, labelled] at same
        split_ifs at same with empty empty' empty'
        · exact ⟨empty.trans empty'.symm, same⟩
        · exact absurd same (other new)
        · exact absurd same.symm (other (later ▸ new))
        · exact belowApart here here' depth depth (List.cons.inj same).2
      rw [bodies.1, ih bodies.2 later apart below below']

end Parts

end Busbind.Outline
