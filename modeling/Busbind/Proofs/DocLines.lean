import Mathlib.Data.List.Infix
import Busbind.Binding.Documentation
import Busbind.Proofs.Casing

/-! Documentation lines and the ends of lines. A line feed stands in none of them, since it ends the
line. A carriage return goes with the white space at the two ends of its line, and stays anywhere
else. -/
namespace Busbind.DocLines
open Casing Documentation Text

inductive Flanked (c : Char) : List Char → Prop where
  | between {x mid mid' y} (front : isBlank x = false) (back : isBlank y = false) :
      Flanked c (x :: mid ++ c :: mid' ++ [y])

/-- On some line of the text the character has something before it and something behind it that is
no white space. -/
def Enclosed (c : Char) (text : List Char) : Prop :=
  ∃ run, run <:+: text ∧ '\n' ∉ run ∧ Flanked c run

section Trimming
variable {c x y : Char} {cs : List Char}

theorem dropWhileStops {p : Char → Bool} {d : Char} (first : (cs.dropWhile p).head? = some d) :
    p d = false := by
  have none := List.head?_dropWhile_not p cs
  rw [first] at none
  simpa using none

theorem trimLeftKeeps (before rest : List Char) (solid : isBlank x = false) :
    ∃ front, trimLeft (before ++ x :: rest) = front ++ x :: rest := by
  rw [trimLeft, List.dropWhile_append]
  split
  · exact ⟨[], by simp [solid]⟩
  · exact ⟨_, rfl⟩

theorem trimRightKeeps (front after : List Char) (solid : isBlank y = false) :
    ∃ back, trimRight (front ++ y :: after) = front ++ y :: back := by
  obtain ⟨rest, kept⟩ := trimLeftKeeps after.reverse front.reverse solid
  rw [trimLeft] at kept
  refine ⟨rest.reverse, ?_⟩
  rw [trimRight, List.reverse_append, List.reverse_cons, List.append_assoc, List.singleton_append,
    kept]
  simp

theorem trimKeeps {run : List Char} (flanked : Flanked c run) (within : run <:+: cs) :
    run <:+: trim cs := by
  obtain ⟨before, after, rfl⟩ := within
  cases flanked with
  | @between x mid mid' y solid solid' =>
    obtain ⟨front, left⟩ := trimLeftKeeps before (mid ++ c :: mid' ++ y :: after) solid
    obtain ⟨back, right⟩ := trimRightKeeps (front ++ x :: mid ++ c :: mid') after solid'
    refine ⟨front, back, ?_⟩
    simp only [List.append_assoc, List.cons_append, List.nil_append] at left right ⊢
    rw [trim, left, right]

theorem trimFront (front : (trim cs).head? = some x) : isBlank x = false := by
  have part : trim cs <+: trimLeft cs := by
    have back := List.dropWhile_suffix (l := (trimLeft cs).reverse) isBlank
    rw [← List.reverse_prefix, List.reverse_reverse] at back
    exact back
  obtain ⟨after, whole⟩ := part
  have first : (trimLeft cs).head? = some x := by
    rw [← whole, List.head?_append, front]
    rfl
  exact dropWhileStops first

theorem trimBack (back : (trim cs).getLast? = some y) : isBlank y = false := by
  rw [trim, trimRight, List.getLast?_reverse] at back
  exact dropWhileStops back

theorem trimWithin (cs : List Char) : trim cs <:+: cs := by
  have back := List.dropWhile_suffix (l := (trimLeft cs).reverse) isBlank
  rw [← List.reverse_prefix, List.reverse_reverse] at back
  exact back.isInfix.trans (List.dropWhile_suffix isBlank).isInfix

theorem trimFlanks (blank : isBlank c = true) (kept : c ∈ trim cs) : Flanked c (trim cs) := by
  obtain ⟨left, right, split⟩ := List.append_of_mem kept
  cases left with
  | nil =>
    have first : (trim cs).head? = some c := by rw [split]; rfl
    have solid := trimFront first
    rw [blank] at solid
    contradiction
  | cons x mid =>
    have first : (trim cs).head? = some x := by rw [split]; rfl
    rcases List.eq_nil_or_concat' right with rfl | ⟨mid', y, rfl⟩
    · have last : (trim cs).getLast? = some c := by rw [split, List.getLast?_concat]
      have solid := trimBack last
      rw [blank] at solid
      contradiction
    · rw [← List.cons_append, ← List.append_assoc] at split
      have last : (trim cs).getLast? = some y := by rw [split, List.getLast?_concat]
      have front := trimFront first
      have back := trimBack last
      rw [split]
      exact .between front back

end Trimming

section Lines
variable {separator : Char} {p run cs : List Char}

theorem piecesCons (separator c : Char) (cs : List Char) :
    ∃ p ps, pieces separator cs = p :: ps ∧
      pieces separator (c :: cs) = if c = separator then [] :: p :: ps else (c :: p) :: ps := by
  obtain ⟨p, ps, found⟩ := List.exists_cons_of_ne_nil (piecesSome separator cs)
  exact ⟨p, ps, found, by rw [pieces, found]⟩

theorem piecesFront (absent : separator ∉ run) (after : List Char) :
    ∃ p ps, pieces separator (run ++ after) = (run ++ p) :: ps := by
  induction run with
  | nil => exact List.exists_cons_of_ne_nil (piecesSome separator after)
  | cons c run ih =>
    obtain ⟨other, absent⟩ := not_or.1 (List.mem_cons.not.1 absent)
    obtain ⟨p, ps, front⟩ := ih absent
    exact ⟨p, ps, by simp [pieces, front, Ne.symm other]⟩

theorem piecesHold (absent : separator ∉ run) (before after : List Char) :
    ∃ p ∈ pieces separator (before ++ run ++ after), run <:+: p := by
  induction before with
  | nil =>
    obtain ⟨p, ps, front⟩ := piecesFront absent after
    exact ⟨run ++ p, by simp [front], (List.prefix_append run p).isInfix⟩
  | cons c before ih =>
    obtain ⟨p, mem, within⟩ := ih
    obtain ⟨q, qs, found, next⟩ := piecesCons separator c (before ++ run ++ after)
    rw [List.cons_append, List.cons_append, next]
    rw [found] at mem
    split
    · exact ⟨p, List.mem_cons_of_mem _ mem, within⟩
    · rcases List.mem_cons.1 mem with rfl | mem
      · exact ⟨c :: p, List.mem_cons_self, within.trans (List.suffix_cons c p).isInfix⟩
      · exact ⟨p, List.mem_cons_of_mem _ mem, within⟩

theorem piecesUndivided (mem : p ∈ pieces separator cs) : separator ∉ p := by
  induction cs generalizing p with
  | nil =>
    rw [List.mem_singleton.1 mem]
    exact List.not_mem_nil
  | cons c cs ih =>
    obtain ⟨q, qs, found, next⟩ := piecesCons separator c cs
    rw [found] at ih
    rw [next] at mem
    split at mem
    · rcases List.mem_cons.1 mem with rfl | mem
      · exact List.not_mem_nil
      · exact ih mem
    · rename_i other
      rcases List.mem_cons.1 mem with rfl | mem
      · exact List.not_mem_cons_of_ne_of_not_mem (Ne.symm other) (ih List.mem_cons_self)
      · exact ih (List.mem_cons_of_mem q mem)

theorem piecesWithin {ps : List (List Char)} (split : pieces separator cs = p :: ps) :
    p <+: cs ∧ ∀ q ∈ ps, q <:+: cs := by
  induction cs generalizing p ps with
  | nil =>
    cases split
    exact ⟨List.prefix_refl [], nofun⟩
  | cons c cs ih =>
    obtain ⟨q, qs, found, next⟩ := piecesCons separator c cs
    obtain ⟨front, later⟩ := ih found
    have behind := (List.suffix_cons c cs).isInfix
    rw [next] at split
    split at split <;> cases split
    · exact ⟨List.nil_prefix, List.forall_mem_cons.2
        ⟨front.isInfix.trans behind, fun r mem => (later r mem).trans behind⟩⟩
    · exact ⟨(List.prefix_cons_inj c).2 front, fun r mem => (later r mem).trans behind⟩

theorem pieceWithin (mem : p ∈ pieces separator cs) : p <:+: cs := by
  obtain ⟨q, qs, split⟩ := List.exists_cons_of_ne_nil (piecesSome separator cs)
  obtain ⟨front, later⟩ := piecesWithin split
  rw [split] at mem
  rcases List.mem_cons.1 mem with rfl | mem
  · exact front.isInfix
  · exact later p mem

theorem dropReturnFront (line : List Char) : dropReturn line <+: line := by
  unfold dropReturn
  split
  · exact List.dropLast_prefix line
  · exact List.prefix_refl line

theorem lineOfPiece (mem : p ∈ pieces '\n' cs) (some : p ≠ []) :
    p ∈ lines cs ∨ dropReturn p ∈ lines cs := by
  obtain ⟨front, last, split⟩ := (List.eq_nil_or_concat' (pieces '\n' cs)).resolve_left
    (piecesSome _ _)
  rw [split] at mem
  simp only [lines, split, List.dropLast_concat, List.getLast?_concat, Option.getD_some]
  rcases List.mem_append.1 mem with ended | here
  · exact .inr (List.mem_append_left _ (List.mem_map_of_mem ended))
  · obtain rfl := List.mem_singleton.1 here
    exact .inl (List.mem_append_right _ (by simp [some]))

theorem pieceOfLine {l : List Char} (mem : l ∈ lines cs) : ∃ p ∈ pieces '\n' cs, l <+: p := by
  obtain ⟨front, last, split⟩ := (List.eq_nil_or_concat' (pieces '\n' cs)).resolve_left
    (piecesSome _ _)
  simp only [lines, split, List.dropLast_concat, List.getLast?_concat, Option.getD_some] at mem ⊢
  rcases List.mem_append.1 mem with ended | here
  · obtain ⟨p, here, rfl⟩ := List.mem_map.1 ended
    exact ⟨p, List.mem_append_left _ here, dropReturnFront p⟩
  · split at here
    · contradiction
    · exact ⟨last, by simp, (List.mem_singleton.1 here) ▸ List.prefix_refl l⟩

theorem lineWithin {l : List Char} (mem : l ∈ lines cs) : '\n' ∉ l ∧ l <:+: cs := by
  obtain ⟨p, mem, front⟩ := pieceOfLine mem
  exact ⟨fun feed => piecesUndivided mem (front.subset feed), front.isInfix.trans (pieceWithin mem)⟩

theorem dropReturnHolds {y : Char} (other : y ≠ '\r') (within : run ++ [y] <:+: p) :
    run ++ [y] <:+: dropReturn p := by
  unfold dropReturn
  split
  · rename_i returns
    obtain ⟨before, after, whole⟩ := within
    rcases List.eq_nil_or_concat' after with rfl | ⟨after, d, rfl⟩
    · rw [List.append_nil, ← List.append_assoc] at whole
      rw [← whole, List.getLast?_concat] at returns
      exact absurd (Option.some.inj returns) other
    · exact ⟨before, after, by rw [← whole, ← List.append_assoc _ after, List.dropLast_concat]⟩
  · exact within

theorem linesHold {y : Char} (other : y ≠ '\r') (absent : '\n' ∉ run ++ [y])
    (within : run ++ [y] <:+: cs) : ∃ l ∈ lines cs, run ++ [y] <:+: l := by
  obtain ⟨before, after, rfl⟩ := within
  obtain ⟨p, mem, within⟩ := piecesHold absent before after
  have some : p ≠ [] := by
    rintro rfl
    simpa using List.infix_nil.1 within
  rcases lineOfPiece mem some with kept | shorter
  · exact ⟨p, kept, within⟩
  · exact ⟨dropReturn p, shorter, dropReturnHolds other within⟩

end Lines

section Edges
variable {ls : List (List Char)} {l : List Char}

theorem dropWhileKeeps {α : Type} {p : α → Bool} {a : α} {as : List α} (mem : a ∈ as)
    (kept : p a = false) : a ∈ as.dropWhile p := by
  rw [← List.takeWhile_append_dropWhile (p := p) (l := as)] at mem
  rcases List.mem_append.1 mem with front | later
  · rw [List.mem_takeWhile_imp front] at kept
    contradiction
  · exact later

theorem edgesKeep (mem : l ∈ ls) (solid : isBlankLine l = false) : l ∈ withoutBlankEdges ls := by
  have front := List.mem_reverse.2 (dropWhileKeeps mem solid)
  exact List.mem_reverse.2 (dropWhileKeeps front solid)

theorem edgesWithin (mem : l ∈ withoutBlankEdges ls) : l ∈ ls := by
  have inner := List.dropWhile_subset _ (List.mem_reverse.1 mem)
  exact List.dropWhile_subset _ (List.mem_reverse.1 inner)

end Edges

section Documented
variable {description : String}

/-- The text that documents, without the tag before it. -/
def told (description : String) : List Char := withoutTag (trim description.toList)

theorem docsTold (description : String) : ofDescription description =
    (withoutBlankEdges ((lines (told description)).map trim)).map fun l =>
      String.ofList (' ' :: l) := by
  unfold ofDescription told
  with_reducible rfl

theorem docOfLine {l : List Char} (mem : l ∈ lines (told description))
    (solid : isBlankLine (trim l) = false) :
    String.ofList (' ' :: trim l) ∈ ofDescription description := by
  rw [docsTold]
  exact List.mem_map_of_mem (edgesKeep (List.mem_map_of_mem mem) solid)

theorem lineOfDoc {s : String} (mem : s ∈ ofDescription description) :
    ∃ l ∈ lines (told description), String.ofList (' ' :: trim l) = s := by
  rw [docsTold] at mem
  obtain ⟨t, kept, same⟩ := List.mem_map.1 mem
  obtain ⟨l, here, trimmed⟩ := List.mem_map.1 (edgesWithin kept)
  exact ⟨l, here, by rw [trimmed, same]⟩

theorem docUnbroken {s : String} (mem : s ∈ ofDescription description) : '\n' ∉ s.toList := by
  obtain ⟨l, here, same⟩ := lineOfDoc mem
  rw [← same, String.toList_ofList]
  exact List.not_mem_cons_of_ne_of_not_mem (by decide)
    fun feed => (lineWithin here).1 ((trimWithin l).subset feed)

theorem returnIff : (∃ s ∈ ofDescription description, '\r' ∈ s.toList) ↔
    Enclosed '\r' (told description) := by
  constructor
  · rintro ⟨s, mem, kept⟩
    obtain ⟨l, here, same⟩ := lineOfDoc mem
    obtain ⟨unbroken, within⟩ := lineWithin here
    rw [← same, String.toList_ofList] at kept
    have inside : '\r' ∈ trim l := (List.mem_cons.1 kept).resolve_left (by decide)
    exact ⟨trim l, (trimWithin l).trans within,
      fun feed => unbroken ((trimWithin l).subset feed), trimFlanks (by decide) inside⟩
  · rintro ⟨run, within, unbroken, flanked⟩
    have flanks := flanked
    cases flanks with
    | @between x mid mid' y front back =>
      have other : y ≠ '\r' := fun same => by simp [same, isBlank] at back
      obtain ⟨l, here, inside⟩ := linesHold other unbroken within
      have kept := trimKeeps flanked inside
      have solid : isBlankLine (trim l) = false :=
        List.all_eq_false.2 ⟨x, kept.subset (by simp), by simp [front]⟩
      refine ⟨_, docOfLine here solid, ?_⟩
      rw [String.toList_ofList]
      exact List.mem_cons_of_mem _ (kept.subset (by simp))

end Documented

/-- No line of documentation holds a line feed. None holds a carriage return either, exactly when
the description has none inside a line, between characters that are no white space. -/
theorem unbrokenIff (description : String) :
    (∀ s ∈ ofDescription description, '\n' ∉ s.toList) ∧
      ((∀ s ∈ ofDescription description, '\r' ∉ s.toList) ↔ ¬Enclosed '\r' (told description)) := by
  refine ⟨fun s mem => docUnbroken mem, ?_⟩
  rw [← returnIff]
  simp

theorem loneReturnKept : ofDescription "a\rb" = [" a\rb"] ∧ '\r' ∈ " a\rb".toList := by
  decide +kernel

end Busbind.DocLines
