import Mathlib.Data.List.ReduceOption
import Busbind.Proofs.RoundTrip

/-! Closing braces that are missing from a canonical text. Whatever is still open at the keyword of
the next declaration, or at the end, ends there, so the braces directly before it are not needed. -/
namespace Busbind.Canonical
open Declarations Openings

def loose : List Word → Bool
  | [] => true
  | .mark .rightBrace :: ws => loose ws
  | .keyword k :: _ => k.role = .declaration
  | _ => false

/-- Words some of which are missing: closing braces in a row that a declaration or the end
follows. -/
inductive Lacks : List Word → List (Option Word) → Prop where
  | nil : Lacks [] []
  | keep {w ws us} (h : Lacks ws us) : Lacks (w :: ws) (some w :: us)
  | drop {ws us} (row : loose ws = true) (h : Lacks ws us) :
      Lacks (.mark .rightBrace :: ws) (none :: us)

def lacking (h : Heading) (us : List (Option Word)) : String :=
  " ".intercalate
    ((Word.keyword .package :: headingRest h).map Word.text ++ us.map (·.elim "" Word.text))

section Words
variable {ws more : List Word} {us : List (Option Word)}

theorem lacksScans (lacks : Lacks ws us) (proper : ∀ w ∈ ws, w.Proper) :
    Scans (apart (us.map (·.elim "" Word.text))) (visible us.reduceOption) := by
  induction lacks with
  | nil => exact scansNil
  | keep _ ih =>
    obtain ⟨here, others⟩ := List.forall_mem_cons.1 proper
    exact scansWord here (gapTexts _) (ih others)
  | drop _ _ ih => exact (scansSpace (by decide)).2 (ih (List.forall_mem_cons.1 proper).2)

theorem lacksBraces {n : Nat} (lacks : Lacks (List.replicate n (.mark .rightBrace) ++ more) us) :
    ∃ m vs, us.reduceOption = List.replicate m (.mark .rightBrace) ++ vs.reduceOption ∧
      Lacks more vs := by
  induction n generalizing us with
  | zero => exact ⟨0, us, rfl, lacks⟩
  | succ n ih =>
    cases lacks with
    | keep later =>
      obtain ⟨m, vs, same, rest⟩ := ih later
      exact ⟨m + 1, vs, congrArg (_ :: ·) same, rest⟩
    | drop _ later =>
      obtain ⟨m, vs, same, rest⟩ := ih later
      exact ⟨m, vs, same, rest⟩

def Inner (ws : List Word) : Prop := ∀ w ∈ ws, ∀ k, w = .keyword k → k.role ≠ .declaration

theorem looseBraces (inner : Inner ws) (row : loose (ws ++ more) = true) :
    ∃ n, ws = List.replicate n (.mark .rightBrace) := by
  induction ws with
  | nil => exact ⟨0, rfl⟩
  | cons w ws ih =>
    obtain ⟨here, others⟩ := List.forall_mem_cons.1 inner
    rw [List.cons_append] at row
    unfold loose at row
    split at row
    · contradiction
    · rename_i same
      cases same
      obtain ⟨n, rfl⟩ := ih others row
      exact ⟨n + 1, rfl⟩
    · rename_i k _ same
      exact absurd (of_decide_eq_true row) (here k (List.cons.inj same).1)
    · contradiction

theorem lacksFront (inner : Inner ws) (lacks : Lacks (ws ++ more) us) :
    ∃ front n vs, ws = front ++ List.replicate n (.mark .rightBrace) ∧
      us = front.map some ++ vs ∧ Lacks (List.replicate n (.mark .rightBrace) ++ more) vs := by
  induction ws generalizing us with
  | nil => exact ⟨[], 0, us, rfl, rfl, lacks⟩
  | cons w ws ih =>
    obtain ⟨_, others⟩ := List.forall_mem_cons.1 inner
    cases lacks with
    | keep later =>
      obtain ⟨front, n, vs, rfl, rfl, rest⟩ := ih others later
      exact ⟨w :: front, n, vs, rfl, rfl, rest⟩
    | drop row later =>
      -- A missing brace belongs to the row at the end: no declaration begins before that.
      obtain ⟨n, rfl⟩ := looseBraces others row
      exact ⟨[], n + 1, _, rfl, rfl, .drop row later⟩

theorem parameterKeywordless (k : Keyword) (p : Parameter) : .keyword k ∉ parameterWords p := by
  simp [parameterWords, documented, brackets]

theorem partInner (d : Declaration) : Inner (partWords d) := by
  rintro w mem k rfl
  cases d with
  | attr a => simp [partWords, brackets] at mem
  | typedef t | array a => simp [partWords] at mem
  | struct s => simp [partWords, listWords, braces, parameterKeywordless] at mem
  | method m =>
    have inside : m.fireAndForget = true ∧ k = .fireAndForget ∨ k = .input ∨ k = .output := by
      simpa [partWords, listWords, braces, parameterKeywordless] using mem
    rcases inside with ⟨_, rfl⟩ | rfl | rfl <;> decide
  | broadcast b =>
    have inside : b.selective = true ∧ k = .selective ∨ k = .output := by
      simpa [partWords, listWords, braces, parameterKeywordless] using mem
    rcases inside with ⟨_, rfl⟩ | rfl <;> decide

theorem closersVisible (n : Nat) : Closers (visible (List.replicate n (.mark .rightBrace))) := by
  induction n with
  | zero => exact closersNone
  | succ n ih => exact List.forall_mem_cons.2 ⟨rfl, ih⟩

end Words

section Reading
variable {d : Declaration} {front : List Word} {n : Nat} {after : List Token}

theorem aliasWhole {a b : Word} {s : String}
    (split : [a, b, .identifier s] = front ++ List.replicate n (.mark .rightBrace)) :
    front = [a, b, .identifier s] := by
  cases n with
  | zero => simpa using split.symm
  | succ n =>
    rw [List.replicate_succ', ← List.append_assoc] at split
    have last := congrArg List.getLast? split
    simp at last

theorem nameTaken {s : String} (h : IsName s) (ws : List Word) :
    (Declarations.name (visible (.name s :: ws))).2 = visible ws := by
  rw [← List.singleton_append, visibleAppend, nameRead h]

theorem aliasLinked (proper : ∀ w ∈ partWords d, w.Proper)
    (split : partWords d = front ++ List.replicate n (.mark .rightBrace))
    (named : Place.after d.kind = .named) : (Declarations.name (visible front)).2 ≠ [] := by
  cases d with
  | attr | method | broadcast | struct => contradiction
  | typedef t =>
    rw [aliasWhole split, nameTaken (proper (.name t.name) (by simp [partWords]))]
    exact List.cons_ne_nil _ _
  | array a =>
    rw [aliasWhole split, nameTaken (proper (.name a.name) (by simp [partWords]))]
    exact List.cons_ne_nil _ _

theorem bodyLacking (proper : ∀ w ∈ partWords d, w.Proper)
    (split : partWords d = front ++ List.replicate n (.mark .rightBrace)) (m : Nat)
    (barrier : Barrier after) :
    ∃ closers, Closers closers ∧ body d.kind d.description
      (visible front ++ (visible (List.replicate m (.mark .rightBrace)) ++ after)) =
        (d, closers ++ after) := by
  have whole := fillsBare (partParts d)
  rw [barePart, ← List.append_nil (partParts d)] at whole
  obtain ⟨left, rest, closing, fills, read⟩ := bodyFilled proper whole
  cases fills
  obtain ⟨k, ends⟩ := bodyEnds d.kind d.description (closersVisible n) (.inl rfl) (.inl rfl)
  rw [List.append_nil, ← visibleAppend, ← split, read] at ends
  -- The whole declaration leaves closing braces alone, so its front leaves nothing else either.
  obtain ⟨same, leaves⟩ := Prod.mk.inj ends
  obtain ⟨l, ends'⟩ := bodyEnds d.kind d.description (closersVisible m) barrier
    (.inr (aliasLinked proper split))
  refine ⟨_, ?_, by rw [ends', ← same, ← List.append_assoc]⟩
  refine List.forall_mem_append.2 ⟨fun t mem => closing t ?_, closersDrop (closersVisible m) l⟩
  rw [List.append_nil] at leaves
  rw [leaves]
  exact List.mem_append_left _ mem

theorem declarationsLacking {ds : List Declaration} {us : List (Option Word)}
    (proper : ∀ w ∈ ds.flatMap declarationWords, w.Proper)
    (undescribed : ∀ d ∈ ds, d.description = "")
    (lacks : Lacks (List.replicate n (.mark .rightBrace) ++
      (ds.flatMap declarationWords ++ [.mark .rightBrace])) us) :
    ∃ m after, visible us.reduceOption = visible (List.replicate m (.mark .rightBrace)) ++ after ∧
      Barrier after ∧ declarations after = ds := by
  induction ds generalizing n us with
  | nil =>
    rw [List.flatMap_nil, List.nil_append, ← List.replicate_succ',
      ← List.append_nil (.replicate _ _)] at lacks
    obtain ⟨m, vs, same, rest⟩ := lacksBraces lacks
    cases rest
    refine ⟨m, [], ?_, .inl rfl, by rw [declarations]⟩
    rw [same, visibleAppend]
    rfl
  | cons d ds ih =>
    obtain ⟨here, others⟩ := List.forall_mem_cons.1 undescribed
    have opened : declarationWords d = .keyword d.kind.keyword :: partWords d := by
      rw [declarationWords, documented, if_pos here]
      rfl
    rw [List.flatMap_cons, opened] at proper
    rw [List.flatMap_cons, opened, List.append_assoc, List.cons_append] at lacks
    have own w (mem : w ∈ partWords d) : w.Proper :=
      proper w (List.mem_append_left _ (List.mem_cons_of_mem _ mem))
    have later w (mem : w ∈ ds.flatMap declarationWords) : w.Proper :=
      proper w (List.mem_append_right _ mem)
    obtain ⟨m, vs, same, rest⟩ := lacksBraces lacks
    cases rest with
    | keep rest =>
      obtain ⟨front, k, us, split, rfl, behind⟩ := lacksFront (partInner d) rest
      have whole : (front.map some).reduceOption = front := by simp [List.reduceOption]
      obtain ⟨l, after, left, barrier, read⟩ := ih later others behind
      obtain ⟨closers, closing, body⟩ := bodyLacking own split l barrier
      refine ⟨m, token (.keyword d.kind.keyword) d.kind.keyword.spelling ::
        (visible front ++ (visible (List.replicate l (.mark .rightBrace)) ++ after)), ?_, ?_, ?_⟩
      · rw [same, List.reduceOption_cons_of_some, List.reduceOption_append, whole, visibleAppend,
          ← left, ← visibleAppend front]
        rfl
      · exact .inr ⟨_, _, rfl, by rw [opensKeyword]; exact Option.some_ne_none _⟩
      · rw [declarationsOpened (opensKeyword d.kind), ← here, body, closersDropped closing, read]

end Reading

theorem lackingRead {h : Heading} {ds : List Declaration} {us : List (Option Word)}
    (proper : ∀ w ∈ words h ds, w.Proper) (undescribed : ∀ d ∈ ds, d.description = "")
    (lacks : Lacks (ds.flatMap declarationWords ++ [.mark .rightBrace]) us) :
    Definition.ofText (lacking h us) =
      .ok (Definition.ofDeclarations h.packageClause h.interface ds) := by
  obtain ⟨heading, declared⟩ := properParts proper
  have behind := properBehind proper
  rw [bareRest] at behind
  have headed : (lacking h us).toList = (joined (.keyword .package :: headingRest h)).toList ++
      apart (us.map (·.elim "" Word.text)) := by
    rw [lacking, joined, List.map_cons, List.cons_append, intercalateApart, intercalateApart, apart,
      List.flatMap_append, List.append_assoc]
    rfl
  obtain ⟨m, after, left, _, read⟩ := declarationsLacking (n := 0) declared undescribed lacks
  rw [headingRead heading headed (gapTexts _) (lacksScans lacks behind), left,
    closersDropped (closersVisible m), read]

theorem lacksNothing (ws : List Word) : Lacks ws (ws.map some) := by
  induction ws with
  | nil => exact .nil
  | cons w ws ih => exact .keep ih

theorem lackingNothing (h : Heading) (ds : List Declaration) :
    lacking h ((ds.flatMap declarationWords ++ [Word.mark .rightBrace]).map some) = text h ds := by
  rw [lacking, List.map_map, text, joined, wordsSplit, bareRest, ← List.cons_append]
  exact congrArg (String.intercalate " ") List.map_append.symm

theorem missingBracesIgnored (h : Heading) (ds : List Declaration) (us : List (Option Word))
    (proper : ∀ w ∈ words h ds, w.Proper) (undescribed : ∀ d ∈ ds, d.description = "")
    (lacks : Lacks (ds.flatMap declarationWords ++ [.mark .rightBrace]) us) :
    Definition.ofText (lacking h us) = Definition.ofText (text h ds) ∧
      Definition.ofText (text h ds) =
        .ok (Definition.ofDeclarations h.packageClause h.interface ds) := by
  have plain := lackingRead proper undescribed (lacksNothing _)
  rw [lackingNothing] at plain
  exact ⟨(lackingRead proper undescribed lacks).trans plain.symm, plain⟩

def stripped : List Word → List (Option Word)
  | [] => []
  | .mark .rightBrace :: ws =>
    (if loose ws then none else some (.mark .rightBrace)) :: stripped ws
  | w :: ws => some w :: stripped ws

theorem strippedLacks (ws : List Word) : Lacks ws (stripped ws) := by
  fun_induction stripped ws with
  | case1 => exact .nil
  | case2 ws ih =>
    split
    · rename_i row
      exact .drop row ih
    · exact .keep ih
  | case3 w ws _ ih => exact .keep ih

def plainCrowded : List Declaration := crowded.map undescribed

theorem strippedIgnored : (∀ w ∈ words crowdedHeading plainCrowded, w.Proper) ∧
    (∀ d ∈ plainCrowded, d.description = "") ∧
    Lacks (plainCrowded.flatMap declarationWords ++ [.mark .rightBrace])
        (stripped (plainCrowded.flatMap declarationWords ++ [.mark .rightBrace])) ∧
    Definition.ofText (lacking crowdedHeading
          (stripped (plainCrowded.flatMap declarationWords ++ [.mark .rightBrace]))) =
        Definition.ofText (text crowdedHeading plainCrowded) ∧
      Definition.ofText (text crowdedHeading plainCrowded) =
        .ok (Definition.ofDeclarations crowdedHeading.packageClause crowdedHeading.interface
          plainCrowded) := by
  have proper : ∀ w ∈ words crowdedHeading plainCrowded, w.Proper := by decide +kernel
  have plain : ∀ d ∈ plainCrowded, d.description = "" := by decide +kernel
  have lacks := strippedLacks (plainCrowded.flatMap declarationWords ++ [.mark .rightBrace])
  exact ⟨proper, plain, lacks, missingBracesIgnored crowdedHeading _ _ proper plain lacks⟩

end Busbind.Canonical
