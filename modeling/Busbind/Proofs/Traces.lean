import Mathlib.Data.List.Basic
import Busbind.CommandLine.Run

/-! What a run leaves in its directory and on its output, whatever the system around it holds and
admits. A run that fails leaves nothing there; a run that succeeds writes under the output path that
its arguments name, or not at all. -/
namespace Busbind.Traces
open Directory

def Reaches (d : Directory) : Standing → Prop
  | .inside l => ∀ p, p <+: l → d.entry? p = some .folder
  | .outside _ _ => True

def written (d : Directory) (arguments : List String) : List String :=
  match Run.ofArguments d.surroundings arguments with
  | .finished _ => []
  | .write path text _ =>
    match d.write path text with
    | .ok _ => [path]
    | .error _ => []

section Places
variable {d : Directory} {s t : Standing}

theorem rootReaches (d : Directory) : Reaches d (.inside []) := by
  intro p inside
  rw [List.prefix_nil.1 inside]
  rfl

theorem upReaches (reached : Reaches d s) : Reaches d s.up := by
  cases s with
  | inside l =>
    simp only [Standing.up]
    split
    · trivial
    · exact fun p inside => reached p (inside.trans (List.dropLast_prefix l))
  | outside o l =>
    unfold Standing.up
    split <;> trivial

theorem downReaches {name : String} (reached : Reaches d s)
    (folder : d.child? s name = some .folder) : Reaches d (s.down name) := by
  cases s with
  | inside l =>
    intro p inside
    rcases List.prefix_concat_iff.1 inside with rfl | inside
    · exact folder
    · exact reached p inside
  | outside o l => trivial

theorem enterReaches {name : String} (reached : Reaches d s) (enters : d.enter s name = .ok t) :
    Reaches d t := by
  unfold enter at enters
  split at enters
  · cases enters
    exact reached
  · split at enters
    · cases enters
      exact upReaches reached
    · split at enters
      · contradiction
      · split at enters <;> cases enters
        exact downReaches reached (by assumption)

theorem walkReaches {folders : List String} (reached : Reaches d s)
    (walks : d.walk s folders = .ok t) : Reaches d t := by
  induction folders generalizing s with
  | nil =>
    cases walks
    exact reached
  | cons name rest ih =>
    simp only [walk] at walks
    split at walks
    · rename_i u enters
      exact ih (enterReaches reached enters) walks
    · contradiction

theorem approachReaches {path : String} {folders : List String}
    (approached : d.approach path folders = .ok t) : Reaches d t := by
  unfold approach at approached
  split at approached
  · contradiction
  · refine walkReaches ?_ approached
    unfold origin
    split
    · trivial
    · exact rootReaches d

theorem targetInPlace {name : String} {l : Location} (here : d.targetIn s name = .ok (.file l)) :
    ∃ parent, s = .inside parent ∧ l = parent ++ [name] := by
  unfold targetIn at here
  split at here
  · cases here
    exact ⟨_, rfl, rfl⟩
  · cases here
  · rename_i o l _
    cases admitted : d.system.admits o (l ++ [name]) <;> rw [admitted] at here <;> cases here

theorem targetPlace {path : String} {l : Location} (names : d.target path = .ok (.file l)) :
    ∃ parent name, l = parent ++ [name] ∧ Reaches d (.inside parent) := by
  unfold target at names
  dsimp only at names
  split at names
  · contradiction
  · rename_i s approached
    have reached := approachReaches approached
    split at names
    · contradiction
    · split at names
      · obtain ⟨parent, rfl, rfl⟩ := targetInPlace names
        exact ⟨parent, _, rfl, reached⟩
      · obtain ⟨parent, rfl, rfl⟩ := targetInPlace names
        exact ⟨parent, _, rfl, reached⟩
      · contradiction
      · contradiction

end Places

section Writing
variable {d : Directory} {l p : Location} {e : Entry}

theorem putFound (other : p ≠ l) :
    (d.put l e).entries.find? (fun f => f.1 == p) = d.entries.find? fun f => f.1 == p := by
  have apart : (l == p) = false := beq_eq_false_iff_ne.2 other.symm
  unfold put
  split
  · generalize d.entries = es
    induction es with
    | nil => rfl
    | cons f es ih =>
      simp only [List.map_cons, List.find?_cons, ih]
      by_cases same : f.1 = l
      · simp only [same, beq_self_eq_true, if_true, apart]
      · simp only [beq_eq_false_iff_ne.2 same, Bool.false_eq_true, if_false]
  · simp only [List.find?_append, List.find?_singleton, apart, Bool.false_eq_true, if_false,
      Option.or_none]

theorem putBelow :
    ((d.put l e).entries.any fun f => p.isPrefixOf f.1) =
      ((d.entries.any fun f => p.isPrefixOf f.1) || p.isPrefixOf l) := by
  unfold put
  split
  · rename_i present
    obtain ⟨g, mem, here⟩ := List.any_eq_true.1 present
    -- The place that is written is counted before already.
    have counted : p.isPrefixOf l = true → (d.entries.any fun f => p.isPrefixOf f.1) = true :=
      fun below => List.any_eq_true.2 ⟨g, mem, by rwa [eq_of_beq here]⟩
    have kept : ((d.entries.map fun f => if f.1 == l then (l, e) else f).any
        fun f => p.isPrefixOf f.1) = d.entries.any fun f => p.isPrefixOf f.1 := by
      rw [List.any_map]
      refine congrArg (List.any d.entries) (funext fun f => ?_)
      by_cases same : f.1 = l
      · simp [same]
      · simp [same]
    rw [kept]
    cases below : p.isPrefixOf l with
    | true => simp [counted below]
    | false => simp
  · simp

/-- What stands elsewhere in the directory stays, folders included: those on the way to the place
are there before. -/
theorem putFrame {parent : Location} {name : String} (reached : Reaches d (.inside parent))
    (other : p ≠ parent ++ [name]) :
    Directory.entry? (d.put (parent ++ [name]) e) p = d.entry? p := by
  by_cases onWay : p <+: parent
  · have before := reached p onWay
    have below : p.isPrefixOf (parent ++ [name]) = true :=
      List.isPrefixOf_iff_prefix.2 (onWay.trans (List.prefix_append parent [name]))
    rw [before]
    unfold entry? at before ⊢
    rw [putFound other, putBelow, below, Bool.or_true]
    split
    · rfl
    · rename_i inner
      rw [if_neg inner] at before
      cases found : d.entries.find? fun f => f.1 == p with
      | some f => simpa only [found] using before
      | none => rfl
  · have below : p.isPrefixOf (parent ++ [name]) = false := by
      rw [← Bool.not_eq_true, List.isPrefixOf_iff_prefix, List.prefix_concat_iff, not_or]
      exact ⟨other, onWay⟩
    rw [ entry?, entry?, putFound other, putBelow, below, Bool.or_false]

theorem writeFrame {path text : String} {after : Directory} {said : Said}
    (writes : d.write path text = .ok (after, said)) (changed : after.entry? p ≠ d.entry? p) :
    d.target path = .ok (.file p) := by
  unfold write at writes
  cases names : d.target path with
  | error e =>
    rw [names] at writes
    contradiction
  | ok t =>
    rw [names] at writes
    cases t with
    | file l =>
      cases writes
      obtain ⟨parent, name, rfl, reached⟩ := targetPlace names
      by_cases same : p = parent ++ [name]
      · rw [same]
      · exact absurd (putFrame reached same) changed
    | device v =>
      change (v.accept text).map (fun said => (d, said)) = .ok (after, said) at writes
      cases accepted : v.accept text <;> rw [accepted] at writes <;> cases writes
      exact absurd rfl changed
    | elsewhere =>
      cases writes
      exact absurd rfl changed

end Writing

section Runs

def Silent (r : Result) : Prop := r.status ≠ 0 → r.out = ""

def Orderly (a : Arguments) : Step → Prop
  | .finished r => Silent r
  | .write path _ _ => a.lex = false ∧ a.output = some path

theorem successSilent (out err : String) : Silent (.success out err) :=
  fun failed => absurd rfl failed

theorem failureSilent (err message : String) : Silent (.failure err message) := fun _ => rfl

theorem showTokensSilent (path text : String) : Silent (Run.showTokens path text) := by
  unfold Run.showTokens
  split
  · exact successSilent _ _
  · exact failureSilent _ _

theorem showCodeOrderly {a : Arguments} (generates : a.lex = false) (path text : String) :
    Orderly a (Run.showCode a path text) := by
  unfold Run.showCode
  split
  · exact failureSilent _ _
  · dsimp only
    split
    · exact failureSilent _ _
    · split
      · rename_i output
        exact ⟨generates, output⟩
      · exact successSilent _ _

theorem startOrderly (s : Surroundings) (a : Arguments) : Orderly a (Run.start s a) := by
  unfold Run.start
  split
  · exact successSilent _ _
  · split
    · exact failureSilent _ _
    · cases lex : a.lex with
      | true => exact showTokensSilent _ _
      | false => exact showCodeOrderly lex _ _

theorem finishedSilent {s : Surroundings} {arguments : List String} {r : Result}
    (ends : Run.ofArguments s arguments = .finished r) : Silent r := by
  unfold Run.ofArguments at ends
  split at ends
  · cases ends
    exact fun _ => rfl
  · cases ends
    exact successSilent _ _
  · rename_i a _
    have orderly := startOrderly s a
    rwa [ends] at orderly

theorem writesToOutput {s : Surroundings} {arguments : List String} {path text err : String}
    (writes : Run.ofArguments s arguments = .write path text err) :
    ∃ a, Reply.ofArguments arguments = .run a ∧ a.lex = false ∧ a.output = some path := by
  unfold Run.ofArguments at writes
  split at writes
  · contradiction
  · contradiction
  · rename_i a reply
    have orderly := startOrderly s a
    rw [writes] at orderly
    exact ⟨a, reply, orderly⟩

theorem runCases (d : Directory) (arguments : List String) :
    (∃ r, Run.ofArguments d.surroundings arguments = .finished r ∧
      d.run arguments = (r, d) ∧ written d arguments = []) ∨
    ∃ path text err, Run.ofArguments d.surroundings arguments = .write path text err ∧
      ((∃ e, d.run arguments = (Step.written path err (.error e), d) ∧
        written d arguments = []) ∨
      ∃ after said, d.write path text = .ok (after, said) ∧
        d.run arguments = ((Step.written path err (.ok ())).add said, after) ∧
        written d arguments = [path]) := by
  unfold Directory.run written
  cases step : Run.ofArguments d.surroundings arguments with
  | finished r => exact .inl ⟨r, rfl, rfl, rfl⟩
  | write path text err =>
    refine .inr ⟨path, text, err, rfl, ?_⟩
    cases writes : d.write path text with
    | error e => exact .inl ⟨e, by simp only [writes], by simp only [writes]⟩
    | ok result =>
      exact .inr ⟨result.1, result.2, rfl, by simp only [writes], by simp only [writes]⟩

end Runs

/-- A run that fails says nothing on its output, writes nothing and leaves the directory as it was.
A run that succeeds writes under the output path of its arguments at most, changes nothing but the
file which that path names, and writes nothing where tokens are asked for. -/
theorem failedRunTraceless (d : Directory) (arguments : List String) :
    ((d.run arguments).1.status ≠ 0 → (d.run arguments).1.out = "" ∧
      (d.run arguments).2 = d ∧ written d arguments = []) ∧
    ((d.run arguments).1.status = 0 →
      (∀ path ∈ written d arguments, ∃ a, Reply.ofArguments arguments = .run a ∧
        a.lex = false ∧ a.output = some path) ∧
      ∀ l, Directory.entry? (d.run arguments).2 l ≠ d.entry? l →
        ∃ path ∈ written d arguments, d.target path = .ok (.file l)) := by
  obtain ⟨r, ends, run, none⟩ | ⟨path, text, err, asks, ⟨e, run, none⟩ |
    ⟨after, said, writes, run, one⟩⟩ := runCases d arguments
  · rw [run, none]
    exact ⟨fun failed => ⟨finishedSilent ends failed, rfl, rfl⟩,
      fun _ => ⟨nofun, fun l changed => absurd rfl changed⟩⟩
  · rw [run, none]
    exact ⟨fun _ => ⟨rfl, rfl, rfl⟩, nofun⟩
  · rw [run, one]
    refine ⟨fun failed => absurd rfl failed, fun _ => ⟨?_, fun l changed => ?_⟩⟩
    · exact List.forall_mem_singleton.2 (writesToOutput asks)
    · exact ⟨path, List.mem_singleton_self path, writeFrame writes changed⟩

end Busbind.Traces
