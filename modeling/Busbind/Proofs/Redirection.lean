import Busbind.Proofs.Outcome
import Busbind.Proofs.Traces

/-! What a run leaves does not depend on what it shows on the side, nor on where its result goes.
A dump of the definition goes to the stream of messages alone; a result that goes to a file is the
text that goes to the output otherwise. -/
namespace Busbind.Redirection
open Directory Traces

def seen (r : Result × Directory) : Nat × String × Directory := (r.1.status, r.1.out, r.2)

def dumping (a : Arguments) (debug : Bool) (format : DumpFormat) : Arguments :=
  { a with debug := debug, debugFormat := format }

def sentTo (a : Arguments) (output : Option String) : Arguments := { a with output := output }

def Writable (d : Directory) (path : String) : Prop := ∃ text r, d.write path text = .ok r

def carried (d : Directory) : Step → List (String × String)
  | .finished _ => []
  | .write path text _ =>
    match d.write path text with
    | .ok _ => [(path, text)]
    | .error _ => []

def sent (d : Directory) (arguments : List String) : List (String × String) :=
  carried d (Run.ofArguments d.surroundings arguments)

def Binds (d : Directory) (a : Arguments) (file code : String) : Prop :=
  ∃ text definition bindings, d.surroundings.text file = .ok text ∧
    Definition.ofText text = .ok definition ∧
    Binding.ofDefinition a.configuration definition = .ok bindings ∧ bindings.render = code

section Steps
variable {d : Directory} {s : Surroundings} {a : Arguments} {file : String}

def hushed : Step → Step
  | .finished r => .finished { r with err := "" }
  | .write path text _ => .write path text ""

def concluded (d : Directory) : Step → Result × Directory
  | .finished r => (r, d)
  | .write path text err =>
    match d.write path text with
    | .ok (after, said) => ((Step.written path err (.ok ())).add said, after)
    | .error e => (Step.written path err (.error e), d)

theorem runParsed {arguments : List String} (reads : Reply.ofArguments arguments = .run a) :
    d.run arguments = concluded d (Run.start d.surroundings a) := by
  rw [Directory.run, Run.ofArguments, reads]
  rfl

theorem sentParsed {arguments : List String} (reads : Reply.ofArguments arguments = .run a) :
    sent d arguments = carried d (Run.start d.surroundings a) := by
  rw [sent, Run.ofArguments, reads]

theorem carriedHushed (d : Directory) (step : Step) : carried d step = carried d (hushed step) := by
  cases step <;> rfl

theorem concludedSeen (d : Directory) (step : Step) :
    seen (concluded d step) = seen (concluded d (hushed step)) := by
  cases step with
  | finished r => rfl
  | write path text err =>
    simp only [hushed, concluded]
    split <;> rfl

theorem startBound (input : a.input = some file) (generates : a.lex = false) :
    ∃ err, Run.start s a =
      match Run.source s file >>= Run.generate a.configuration file with
      | .error message => .finished (.failure err message)
      | .ok code =>
        match a.output with
        | some path => .write path code err
        | none => .finished (.success code err) := by
  simp only [Run.start, input, generates, Bool.false_eq_true, if_false]
  cases Run.source s file with
  | error message => exact ⟨"", rfl⟩
  | ok text =>
    simp only [Run.showCode, Run.generate, bind, Except.bind]
    cases Run.definition file text with
    | error message => exact ⟨"", rfl⟩
    | ok definition => exact ⟨_, rfl⟩

theorem startHushed (s : Surroundings) (a : Arguments) (debug : Bool) (format : DumpFormat) :
    hushed (Run.start s (dumping a debug format)) = hushed (Run.start s a) := by
  cases input : a.input with
  | none => simp only [Run.start, dumping, input]
  | some file =>
    cases lex : a.lex with
    | true => simp only [Run.start, dumping, input, lex, if_true]
    | false =>
      obtain ⟨err, first⟩ := startBound (s := s) input lex
      obtain ⟨err', second⟩ := startBound (s := s) (a := dumping a debug format) input lex
      have configured : (dumping a debug format).configuration = a.configuration := rfl
      have output : (dumping a debug format).output = a.output := rfl
      rw [first, second, configured, output]
      cases Run.source s file >>= Run.generate a.configuration file with
      | error message => rfl
      | ok code => cases a.output <;> rfl

end Steps

section Bindings
variable {d : Directory} {a : Arguments} {file code : String}

theorem sourceRead {s : Surroundings} {text : String} (read : Run.source s file = .ok text) :
    s.text file = .ok text := by
  unfold Run.source at read
  split at read
  · contradiction
  · split at read
    · contradiction
    · split at read <;> cases read
      assumption

theorem generateBinds {text : String} (read : d.surroundings.text file = .ok text)
    (generates : Run.generate a.configuration file text = .ok code) : Binds d a file code := by
  obtain ⟨definition, reads, binds⟩ := Outcome.bindOk generates
  cases defines : Definition.ofText text with
  | error r => simp [Run.definition, defines, Except.mapError] at reads
  | ok found =>
    simp only [Run.definition, defines, Except.mapError, Except.ok.injEq] at reads
    subst reads
    unfold Run.code at binds
    split at binds
    · rename_i bindings bound
      exact ⟨text, found, bindings, read, defines, bound, Except.ok.inj binds⟩
    · contradiction

theorem boundBinds
    (bound : Run.source d.surroundings file >>= Run.generate a.configuration file = .ok code) :
    Binds d a file code := by
  obtain ⟨text, read, generates⟩ := Outcome.bindOk bound
  exact generateBinds (sourceRead read) generates

end Bindings

section Reading
variable {d : Directory} {s t : Standing} {parent : Location} {name path : String} {e : Entry}

theorem putHere (d : Directory) (l : Location) (e : Entry) :
    (d.put l e).entries.find? (fun f => f.1 == l) = some (l, e) := by
  unfold put
  split
  · rename_i present
    generalize d.entries = es at present
    induction es with
    | nil => contradiction
    | cons f es ih =>
      simp only [List.map_cons, List.find?_cons]
      by_cases same : f.1 = l
      · simp [same]
      · simp only [List.any_cons, beq_eq_false_iff_ne.2 same, Bool.false_or] at present
        simp only [beq_eq_false_iff_ne.2 same, Bool.false_eq_true, if_false]
        exact ih present
  · rename_i absent
    have none : d.entries.find? (fun f => f.1 == l) = none :=
      List.find?_eq_none.2 fun f mem here => absent (List.any_eq_true.2 ⟨f, mem, here⟩)
    rw [List.find?_append, none]
    simp

theorem entryHere (d : Directory) (parent : Location) (name : String) (e : Entry) :
    Directory.entry? (d.put (parent ++ [name]) e) (parent ++ [name]) = some e := by
  rw [ entry?, if_neg (by simp), putHere]

theorem folderKept (reached : Reaches d (.inside parent))
    (file : d.entry? (parent ++ [name]) ≠ some .folder) {n : String}
    (folder : d.child? s n = some .folder) :
    (d.put (parent ++ [name]) e).child? s n = some .folder := by
  cases s with
  | inside l =>
    have other : l ++ [n] ≠ parent ++ [name] := fun same => file (same ▸ folder)
    exact (putFrame reached other).trans folder
  | outside o l => rwa [child?, putSystem]

theorem enterKept (reached : Reaches d (.inside parent))
    (file : d.entry? (parent ++ [name]) ≠ some .folder) {n : String}
    (enters : d.enter s n = .ok t) : (d.put (parent ++ [name]) e).enter s n = .ok t := by
  unfold enter at enters ⊢
  split at enters
  · rename_i stays
    rw [if_pos stays, enters]
  rename_i moves
  rw [if_neg moves]
  split at enters
  · rename_i up
    rw [if_pos up, enters]
  rename_i down
  rw [if_neg down]
  split at enters
  · contradiction
  rename_i short
  rw [if_neg short]
  split at enters
  · rename_i folder
    rw [folderKept reached file folder]
    exact enters
  · contradiction
  · contradiction

theorem walkKept (reached : Reaches d (.inside parent))
    (file : d.entry? (parent ++ [name]) ≠ some .folder) {folders : List String}
    (walks : d.walk s folders = .ok t) : (d.put (parent ++ [name]) e).walk s folders = .ok t := by
  induction folders generalizing s with
  | nil => exact walks
  | cons n rest ih =>
    simp only [walk] at walks ⊢
    split at walks
    · rename_i u enters
      rw [enterKept reached file enters]
      exact ih walks
    · contradiction

theorem approachKept (reached : Reaches d (.inside parent))
    (file : d.entry? (parent ++ [name]) ≠ some .folder) {folders : List String}
    (approached : d.approach path folders = .ok t) :
    Directory.approach (d.put (parent ++ [name]) e) path folders = .ok t := by
  unfold approach at approached ⊢
  split at approached
  · contradiction
  · rename_i short
    rw [if_neg short]
    exact walkKept reached file approached

theorem enterFails {after : Directory} {text : String}
    (fails : d.enter s name = .error .notDirectory ∨ d.enter s name = .error .missing)
    (here : after.child? s name = some (.text text)) :
    d.child? s name ≠ some .folder ∧ after.enter s name = .error .notDirectory := by
  unfold enter at fails ⊢
  split at fails
  · simp at fails
  rename_i moves
  rw [if_neg moves]
  split at fails
  · simp at fails
  rename_i down
  rw [if_neg down]
  split at fails
  · simp at fails
  rename_i short
  rw [if_neg short, here]
  split at fails
  · simp at fails
  · rename_i e other found
    exact ⟨fun same => other (Option.some.inj (found.symm.trans same)), rfl⟩
  · rename_i found
    exact ⟨by rw [found]; nofun, rfl⟩

theorem withoutEndWhole {ns : List String} (whole : ¬(withoutEnd ns).length < ns.length) :
    withoutEnd ns = ns := by
  have suffix := List.dropWhile_suffix (l := ns.reverse) String.isEmpty
  have same := suffix.eq_of_length_le (by simpa [withoutEnd] using whole)
  rw [withoutEnd, same, List.reverse_reverse]

theorem targetFile {l : Location} (names : d.target path = .ok (.file l)) :
    ∃ parent name, l = parent ++ [name] ∧ name = (Directory.names path).getLast?.getD "" ∧
      d.approach path (Directory.names path).dropLast = .ok (.inside parent) ∧
      (d.enter (.inside parent) name = .error .notDirectory ∨
        d.enter (.inside parent) name = .error .missing) := by
  unfold target at names
  dsimp only at names
  split at names
  · contradiction
  · rename_i s approached
    split at names
    · contradiction
    · rename_i whole
      rw [withoutEndWhole whole] at names approached
      split at names
      · rename_i fails
        obtain ⟨parent, rfl, rfl⟩ := targetInPlace names
        exact ⟨parent, _, rfl, rfl, approached, .inl fails⟩
      · rename_i fails
        obtain ⟨parent, rfl, rfl⟩ := targetInPlace names
        exact ⟨parent, _, rfl, rfl, approached, .inr fails⟩
      · contradiction
      · contradiction

theorem foundAgain {l : Location} (names : d.target path = .ok (.file l)) (text : String) :
    Directory.find (d.put l (.text text)) path = .ok (.text text) := by
  obtain ⟨parent, name, rfl, last, approached, fails⟩ := targetFile names
  have here : (d.put (parent ++ [name]) (.text text)).child? (.inside parent) name =
      some (.text text) := entryHere d parent name (.text text)
  obtain ⟨file, stops⟩ := enterFails fails here
  have again := approachKept (e := .text text) (approachReaches approached) file approached
  simp only [find, again, ← last, stops, here]

end Reading

section Outputs
variable {d : Directory} {a : Arguments} {xs ys : List String} {path file : String}

theorem writesAny (writable : Writable d path) (text : String) :
    ∃ after said, d.write path text = .ok (after, said) := by
  obtain ⟨other, r, writes⟩ := writable
  unfold write at writes ⊢
  obtain ⟨t, names, writes⟩ := Outcome.bindOk writes
  rw [names]
  cases t with
  | file l => exact ⟨_, _, rfl⟩
  | device v =>
    cases v with
    | full => contradiction
    | null | input | output | error => exact ⟨_, _, rfl⟩
  | elsewhere => exact ⟨_, _, rfl⟩

theorem writeFound {after : Directory} {said : Said} {text : String}
    (writes : d.write path text = .ok (after, said)) {l : Location}
    (names : d.target path = .ok (.file l)) : after.find path = .ok (.text text) := by
  rw [write, names] at writes
  cases writes
  exact foundAgain names text

theorem redirected (toFile : Reply.ofArguments xs = .run (sentTo a (some path)))
    (toOutput : Reply.ofArguments ys = .run (sentTo a none)) (input : a.input = some file)
    (generates : a.lex = false) (writable : Writable d path) :
    (d.run xs).1.status = (d.run ys).1.status ∧ ((d.run xs).1.status = 0 →
      Binds d a file (d.run ys).1.out ∧ sent d xs = [(path, (d.run ys).1.out)] ∧
      ∀ l, d.target path = .ok (.file l) →
        (d.run xs).2.find path = .ok (.text (d.run ys).1.out)) := by
  obtain ⟨err, first⟩ := startBound (s := d.surroundings) (a := sentTo a (some path)) input generates
  obtain ⟨err', second⟩ := startBound (s := d.surroundings) (a := sentTo a none) input generates
  rw [runParsed toFile, runParsed toOutput, sentParsed toFile, first, second]
  have same (output : Option String) : (sentTo a output).configuration = a.configuration := rfl
  rw [same, same]
  cases bound : Run.source d.surroundings file >>= Run.generate a.configuration file with
  | error message => exact ⟨rfl, nofun⟩
  | ok code =>
    obtain ⟨after, said, writes⟩ := writesAny writable code
    simp only [sentTo, concluded, carried, writes]
    exact ⟨rfl, fun _ => ⟨boundBinds bound, rfl, fun l names => writeFound writes names⟩⟩

end Outputs

/-- Runs whose arguments differ in the wish for a dump have the same status and the same output,
write the same texts and leave the same directory. Of two runs for the bindings of a file, the one
that names an output file that can be written has the same status as the one that names none; where
they succeed, the one writes to the file what the other says on its output, and this is the text of
the bindings. -/
theorem generatedAlike (d : Directory) :
    (∀ xs ys a debug format, Reply.ofArguments xs = .run a →
      Reply.ofArguments ys = .run (dumping a debug format) →
      seen (d.run xs) = seen (d.run ys) ∧ sent d xs = sent d ys) ∧
    ∀ xs ys a path file, Reply.ofArguments xs = .run (sentTo a (some path)) →
      Reply.ofArguments ys = .run (sentTo a none) → a.input = some file → a.lex = false →
      Writable d path →
      (d.run xs).1.status = (d.run ys).1.status ∧ ((d.run xs).1.status = 0 →
        Binds d a file (d.run ys).1.out ∧ sent d xs = [(path, (d.run ys).1.out)] ∧
        ∀ l, d.target path = .ok (.file l) →
          (d.run xs).2.find path = .ok (.text (d.run ys).1.out)) := by
  refine ⟨fun xs ys a debug format plain dumped => ?_, fun xs ys a path file => redirected⟩
  have same := startHushed d.surroundings a debug format
  constructor
  · rw [runParsed plain, runParsed dumped, concludedSeen, ← same, ← concludedSeen]
  · rw [sentParsed plain, sentParsed dumped, carriedHushed, ← same, ← carriedHushed]

def lone : Directory :=
  .ofFiles [("i.fidl", .text "package p <**d**> interface I \x7b method m \x7d")]

def plain : Arguments := { input := some "i.fidl" }

/-- The arguments of a run that writes outside of the directory, and of the same run with a dump. -/
def outward : List String := ["-o../x", "-i", "i.fidl"]

def outwardDumping : List String := ["--debug", "-ii.fidl", "--debug-format=json", "-o../x"]

def inward : List String := ["-o./i.fidl", "--in", "i.fidl"]

/-- The file that is read is written over, and the output file is named by another path to it. -/
theorem overwrittenAlike :
    Reply.ofArguments outward = .run (sentTo plain (some "../x")) ∧
    Reply.ofArguments outwardDumping = .run (dumping (sentTo plain (some "../x")) true .json) ∧
    seen (lone.run outward) = seen (lone.run outwardDumping) ∧
    sent lone outward = sent lone outwardDumping ∧ (sent lone outward).length = 1 ∧
    Reply.ofArguments ["-i", "i.fidl"] = .run plain ∧
    Reply.ofArguments inward = .run (sentTo plain (some "./i.fidl")) ∧
    Writable lone "./i.fidl" ∧ lone.target "./i.fidl" = .ok (.file ["i.fidl"]) ∧
    (lone.run inward).1.status = 0 ∧ Binds lone plain "i.fidl" (lone.run ["-i", "i.fidl"]).1.out ∧
    Directory.find (lone.run inward).2 "./i.fidl" =
      .ok (.text (lone.run ["-i", "i.fidl"]).1.out) := by
  have out : Reply.ofArguments outward = .run (sentTo plain (some "../x")) := by decide +kernel
  have dumps : Reply.ofArguments outwardDumping =
      .run (dumping (sentTo plain (some "../x")) true .json) := by decide +kernel
  have one : (sent lone outward).length = 1 := by decide +kernel
  have reads : Reply.ofArguments ["-i", "i.fidl"] = .run plain := by decide +kernel
  have writes : Reply.ofArguments inward = .run (sentTo plain (some "./i.fidl")) := by
    decide +kernel
  have names : lone.target "./i.fidl" = .ok (.file ["i.fidl"]) := by decide +kernel
  have writable : Writable lone "./i.fidl" := ⟨"", _, by rw [write, names]; rfl⟩
  have succeeds : (lone.run inward).1.status = 0 := by decide +kernel
  obtain ⟨hidden, redirected⟩ := generatedAlike lone
  obtain ⟨alike, conveyed⟩ := hidden _ _ _ _ _ out dumps
  obtain ⟨_, results⟩ := redirected _ _ plain _ _ writes reads rfl rfl writable
  obtain ⟨binds, _, found⟩ := results succeeds
  exact ⟨out, dumps, alike, conveyed, one, reads, writes, writable, names, succeeds, binds,
    found _ names⟩

end Busbind.Redirection
