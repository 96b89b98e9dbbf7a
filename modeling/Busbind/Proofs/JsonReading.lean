import Busbind.Proofs.JsonSymbols

/-! Structured text read back. A machine takes its symbols one after the other and keeps the lists
and records that are not closed yet, the innermost first. A definition is then read from the value
by the keys of its fields. -/
namespace Busbind.Json

inductive Frame
  | list (before : List Json)
  | record (before : List (String × Json)) (key : String)

inductive Reading
  | value (around : List Frame)
  | listStart (around : List Frame)
  | recordStart (around : List Frame)
  | key (before : List (String × Json)) (around : List Frame)
  | colon (before : List (String × Json)) (key : String) (around : List Frame)
  | complete (j : Json) (around : List Frame)

def start (around : List Frame) : Symbol → Option Reading
  | .openList => some (.listStart around)
  | .openRecord => some (.recordStart around)
  | .text s => some (.complete (.text s) around)
  | .number n => some (.complete (.number n) around)
  | .bool b => some (.complete (.bool b) around)
  | .null => some (.complete .null around)
  | .closeList | .closeRecord | .comma | .colon => none

def next : Reading → Symbol → Option Reading
  | .value around, s => start around s
  | .listStart around, .closeList => some (.complete (.list []) around)
  | .listStart around, s => start (.list [] :: around) s
  | .recordStart around, .closeRecord => some (.complete (.record []) around)
  | .recordStart around, .text key => some (.colon [] key around)
  | .key before around, .text key => some (.colon before key around)
  | .colon before key around, .colon => some (.value (.record before key :: around))
  | .complete j (.list before :: around), .comma => some (.value (.list (j :: before) :: around))
  | .complete j (.list before :: around), .closeList =>
    some (.complete (.list (before.reverse ++ [j])) around)
  | .complete j (.record before key :: around), .comma => some (.key ((key, j) :: before) around)
  | .complete j (.record before key :: around), .closeRecord =>
    some (.complete (.record (before.reverse ++ [(key, j)])) around)
  | _, _ => none

def result? : Reading → Option Json
  | .complete j [] => some j
  | _ => none

def run (r : Reading) (ss : List Symbol) : Option Reading := ss.foldlM next r

def decode? (s : String) : Option Json :=
  ((symbols s.toList).bind (run (.value []))).bind result?

section Running
variable {r r' : Reading} {around : List Frame}

theorem runCons {s : Symbol} (step : next r s = some r') (ss : List Symbol) :
    run r (s :: ss) = run r' ss := by
  rw [run, List.foldlM_cons, step]
  rfl

theorem runAppend {ss : List Symbol} (front : run r ss = some r') (ts : List Symbol) :
    run r (ss ++ ts) = run r' ts := by
  rw [run, List.foldlM_append, ← run, front]
  rfl

theorem interspersed (part : List Symbol) (parts : List (List Symbol)) :
    ((part :: parts).intersperse [.comma]).flatten = part ++ parts.flatMap (.comma :: ·) := by
  induction parts generalizing part with
  | nil => simp
  | cons next parts ih =>
    rw [List.intersperse_cons_cons, List.flatten_cons, List.flatten_cons, ih, List.flatMap_cons]
    rfl

def Awaits (r : Reading) (around : List Frame) : Prop :=
  ∀ s, s ≠ .closeList → next r s = start around s

theorem listStartAwaits (around : List Frame) :
    Awaits (.listStart around) (.list [] :: around) := by
  intro s other
  cases s with
  | closeList => contradiction
  | _ => rfl

theorem simpleRun {s : Symbol} {j : Json} (awaits : Awaits r around)
    (begins : start around s = some (.complete j around)) (other : s ≠ .closeList) :
    run r [s] = some (.complete j around) :=
  runCons ((awaits s other).trans begins) []

mutual

theorem valueRun (around : List Frame) : (j : Json) → (r : Reading) → Awaits r around →
    run r (symbolsOf j) = some (.complete j around)
  | .null, _, awaits => simpleRun awaits rfl nofun
  | .bool _, _, awaits => simpleRun awaits rfl nofun
  | .number _, _, awaits => simpleRun awaits rfl nofun
  | .text _, _, awaits => simpleRun awaits rfl nofun
  | .list [], _, awaits => runCons (awaits .openList nofun) [.closeList]
  | .list (j :: js), _, awaits => by
    simp only [symbolsOf, itemSymbols, enclosed, interspersed, List.cons_append, List.append_assoc]
    rw [runCons (awaits .openList nofun), runAppend (valueRun _ j _ (listStartAwaits around))]
    exact itemsRun around js j []
  | .record [], _, awaits => runCons (awaits .openRecord nofun) [.closeRecord]
  | .record ((key, j) :: fields), _, awaits => by
    simp only [symbolsOf, fieldSymbols, enclosed, interspersed, List.cons_append, List.append_assoc]
    rw [runCons (awaits .openRecord nofun), runCons rfl, runCons rfl,
      runAppend (valueRun _ j _ fun _ _ => rfl)]
    exact fieldsRun around fields key j []

theorem itemsRun (around : List Frame) : (js : List Json) → (j : Json) → (before : List Json) →
    run (.complete j (.list before :: around))
        ((itemSymbols js).flatMap (.comma :: ·) ++ [.closeList]) =
      some (.complete (.list (before.reverse ++ j :: js)) around)
  | [], _, _ => rfl
  | k :: ks, j, before => by
    simp only [itemSymbols, List.flatMap_cons, List.cons_append, List.append_assoc]
    rw [runCons rfl, runAppend (valueRun _ k _ fun _ _ => rfl), itemsRun around ks k (j :: before),
      List.reverse_cons, List.append_assoc]
    rfl

theorem fieldsRun (around : List Frame) : (fields : List (String × Json)) → (key : String) →
    (j : Json) → (before : List (String × Json)) →
    run (.complete j (.record before key :: around))
        ((fieldSymbols fields).flatMap (.comma :: ·) ++ [.closeRecord]) =
      some (.complete (.record (before.reverse ++ (key, j) :: fields)) around)
  | [], _, _, _ => rfl
  | (later, k) :: fields, key, j, before => by
    simp only [fieldSymbols, List.flatMap_cons, List.cons_append, List.append_assoc]
    rw [runCons rfl, runCons rfl, runCons rfl, runAppend (valueRun _ k _ fun _ _ => rfl),
      fieldsRun around fields later k ((key, j) :: before), List.reverse_cons, List.append_assoc]
    rfl

end

theorem decodeRender (j : Json) : decode? j.render = some j := by
  rw [decode?, renderSymbols, Option.bind_some, valueRun [] j _ fun _ _ => rfl]
  rfl

end Running

section Fields
variable {α : Type}

def at? (key : String) (read : Json → Option α) : Json → Option α
  | .record fields => (fields.find? fun f => f.1 = key).bind fun f => read f.2
  | _ => none

def text? : Json → Option String
  | .text s => some s
  | _ => none

def flag? : Json → Option Bool
  | .bool b => some b
  | _ => none

def version? : Json → Option UInt32
  | .number n => if n < UInt32.size then some (UInt32.ofNat n) else none
  | _ => none

def nullable? (read : Json → Option α) : Json → Option (Option α)
  | .null => some none
  | j => (read j).map some

def list? (read : Json → Option α) : Json → Option (List α)
  | .list items => items.mapM read
  | _ => none

theorem versionRead (v : UInt32) : version? (.number v.toNat) = some v := by
  rw [version?, if_pos v.toNat_lt, UInt32.ofNat_toNat]

theorem listRead {read : Json → Option α} {json : α → Json} (each : ∀ x, read (json x) = some x)
    (xs : List α) : list? read (.list (xs.map json)) = some xs := by
  rw [list?]
  induction xs with
  | nil => rfl
  | cons x xs ih => simp [each, ih]

end Fields

end Json

open Json

namespace Import

def ofJson? (j : Json) : Option Import := do
  some ⟨← at? "path" text? j, ← at? "from" text? j⟩

theorem ofJsonRead (i : Import) : ofJson? i.json = some i := rfl

end Import

namespace PackageClause

def ofJson? (j : Json) : Option PackageClause := do
  some ⟨← at? "name" text? j, ← at? "imports" (list? Import.ofJson?) j⟩

theorem ofJsonRead (p : PackageClause) : ofJson? p.json = some p := by
  have imports := listRead Import.ofJsonRead p.imports
  simp [ofJson?, json, at?, text?, imports]

end PackageClause

namespace InterfaceClause

def ofJson? (j : Json) : Option InterfaceClause := do
  some ⟨← at? "name" text? j, ← at? "description" (nullable? text?) j,
    ← at? "major_version" version? j, ← at? "minor_version" version? j⟩

theorem ofJsonRead (i : InterfaceClause) : ofJson? i.json = some i := by
  obtain ⟨name, description, major, minor⟩ := i
  cases description <;> simp [ofJson?, json, at?, text?, nullable?, versionRead]

end InterfaceClause

namespace Parameter

def ofJson? (j : Json) : Option Parameter := do
  some ⟨← at? "description" text? j, ← at? "type" text? j, ← at? "name" text? j,
    ← at? "is_array" flag? j, ← at? "change_notification" flag? j⟩

theorem ofJsonRead (p : Parameter) : ofJson? p.json = some p := rfl

end Parameter

namespace Attribute

def ofJson? (j : Json) : Option Attribute := do
  some ⟨← at? "description" text? j, ← at? "type" text? j, ← at? "name" text? j,
    ← at? "is_array" flag? j⟩

theorem ofJsonRead (a : Attribute) : ofJson? a.json = some a := rfl

end Attribute

namespace Method

def ofJson? (j : Json) : Option Method := do
  some ⟨← at? "description" text? j, ← at? "name" text? j, ← at? "fire_and_forget" flag? j,
    ← at? "in_params" (list? Parameter.ofJson?) j, ← at? "out_params" (list? Parameter.ofJson?) j⟩

theorem ofJsonRead (m : Method) : ofJson? m.json = some m := by
  have inputs := listRead Parameter.ofJsonRead m.inputs
  have outputs := listRead Parameter.ofJsonRead m.outputs
  simp [ofJson?, json, at?, text?, flag?, inputs, outputs]

end Method

namespace Broadcast

def ofJson? (j : Json) : Option Broadcast := do
  some ⟨← at? "description" text? j, ← at? "name" text? j, ← at? "selective" flag? j,
    ← at? "out_params" (list? Parameter.ofJson?) j⟩

theorem ofJsonRead (b : Broadcast) : ofJson? b.json = some b := by
  have outputs := listRead Parameter.ofJsonRead b.outputs
  simp [ofJson?, json, at?, text?, flag?, outputs]

end Broadcast

namespace Struct

def ofJson? (j : Json) : Option Struct := do
  some ⟨← at? "description" text? j, ← at? "name" text? j,
    ← at? "fields" (list? Parameter.ofJson?) j⟩

theorem ofJsonRead (s : Struct) : ofJson? s.json = some s := by
  have fields := listRead Parameter.ofJsonRead s.fields
  simp [ofJson?, json, at?, text?, fields]

end Struct

namespace Typedef

def ofJson? (j : Json) : Option Typedef := do
  some ⟨← at? "description" text? j, ← at? "name" text? j, ← at? "aliased_type" text? j⟩

theorem ofJsonRead (t : Typedef) : ofJson? t.json = some t := rfl

end Typedef

namespace ArrayAlias

def ofJson? (j : Json) : Option ArrayAlias := do
  some ⟨← at? "description" text? j, ← at? "name" text? j, ← at? "element_type" text? j⟩

theorem ofJsonRead (a : ArrayAlias) : ofJson? a.json = some a := rfl

end ArrayAlias

namespace Definition

def ofJson? (j : Json) : Option Definition := do
  some ⟨← at? "package" PackageClause.ofJson? j, ← at? "interface" InterfaceClause.ofJson? j,
    ← at? "attributes" (list? Attribute.ofJson?) j, ← at? "methods" (list? Method.ofJson?) j,
    ← at? "broadcasts" (list? Broadcast.ofJson?) j, ← at? "structs" (list? Struct.ofJson?) j,
    ← at? "typedefs" (list? Typedef.ofJson?) j, ← at? "arraydefs" (list? ArrayAlias.ofJson?) j⟩

theorem ofJsonRead (d : Definition) : ofJson? d.json = some d := by
  have attributes := listRead Attribute.ofJsonRead d.attributes
  have methods := listRead Method.ofJsonRead d.methods
  have broadcasts := listRead Broadcast.ofJsonRead d.broadcasts
  have structs := listRead Struct.ofJsonRead d.structs
  have typedefs := listRead Typedef.ofJsonRead d.typedefs
  have arrays := listRead ArrayAlias.ofJsonRead d.arrays
  simp [ofJson?, json, at?, PackageClause.ofJsonRead, InterfaceClause.ofJsonRead, attributes,
    methods, broadcasts, structs, typedefs, arrays]

/-- The text of any definition holds its value and nothing else, every field can be read from it by
its key, and no other definition has the same text. -/
theorem jsonFaithful (d : Definition) :
    decode? d.json.render = some d.json ∧
      (decode? d.json.render).bind ofJson? = some d ∧
      ∀ e : Definition, e.json.render = d.json.render → e = d := by
  have held (d : Definition) : (decode? d.json.render).bind ofJson? = some d := by
    rw [decodeRender, Option.bind_some, ofJsonRead]
  refine ⟨decodeRender d.json, held d, fun e same => ?_⟩
  exact Option.some.inj <| calc
    some e = (decode? e.json.render).bind ofJson? := (held e).symm
    _ = (decode? d.json.render).bind ofJson? := by rw [same]
    _ = some d := held d

end Definition

end Busbind
