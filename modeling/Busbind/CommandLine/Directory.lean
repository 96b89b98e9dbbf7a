import Busbind.CommandLine.Entry
import Busbind.Text.Blank

/-! A directory in which the program runs: its entries by path, the system around it, and what
reading and writing under a path comes to. -/
namespace Busbind

structure Directory where
  entries : List (Location × Entry)
  system : System := .usual

namespace Directory

def names (path : String) : List String :=
  (Text.pieces '/' path.toList).map String.ofList

def ofFiles (files : List (String × Entry)) : Directory :=
  { entries := files.map fun f => (names f.1, f.2) }

/-- The entry at a location. A location is a folder also if entries lie below it. -/
def entry? (d : Directory) (l : Location) : Option Entry :=
  if l.isEmpty then some .folder
  else
    match d.entries.find? fun e => e.1 == l with
    | some e => some e.2
    | none => if d.entries.any fun e => l.isPrefixOf e.1 then some .folder else none

inductive Standing
  | inside (l : Location)
  | outside (o : Outside) (l : Location)
  deriving DecidableEq, Repr

namespace Standing

def up : Standing → Standing
  | .inside l => if l.isEmpty then .outside (.above 1) [] else .inside l.dropLast
  | .outside (.above n) [] => .outside (.above (n + 1)) []
  | .outside o l => .outside o l.dropLast

def down (s : Standing) (name : String) : Standing :=
  match s with
  | .inside l => .inside (l ++ [name])
  | .outside o l => .outside o (l ++ [name])

end Standing

def child? (d : Directory) (s : Standing) (name : String) : Option Entry :=
  match s with
  | .inside l => d.entry? (l ++ [name])
  | .outside o l => d.system.entry? o (l ++ [name])

def staysPut (name : String) : Bool := name.isEmpty || name == "."

def nameLimit : Nat := 255

/-- A path has fewer bytes than this. -/
def pathLimit : Nat := 4096

def enter (d : Directory) (s : Standing) (name : String) : Except FileError Standing :=
  if staysPut name then .ok s
  else if name == ".." then .ok s.up
  else if nameLimit < name.utf8ByteSize then .error .nameTooLong
  else
    match d.child? s name with
    | some .folder => .ok (s.down name)
    | some _ => .error .notDirectory
    | none => .error .missing

def walk (d : Directory) (s : Standing) : List String → Except FileError Standing
  | [] => .ok s
  | name :: rest =>
    match d.enter s name with
    | .ok s => walk d s rest
    | .error e => .error e

def origin (path : String) : Standing :=
  if path.toList.head? = some '/' then .outside .root [] else .inside []

def approach (d : Directory) (path : String) (folders : List String) : Except FileError Standing :=
  if pathLimit ≤ path.utf8ByteSize then .error .nameTooLong
  else d.walk (origin path) folders

def find (d : Directory) (path : String) : Except FileError Entry :=
  let ns := names path
  match d.approach path ns.dropLast with
  | .error e => .error e
  | .ok s =>
    let last := ns.getLast?.getD ""
    match d.enter s last with
    | .error .notDirectory =>
      match d.child? s last with
      | some e => .ok e
      | none => .error .missing
    | .error e => .error e
    | .ok _ => .ok .folder

def withoutEnd (ns : List String) : List String := (ns.reverse.dropWhile String.isEmpty).reverse

inductive Target
  | file (l : Location)
  | device (d : Device)
  | elsewhere
  deriving DecidableEq, Repr

def targetIn (d : Directory) (s : Standing) (name : String) : Except FileError Target :=
  match s, d.child? s name with
  | .inside l, _ => .ok (.file (l ++ [name]))
  | .outside _ _, some (.device v) => .ok (.device v)
  | .outside o l, _ => (d.system.admits o (l ++ [name])).map fun _ => .elsewhere

/-- The target that a path names. A path that ends in a slash can only name a folder, which nothing
can be written to. -/
def target (d : Directory) (path : String) : Except FileError Target :=
  let ns := names path
  let kept := withoutEnd ns
  match d.approach path kept.dropLast with
  | .error e => .error e
  | .ok s =>
    if kept.length < ns.length then .error .isDirectory
    else
      let last := kept.getLast?.getD ""
      match d.enter s last with
      | .error .notDirectory | .error .missing => d.targetIn s last
      | .error e => .error e
      | .ok _ => .error .isDirectory

def put (d : Directory) (l : Location) (e : Entry) : Directory :=
  if d.entries.any fun f => f.1 == l then
    { d with entries := d.entries.map fun f => if f.1 == l then (l, e) else f }
  else { d with entries := d.entries ++ [(l, e)] }

@[simp] theorem putSystem (d : Directory) (l : Location) (e : Entry) :
    (d.put l e).system = d.system := by
  unfold put
  split <;> rfl

def write (d : Directory) (path text : String) : Except FileError (Directory × Said) :=
  d.target path >>= fun t =>
    match t with
    | .file l => .ok (d.put l (.text text), {})
    | .device v => (v.accept text).map fun said => (d, said)
    | .elsewhere => .ok (d, {})

def changes (before after : Directory) : List (String × String) :=
  after.entries.filterMap fun f =>
    if before.entry? f.1 = some f.2 then none
    else
      match f.2.content with
      | .ok text => some (String.intercalate "/" f.1, text)
      | .error _ => none

end Directory

end Busbind
