import Busbind.Binding.Configuration
import Busbind.CommandLine.Choice

/-! The arguments of the command line. They are read from the left. An option that takes a value
from the next argument is put aside until another option or the end is reached, so that an
argument that is no option at all is refused before a fault in that value. -/
namespace Busbind

inductive DumpFormat
  | tree
  | json
  deriving DecidableEq, Repr

namespace DumpFormat

def all : List DumpFormat := [.tree, .json]

def name : DumpFormat → String
  | .tree => "tree"
  | .json => "json"

def ofName? (s : String) : Option DumpFormat := all.find? fun f => f.name == s

end DumpFormat

structure Arguments where
  input : Option String := none
  output : Option String := none
  package : Option String := none
  sender : Bool := false
  receiver : Bool := false
  noSerde : Bool := false
  debug : Bool := false
  debugFormat : DumpFormat := .tree
  lex : Bool := false
  deriving DecidableEq, Repr

namespace Arguments

def configuration (a : Arguments) : Configuration :=
  let c := (({} : Configuration).withMode (if a.receiver then .receiver else .sender)).withSerde
    (!a.noSerde)
  match a.package with
  | some name => c.withModule name
  | none => c

end Arguments

/-- Why the arguments are refused. `used` lists the options met before, as the usage line shows
them. -/
inductive UsageError
  | unknown (argument : String) (similar : Option String) (used : List Choice)
  | missingValue (option : Choice)
  | invalidFormat (value : String)
  | conflict (first second : Choice) (used : List Choice)
  | repeated (option : Choice)
  | unneededValue (option : Choice) (value : String) (together : Bool)
  deriving DecidableEq, Repr

inductive Inquiry
  | shortHelp
  | longHelp
  | version
  deriving DecidableEq, Repr

inductive Reply
  | run (arguments : Arguments)
  | inquire (inquiry : Inquiry)
  | refuse (error : UsageError)
  deriving DecidableEq, Repr

/-- A reading of arguments: the values so far, the options used in order, and the option that has
been put aside, with its value if that has been read. -/
structure ArgumentReading where
  arguments : Arguments := {}
  used : List Choice := []
  aside : Option (Choice × Option String) := none
  deriving DecidableEq, Repr

namespace ArgumentReading

def assign (a : Arguments) (c : Choice) (value : String) : Except UsageError Arguments :=
  match c with
  | .input => if value.isEmpty then .error (.missingValue c) else .ok { a with input := some value }
  | .output =>
    if value.isEmpty then .error (.missingValue c) else .ok { a with output := some value }
  | .package => .ok { a with package := some value }
  | .debugFormat =>
    match DumpFormat.ofName? value with
    | some f => .ok { a with debugFormat := f }
    | none =>
      .error (if value.isEmpty then .missingValue c else .invalidFormat value)
  | .sender => .ok { a with sender := true }
  | .receiver => .ok { a with receiver := true }
  | .noSerde => .ok { a with noSerde := true }
  | .debug => .ok { a with debug := true }
  | .lex => .ok { a with lex := true }
  | .help | .version => .ok a

/-- A reading that has come to an error, or goes on. The reading stands beside the error because
usage lines depend on it. -/
structure Progress where
  reading : ArgumentReading
  error : Option UsageError := none
  deriving DecidableEq, Repr

/-- Uses an option. An option that is used again is a fault before its value is looked at. -/
def use (r : ArgumentReading) (c : Choice) (value : String) : Progress :=
  if r.used.contains c then
    { reading := { r with used := r.used.erase c }, error := some (.repeated c) }
  else
    let r := { r with used := r.used ++ [c] }
    match assign r.arguments c value with
    | .ok a => { reading := { r with arguments := a } }
    | .error e => { reading := r, error := some e }

def settle (r : ArgumentReading) : Progress :=
  match r.aside with
  | none => { reading := r }
  | some (c, none) => { reading := { r with aside := none }, error := some (.missingValue c) }
  | some (c, some value) => use { r with aside := none } c value

def await (r : ArgumentReading) (c : Choice) : Progress :=
  let p := r.settle
  match p.error with
  | some _ => p
  | none => { reading := { p.reading with aside := some (c, none) } }

def apply (r : ArgumentReading) (c : Choice) (value : String) : Progress :=
  let p := r.settle
  match p.error with
  | some _ => p
  | none => p.reading.use c value

/-- The refusal of an argument that is no option. A fault in the option put aside does not
matter any more. -/
def unexpected (argument : String) : Reply := .refuse (.unknown argument none [])

def unknownLong (r : ArgumentReading) (name : String) : UsageError :=
  let used := r.settle.reading.used
  match Choice.nearest? name Choice.names with
  | some (similar, c) =>
    .unknown ("--" ++ name) (some ("--" ++ similar))
      (if used.contains c then used else used ++ [c])
  | none => .unknown ("--" ++ name) none used

def inquiry? (c : Choice) (long : Bool) : Option Inquiry :=
  match c with
  | .help => some (if long then .longHelp else .shortHelp)
  | .version => some .version
  | _ => none

inductive Outcome
  | done (reply : Reply)
  | more (r : ArgumentReading)
  deriving DecidableEq, Repr

def Outcome.ofProgress (p : Progress) : Outcome :=
  match p.error with
  | some e => .done (.refuse e)
  | none => .more p.reading

def flag (r : ArgumentReading) (c : Choice) (long : Bool) : Outcome :=
  match inquiry? c long with
  | some q =>
    match r.settle.error with
    | some e => .done (.refuse e)
    | none => .done (.inquire q)
  | none => Outcome.ofProgress (r.apply c "")

def long (r : ArgumentReading) (name : String) (value : Option String) : Outcome :=
  match Choice.ofLong? name with
  | none => .done (.refuse (r.unknownLong name))
  | some c =>
    if c.takesValue then
      Outcome.ofProgress (match value with | some v => r.apply c v | none => r.await c)
    else
      match value with
      | some v => .done (.refuse (.unneededValue c v !r.used.isEmpty))
      | none => flag r c true

/-- A cluster of short options. One that takes a value takes the rest of the cluster, without an
equals sign at its front, or else waits for the next argument. -/
def shorts (r : ArgumentReading) : List Char → Outcome
  | [] => .more r
  | c :: cs =>
    match Choice.ofShort? c with
    | none => .done (unexpected ("-" ++ String.ofList [c]))
    | some o =>
      if o.takesValue then
        Outcome.ofProgress (match cs with
          | [] => r.await o
          | '=' :: value => r.apply o (String.ofList value)
          | value => r.apply o (String.ofList value))
      else
        match flag r o false with
        | .more r => shorts r cs
        | done => done

def splitLong (cs : List Char) : String × Option String :=
  let name := cs.takeWhile fun c => c ≠ '='
  let value :=
    match cs.drop name.length with
    | [] => none
    | _ :: v => some (String.ofList v)
  (String.ofList name, value)

def plain (r : ArgumentReading) (argument : String) : Outcome :=
  match r.aside with
  | some (c, none) => .more { r with aside := some (c, some argument) }
  | _ => .done (unexpected argument)

def argument (r : ArgumentReading) (text : String) : Outcome :=
  match text.toList with
  | '-' :: '-' :: cs => let parts := splitLong cs; long r parts.1 parts.2
  | '-' :: c :: cs => shorts r (c :: cs)
  | _ => plain r text

/-- Options that exclude each other are reported in the order in which they were used. -/
def conflict? (r : ArgumentReading) : Option UsageError :=
  match r.used.filter fun c => c = .sender || c = .receiver with
  | first :: second :: _ => some (.conflict first second (r.used.filter fun c => c ≠ second))
  | _ => none

def finish (r : ArgumentReading) : Reply :=
  let p := r.settle
  match p.error with
  | some e => .refuse e
  | none =>
    match p.reading.conflict? with
    | some e => .refuse e
    | none => .run p.reading.arguments

/-- Reads all arguments. After `--` no argument is an option, so any that follows is refused. -/
def read (r : ArgumentReading) : List String → Reply
  | [] => r.finish
  | "--" :: rest =>
    match rest with
    | [] => r.finish
    | a :: _ => unexpected a
  | a :: rest =>
    match argument r a with
    | .done reply => reply
    | .more r => read r rest

end ArgumentReading

namespace Reply

def ofArguments (arguments : List String) : Reply := ArgumentReading.read {} arguments

end Reply

end Busbind
