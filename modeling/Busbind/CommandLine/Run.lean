import Busbind.Binding
import Busbind.Binding.Writing
import Busbind.CommandLine.Directory
import Busbind.CommandLine.Messages
import Busbind.Grammar
import Busbind.Json
import Busbind.Outline
import Busbind.Report

/-! Runs of the program. A run reads at most one file, says what it has to say and asks for at most
one file to be written; what comes of that is the last thing it can report. -/
namespace Busbind

/-- The largest source that is read, in bytes. -/
def sourceLimit : Nat := 104857600

structure Surroundings where
  size : String → Except FileError Nat
  text : String → Except FileError String

structure Result where
  status : Nat
  out : String
  err : String
  deriving DecidableEq, Repr

namespace Result

def success (out err : String) : Result := ⟨0, out, err⟩

def failure (err message : String) : Result := ⟨1, "", err ++ message ++ "\n"⟩

def add (r : Result) (said : Said) : Result :=
  { r with out := r.out ++ said.out, err := r.err ++ said.err }

end Result

inductive Step
  | finished (r : Result)
  | write (path text err : String)
  deriving DecidableEq, Repr

def Step.written (path err : String) : Except FileError Unit → Result
  | .ok _ => .success "" err
  | .error e => .failure err ("Error writing file '" ++ path ++ "': " ++ e.message)

namespace Run

def source (s : Surroundings) (path : String) : Except String String :=
  match s.size path with
  | .error e => .error ("Cannot access file '" ++ path ++ "': " ++ e.message)
  | .ok size =>
    if sourceLimit < size then
      .error ("Source file '" ++ path ++ "' is too large (" ++ toString size ++ " bytes, max " ++
        toString sourceLimit ++ " bytes)")
    else
      match s.text path with
      | .error e => .error ("Error reading file '" ++ path ++ "': " ++ e.message)
      | .ok text => .ok text

def definition (path text : String) : Except String Definition :=
  (Definition.ofText text).mapError fun r => r.report path text

def code (c : Configuration) (d : Definition) : Except String String :=
  match Binding.ofDefinition c d with
  | .ok file => .ok file.render
  | .error e => .error ("Code generation error: " ++ e.message)

def generate (c : Configuration) (path text : String) : Except String String :=
  definition path text >>= code c

def dump (d : Definition) : DumpFormat → String
  | .tree => d.outline
  | .json => d.json.render

def padLeft (width : Nat) (s : String) : String :=
  String.ofList (List.replicate (width - s.length) ' ') ++ s

def padRight (width : Nat) (s : String) : String :=
  s ++ String.ofList (List.replicate (width - s.length) ' ')

def tokenLine (t : Token) : String :=
  padLeft 5 (toString t.span.start) ++ ".." ++ padRight 5 (toString t.span.stop) ++ " " ++
    padRight 24 t.kind.describe ++ " " ++ Text.quoted .people t.literal ++ "\n"

def showTokens (path text : String) : Result :=
  match (Scan.ofText text).tokens? with
  | .ok tokens =>
    .success (String.join ((tokens.filter Token.isSignificant).map tokenLine)) ""
  | .error r => .failure "" (r.report path text)

def showCode (a : Arguments) (path text : String) : Step :=
  match definition path text with
  | .error message => .finished (.failure "" message)
  | .ok d =>
    let err := if a.debug then dump d a.debugFormat ++ "\n" else ""
    match code a.configuration d with
    | .error message => .finished (.failure err message)
    | .ok text =>
      match a.output with
      | some path => .write path text err
      | none => .finished (.success text err)

def start (s : Surroundings) (a : Arguments) : Step :=
  match a.input with
  | none => .finished (.success Inquiry.shortHelp.answer "")
  | some path =>
    match source s path with
    | .error message => .finished (.failure "" message)
    | .ok text => if a.lex then .finished (showTokens path text) else showCode a path text

def ofArguments (s : Surroundings) (arguments : List String) : Step :=
  match Reply.ofArguments arguments with
  | .refuse e => .finished ⟨2, "", e.message⟩
  | .inquire q => .finished (.success q.answer "")
  | .run a => start s a

end Run

namespace Directory

def surroundings (d : Directory) : Surroundings where
  size := fun path => (d.find path).map Entry.size
  text := fun path => d.find path >>= Entry.content

def run (d : Directory) (arguments : List String) : Result × Directory :=
  match Run.ofArguments d.surroundings arguments with
  | .finished r => (r, d)
  | .write path text err =>
    match d.write path text with
    | .ok (after, said) => ((Step.written path err (.ok ())).add said, after)
    | .error e => (Step.written path err (.error e), d)

end Directory

end Busbind
