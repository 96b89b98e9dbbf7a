import Busbind.Text.Similarity

/-! The options of the command line, and the search for the one that is meant. -/
namespace Busbind

inductive Choice
  | input
  | output
  | package
  | sender
  | receiver
  | noSerde
  | debug
  | debugFormat
  | lex
  | help
  | version
  deriving DecidableEq, Repr

namespace Choice

def all : List Choice :=
  [.input, .output, .package, .sender, .receiver, .noSerde, .debug, .debugFormat, .lex, .help,
    .version]

def own : List Choice := all.filter fun c => c ≠ .help && c ≠ .version

def longs : Choice → List String
  | .input => ["in"]
  | .output => ["out"]
  | .package => ["package"]
  | .sender => ["sender", "client"]
  | .receiver => ["receiver", "server"]
  | .noSerde => ["no-serde"]
  | .debug => ["debug"]
  | .debugFormat => ["debug-format"]
  | .lex => ["lex"]
  | .help => ["help"]
  | .version => ["version"]

def short? : Choice → Option Char
  | .input => some 'i'
  | .output => some 'o'
  | .package => some 'p'
  | .help => some 'h'
  | .version => some 'V'
  | _ => none

def value? : Choice → Option String
  | .input | .output => some "FILE"
  | .package => some "NAME"
  | .debugFormat => some "DEBUG_FORMAT"
  | _ => none

def takesValue (c : Choice) : Bool := c.value?.isSome

def describe (c : Choice) : String :=
  "--" ++ c.longs.headD "" ++
    (match c.value? with | some v => " <" ++ v ++ ">" | none => "")

def ofLong? (name : String) : Option Choice := all.find? fun c => c.longs.contains name

def ofShort? (c : Char) : Option Choice := all.find? fun o => o.short? == some c

def names : List (String × Choice) := all.flatMap fun c => c.longs.map fun n => (n, c)

def likeness : Float := 0.7

/-- The entry most like a text, if any is like it enough; the last of those equally alike. -/
def nearest? (text : String) (entries : List (String × α)) : Option (String × α) :=
  (entries.foldl (fun best e =>
      let s := Text.similarity text e.1
      if s > likeness then
        match best with
        | some (t, _) => if s < t then best else some (s, e)
        | none => some (s, e)
      else best)
    (none : Option (Float × String × α))).map Prod.snd

end Choice

end Busbind
