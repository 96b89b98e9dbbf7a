import Busbind.Text.Blank

/-! Names and their casings. Only ASCII letters and digits count as parts of a word; every other
character separates words. -/
namespace Busbind.Naming
open Text (pieces)

/-- A word begins at `c` without a separator: at an upper-case letter after a lower-case letter or
a digit, or at the last capital of a run that a lower-case letter follows. -/
def startsWord (before : Option Char) (c : Char) (after : Option Char) : Bool :=
  c.isUpper && before.any fun b =>
    b.isLower || b.isDigit || (b.isUpper && after.any Char.isLower)

/-- The snake-case form of what remains of a name. `started` says that a character has been
written, `parted` that a separator has been passed since. -/
def snakeFrom (started parted : Bool) (before : Option Char) : List Char → List Char
  | [] => []
  | c :: cs =>
    if c.isAlphanum then
      let word := c.toLower :: snakeFrom true false (some c) cs
      if started && (parted || startsWord before c cs.head?) then '_' :: word else word
    else snakeFrom started true (some c) cs

def snake (cs : List Char) : List Char := snakeFrom false false none cs

def snakeCase (s : String) : String := String.ofList (snake s.toList)

def camelFrom (initial : Bool) : List Char → List Char
  | [] => []
  | c :: cs =>
    if c.isAlphanum then (if initial then c.toUpper else c) :: camelFrom false cs
    else camelFrom true cs

def camel (cs : List Char) : List Char := camelFrom true cs

def upperCamelCase (s : String) : String := String.ofList (camel s.toList)

def lastSegment (s : String) : String :=
  String.ofList ((pieces '.' s.toList).getLast?.getD [])

def segments (cs : List Char) : List (List Char) :=
  (pieces '.' cs).filter fun p => !p.isEmpty

def path (cs : List Char) : List Char :=
  match segments cs with
  | [] => ['/']
  | ps => ps.flatMap fun p => '/' :: p

def objectPath (s : String) : String := String.ofList (path s.toList)

end Busbind.Naming
