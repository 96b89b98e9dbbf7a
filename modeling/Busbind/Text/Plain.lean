/-! What is left of a text for a reader without a display: control characters and the sequences that
a display obeys are taken out. Sequences are followed as displays do: a short one after the escape
character, a control sequence up to its final letter, a command up to a bell, and a device string or
message up to its terminator, which is a single byte and may be part of a character. -/
namespace Busbind.Text

inductive Sequence
  | ground
  | escape
  | designation
  | control
  | command
  | device
  | deviceParameters
  | deviceSigns
  | message
  deriving DecidableEq, Repr

namespace Sequence

def terminator : UInt8 := 0x9c

def opened (c : Char) : Sequence :=
  if c = '[' then .control
  else if c = ']' then .command
  else if c = 'P' then .device
  else if c = 'X' || c = '^' || c = '_' then .message
  else if c < '0' then .designation
  else .ground

def afterVisible (s : Sequence) (c : Char) : Sequence :=
  match s with
  | .ground => .ground
  | .escape => opened c
  | .designation => if c < '0' then .designation else .ground
  | .control => if c < '@' then .control else .ground
  | .command => .command
  | .device =>
    if c < '0' then .deviceSigns
    else if c < '@' && c ≠ ':' then .deviceParameters
    else .message
  | .deviceParameters =>
    if c < '0' then .deviceSigns
    else if c < ':' || c = ';' then .deviceParameters
    else .message
  | .deviceSigns => if c < '0' then .deviceSigns else .message
  | .message => .message

def next (s : Sequence) (c : Char) : Sequence :=
  if c = '\x18' || c = '\x1a' then .ground
  else if c = '\x1b' then .escape
  else if '\x80' ≤ c then
    if s = .message && (String.utf8EncodeChar c).contains terminator then .ground else s
  else if c < ' ' || c = '\x7f' then (if s = .command && c = '\x07' then .ground else s)
  else s.afterVisible c

def obeys : Sequence → Bool
  | .ground | .escape | .designation | .control => true
  | _ => false

end Sequence

def isLayout (c : Char) : Bool := c = '\t' || c = '\n' || c = '\x0c' || c = '\r'

/-- What is left of a text after the beginning of a sequence. A layout character inside a sequence
interrupts it: from there on everything is left up to the next character that is taken out. -/
def plainFrom (s : Sequence) (interrupted : Bool) : List Char → List Char
  | [] => []
  | c :: cs =>
    let apart := s = .ground || interrupted
    if apart && '\x80' ≤ c then c :: plainFrom .ground interrupted cs
    else if apart && ' ' ≤ c && c < '\x7f' then c :: plainFrom s interrupted cs
    else if isLayout c && (apart || s.obeys) then c :: plainFrom s true cs
    else plainFrom (s.next c) false cs

def plain (s : String) : String := String.ofList (plainFrom .ground false s.toList)

end Busbind.Text
