/-! Laying out text at a margin. A document is a sequence of words, breaks and nested boxes. A box
that fits on its line is written on it; in one that does not, the breaks become new lines: all of
them in an even box, only those where the next part would not fit in a filled one. Widths are in
bytes. -/
namespace Busbind.Layout

inductive Style
  | even
  | filled
  deriving DecidableEq, Repr

/-- A place where a line may end. `comma` is written there if it does; a fleeting break disappears
at the end of its box; a fixed one never ends the line. -/
structure Break where
  blanks : Nat
  shift : Int := 0
  comma : Bool := false
  fleeting : Bool := false
  fixed : Bool := false
  deriving DecidableEq, Repr

inductive Piece
  | word (s : String)
  | gap (b : Break)
  | opening (indent : Int) (style : Style)
  | closing
  deriving DecidableEq, Repr

/-- What a document is written with: pieces, and the mark that shifts the last break back to the
indentation of the line on which its box began. -/
inductive Mark
  | piece (p : Piece)
  | outdent
  deriving DecidableEq, Repr

abbrev Document := List Mark

def indentation : Int := 4

def margin : Nat := 89

/-- However deep the indentation, a line has at least this room. -/
def leastRoom : Int := 60

/-- More blanks than any line has room for. -/
def forcing : Nat := 65535

def word (s : String) : Document := [.piece (.word s)]

def cut : Document := [.piece (.gap { blanks := 0 })]

def space : Document := [.piece (.gap { blanks := 1 })]

def newline : Document := [.piece (.gap { blanks := forcing })]

def fleetingNewline : Document := [.piece (.gap { blanks := forcing, fleeting := true })]

def anchor : Document := [.piece (.gap { blanks := 0, fixed := true })]

def lastComma : Document := [.piece (.gap { blanks := 0, comma := true })]

def outdent : Document := [.outdent]

def box (indent : Int) (style : Style) (inner : Document) : Document :=
  .piece (.opening indent style) :: inner ++ [.piece .closing]

def evenBox (indent : Int) (inner : Document) : Document := box indent .even inner

def filledBox (indent : Int) (inner : Document) : Document := box indent .filled inner

def commaList : List Document → Document
  | [] => []
  | [item] => item ++ lastComma
  | item :: rest => item ++ word "," ++ space ++ commaList rest

def commaBetween : List Document → Document
  | [] => []
  | [item] => item
  | item :: rest => item ++ word "," ++ space ++ commaBetween rest

/-- What is left of a fleeting break at the end of its box: no line ends there, but what stands
before it is still measured up to it. -/
def vanished : Piece := .gap { blanks := 0, fixed := true }

def close : List Piece → List Piece
  | .gap _ :: .opening _ _ :: done => done
  | .gap b :: done => .closing :: (if b.fleeting then vanished else .gap b) :: done
  | done => .closing :: done

def shiftLast : List Piece → List Piece
  | .gap b :: done => .gap { b with shift := b.shift - indentation } :: done
  | done => done

def settleFrom (done : List Piece) : Document → List Piece
  | [] => done
  | .outdent :: rest => settleFrom (shiftLast done) rest
  | .piece .closing :: rest => settleFrom (close done) rest
  | .piece p :: rest => settleFrom (p :: done) rest

def settle (d : Document) : List Piece := (settleFrom [] d).reverse

def reach (depth : Nat) : List Piece → Nat
  | [] => 0
  | .word s :: rest => s.utf8ByteSize + reach depth rest
  | .gap b :: rest => if depth = 0 then 0 else b.blanks + reach depth rest
  | .opening _ _ :: rest => reach (depth + 1) rest
  | .closing :: rest => reach (depth - 1) rest

inductive Frame
  | fits
  | broken (outer : Int) (style : Style)
  deriving DecidableEq, Repr

structure Place where
  room : Int
  indent : Int
  owed : Int
  frames : List Frame
  deriving DecidableEq, Repr

namespace Place

def start : Place := ⟨margin, 0, 0, []⟩

def ends (p : Place) (b : Break) (size : Nat) : Bool :=
  if b.fixed then false
  else
    match p.frames with
    | .fits :: _ => false
    | .broken _ .even :: _ => true
    | .broken _ .filled :: _ | [] => decide (p.room < size)

def enter (p : Place) (indent : Int) (style : Style) (size : Nat) : Place :=
  if p.room < size then
    { p with indent := p.indent + indent, frames := .broken p.indent style :: p.frames }
  else { p with frames := .fits :: p.frames }

def leave (p : Place) : Place :=
  match p.frames with
  | .broken outer _ :: frames => { p with indent := outer, frames }
  | .fits :: frames => { p with frames }
  | [] => p

def advance (p : Place) (width : Nat) : Place := { p with room := p.room - width, owed := 0 }

def pass (p : Place) (blanks : Nat) : Place :=
  { p with room := p.room - blanks, owed := p.owed + blanks }

def turn (p : Place) (shift : Int) : Place :=
  let indent := p.indent + shift
  { p with room := max (margin - indent) leastRoom, owed := indent }

def blanks (p : Place) : String := String.ofList (List.replicate p.owed.toNat ' ')

end Place

/-- The texts that the pieces write, in order. Blanks owed before the end of a line are never
written. -/
def write (p : Place) : List Piece → List String
  | [] => []
  | .word s :: rest => p.blanks :: s :: write (p.advance s.utf8ByteSize) rest
  | .opening indent style :: rest => write (p.enter indent style (reach 1 rest)) rest
  | .closing :: rest => write p.leave rest
  | .gap b :: rest =>
    if p.ends b (b.blanks + reach 0 rest) then
      (if b.comma then p.blanks ++ "," else "") :: "\n" :: write (p.turn b.shift) rest
    else write (p.pass b.blanks) rest

def render (d : Document) : String := String.join (write Place.start (settle d))

end Busbind.Layout
