import Busbind.Scan
import Busbind.Text.Columns

/-! The excerpt of a source around a marked place: a line of context on each side, line numbers, and
the mark drawn below a line or beside several. -/
namespace Busbind

structure Spot where
  offset : Nat
  length : Nat
  deriving DecidableEq, Repr

namespace Spot

def ofSpan (s : Span) : Spot := ⟨s.start, s.length⟩

def stop (s : Spot) : Nat := s.offset + s.length

def drawnStop (s : Spot) : Nat := s.offset + max s.length 1

end Spot

structure Window where
  start : Nat
  stop : Nat
  line : Nat
  column : Nat
  deriving DecidableEq, Repr

namespace Window

/-- A reading of the source for a window with `context` lines on each side. The starts of the lines
kept as context are in order. `passed` says that the marked place has been passed, `broken` that a
line has ended since, and `extra` counts the lines after that one. -/
structure Reading where
  offset : Nat := 0
  line : Nat := 0
  column : Nat := 0
  starts : List Nat := []
  current : Nat := 0
  broken : Bool := false
  passed : Bool := false
  extra : Nat := 0
  deriving DecidableEq, Repr

def Reading.lineBefore (context : Nat) (r : Reading) : Reading :=
  let starts := r.starts ++ [r.current]
  if context < starts.length then
    { r with column := 0, starts := starts.drop 1, line := r.line + 1 }
  else { r with column := 0, starts }

def Reading.lineAfter (r : Reading) : Reading :=
  if r.broken then { r with column := 0, extra := r.extra + 1 }
  else { r with column := 0, broken := true }

def Reading.lineEnd (spot : Spot) (context : Nat) (r : Reading) : Reading :=
  let next :=
    if r.offset < spot.offset then r.lineBefore context
    else if r.passed && decide (spot.offset + (spot.length - 1) ≤ r.offset) then r.lineAfter
    else r
  { next with current := r.offset + 1 }

def Reading.inLine (spot : Spot) (r : Reading) : Reading :=
  if r.offset < spot.offset then { r with column := r.column + 1 } else r

def Reading.note (spot : Spot) (r : Reading) : Reading :=
  { r with passed := r.passed || decide (spot.stop - 1 ≤ r.offset) }

def Reading.isDone (spot : Spot) (context : Nat) (r : Reading) : Bool :=
  decide (spot.stop - 1 ≤ r.offset) && decide (context ≤ r.extra)

def Reading.next (r : Reading) : Reading := { r with offset := r.offset + 1 }

def isLineEnd (b : UInt8) : Bool := b == 10 || b == 13

/-- Reads until the context is complete. A carriage return directly before a line feed belongs to
the same line end. -/
def read (spot : Spot) (context : Nat) (r : Reading) : List UInt8 → Reading
  | [] => r
  | 13 :: 10 :: bs =>
    let r := (r.next.lineEnd spot context).note spot
    if r.isDone spot context then r.next else read spot context r.next bs
  | b :: bs =>
    let r := (if isLineEnd b then r.lineEnd spot context else r.inLine spot).note spot
    if r.isDone spot context then r.next else read spot context r.next bs

def around (spot : Spot) (context : Nat) (source : List UInt8) : Window :=
  let r := read spot context {} source
  let start := r.starts.head?.getD (if context = 0 then spot.offset else 0)
  ⟨start, r.offset, r.line, if context = 0 then r.column else 0⟩

end Window

structure SourceLine where
  number : Nat
  offset : Nat
  length : Nat
  text : List Char
  deriving DecidableEq, Repr

namespace SourceLine

/-- The lines of a text that begins after `number` lines at `offset`. The text of the current line
is given last character first, with its length so far. A carriage return without a line feed
stands in the text of its line; as the last character of all it does not count as a line. -/
def split (number offset : Nat) (text : List Char) (length : Nat) : List Char → List SourceLine
  | [] => []
  | '\r' :: '\n' :: cs =>
    let length := length + 2
    ⟨number + 1, offset, length, text.reverse⟩ :: split (number + 1) (offset + length) [] 0 cs
  | '\n' :: cs =>
    let length := length + 1
    ⟨number + 1, offset, length, text.reverse⟩ :: split (number + 1) (offset + length) [] 0 cs
  | c :: cs =>
    let length := length + c.utf8Size
    if cs.isEmpty then
      [⟨if c = '\r' then number else number + 1, offset, length, (c :: text).reverse⟩]
    else split number offset (c :: text) length cs

def stop (l : SourceLine) : Nat := l.offset + l.length

def holdsStart (l : SourceLine) (s : Spot) : Bool := l.offset ≤ s.offset && s.offset < l.stop

def holdsStop (l : SourceLine) (s : Spot) : Bool :=
  l.offset < s.drawnStop && s.drawnStop ≤ l.stop

def isPassed (l : SourceLine) (s : Spot) : Bool := s.offset < l.offset && l.stop < s.drawnStop

def isMarked (l : SourceLine) (s : Spot) : Bool := l.holdsStart s || l.isPassed s || l.holdsStop s

def holdsAll (l : SourceLine) (s : Spot) : Bool := l.offset ≤ s.offset && s.stop ≤ l.stop

def isBeside (l : SourceLine) (s : Spot) : Bool :=
  l.isMarked s && !(l.holdsStart s && l.holdsStop s)

def isLast (l : SourceLine) (s : Spot) : Bool := l.offset ≤ s.stop && s.stop ≤ l.stop

end SourceLine

namespace Excerpt

def tabWidth : Nat := 4

/-- The columns that the characters of a line take, in order. A tab reaches to the next multiple of
the tab width; an escape sequence, from the escape character up to the letter `m`, takes none. -/
def widths (column : Nat) (escaping : Bool) : List Char → List Nat
  | [] => []
  | c :: cs =>
    if escaping then 0 :: widths column (c ≠ 'm') cs
    else if c = '\x1b' then 0 :: widths column true cs
    else
      let w := if c = '\t' then tabWidth - column % tabWidth else Text.columns .sixteenth c
      w :: widths (column + w) false cs

def expanded (cs : List Char) : List Char :=
  ((cs.zip (widths 0 false cs)).map fun p =>
    if p.1 = '\t' then List.replicate p.2 ' ' else [p.1]).flatten

def takeBytes (n : Nat) : List Char → List Char
  | [] => []
  | c :: cs => if n = 0 then [] else c :: takeBytes (n - c.utf8Size) cs

def column (l : SourceLine) (offset : Nat) : Nat :=
  let index := offset - l.offset
  (widths 0 false (takeBytes index l.text)).foldl Nat.add 0 +
    (if byteLength l.text < index then 1 else 0)

def blanks (n : Nat) : String := String.ofList (List.replicate n ' ')

def rule (n : Nat) : String := String.ofList (List.replicate n '─')

def margin (width : Nat) : String := " " ++ blanks width ++ " · "

def numbered (width n : Nat) : String :=
  let digits := toString n
  " " ++ blanks (width - digits.length) ++ digits ++ " │ "

def gutter (l : SourceLine) (s : Spot) : String :=
  if !l.isBeside s then "    "
  else if l.offset ≤ s.offset then "╭─▶ "
  else if l.isLast s then "├─▶ "
  else if l.stop < s.stop then "│   "
  else "    "

def underline (width : Nat) (beside : Bool) (l : SourceLine) (s : Spot) (label : String) :
    String :=
  let first := column l s.offset
  let last := if s.length = 0 then first + 1 else max (column l s.stop) (first + 1)
  let middle := (first + last) / 2
  let before := margin width ++ (if beside then blanks 4 else "")
  before ++ blanks first ++ rule (middle - first) ++ (if s.length = 0 then "▲" else "┬") ++
    rule (last - middle - 1) ++ "\n" ++
    before ++ blanks middle ++ "╰── " ++ label ++ "\n"

def line (width : Nat) (beside : Bool) (s : Spot) (label : String) (l : SourceLine) : String :=
  numbered width l.number ++ (if beside then gutter l s else "") ++
    String.ofList (expanded l.text) ++ "\n" ++
    (if !l.isMarked s then ""
    else if l.holdsAll s then underline width beside l s label
    else if l.isLast s && s.offset < l.offset then margin width ++ "╰──── " ++ label ++ "\n"
    else "")

def lines (w : Window) (source : ByteArray) : List SourceLine :=
  let text := (String.fromUTF8? (source.extract w.start w.stop)).getD ""
  SourceLine.split w.line w.start [] 0 text.toList

def render (path : String) (source : String) (s : Spot) (label : String) : String :=
  let bytes := source.toUTF8
  let position := Window.around s 0 bytes.toList
  let ls := lines (Window.around s 1 bytes.toList) bytes
  let width := (toString ((ls.getLast?.map SourceLine.number).getD 0)).length
  let beside := ls.any fun l => !l.holdsAll s && l.isBeside s
  blanks (width + 2) ++ "╭─[" ++ path ++ ":" ++ toString (position.line + 1) ++ ":" ++
    toString (position.column + 1) ++ "]\n" ++
    String.join (ls.map (line width beside s label)) ++
    blanks (width + 2) ++ "╰────\n"

end Excerpt

end Busbind
