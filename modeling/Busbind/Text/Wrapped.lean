import Busbind.Text.Alphanumeric
import Busbind.Text.Blank
import Busbind.Text.Glyph
import Busbind.Text.LineEnds

/-! Wrapping of text. A line is filled with words from the left as long as they fit. A word reaches
to the next place where a line may end; it is parted at the hyphens inside it, and a part wider than
a whole line is cut. Spaces at the end of a line are not written. -/
namespace Busbind.Text

structure Word where
  text : List Char
  spaces : Nat
  deriving DecidableEq, Repr

def Word.ofChars (cs : List Char) : Word :=
  let text := (cs.reverse.dropWhile fun c => c = ' ').reverse
  ⟨text, cs.length - text.length⟩

def softHyphen : Char := '\u00ad'

def clearLast (bs : List Bool) : List Bool :=
  let later := bs.reverse.takeWhile fun b => !b
  match bs.reverse.drop later.length with
  | [] => bs
  | _ :: earlier => (later ++ false :: earlier).reverse

/-- For each character that is shown, whether a word ends after it. Words do not end after hyphens,
and the last place where one could is left to the end of the text. -/
def wordEnds (cs : List Char) : List Bool :=
  clearLast (List.zipWith (fun c e => e && c ≠ '-' && c ≠ softHyphen) cs (lineEnds cs))

def piecesAt (piece : List Char) : List Glyph → List Bool → List (List Char)
  | [], _ => if piece.isEmpty then [] else [piece.reverse]
  | g :: gs, ends =>
    if g.shown then
      if ends.headD false then (g.char :: piece).reverse :: piecesAt [] gs ends.tail
      else piecesAt (g.char :: piece) gs ends.tail
    else piecesAt (g.char :: piece) gs ends

def words (cs : List Char) : List Word :=
  let gs := glyphs cs
  (piecesAt [] gs (wordEnds (shown gs))).map Word.ofChars

def hyphenParts (part : List Char) : List Char → List (List Char)
  | [] => [part.reverse]
  | c :: cs =>
    if c = '-' && part.head?.any isAlphanumeric && cs.head?.any isAlphanumeric then
      (c :: part).reverse :: hyphenParts [] cs
    else hyphenParts (c :: part) cs

def cutFrom (limit : Nat) (part : List Char) (width : Nat) : List Glyph → List (List Char)
  | [] => if part.isEmpty then [] else [part.reverse]
  | g :: gs =>
    let own := if g.shown then columns .seventeenth g.char else 0
    if g.shown && 0 < width && limit < width + own then
      part.reverse :: cutFrom limit [g.char] own gs
    else cutFrom limit (g.char :: part) (width + own) gs

def Word.ofParts (spaces : Nat) : List (List Char) → List Word
  | [] => []
  | [p] => [⟨p, spaces⟩]
  | p :: ps => ⟨p, 0⟩ :: ofParts spaces ps

def Word.parted (w : Word) : List Word := Word.ofParts w.spaces (hyphenParts [] w.text)

def Word.cut (limit : Nat) (w : Word) : List Word :=
  if totalColumns w.text ≤ limit then [w]
  else Word.ofParts w.spaces (cutFrom limit [] 0 (glyphs w.text))

def fill (limit : Nat) (line : List Word) (width : Nat) : List Word → List (List Word)
  | [] => [line.reverse]
  | w :: ws =>
    let own := totalColumns w.text
    if limit < width + own && !line.isEmpty then
      line.reverse :: fill limit [w] (own + w.spaces) ws
    else fill limit (w :: line) (width + own + w.spaces) ws

def lineText : List Word → List Char
  | [] => []
  | [w] => w.text
  | w :: ws => w.text ++ List.replicate w.spaces ' ' ++ lineText ws

/-- The lines into which a text is wrapped. Each of its own lines begins anew, with an empty word
that keeps a first word too wide for the line from being cut short of it. -/
def wrapped (limit : Nat) (cs : List Char) : List (List Char) :=
  (pieces '\n' cs).flatMap fun line =>
    (fill limit [] 0
      (⟨[], 0⟩ :: ((words line).flatMap Word.parted).flatMap (Word.cut limit))).map lineText

end Busbind.Text
