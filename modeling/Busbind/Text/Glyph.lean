import Busbind.Text.Columns

/-! Escape sequences inside a text. A display obeys them and does not show them, so that they take
no room: a control sequence ends with a letter or one of the signs between letters, a command with
a bell or a terminator of two characters, and any other sequence is one character long. -/
namespace Busbind.Text

structure Glyph where
  char : Char
  shown : Bool
  deriving DecidableEq, Repr

inductive Hiding
  | nothing
  | started
  | control
  | command (last : Char)
  deriving DecidableEq, Repr

namespace Hiding

def next (h : Hiding) (c : Char) : Hiding :=
  match h with
  | .nothing => if c = '\x1b' then .started else .nothing
  | .started => if c = '[' then .control else if c = ']' then .command c else .nothing
  | .control => if '@' ≤ c && c ≤ '~' then .nothing else .control
  | .command last => if c = '\x07' || (c = '\\' && last = '\x1b') then .nothing else .command c

end Hiding

def glyphsFrom (h : Hiding) : List Char → List Glyph
  | [] => []
  | c :: cs => ⟨c, h = .nothing && c ≠ '\x1b'⟩ :: glyphsFrom (h.next c) cs

def glyphs (cs : List Char) : List Glyph := glyphsFrom .nothing cs

def shown (gs : List Glyph) : List Char := (gs.filter Glyph.shown).map Glyph.char

def totalColumns (cs : List Char) : Nat :=
  (shown (glyphs cs)).foldl (fun n c => n + columns .seventeenth c) 0

end Busbind.Text
