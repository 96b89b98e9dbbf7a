import Busbind.Token

/-! The scan of a text: its tokens in order and how the scan ends. A lexeme is cut from the front
of the text; what it covers and what it leaves are the text again, and it covers something, so the
scan is a recursion on the length of what is left. -/
namespace Busbind

def byteLength : List Char → Nat
  | [] => 0
  | c :: cs => c.utf8Size + byteLength cs

theorem byteLengthAppend (cs ds : List Char) :
    byteLength (cs ++ ds) = byteLength cs + byteLength ds := by
  induction cs with
  | nil => simp [byteLength]
  | cons c cs ih => simp [byteLength, ih, Nat.add_assoc]

theorem byteLengthPositive {cs : List Char} (h : cs ≠ []) : 0 < byteLength cs := by
  cases cs with
  | nil => contradiction
  | cons c cs => exact Nat.add_pos_left c.utf8Size_pos _

def isSpace (c : Char) : Bool := c = ' ' || c = '\t' || c = '\n' || c = '\r'

def isWordPart (c : Char) : Bool := c.isAlphanum || c = '.' || c = '_'

structure Lexeme where
  kind : TokenKind
  literal : List Char
  covered : List Char
  rest : List Char
  deriving DecidableEq, Repr

namespace Lexeme

def plain (kind : TokenKind) (covered rest : List Char) : Lexeme := ⟨kind, covered, covered, rest⟩

def untilClose : List Char → Option (List Char × List Char)
  | '*' :: '*' :: cs => some ([], cs)
  | c :: cs => (untilClose cs).map fun r => (c :: r.1, r.2)
  | [] => none

/-- A description after its opening `<*`. The next character belongs to the opening and the
character after the closing `**` belongs to the closing, whatever they are. -/
def description? : List Char → Option Lexeme
  | [] => none
  | c :: cs => (untilClose cs).map fun r =>
    ⟨.description, r.1, '<' :: '*' :: c :: r.1 ++ '*' :: '*' :: r.2.take 1, r.2.drop 1⟩

def wordKind (word : List Char) : TokenKind :=
  match Keyword.ofSpelling? (String.ofList word) with
  | some k => .keyword k
  | none => .identifier

def symbolKind (c : Char) : TokenKind :=
  match Punctuation.ofChar? c with
  | some p => .punctuation p
  | none => .illegal

def cut? (c : Char) (cs : List Char) : Option Lexeme :=
  if isSpace c then some (plain .whitespace (c :: cs.takeWhile isSpace) (cs.dropWhile isSpace))
  else if c.isAlpha then
    let word := c :: cs.takeWhile isWordPart
    some (plain (wordKind word) word (cs.dropWhile isWordPart))
  else if c.isDigit then
    some (plain .number (c :: cs.takeWhile isWordPart) (cs.dropWhile isWordPart))
  else if c = '<' && cs.head? = some '*' then description? cs.tail
  else some (plain (symbolKind c) [c] cs)

theorem untilCloseSplit {cs : List Char} {r : List Char × List Char} (h : untilClose cs = some r) :
    cs = r.1 ++ '*' :: '*' :: r.2 := by
  fun_induction untilClose cs generalizing r with
  | case1 cs => cases Option.some.inj h; rfl
  | case2 c cs other ih =>
    obtain ⟨s, hs, same⟩ := Option.map_eq_some_iff.1 h
    subst same
    simp [ih hs]
  | case3 => contradiction

theorem descriptionTiles {cs : List Char} {l : Lexeme} (h : description? cs = some l) :
    l.covered ++ l.rest = '<' :: '*' :: cs ∧ l.covered ≠ [] := by
  cases cs with
  | nil => simp [description?] at h
  | cons c cs =>
    obtain ⟨r, hr, same⟩ := Option.map_eq_some_iff.1 h
    subst same
    simp [untilCloseSplit hr, -List.drop_one, List.take_append_drop]

theorem cutTiles {c : Char} {cs : List Char} {l : Lexeme} (h : cut? c cs = some l) :
    l.covered ++ l.rest = c :: cs ∧ l.covered ≠ [] := by
  unfold cut? at h
  split at h
  · cases Option.some.inj h; simp [plain]
  split at h
  · cases Option.some.inj h; simp [plain]
  split at h
  · cases Option.some.inj h; simp [plain]
  split at h
  · rename_i opening
    simp only [Bool.and_eq_true, decide_eq_true_eq] at opening
    obtain ⟨hc, hs⟩ := opening
    obtain ⟨rest, same⟩ := List.head?_eq_some_iff.1 hs
    subst hc same
    exact descriptionTiles h
  · cases Option.some.inj h; simp [plain]

theorem cutShortens {c : Char} {cs : List Char} {l : Lexeme} (h : cut? c cs = some l) :
    l.rest.length < (c :: cs).length := by
  have split := congrArg List.length (cutTiles h).1
  have covers := List.length_pos_iff.2 (cutTiles h).2
  simp only [List.length_append] at split
  omega

end Lexeme

inductive Ending
  | complete (position : Nat)
  | unclosed (span : Span)
  deriving DecidableEq, Repr

structure Scan where
  tokens : List Token
  ending : Ending
  deriving DecidableEq, Repr

namespace Scan

def fromPosition (position : Nat) : List Char → Scan
  | [] => ⟨[], .complete position⟩
  | c :: cs =>
    match _h : Lexeme.cut? c cs with
    | none => ⟨[], .unclosed ⟨position, position + byteLength (c :: cs)⟩⟩
    | some l =>
      let stop := position + byteLength l.covered
      let later := fromPosition stop l.rest
      ⟨⟨l.kind, String.ofList l.literal, ⟨position, stop⟩⟩ :: later.tokens, later.ending⟩
termination_by cs => cs.length
decreasing_by exact Lexeme.cutShortens _h

def ofText (text : String) : Scan := fromPosition 0 text.toList

end Scan

end Busbind
