import Busbind.Vocabulary

/-! Spans and tokens. Every position is a byte offset into the UTF-8 text. -/
namespace Busbind

structure Span where
  start : Nat
  stop : Nat
  deriving DecidableEq, Repr

namespace Span

def length (s : Span) : Nat := s.stop - s.start

def isEmpty (s : Span) : Bool := s.length == 0

def ordered (s : Span) : Span := ⟨s.start, s.start + s.length⟩

theorem orderedOfLe {s : Span} (h : s.start ≤ s.stop) : s.ordered = s := by
  cases s
  simp only [ordered, length] at *
  congr
  omega

end Span

inductive TokenKind
  | keyword (k : Keyword)
  | punctuation (p : Punctuation)
  | identifier
  | number
  | description
  | whitespace
  | illegal
  | endOfInput
  deriving DecidableEq, Repr

namespace TokenKind

def describe : TokenKind → String
  | .keyword k => "keyword `" ++ k.spelling ++ "`"
  | .punctuation p => "`" ++ String.ofList [p.char] ++ "`"
  | .identifier => "identifier"
  | .number => "number"
  | .description => "description"
  | .whitespace => "whitespace"
  | .illegal => "illegal character"
  | .endOfInput => "end of input"

def startsDeclaration : TokenKind → Bool
  | .keyword k => k.role = .declaration
  | _ => false

def isName : TokenKind → Bool
  | .identifier => true
  | .keyword k => k.role ≠ .declaration && k.role ≠ .header
  | _ => false

end TokenKind

structure Token where
  kind : TokenKind
  literal : String
  span : Span
  deriving DecidableEq, Repr

namespace Token

def endOfInput (position : Nat) : Token := ⟨.endOfInput, "", ⟨position, position⟩⟩

def describe (t : Token) : String :=
  match t.kind with
  | .endOfInput | .keyword _ | .punctuation _ => t.kind.describe
  | k => k.describe ++ " `" ++ t.literal ++ "`"

def isSignificant (t : Token) : Bool := t.kind ≠ .whitespace

end Token

end Busbind
