import Busbind.Text.BreakClass

/-! Where a line may end. Whether it may end between two characters depends on their classes, and
on little of what stands before them: the class before a run of spaces, a hyphen after a Hebrew
letter, a flag of which only one half has come. -/
namespace Busbind.Text

namespace BreakClass

def isHard : BreakClass → Bool
  | .hardBreak | .carriageReturn | .lineFeed | .nextLine => true
  | _ => false

def isDependent : BreakClass → Bool
  | .combining | .joiner => true
  | _ => false

def alone (b : BreakClass) : BreakClass := if b.isDependent then .letter else b

def isBase (b : BreakClass) : Bool := !(b.isHard || b = .space || b = .zeroWidthSpace)

def isTrailing : BreakClass → Bool
  | .closing | .parenthesis | .exclamation | .separator | .slash => true
  | _ => false

def followers : BreakClass → List BreakClass
  | .letter | .hebrew | .number =>
    [.letter, .hebrew, .number, .beforeNumber, .afterNumber, .opening]
  | .parenthesis => [.letter, .hebrew, .number, .beforeNumber, .afterNumber]
  | .closing => [.beforeNumber, .afterNumber]
  | .separator => [.letter, .hebrew, .number]
  | .slash => [.hebrew, .number]
  | .hyphen => [.number]
  | .beforeNumber =>
    [.letter, .hebrew, .number, .opening, .ideograph, .emojiBase, .emojiModifier, .leadingJamo,
      .vowelJamo, .trailingJamo, .openSyllable, .closedSyllable]
  | .afterNumber => [.letter, .hebrew, .number, .opening]
  | .ideograph | .emojiModifier => [.afterNumber]
  | .emojiBase => [.afterNumber, .emojiModifier]
  | .leadingJamo => [.leadingJamo, .vowelJamo, .openSyllable, .closedSyllable, .afterNumber]
  | .vowelJamo | .openSyllable => [.vowelJamo, .trailingJamo, .afterNumber]
  | .trailingJamo | .closedSyllable => [.trailingJamo, .afterNumber]
  | _ => []

end BreakClass

/-- What stands before a place: the class of the last character, with what is part of it; the class
before the spaces at its end, if there are any; whether a joiner is last, whether a hyphen follows a
Hebrew letter, and whether a flag still lacks its second letter. -/
structure Before where
  last : BreakClass
  beforeSpaces : BreakClass
  joined : Bool
  hebrewHyphen : Bool
  halfFlag : Bool
  deriving DecidableEq, Repr

namespace Before

def first (b : BreakClass) : Before :=
  ⟨b.alone, b.alone, b = .joiner, false, b = .regional⟩

def absorbs (p : Before) (b : BreakClass) : Bool := b.isDependent && p.last.isBase

def next (p : Before) (b : BreakClass) : Before :=
  if p.absorbs b then { p with joined := b = .joiner }
  else
    { last := b.alone
      beforeSpaces := if b = .space then p.beforeSpaces else b.alone
      joined := b = .joiner
      hebrewHyphen := p.last = .hebrew && (b = .hyphen || b = .breakAfter)
      halfFlag := b = .regional && !(p.last = .regional && p.halfFlag) }

/-- Whether a line may end before a character. The first condition that applies decides. -/
def mayEnd (p : Before) (b : BreakClass) : Bool :=
  let r := b.alone
  if p.absorbs b then false
  else if p.last.isHard then !(p.last = .carriageReturn && r = .lineFeed)
  else if r.isHard || r = .space || r = .zeroWidthSpace then false
  else if p.beforeSpaces = .zeroWidthSpace then true
  else if p.joined || p.last = .wordJoiner || r = .wordJoiner || p.last = .glue then false
  else if r = .glue && !(p.last = .space || p.last = .breakAfter || p.last = .hyphen) then false
  else if r.isTrailing || p.beforeSpaces = .opening then false
  else if p.beforeSpaces = .quotation && r = .opening then false
  else if (p.beforeSpaces = .closing || p.beforeSpaces = .parenthesis) && r = .nonStarter then false
  else if p.beforeSpaces = .dash && r = .dash then false
  else if p.last = .space then true
  else if p.last = .quotation || r = .quotation then false
  else if p.last = .contingent || r = .contingent then true
  else if r = .breakAfter || r = .hyphen || r = .nonStarter || r = .inseparable then false
  else if p.last = .breakBefore || p.hebrewHyphen then false
  else if p.last = .regional && r = .regional then !p.halfFlag
  else !p.last.followers.contains r

end Before

def endsAfter (p : Before) : List BreakClass → List Bool
  | [] => [true]
  | b :: bs => p.mayEnd b :: endsAfter (p.next b) bs

def lineEnds (cs : List Char) : List Bool :=
  match cs.map BreakClass.ofChar with
  | [] => []
  | b :: bs => endsAfter (.first b) bs

end Busbind.Text
