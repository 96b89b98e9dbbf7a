import Busbind.Grammar.Declarations
import Busbind.Grammar.Header

/-! From text to definition. The header decides whether there is a definition at all; after it only
a description that is never closed can still refuse the text. -/
namespace Busbind.Definition

def ofScan (scan : Scan) : Except Rejection Definition := do
  let ((package, interface), rest) ← Header.clauses scan.ending scan.tokens
  match scan.ending with
  | .unclosed span => .error (.unclosedDescription span)
  | .complete _ =>
    .ok (ofDeclarations package interface
      (Declarations.declarations (rest.filter Token.isSignificant)))

def ofText (text : String) : Except Rejection Definition := ofScan (Scan.ofText text)

end Busbind.Definition

namespace Busbind.Scan

def tokens? (scan : Scan) : Except Rejection (List Token) :=
  match scan.ending with
  | .complete position => .ok (scan.tokens ++ [Token.endOfInput position])
  | .unclosed span => .error (.unclosedDescription span)

/-- What the first `count` readings of single tokens give. The end of the text is read again
without limit; a description that is never closed is refused once and ends the text. -/
def readings (scan : Scan) (count : Nat) : List (Except Rejection Token) :=
  let ending : List (Except Rejection Token) :=
    match scan.ending with
    | .complete _ => []
    | .unclosed span => [.error (.unclosedDescription span)]
  let position :=
    match scan.ending with
    | .complete position => position
    | .unclosed span => span.stop
  let sure := scan.tokens.map Except.ok ++ ending
  (sure ++ List.replicate (count - sure.length) (.ok (Token.endOfInput position))).take count

end Busbind.Scan

namespace Busbind.Source

/-- The text of a stream that is delivered in parts. A failure to read comes before any question
about its encoding. -/
def ofParts (parts : List ByteArray) (failure : Option String) : Except Rejection String :=
  match failure with
  | some reason => .error (.unreadable reason)
  | none =>
    match String.fromUTF8? (parts.foldl ByteArray.append ByteArray.empty) with
    | some text => .ok text
    | none => .error (.unreadable "stream did not contain valid UTF-8")

end Busbind.Source
