import Busbind.Text.Escaped

/-! Quoted text: a string between double quotes with escapes for what cannot stand there as it is.
Two dialects share every rule but one, the spelling of NUL. -/
namespace Busbind.Text

def hexadecimal (n : Nat) : List Char := Nat.toDigits 16 n

/-- Where a quoted text is read again: by people, or by a compiler that reads a digit after `\0`
as part of the escape. -/
inductive Reader
  | people
  | compiler
  deriving DecidableEq, Repr

def isOctal (c : Char) : Bool := '0' ≤ c && c ≤ '7'

def encodeChar (reader : Reader) (c : Char) (next : Option Char) : List Char :=
  if c = '\x00' then
    if reader = .compiler && next.any isOctal then ['\\', 'x', '0', '0'] else ['\\', '0']
  else if c = '\t' then ['\\', 't']
  else if c = '\r' then ['\\', 'r']
  else if c = '\n' then ['\\', 'n']
  else if c = '"' then ['\\', '"']
  else if c = '\\' then ['\\', '\\']
  else if isEscaped c then ['\\', 'u', '\x7b'] ++ hexadecimal c.toNat ++ ['\x7d']
  else [c]

def encode (reader : Reader) : List Char → List Char
  | [] => []
  | c :: cs => encodeChar reader c cs.head? ++ encode reader cs

def quoted (reader : Reader) (s : String) : String :=
  String.ofList ('"' :: encode reader s.toList ++ ['"'])

end Busbind.Text
