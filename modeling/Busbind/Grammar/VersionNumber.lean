import Busbind.Rejection

/-! Version numbers: decimal digits whose value fits in 32 bits. The digits are read from the left
and the first fault found there is the one reported. -/
namespace Busbind.VersionNumber

def bound : Nat := 4294967295

def digitValue (c : Char) : Nat := c.toNat - '0'.toNat

/-- Reads digits after a value. A digit is judged before the value it would make. -/
def digits (value : Nat) : List Char → Except NumberFault Nat
  | [] => .ok value
  | c :: cs =>
    if c.isDigit then
      let next := value * 10 + digitValue c
      if next ≤ bound then digits next cs else .error .tooLarge
    else .error .invalidDigit

def ofChars : List Char → Except NumberFault Nat
  | [] => .error .empty
  | ['+'] => .error .invalidDigit
  | '+' :: cs => digits 0 cs
  | cs => digits 0 cs

def ofText (s : String) : Except NumberFault UInt32 := (ofChars s.toList).map UInt32.ofNat

theorem digitsBounded {v n : Nat} {cs : List Char} (start : v ≤ bound)
    (h : digits v cs = .ok n) : n ≤ bound := by
  induction cs generalizing v with
  | nil => cases h; exact start
  | cons c cs ih =>
    simp only [digits] at h
    split at h
    · split at h
      · rename_i fits
        exact ih fits h
      · contradiction
    · contradiction

theorem ofCharsBounded {n : Nat} {cs : List Char} (h : ofChars cs = .ok n) : n ≤ bound := by
  unfold ofChars at h
  split at h
  · contradiction
  · contradiction
  · exact digitsBounded (Nat.zero_le _) h
  · exact digitsBounded (Nat.zero_le _) h

end Busbind.VersionNumber
