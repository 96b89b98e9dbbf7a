import Mathlib.Data.List.TakeWhile
import Mathlib.Order.Defs.LinearOrder
import Busbind.Text.Quoted

/-! Quoted text for people, read back one character at a time: a short escape, a number between
braces, or a character that stands for itself. So no two texts are quoted alike, and a quoted text
stays on one line. -/
namespace Busbind.Text

def hexValue? (c : Char) : Option Nat :=
  if c.isDigit then some (c.toNat - 48)
  else if 'a' ≤ c ∧ c ≤ 'f' then some (c.toNat - 87)
  else if 'A' ≤ c ∧ c ≤ 'F' then some (c.toNat - 55)
  else none

theorem hexValueDigit : ∀ d < 16, hexValue? (Nat.digitChar d) = some d := by decide

def hexNumber (cs : List Char) : Nat := cs.foldl (fun n c => 16 * n + (hexValue? c).getD 0) 0

theorem hexadecimalNumber (n : Nat) : hexNumber (hexadecimal n) = n := by
  induction n using Nat.strong_induction_on with
  | _ n ih =>
    rcases Nat.lt_or_ge n 16 with small | large
    · rw [hexadecimal, Nat.toDigits_of_lt_base small, hexNumber, List.foldl_cons, List.foldl_nil,
        hexValueDigit n small]
      exact Nat.zero_add n
    · have front := ih (n / 16) (Nat.div_lt_self (by omega) (by decide))
      rw [hexNumber, hexadecimal] at front
      rw [hexadecimal, Nat.toDigits_of_base_le (by decide) large, hexNumber, List.foldl_append,
        front, List.foldl_cons, List.foldl_nil, hexValueDigit (n % 16) (Nat.mod_lt _ (by decide))]
      exact Nat.div_add_mod n 16

theorem hexadecimalDigits {n : Nat} : ∀ c ∈ hexadecimal n, ∃ d < 16, c = Nat.digitChar d := by
  induction n using Nat.strong_induction_on with
  | _ n ih =>
    intro c mem
    rcases Nat.lt_or_ge n 16 with small | large
    · rw [hexadecimal, Nat.toDigits_of_lt_base small, List.mem_singleton] at mem
      exact ⟨n, small, mem⟩
    · rw [hexadecimal, Nat.toDigits_of_base_le (by decide) large, List.mem_append,
        List.mem_singleton] at mem
      rcases mem with front | last
      · exact ih (n / 16) (Nat.div_lt_self (by omega) (by decide)) c front
      · exact ⟨n % 16, Nat.mod_lt _ (by decide), last⟩

theorem digitPlain : ∀ d < 16, Nat.digitChar d ≠ '\x7d' ∧ Nat.digitChar d ≠ '\n' := by decide

def shortEscape? : Char → Option Char
  | '0' => some '\x00'
  | 't' => some '\t'
  | 'r' => some '\r'
  | 'n' => some '\n'
  | '"' => some '"'
  | '\\' => some '\\'
  | _ => none

def readChar? : List Char → Option (Char × List Char)
  | [] => none
  | '\\' :: 'u' :: '\x7b' :: cs =>
    some (Char.ofNat (hexNumber (cs.takeWhile (· ≠ '\x7d'))), (cs.dropWhile (· ≠ '\x7d')).drop 1)
  | '\\' :: e :: cs => (shortEscape? e).map fun c => (c, cs)
  | c :: cs => some (c, cs)

theorem numberRead (c : Char) (cs : List Char) :
    readChar? (['\\', 'u', '\x7b'] ++ hexadecimal c.toNat ++ ['\x7d'] ++ cs) = some (c, cs) := by
  have digits : ∀ d ∈ hexadecimal c.toNat, decide (d ≠ '\x7d') = true := by
    intro d mem
    obtain ⟨n, small, rfl⟩ := hexadecimalDigits d mem
    exact decide_eq_true (digitPlain n small).1
  simp only [List.append_assoc, List.cons_append, List.nil_append, readChar?,
    List.takeWhile_append_of_pos digits, List.dropWhile_append_of_pos digits]
  simp [hexadecimalNumber, Char.ofNat_toNat]

theorem charRead (c : Char) (next : Option Char) (cs : List Char) :
    readChar? (encodeChar .people c next ++ cs) = some (c, cs) := by
  unfold encodeChar
  split_ifs with null octal tab carriageReturn lineFeed quotes slash escaped
  · simp at octal
  iterate 6
    subst c
    rfl
  · exact numberRead c cs
  · simp [readChar?, slash]

theorem encodeInjective {cs ds : List Char} (same : encode .people cs = encode .people ds) :
    cs = ds := by
  induction cs generalizing ds with
  | nil =>
    cases ds with
    | nil => rfl
    | cons d ds =>
      have read := charRead d ds.head? (encode .people ds)
      rw [← encode, ← same] at read
      contradiction
  | cons c cs ih =>
    have first := charRead c cs.head? (encode .people cs)
    rw [← encode, same] at first
    cases ds with
    | nil => contradiction
    | cons d ds =>
      have second := charRead d ds.head? (encode .people ds)
      rw [← encode, first] at second
      obtain ⟨rfl, rest⟩ := Prod.mk.inj (Option.some.inj second)
      rw [ih rest]

theorem quotedInjective {s t : String} (same : quoted .people s = quoted .people t) : s = t := by
  have encoded : encode .people s.toList ++ ['"'] = encode .people t.toList ++ ['"'] :=
    List.cons.inj (String.ofList_injective same) |>.2
  exact String.toList_inj.1 (encodeInjective (List.append_cancel_right encoded))

theorem charUnbroken (c : Char) (next : Option Char) : '\n' ∉ encodeChar .people c next := by
  unfold encodeChar
  split_ifs with null octal tab carriageReturn lineFeed quotes slash escaped
  iterate 7 decide
  · rw [List.mem_append, List.mem_append]
    rintro ((opening | digit) | closing)
    · revert opening
      decide
    · obtain ⟨d, small, same⟩ := hexadecimalDigits _ digit
      exact (digitPlain d small).2 same.symm
    · revert closing
      decide
  · simpa using Ne.symm lineFeed

theorem quotedUnbroken (s : String) : '\n' ∉ (quoted .people s).toList := by
  have unbroken (cs : List Char) : '\n' ∉ encode .people cs := by
    induction cs with
    | nil => simp [encode]
    | cons c cs ih =>
      exact fun mem => (List.mem_append.1 mem).elim (charUnbroken c cs.head?) ih
  simp [quoted, unbroken]

end Busbind.Text
