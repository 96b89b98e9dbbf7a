import Mathlib.Data.Nat.Basic
import Busbind.Grammar.VersionNumber

/-! The texts that write a version number: decimal digits after at most one plus sign, with a
value of 32 bits. -/
namespace Busbind.VersionNumber

def Writes (s : String) (n : UInt32) : Prop :=
  ∃ ds : List Char, (s.toList = ds ∨ s.toList = '+' :: ds) ∧ ds ≠ [] ∧
    (∀ d ∈ ds, d.isDigit = true) ∧ Nat.ofDigitChars 10 ds 0 = n.toNat

theorem valueGrows (ds : List Char) (v : Nat) : v ≤ Nat.ofDigitChars 10 ds v := by
  rw [Nat.ofDigitChars_eq_ofDigitChars_zero]
  have positive : 1 ≤ 10 ^ ds.length := Nat.one_le_pow _ _ (by decide)
  calc v = 1 * v := (Nat.one_mul v).symm
    _ ≤ 10 ^ ds.length * v := Nat.mul_le_mul_right v positive
    _ ≤ _ := Nat.le_add_right _ _

theorem digitsIff {v n : Nat} {ds : List Char} (start : v ≤ bound) :
    digits v ds = .ok n ↔
      (∀ d ∈ ds, d.isDigit = true) ∧ Nat.ofDigitChars 10 ds v = n ∧ n ≤ bound := by
  induction ds generalizing v with
  | nil =>
    simp only [digits, Except.ok.injEq, Nat.ofDigitChars_nil, List.not_mem_nil]
    exact ⟨fun same => ⟨fun _ none => none.elim, same, same ▸ start⟩, fun h => h.2.1⟩
  | cons d ds ih =>
    rw [Nat.ofDigitChars_cons, Nat.mul_comm, List.forall_mem_cons]
    by_cases digit : d.isDigit = true
    · by_cases fits : v * 10 + digitValue d ≤ bound
      · simp only [digits, digit, if_true, if_pos fits, ih fits, true_and]
        rfl
      · -- The value only grows, so a step over the bound is not made good by later digits.
        have grows := valueGrows ds (v * 10 + digitValue d)
        simp only [digits, if_pos digit, if_neg fits, reduceCtorEq, false_iff]
        rintro ⟨_, rfl, small⟩
        exact fits (Nat.le_trans grows small)
    · simp [digits, digit]

theorem digitsOfPlus (ds : List Char) (n : Nat) : digits 0 ('+' :: ds) ≠ .ok n := by
  simp [digits]

theorem ofTextIff (s : String) (n : UInt32) : ofText s = .ok n ↔ Writes s n := by
  have bounded : n.toNat ≤ bound := Nat.le_of_lt_succ n.toNat_lt
  constructor
  · intro read
    obtain ⟨m, chars, same⟩ : ∃ m, ofChars s.toList = .ok m ∧ UInt32.ofNat m = n := by
      unfold ofText at read
      cases chars : ofChars s.toList with
      | error fault => rw [chars] at read; contradiction
      | ok m => rw [chars] at read; exact ⟨m, rfl, Except.ok.inj read⟩
    have value : n.toNat = m := by
      rw [← same, UInt32.toNat_ofNat_of_lt' (Nat.lt_succ_of_le (ofCharsBounded chars))]
    unfold ofChars at chars
    split at chars
    · contradiction
    · contradiction
    · rename_i ds alone text
      obtain ⟨all, sum, _⟩ := (digitsIff (Nat.zero_le _)).1 chars
      exact ⟨ds, .inr text, alone, all, by rw [sum, value]⟩
    · rename_i _ empty _ _
      obtain ⟨all, sum, _⟩ := (digitsIff (Nat.zero_le _)).1 chars
      exact ⟨s.toList, .inl rfl, empty, all, by rw [sum, value]⟩
  · rintro ⟨ds, text, some, all, sum⟩
    have read : digits 0 ds = .ok n.toNat := (digitsIff (Nat.zero_le _)).2 ⟨all, sum, bounded⟩
    have chars : ofChars s.toList = .ok n.toNat := by
      rcases text with text | text <;> rw [text]
      · unfold ofChars
        split
        · contradiction
        · exact absurd read (digitsOfPlus _ _)
        · exact absurd read (digitsOfPlus _ _)
        · exact read
      · unfold ofChars
        split <;> simp_all
    rw [ofText, chars]
    exact congrArg Except.ok (UInt32.ofNat_toNat)

theorem decimalDigits (n : Nat) : ∀ c ∈ (toString n).toList, c.isDigit = true := by
  rw [Nat.toString_eq_ofList_toDigits, String.toList_ofList]
  intro c mem
  exact Nat.isDigit_of_mem_toDigits (by decide) (by decide) mem

theorem decimalSome (n : Nat) : (toString n).toList ≠ [] := by
  rw [Nat.toString_eq_ofList_toDigits, String.toList_ofList]
  exact Nat.toDigits_ne_nil

theorem decimalValue (n : Nat) : Nat.ofDigitChars 10 (toString n).toList 0 = n := by
  rw [Nat.toString_eq_ofList_toDigits, String.toList_ofList]
  exact Nat.ofDigitChars_ten_toDigits

theorem writesDecimal (n : UInt32) : Writes (toString n.toNat) n :=
  ⟨_, .inl rfl, decimalSome _, decimalDigits _, decimalValue _⟩

end Busbind.VersionNumber
