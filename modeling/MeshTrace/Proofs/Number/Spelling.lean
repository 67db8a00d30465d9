import Mathlib.Data.List.Induction
import Mathlib.Tactic.SplitIfs
import MeshTrace.Proofs.Number.Digits

namespace MeshTrace.Number

variable {base : Nat}

/-- A digit in a small base has the same value in base sixteen. -/
theorem digitValue?_sixteen (limit : base ≤ 16) {c : Char} {d : Nat} (read : digitValue? base c = some d) :
    c.toNat < 0x80 ∧ d < base ∧ digitValue? 16 c = some d := by
  simp only [digitValue?, Option.ite_none_right_eq_some, Option.some.injEq, Bool.and_eq_true,
    decide_eq_true_eq] at read ⊢
  obtain ⟨small, rfl⟩ := read
  split_ifs at small ⊢ <;> omega

/-- A digit is the character of its value, in lower case. -/
theorem toLower_of_digitValue? (limit : base ≤ 16) {c : Char} {d : Nat} (read : digitValue? base c = some d) :
    c.toLower = Nat.digitChar d := by
  have value : ∀ n < 0x80, ∀ d < 16, digitValue? 16 (Char.ofNat n) = some d →
      (Char.ofNat n).toLower = Nat.digitChar d := by decide +kernel
  obtain ⟨ascii, small, read⟩ := digitValue?_sixteen limit read
  rw [← Char.ofNat_toNat c] at read ⊢
  exact value c.toNat ascii d (Nat.lt_of_lt_of_le small limit) read

/-- The characters are the digits of the number, in either letter case, with or without zeros in front. -/
def Spells (base n : Nat) (cs : List Char) : Prop :=
  ∃ zeros, cs.map Char.toLower = List.replicate zeros '0' ++ Nat.toDigits base n

/-- One more digit spells the next number. -/
theorem Spells.snoc (least : 1 < base) {high d : Nat} {cs : List Char} (spelled : Spells base high cs)
    (small : d < base) {c : Char} (last : c.toLower = Nat.digitChar d) :
    Spells base (high * base + d) (cs ++ [c]) := by
  obtain ⟨zeros, digits⟩ := spelled
  have low : (high * base + d) % base = d := by rw [Nat.mul_add_mod', Nat.mod_eq_of_lt small]
  rcases Nat.eq_zero_or_pos high with rfl | positive
  · refine ⟨zeros + 1, ?_⟩
    rw [List.map_append, digits, Nat.zero_mul, Nat.zero_add, Nat.toDigits_of_lt_base small, List.replicate_succ',
      Nat.toDigits_of_lt_base (Nat.zero_lt_of_lt least), List.map_singleton, last]
    rfl
  · have large : ¬high * base + d < base :=
      Nat.not_lt.mpr (Nat.le_add_right_of_le (Nat.le_mul_of_pos_left base positive))
    have front : (high * base + d) / base = high := by
      rw [Nat.mul_comm, Nat.mul_add_div (by omega), Nat.div_eq_of_lt small, Nat.add_zero]
    refine ⟨zeros, ?_⟩
    have whole : Nat.toDigits base (high * base + d) = Nat.toDigits base high ++ [Nat.digitChar d] := by
      rw [Nat.toDigits_eq_if least, if_neg large, front, low]
    rw [List.map_append, digits, whole, List.map_singleton, last, List.append_assoc]

/-- What is read as a number spells it. -/
theorem spells_of_digitsFrom? (least : 1 < base) (limit : base ≤ 16) {cs : List Char} (nonempty : cs ≠ [])
    {n : Nat} (read : digitsFrom? base 0 cs = some n) : Spells base n cs := by
  induction cs using List.reverseRecOn generalizing n with
  | nil => exact absurd rfl nonempty
  | append_singleton cs c ih =>
    rw [digitsFrom?_append] at read
    obtain ⟨high, front, back⟩ := Option.bind_eq_some_iff.mp read
    simp only [digitsFrom?] at back
    split at back
    · cases back
    · rename_i d digit
      obtain rfl := Option.some.inj back
      have small := (digitValue?_sixteen limit digit).2.1
      have last := toLower_of_digitValue? limit digit
      by_cases first : cs = []
      · subst first
        obtain rfl := Option.some.inj front
        refine ⟨0, ?_⟩
        rw [Nat.zero_mul, Nat.zero_add, Nat.toDigits_of_lt_base small, List.nil_append, List.map_singleton, last]
        rfl
      · exact (ih first front).snoc least small last

/-- A number is read from what spells it, and from nothing else. -/
theorem natural?_eq_some_iff (least : 1 < base) (limit : base ≤ 16) {cs : List Char} {n : Nat} :
    natural? base cs = some n ↔ Spells base n cs := by
  have positive : 0 < base := Nat.zero_lt_of_lt least
  rw [natural?, Option.ite_none_left_eq_some, List.isEmpty_iff]
  constructor
  · rintro ⟨nonempty, read⟩
    exact spells_of_digitsFrom? least limit nonempty read
  · rintro ⟨zeros, digits⟩
    refine ⟨?_, ?_⟩
    · rintro rfl
      simp at digits
    · rw [← digitsFrom?_map_toLower, digits, digitsFrom?_zeros positive, digitsFrom?_toDigits least limit]

/-- A number may be read behind a plus sign. -/
theorem below?_eq_some_iff (least : 1 < base) (limit : base ≤ 16) {bound n : Nat} {cs : List Char} :
    below? bound base cs = some n ↔
      ∃ digits, (cs = digits ∨ cs = '+' :: digits) ∧ Spells base n digits ∧ n < bound := by
  have sign (cs : List Char) : natural? base ('+' :: cs) = none := by
    simp [natural?, digitsFrom?, digitValue?]
  simp only [← natural?_eq_some_iff least limit]
  unfold below?
  split
  · rename_i rest
    rw [Option.filter_eq_some_iff, decide_eq_true_eq]
    constructor
    · rintro ⟨read, small⟩
      exact ⟨rest, Or.inr rfl, read, small⟩
    · rintro ⟨digits, rfl | same, read, small⟩
      · cases (sign rest).symm.trans read
      · obtain rfl := (List.cons.inj same).2
        exact ⟨read, small⟩
  · rename_i unsigned
    rw [Option.filter_eq_some_iff, decide_eq_true_eq]
    constructor
    · rintro ⟨read, small⟩
      exact ⟨cs, Or.inl rfl, read, small⟩
    · rintro ⟨digits, rfl | rfl, read, small⟩
      · exact ⟨read, small⟩
      · exact absurd rfl (unsigned digits)

end MeshTrace.Number
