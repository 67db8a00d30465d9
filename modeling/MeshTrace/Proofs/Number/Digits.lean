import MeshTrace.Number.Integer

namespace MeshTrace.Number

variable {base : Nat}

theorem lt_of_below? {limit n : Nat} {cs : List Char} (found : below? limit base cs = some n) : n < limit := by
  have both := (Option.filter_eq_some_iff.mp found).2
  simpa using both

theorem digitValue?_digitChar {d : Nat} (small : d < base) (limit : base ≤ 16) :
    digitValue? base (Nat.digitChar d) = some d := by
  have bound : d < 16 := Nat.lt_of_lt_of_le small limit
  have value : ∀ d < 16, ∀ b ≤ 16, d < b → digitValue? b (Nat.digitChar d) = some d := by decide
  exact value d bound base limit small

theorem digitsFrom?_append (high : Nat) (front back : List Char) :
    digitsFrom? base high (front ++ back) = (digitsFrom? base high front).bind (digitsFrom? base · back) := by
  induction front generalizing high with
  | nil => rfl
  | cons c front ih =>
    simp only [List.cons_append, digitsFrom?]
    split
    · rfl
    · exact ih _

/-- Zeros in front change nothing. -/
theorem digitsFrom?_zeros (positive : 0 < base) (k : Nat) (cs : List Char) :
    digitsFrom? base 0 (List.replicate k '0' ++ cs) = digitsFrom? base 0 cs := by
  have zero : digitValue? base '0' = some 0 := by simp [digitValue?, positive]
  induction k with
  | zero => rfl
  | succ k ih => rw [List.replicate_succ, List.cons_append, digitsFrom?, zero, ← ih, Nat.zero_mul]

theorem digitsFrom?_toDigits (least : 1 < base) (limit : base ≤ 16) (n : Nat) :
    digitsFrom? base 0 (Nat.toDigits base n) = some n := by
  induction n using Nat.strongRecOn with
  | _ n ih =>
    rw [Nat.toDigits_eq_if least]
    by_cases small : n < base
    · simp [small, digitsFrom?, digitValue?_digitChar small limit]
    · have shorter : n / base < n := Nat.div_lt_self (by omega) least
      have last := digitValue?_digitChar (Nat.mod_lt n (by omega)) limit
      have whole := Nat.div_add_mod' n base
      rw [if_neg small, digitsFrom?_append, ih _ shorter]
      simp [digitsFrom?, last, whole]

theorem exists_of_mem_toDigits {n : Nat} (least : 1 < base) {c : Char} (member : c ∈ Nat.toDigits base n) :
    ∃ d < base, c = Nat.digitChar d := by
  induction n using Nat.strongRecOn with
  | _ n ih =>
    rw [Nat.toDigits_eq_if least] at member
    by_cases small : n < base
    · rw [if_pos small] at member
      exact ⟨n, small, List.mem_singleton.mp member⟩
    · rw [if_neg small, List.mem_append] at member
      rcases member with front | last
      · exact ih _ (Nat.div_lt_self (by omega) least) front
      · exact ⟨n % base, Nat.mod_lt n (by omega), List.mem_singleton.mp last⟩

/-- The letter case of a digit does not matter. -/
theorem digitValue?_toLower (c : Char) : digitValue? base c.toLower = digitValue? base c := by
  by_cases upper : 'A'.val ≤ c.val ∧ c.val ≤ 'Z'.val
  · have low : 0x41 ≤ c.toNat := upper.1
    have high : c.toNat ≤ 0x5A := upper.2
    have shifted : c.toLower.val = c.val + ('a'.val - 'A'.val) := congrArg Char.val (dif_pos upper)
    have lowered : c.toLower.toNat = c.toNat + 0x20 := by
      simp only [Char.toNat, shifted]
      rw [UInt32.toNat_add]
      exact Nat.mod_eq_of_lt (Nat.lt_of_le_of_lt (Nat.add_le_add_right high 0x20) (by decide))
    have value : c.toNat + 0x20 - 0x61 = c.toNat - 0x41 := by omega
    have noDigit : ¬(0x30 ≤ c.toNat + 0x20 ∧ c.toNat + 0x20 ≤ 0x39) := by omega
    have lower : 0x61 ≤ c.toNat + 0x20 ∧ c.toNat + 0x20 ≤ 0x7A := by omega
    have noDigit' : ¬(0x30 ≤ c.toNat ∧ c.toNat ≤ 0x39) := by omega
    have noLower : ¬(0x61 ≤ c.toNat ∧ c.toNat ≤ 0x7A) := by omega
    simp only [digitValue?, lowered, Bool.and_eq_true, decide_eq_true_eq, if_neg noDigit, if_pos lower,
      if_neg noDigit', if_neg noLower, if_pos (And.intro low high), value]
  · have same : c.toLower = c := dif_neg upper
    rw [same]

theorem digitsFrom?_map_toLower (high : Nat) (cs : List Char) :
    digitsFrom? base high (cs.map Char.toLower) = digitsFrom? base high cs := by
  induction cs generalizing high with
  | nil => rfl
  | cons c cs ih => simp only [List.map_cons, digitsFrom?, digitValue?_toLower, ih]

theorem below?_eq_filter {limit : Nat} {cs : List Char} (unsigned : cs.head? ≠ some '+') :
    below? limit base cs = (natural? base cs).filter (· < limit) := by
  unfold below?
  split
  · exact absurd rfl unsigned
  · rfl

theorem head?_toDigits_ne (n : Nat) {c : Char} (other : c.isDigit = false) :
    (Nat.toDigits 10 n).head? ≠ some c := by
  intro first
  have digit := Nat.isDigit_of_mem_toDigits (by decide) (by decide) (List.mem_of_head? first)
  exact Bool.noConfusion (other.symm.trans digit)

theorem natural?_toDigits (n : Nat) : natural? 10 (Nat.toDigits 10 n) = some n := by
  rw [natural?, if_neg (by simp), digitsFrom?_toDigits (by decide) (by decide)]

theorem below?_toDigits {limit n : Nat} (small : n < limit) :
    below? limit 10 (Nat.toDigits 10 n) = some n := by
  rw [below?_eq_filter (head?_toDigits_ne n (by decide)), natural?_toDigits, Option.filter_some,
    if_pos (by simpa using small)]

/-- The digits of a time, after a minus sign if it is negative. -/
def timeText (t : Int) : List Char :=
  if t < 0 then '-' :: Nat.toDigits 10 t.natAbs else Nat.toDigits 10 t.natAbs

theorem timeText_natCast (n : Nat) : timeText n = Nat.toDigits 10 n := by
  rw [timeText, if_neg (by omega), Int.natAbs_natCast]

theorem timeText_ne_nil (t : Int) : timeText t ≠ [] := by
  unfold timeText
  split
  · simp
  · exact Nat.toDigits_ne_nil

/-- A time in its range is read back. -/
theorem time?_timeText {t : Int} (low : timeMin ≤ t) (high : t ≤ timeMax) : time? (timeText t) = some t := by
  unfold timeText
  by_cases negative : t < 0
  · have value : -(t.natAbs : Int) = t := by omega
    rw [if_pos negative]
    simp only [time?, natural?_toDigits, Option.bind_eq_bind, Option.bind_some, Option.pure_def, Option.map_some,
      value, Option.filter_some, low, decide_true, if_true]
  · have value : (t.natAbs : Int) = t := by omega
    have small : t.natAbs < 0x8000000000000000 := by unfold timeMax at high; omega
    rw [if_neg negative]
    unfold time?
    split
    · rename_i rest digits
      exact absurd (congrArg List.head? digits) (head?_toDigits_ne _ (by decide))
    · rw [below?_toDigits small, Option.map_some]
      exact congrArg some value

end MeshTrace.Number
