import MeshTrace.Number.Fixed
import MeshTrace.Number.Reading
import MeshTrace.Proofs.Number.Digits
import MeshTrace.Proofs.Text.Blank
import MeshTrace.Proofs.Text.Shape

namespace MeshTrace.Number

theorem isDigit_of_mem_placesText {n places : Nat} {c : Char} (member : c ∈ placesText n places) :
    c.isDigit = true := by
  induction places generalizing n with
  | zero => cases member
  | succ places ih =>
    rcases List.mem_append.mp member with front | last
    · exact ih front
    · rw [List.mem_singleton.mp last, Nat.isDigit_digitChar]
      exact decide_eq_true (Nat.mod_lt n (by decide))

theorem isDigit_of_mem_toDigits {n : Nat} {c : Char} (member : c ∈ Nat.toDigits 10 n) : c.isDigit = true :=
  Nat.isDigit_of_mem_toDigits (by decide) (by decide) member

theorem solid_timeText (t : Int) : Text.Solid (timeText t) := by
  have digits : Text.Solid (Nat.toDigits 10 t.natAbs) :=
    fun c member => Text.isBlank_of_isDigit (isDigit_of_mem_toDigits member)
  unfold timeText
  split
  · intro c member
    rcases List.mem_cons.mp member with rfl | rest
    · decide
    · exact digits c rest
  · exact digits

/-- A float is written by name, or as digits with a point among them. -/
theorem fixedText_cases {places : Nat} (positive : places ≠ 0) (x : Float) :
    fixedText places x ∈ ["NaN".toList, "inf".toList, "-inf".toList] ∨
      ∃ (negative : Bool) (n : Nat), fixedText places x = (if negative then ['-'] else []) ++
        (Nat.toDigits 10 (n / Nat.pow 10 places) ++ '.' :: placesText n places) := by
  unfold fixedText
  split
  · exact Or.inl (by decide)
  · rename_i negative _
    cases negative <;> exact Or.inl (by decide)
  · rename_i negative mantissa exponent _
    refine Or.inr ⟨negative, roundHalfEven (Binary64.units mantissa exponent * Nat.pow 10 places) Binary64.scale, ?_⟩
    simp only [if_neg positive, List.append_assoc]

theorem fixedText_ne_nil {places : Nat} (positive : places ≠ 0) (x : Float) : fixedText places x ≠ [] := by
  rcases fixedText_cases positive x with named | ⟨negative, n, digits⟩
  · intro empty
    rw [empty] at named
    revert named
    decide
  · simp [digits]

/-- A figure is written without blanks. -/
theorem isBlank_of_mem_fixedText {places : Nat} (positive : places ≠ 0) {x : Float} {c : Char}
    (member : c ∈ fixedText places x) : isBlank c = false := by
  rcases fixedText_cases positive x with named | ⟨negative, n, digits⟩
  · have plain : ∀ name ∈ ["NaN".toList, "inf".toList, "-inf".toList], Text.Solid name := by decide
    exact plain _ named c member
  · rw [digits] at member
    rcases List.mem_append.mp member with sign | number
    · cases negative with
      | true => rw [List.mem_singleton.mp sign]; decide
      | false => cases sign
    · rcases List.mem_append.mp number with whole | fraction
      · exact Text.isBlank_of_isDigit (isDigit_of_mem_toDigits whole)
      · rcases List.mem_cons.mp fraction with point | place
        · rw [point]; decide
        · exact Text.isBlank_of_isDigit (isDigit_of_mem_placesText place)

theorem length_placesText (n places : Nat) : (placesText n places).length = places := by
  induction places generalizing n with
  | zero => rfl
  | succ places ih => rw [placesText, List.length_append, ih, List.length_singleton]

/-- The places that are written are read on from the number before them. -/
theorem digitsFrom?_placesText (high n places : Nat) :
    digitsFrom? 10 high (placesText n places) = some (high * Nat.pow 10 places + n % Nat.pow 10 places) := by
  induction places generalizing n with
  | zero => simp [placesText, digitsFrom?, Nat.mod_one]
  | succ places ih =>
    have next : Nat.pow 10 (places + 1) = Nat.pow 10 places * 10 := rfl
    have parts : n % (Nat.pow 10 places * 10) = n / 10 % Nat.pow 10 places * 10 + n % 10 := by
      rw [Nat.mul_comm (Nat.pow 10 places) 10, Nat.mod_mul, Nat.mul_comm 10, Nat.add_comm]
    have last := digitValue?_digitChar (Nat.mod_lt n (by decide : 0 < 10)) (by decide)
    rw [placesText, digitsFrom?_append, ih, Option.bind_some, digitsFrom?, last, next, parts]
    simp only [digitsFrom?, Nat.add_mul, Nat.mul_assoc, Nat.add_assoc]

/-- The places before the point and those after it are the digits of one number. -/
theorem natural?_digits (n places : Nat) :
    natural? 10 (Nat.toDigits 10 (n / Nat.pow 10 places) ++ placesText n places) = some n := by
  have whole := digitsFrom?_toDigits (by decide : 1 < 10) (by decide) (n / Nat.pow 10 places)
  rw [natural?, if_neg (by simp), digitsFrom?_append, whole, Option.bind_some, digitsFrom?_placesText,
    Nat.div_add_mod']

/-- Digits with a point among them are a numeral. -/
theorem Numeral.ofText?_digits (n places : Nat) :
    Numeral.ofText? (Nat.toDigits 10 (n / Nat.pow 10 places) ++ '.' :: placesText n places) =
      some ⟨n, -(places : Int)⟩ := by
  have wholeDigits : ∀ c ∈ Nat.toDigits 10 (n / Nat.pow 10 places), c.isDigit = true :=
    fun c => isDigit_of_mem_toDigits
  have placesDigits : ∀ c ∈ placesText n places, c.isDigit = true := fun c => isDigit_of_mem_placesText
  have point : Text.Stops Char.isDigit ('.' :: placesText n places) := by
    rintro c ⟨⟩
    rfl
  have noMore := Text.stops_nil Char.isDigit
  have front := Text.takeWhile_append_of_stops wholeDigits point
  have back := Text.dropWhile_append_of_stops wholeDigits point
  have fraction := Text.takeWhile_append_of_stops placesDigits noMore
  have nothing := Text.dropWhile_append_of_stops placesDigits noMore
  rw [List.append_nil] at fraction nothing
  simp only [Numeral.ofText?, front, back, fraction, nothing, natural?_digits, length_placesText]

/-- A numeral with a point is no name. -/
theorem unsignedFloat?_digits (n places : Nat) :
    unsignedFloat? (Nat.toDigits 10 (n / Nat.pow 10 places) ++ '.' :: placesText n places) =
      some (Numeral.toFloat ⟨n, -(places : Int)⟩) := by
  have named {name : List Char} (none : '.' ∉ name) :
      (Nat.toDigits 10 (n / Nat.pow 10 places) ++ '.' :: placesText n places).map Char.toLower ≠ name := by
    rintro rfl
    exact none (List.mem_map.mpr ⟨'.', by simp, by decide⟩)
  have infinity := not_or.mpr ⟨named (by decide : '.' ∉ "inf".toList), named (by decide : '.' ∉ "infinity".toList)⟩
  simp only [unsignedFloat?, Bool.or_eq_true, decide_eq_true_eq, if_neg infinity,
    if_neg (named (by decide : '.' ∉ "nan".toList)), Numeral.ofText?_digits, Option.map_some]

/-- Digits after an optional minus sign, with a point among them, are read as the nearest float. -/
theorem float?_digits (negative : Bool) (n places : Nat) :
    float? ((if negative then ['-'] else []) ++
        (Nat.toDigits 10 (n / Nat.pow 10 places) ++ '.' :: placesText n places)) =
      some (if negative then -Numeral.toFloat ⟨n, -(places : Int)⟩ else Numeral.toFloat ⟨n, -(places : Int)⟩) := by
  have number := unsignedFloat?_digits n places
  cases negative with
  | true => rw [if_pos rfl, if_pos rfl, List.singleton_append, float?, number, Option.map_some]
  | false =>
    have first (c : Char) (other : c.isDigit = false) :
        (Nat.toDigits 10 (n / Nat.pow 10 places) ++ '.' :: placesText n places).head? ≠ some c := by
      rw [List.head?_append_of_ne_nil _ Nat.toDigits_ne_nil]
      exact head?_toDigits_ne _ other
    rw [if_neg (by decide), if_neg (by decide), List.nil_append]
    unfold float?
    split
    · rename_i rest signed
      exact absurd (congrArg List.head? signed) (first _ (by decide))
    · rename_i rest signed
      exact absurd (congrArg List.head? signed) (first _ (by decide))
    · exact number

/-- Every float that was written can be read. -/
theorem float?_fixedText_isSome {places : Nat} (positive : places ≠ 0) (x : Float) :
    (float? (fixedText places x)).isSome = true := by
  rcases fixedText_cases positive x with named | ⟨negative, n, digits⟩
  · have readable : ∀ name ∈ ["NaN".toList, "inf".toList, "-inf".toList], (float? name).isSome = true := by
      decide
    exact readable _ named
  · have number := float?_digits negative n places
    rw [digits]
    exact Option.isSome_of_eq_some number

end MeshTrace.Number
