import MeshTrace.Number.Binary64

namespace MeshTrace.Number

/-- The text of `places` decimal places of the quotient of `n` and `10 ^ places`. -/
def placesText (n : Nat) : Nat → List Char
  | 0 => []
  | places + 1 => placesText (n / 10) places ++ [Nat.digitChar (n % 10)]

/-- Writes a float with a fixed number of decimal places: the exact value is rounded, a tie goes to
the even digit, and the sign stays even where only zeros are left. -/
def fixedText (places : Nat) (x : Float) : List Char :=
  match Binary64.ofFloat x with
  | .nan => "NaN".toList
  | .infinite negative => (if negative then "-inf" else "inf").toList
  | .finite negative mantissa exponent =>
    let n := roundHalfEven (Binary64.units mantissa exponent * Nat.pow 10 places) Binary64.scale
    (if negative then ['-'] else []) ++ Nat.toDigits 10 (n / Nat.pow 10 places) ++
      (if places = 0 then [] else '.' :: placesText n places)

end MeshTrace.Number
