import MeshTrace.Number.Binary64

namespace MeshTrace.Number

/-- A positive number as decimal digits: `digits * 10 ^ power`. -/
structure Decimal where
  digits : Nat
  power : Int
  deriving DecidableEq, Repr

namespace Decimal

/-- Drops zeros at the end of the digits, at most `fuel` of them. -/
def trimZeros : Nat → Decimal → Decimal
  | 0, d => d
  | fuel + 1, d =>
    if d.digits ≠ 0 && d.digits % 10 = 0 then trimZeros fuel ⟨d.digits / 10, d.power + 1⟩ else d

/-- How many digits a number has. -/
def width (n : Nat) : Nat := (Nat.toDigits 10 n).length

/-- Grids of powers of ten are counted from `10 ^ -lowest`, below all floats. -/
def lowest : Nat := 400

/-- The candidate on the grid of `10 ^ (grid - lowest)` that reads back as the float, the nearer one
if there are two. A number reads back if it lies between the midpoints to the neighbouring floats;
the midpoints themselves belong to the even mantissa. -/
def onGrid? (mantissa exponent grid : Nat) : Option Nat :=
  let value := 4 * Binary64.units mantissa exponent * Nat.pow 10 lowest
  let step := Nat.pow 2 exponent * Nat.pow 10 lowest
  let below := if mantissa = Nat.pow 2 52 && exponent ≠ 0 then step else 2 * step
  let above := 2 * step
  let unit := 4 * Binary64.scale * Nat.pow 10 grid
  let readsBack (n : Nat) : Bool :=
    let candidate := n * unit
    if mantissa % 2 = 0 then value ≤ candidate + below && candidate ≤ value + above
    else value < candidate + below && candidate < value + above
  let low := value / unit
  let offLow := value - low * unit
  let offHigh := (low + 1) * unit - value
  let lowNearer := offLow < offHigh || (offLow = offHigh && low % 2 = 0)
  if readsBack low && (lowNearer || !readsBack (low + 1)) then some low
  else if readsBack (low + 1) then some (low + 1)
  else none

/-- The first of the grids, from coarse to fine, that has a number which reads back. -/
def onGridsFrom (mantissa exponent : Nat) : Nat → Nat → Decimal
  | 0, grid => ⟨0, (grid : Int) - lowest⟩
  | count + 1, grid =>
    match onGrid? mantissa exponent grid with
    | some digits => ⟨digits, (grid : Int) - lowest⟩
    | none => onGridsFrom mantissa exponent count (grid - 1)

/-- The fewest digits that read back as a positive float, and of those the nearest ones. -/
def ofFloatParts (mantissa exponent : Nat) : Decimal :=
  let first := width (Binary64.units mantissa exponent * Nat.pow 10 lowest / Binary64.scale) - 1
  trimZeros 20 (onGridsFrom mantissa exponent 18 first)

end Decimal

/-- Writes digits without an exponent, and with a point only if there are decimal places. -/
def positional (d : Decimal) : List Char :=
  let digits := Nat.toDigits 10 d.digits
  match d.power with
  | .ofNat zeros => digits ++ List.replicate zeros '0'
  | .negSucc p =>
    let places := p + 1
    if places < digits.length then
      digits.take (digits.length - places) ++ '.' :: digits.drop (digits.length - places)
    else '0' :: '.' :: List.replicate (places - digits.length) '0' ++ digits

/-- Writes a float with the fewest digits that read back, never with an exponent. -/
def plainText (x : Float) : List Char :=
  match Binary64.ofFloat x with
  | .nan => "NaN".toList
  | .infinite negative => (if negative then "-inf" else "inf").toList
  | .finite negative mantissa exponent =>
    (if negative then ['-'] else []) ++
      (if mantissa = 0 then ['0'] else positional (Decimal.ofFloatParts mantissa exponent))

/-- Writes digits with an exponent that has a sign, the point after the first digit. -/
def exponential (d : Decimal) : List Char :=
  let digits := Nat.toDigits 10 d.digits
  let power := d.power + (digits.length - 1 : Nat)
  digits.take 1 ++ (if digits.length = 1 then [] else '.' :: digits.drop 1) ++ 'e' ::
    (if power < 0 then '-' else '+') :: Nat.toDigits 10 power.natAbs

/-- How many digits stand before the point, negative if zeros follow it. -/
def pointPlace (d : Decimal) : Int := d.power + (Decimal.width d.digits : Nat)

/-- Writes a finite float for a document, none for the others: with the fewest digits that read
back, always with a decimal place or an exponent, which appears where more than sixteen digits would
stand before the point or more than four zeros after it. -/
def documentText? (x : Float) : Option (List Char) :=
  match Binary64.ofFloat x with
  | .nan => none
  | .infinite _ => none
  | .finite negative mantissa exponent =>
    let sign := if negative then ['-'] else []
    if mantissa = 0 then some (sign ++ "0.0".toList)
    else
      let d := Decimal.ofFloatParts mantissa exponent
      if -5 < pointPlace d && pointPlace d ≤ 16 then
        some (sign ++ positional d ++ if 0 ≤ d.power then ".0".toList else [])
      else some (sign ++ exponential d)

end MeshTrace.Number
