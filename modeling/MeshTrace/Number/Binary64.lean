import MeshTrace.Number.Integer

namespace MeshTrace

/-- What a float stands for: a finite one is the multiple `mantissa * 2 ^ exponent` of `2 ^ -1074`,
the smallest positive float. -/
inductive Binary64
  | nan
  | infinite (negative : Bool)
  | finite (negative : Bool) (mantissa exponent : Nat)
  deriving DecidableEq, Repr

/-- Rounds the quotient of two numbers to the nearest number, and to the even one if two are
nearest. -/
def roundHalfEven (num den : Nat) : Nat :=
  let q := num / den
  let twice := 2 * (num % den)
  if twice < den then q
  else if den < twice then q + 1
  else if q % 2 = 0 then q
  else q + 1

namespace Binary64

/-- One over the smallest positive float. -/
def scale : Nat := Nat.pow 2 1074

/-- Splits the sixty-four bits of a float. -/
def ofBits (bits : Nat) : Binary64 :=
  let negative := bits / Nat.pow 2 63 % 2 = 1
  let field := bits / Nat.pow 2 52 % Nat.pow 2 11
  let fraction := bits % Nat.pow 2 52
  if field = Nat.pow 2 11 - 1 then
    if fraction = 0 then infinite negative else nan
  else if field = 0 then finite negative fraction 0
  else finite negative (fraction + Nat.pow 2 52) (field - 1)

def ofFloat (x : Float) : Binary64 := ofBits x.toBits.toNat

/-- The distance from zero of a finite float, counted in smallest positive floats. -/
def units (mantissa exponent : Nat) : Nat := mantissa * Nat.pow 2 exponent

/-- The bits of infinity. -/
def infinityBits : Nat := (Nat.pow 2 11 - 1) * Nat.pow 2 52

/-- The bits of the float nearest to a quotient, of two nearest ones the one with an even mantissa.
The mantissa has at most fifty-three bits; one that rounds up to the next power of two carries into
the exponent field, and past the largest float the carry gives infinity. -/
def nearestBits (num den : Nat) : Nat :=
  let exponent := (num * scale / den).log2 + 1 - 53
  min (exponent * Nat.pow 2 52 + roundHalfEven (num * scale) (den * Nat.pow 2 exponent))
    infinityBits

/-- The float nearest to a quotient. -/
def nearest (num den : Nat) : Float := Float.ofBits (nearestBits num den).toUInt64

/-- The integer part of a float, brought into the span of times; zero if there is none. -/
def toTime : Binary64 → Int
  | nan => 0
  | infinite true => timeMin
  | infinite false => timeMax
  | finite negative mantissa exponent =>
    let whole : Int := (units mantissa exponent / scale : Nat)
    clampTime (if negative then -whole else whole)

end Binary64

end MeshTrace
