import MeshTrace.Number.Binary64

namespace MeshTrace.Number

/-- The text of a number written with digits, taken apart: `digits * 10 ^ power`. -/
structure Numeral where
  digits : Nat
  power : Int
  deriving DecidableEq, Repr

namespace Numeral

/-- The largest power of ten that a float can reach, and a little more. -/
def highest : Int := 310

/-- Below this power of ten every float is zero. -/
def smallest : Int := -330

/-- The nearest float. Numerals far outside the span of floats are not computed with. -/
def toFloat (n : Numeral) : Float :=
  let top : Int := n.power + ((Nat.toDigits 10 n.digits).length : Nat)
  if n.digits = 0 || top < smallest then Binary64.nearest 0 1
  else if highest < top then Binary64.nearest (Nat.pow 10 400) 1
  else
    match n.power with
    | .ofNat p => Binary64.nearest (n.digits * Nat.pow 10 p) 1
    | .negSucc p => Binary64.nearest n.digits (Nat.pow 10 (p + 1))

/-- Reads an exponent: an optional sign and at least one digit. -/
def exponent? (cs : List Char) : Option Int :=
  match cs with
  | '-' :: rest => (natural? 10 rest).map fun n => -(n : Int)
  | '+' :: rest => (natural? 10 rest).map Int.ofNat
  | _ => (natural? 10 cs).map Int.ofNat

/-- Reads digits with at most one point and an optional exponent. At least one digit stands before
or after the point. -/
def ofText? (cs : List Char) : Option Numeral :=
  let whole := cs.takeWhile Char.isDigit
  let rest := cs.dropWhile Char.isDigit
  let (places, rest) :=
    match rest with
    | '.' :: rest => (rest.takeWhile Char.isDigit, rest.dropWhile Char.isDigit)
    | _ => ([], rest)
  match natural? 10 (whole ++ places) with
  | none => none
  | some digits =>
    match rest with
    | [] => some ⟨digits, -(places.length : Int)⟩
    | mark :: rest =>
      if mark = 'e' || mark = 'E' then
        (exponent? rest).map fun e => ⟨digits, e - places.length⟩
      else none

end Numeral

/-- Reads a float without sign: a numeral, or a name of infinity or of the undefined value in any
letter case. -/
def unsignedFloat? (cs : List Char) : Option Float :=
  let name := cs.map Char.toLower
  if name = "inf".toList || name = "infinity".toList then some (1.0 / 0.0)
  else if name = "nan".toList then some (0.0 / 0.0)
  else (Numeral.ofText? cs).map Numeral.toFloat

/-- Reads a float after an optional sign: the nearest one to the number written. -/
def float? (cs : List Char) : Option Float :=
  match cs with
  | '-' :: rest => (unsignedFloat? rest).map (-·)
  | '+' :: rest => unsignedFloat? rest
  | _ => unsignedFloat? cs

end MeshTrace.Number
