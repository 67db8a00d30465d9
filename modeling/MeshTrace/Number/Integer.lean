namespace MeshTrace

/-- Counters stop here instead of growing further. -/
def counterMax : Nat := 0xFFFFFFFFFFFFFFFF

/-- The sum of two counters, or the largest counter if the sum is larger. -/
def addCounter (a b : Nat) : Nat := min (a + b) counterMax

/-- The sum of two counters, which begins again at zero where it is larger than the largest counter. -/
def addWrapping (a b : Nat) : Nat := (a + b) % (counterMax + 1)

theorem addWrapping_of_le {a b : Nat} (fits : a + b ≤ counterMax) : addWrapping a b = a + b :=
  Nat.mod_eq_of_lt (Nat.lt_succ_of_le fits)

/-- The span of times, in milliseconds. -/
def timeMin : Int := -0x8000000000000000

def timeMax : Int := 0x7FFFFFFFFFFFFFFF

/-- The nearest time to a number. -/
def clampTime (t : Int) : Int := max timeMin (min t timeMax)

namespace Number

/-- The value of a character as a digit of numbers in base `base`, in either letter case. -/
def digitValue? (base : Nat) (c : Char) : Option Nat :=
  let n := c.toNat
  let value :=
    if 0x30 ≤ n && n ≤ 0x39 then n - 0x30
    else if 0x61 ≤ n && n ≤ 0x7A then n - 0x61 + 10
    else if 0x41 ≤ n && n ≤ 0x5A then n - 0x41 + 10
    else base
  if value < base then some value else none

/-- The number whose digits follow those of `high`. -/
def digitsFrom? (base : Nat) (high : Nat) : List Char → Option Nat
  | [] => some high
  | c :: cs =>
    match digitValue? base c with
    | none => none
    | some d => digitsFrom? base (high * base + d) cs

/-- Reads one digit or more, and nothing else. -/
def natural? (base : Nat) (cs : List Char) : Option Nat :=
  if cs.isEmpty then none else digitsFrom? base 0 cs

/-- Reads digits after an optional plus sign, as a number below `limit`. -/
def below? (limit base : Nat) (cs : List Char) : Option Nat :=
  let digits :=
    match cs with
    | '+' :: rest => rest
    | _ => cs
  (natural? base digits).filter (· < limit)

/-- Reads a counter. -/
def counter? (cs : List Char) : Option Nat := below? 0x10000000000000000 10 cs

/-- Reads a node or sequence number. -/
def short? (cs : List Char) : Option Nat := below? 0x100000000 10 cs

/-- Reads digits after an optional sign, as a time. -/
def time? (cs : List Char) : Option Int :=
  match cs with
  | '-' :: rest => ((natural? 10 rest).map fun n => -(n : Int)).filter (timeMin ≤ ·)
  | _ => (below? 0x8000000000000000 10 cs).map Int.ofNat

end Number

end MeshTrace
