import MeshTrace.Scalar

namespace MeshTrace.Stats.Crossing

open Arith

variable {α : Type} [Arith α]

/-- A search for the crossing gives up above this number. -/
def farthest : α := ofNat (Nat.pow 10 300)

/-- Doubles the upper end until `F` is no longer below `p` there; the lower end follows. None if no
crossing is found within `farthest`. -/
def bracket (F : α → α) (p : α) : Nat → α → α → Option (α × α)
  | 0, _, _ => none
  | fuel + 1, lo, hi =>
    if lt (F hi) p then
      let next := hi * ofNat 2
      if lt farthest next then none else bracket F p fuel hi next
    else some (lo, hi)

/-- The middle of two numbers. -/
def middle (lo hi : α) : α := ofNat 1 / ofNat 2 * (lo + hi)

/-- Whether a bracket is narrow enough, measured by its upper end. -/
def narrow (lo hi : α) : Bool :=
  le (hi - lo) (ofNat 1 / ofNat 10000000000000 * larger hi (ofNat 1))

/-- Halves the bracket until it is narrow, at most `fuel` times. -/
def halve (F : α → α) (p : α) : Nat → α → α → α × α
  | 0, lo, hi => (lo, hi)
  | fuel + 1, lo, hi =>
    let mid := middle lo hi
    if lt (F mid) p then
      if narrow mid hi then (mid, hi) else halve F p fuel mid hi
    else if narrow lo mid then (lo, mid) else halve F p fuel lo mid

/-- Where `F`, going up from zero, reaches `p`: the middle of the last bracket. -/
def find? (F : α → α) (p : α) : Option α :=
  (bracket F p 1100 (ofNat 0) (ofNat 1)).map fun (lo, hi) =>
    let (lo, hi) := halve F p 200 lo hi
    middle lo hi

end MeshTrace.Stats.Crossing
