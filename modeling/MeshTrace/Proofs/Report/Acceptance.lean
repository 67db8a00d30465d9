import MeshTrace.Proofs.Report.Grammar

namespace MeshTrace.Report

open Text

namespace Slot

def read : Slot → Except ReportError Value
  | figure name text => (float name text).map .figure
  | counter name text => (counterIn name text).map .counter

theorem read_eq_ok_iff {slot : Slot} {value : Value} : slot.read = .ok value ↔ slot.Shows value := by
  cases slot with
  | figure name text =>
    cases number : Number.float? text <;> cases value <;> simp [read, float, number, Except.map, Shows]
  | counter name text =>
    cases number : Number.counter? text <;> cases value <;> simp [read, counterIn, number, Except.map, Shows]

theorem readable_iff {slot : Slot} : slot.Readable ↔ slot.read.toBool = true := by
  simp only [Readable, ← read_eq_ok_iff]
  cases slot.read <;> simp [Except.toBool]

instance (slot : Slot) : Decidable slot.Readable := decidable_of_iff _ readable_iff.symm

end Slot

namespace LineReader

variable {β : Type} {number : Nat} {read : List Char → Except ReportError β} {means : β → List Value → Prop}
  {line : List Char}

end LineReader

section

variable {text : List Char} {front : List (List Char)} {link totals joining delays fair : List Char}
  (content : contentLines text = front ++ [link, totals, joining, delays, fair])

include content

end

end MeshTrace.Report
