import MeshTrace.Proofs.Firmware.Address

namespace MeshTrace

open Text

namespace Entry

theorem solid_decimal (n : Nat) : Solid (decimal n) :=
  fun _ member => isBlank_of_isDigit (Number.isDigit_of_mem_toDigits member)

theorem ends_of_solid {cs : List Char} (solid : Solid cs) (nonempty : cs ≠ []) :
    cs.getLast?.any (!isBlank ·) = true := by
  rw [List.getLast?_eq_some_getLast nonempty, Option.any_some, solid _ (List.getLast_mem nonempty)]
  rfl

theorem ends_decimal (n : Nat) : (decimal n).getLast?.any (!isBlank ·) = true :=
  ends_of_solid (solid_decimal n) Nat.toDigits_ne_nil

theorem ends_addressText {missing : String} (ends : missing.toList.getLast?.any (!isBlank ·) = true)
    {address : Option Address} (printed : ∀ a ∈ address, IsAddress a.toList) :
    (addressText missing address).getLast?.any (!isBlank ·) = true := by
  cases address with
  | none => exact ends
  | some a => exact ends_of_solid (printed a rfl).solid (printed a rfl).nonempty

theorem getLast?_flatten_any {parts : List (List Char)} (last : List Char) {p : Char → Bool}
    (final : parts.getLast? = some last) (ends : last.getLast?.any p = true) :
    parts.flatten.getLast?.any p = true := by
  obtain ⟨front, rfl⟩ := List.getLast?_eq_some_iff.mp final
  rw [List.flatten_append, List.flatten_singleton]
  exact Shape.getLast?_append_any ends

/-- No entry ends with a blank. -/
theorem ends_text {e : Entry} (fits : e.Fits) : e.text.getLast?.any (!isBlank ·) = true := by
  refine Shape.getLast?_append_any ?_
  cases e with
  | associated count => exact getLast?_flatten_any ")".toList rfl (by decide)
  | left tx rx sync => exact getLast?_flatten_any _ rfl (ends_decimal sync)
  | leftNetwork => exact getLast?_flatten_any "rpl callback: node has left the network".toList rfl (by decide)
  | timeSource old new => exact getLast?_flatten_any _ rfl (ends_addressText (by decide) fits.2)
  | parentLladdr callback new => exact getLast?_flatten_any _ rfl (ends_addressText (by decide) fits)
  | preferredParent old new => exact getLast?_flatten_any _ rfl (ends_addressText (by decide) fits.2)
  | parentSwitch old new => exact getLast?_flatten_any _ rfl (ends_addressText (by decide) fits.2)
  | packetSent seqnum label =>
    cases label with
    | none => exact getLast?_flatten_any _ rfl (ends_decimal seqnum)
    | some label => exact getLast?_flatten_any _ rfl (ends_decimal label)
  | packetReceived seqnum sender address =>
    exact getLast?_flatten_any _ rfl (ends_of_solid fits.2.2.address.solid fits.2.2.address.nonempty)
  | linkStats counters neighbour =>
    exact getLast?_flatten_any _ rfl (ends_of_solid fits.2.2.2.2.solid fits.2.2.2.2.nonempty)
  | period number seconds => exact getLast?_flatten_any ")".toList rfl (by decide)
  | total before after ticks => exact getLast?_flatten_any _ rfl (ends_decimal ticks)
  | spent label before after ticks gap whole permil => exact getLast?_flatten_any " permil)".toList rfl (by decide)

theorem head?_text (e : Entry) : e.text.head? = some '[' := by
  have opened : e.tag.toList.head? = some '[' := by
    cases e <;> rw [tag] <;> decide
  rw [text, List.head?_append, opened, Option.some_or]

end Entry

end MeshTrace
