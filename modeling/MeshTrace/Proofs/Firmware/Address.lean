import MeshTrace.Proofs.Firmware.Marker
import MeshTrace.Proofs.Number.Spelling

namespace MeshTrace

open Text

theorem isBlank_of_isAddressChar {c : Char} (address : isAddressChar c = true) : isBlank c = false := by
  simp only [isAddressChar, Bool.or_eq_true, Bool.and_eq_true, decide_eq_true_eq] at address
  rcases address with (((digit | ⟨low, high⟩) | ⟨low, high⟩) | rfl) | rfl
  · exact isBlank_of_isDigit digit
  · have least : 0x61 ≤ c.toNat := low
    have most : c.toNat ≤ 0x66 := high
    exact isBlank_of_visible (by omega) (by omega)
  · have least : 0x41 ≤ c.toNat := low
    have most : c.toNat ≤ 0x46 := high
    exact isBlank_of_visible (by omega) (by omega)
  · decide
  · decide

theorem IsAddress.solid {cs : List Char} (address : IsAddress cs) : Solid cs :=
  fun c member => isBlank_of_isAddressChar (address.chars c member)

theorem IsAddressOf.address {id : NodeId} {cs : List Char} (own : IsAddressOf id cs) : IsAddress cs := by
  refine ⟨?_, own.chars⟩
  obtain ⟨network, group, zeros, rfl, -, -, digits⟩ := own.group
  intro empty
  obtain ⟨-, rfl⟩ := List.append_eq_nil_iff.mp empty
  simp at digits

namespace Address

/-- A printed address is read as it is. -/
theorem ofText?_of_isAddress {a : Address} (address : IsAddress a.toList) : ofText? a.toList = some a := by
  have tight : Tight a.toList :=
    ⟨fun c head => address.solid c (List.mem_of_head? head),
      fun c last => address.solid c (List.mem_of_getLast? last)⟩
  have known : occurs "NULL".toList a.toList = false := by
    have nothing : a.toList.filter (!isAddressChar ·) = [] :=
      List.filter_eq_nil_iff.mpr fun c member => by simp [address.chars c member]
    refine occurs_eq_false (!isAddressChar ·) ?_
    rw [nothing]
    decide
  rw [ofText?, tight.trim_eq, known]
  simp

/-- The last group is what follows the last colon. -/
theorem lastGroup_append {network group : List Char} (ends : network = [] ∨ network.getLast? = some ':')
    (apart : ':' ∉ group) : lastGroup (network ++ group) = group := by
  have accepted : ∀ c ∈ group.reverse, (c != ':') = true := by
    intro c member
    rw [bne_iff_ne]
    rintro rfl
    exact apart (List.mem_reverse.mp member)
  have stops : Stops (· != ':') network.reverse := by
    intro c first
    rw [List.head?_reverse] at first
    rcases ends with rfl | last
    · cases first
    · rw [last] at first
      obtain rfl := Option.some.inj first
      rfl
  rw [lastGroup, List.reverse_append, takeWhile_append_of_stops accepted stops, List.reverse_reverse]

/-- Every text ends with its last group, behind a colon or alone. -/
theorem exists_append_lastGroup (cs : List Char) : ∃ network, cs = network ++ lastGroup cs ∧
    (network = [] ∨ network.getLast? = some ':') ∧ ':' ∉ lastGroup cs := by
  refine ⟨(cs.reverse.dropWhile (· != ':')).reverse, ?_, ?_, fun member => ?_⟩
  · rw [lastGroup, ← List.reverse_append, List.takeWhile_append_dropWhile, List.reverse_reverse]
  · rw [List.reverse_eq_nil_iff, List.getLast?_reverse]
    have stops := List.head?_dropWhile_not (· != ':') cs.reverse
    cases ends : cs.reverse.dropWhile (· != ':') with
    | nil => exact Or.inl rfl
    | cons c network =>
      rw [ends] at stops
      exact Or.inr (congrArg some (by simpa using stops))
  · simpa using List.mem_takeWhile_imp (List.mem_reverse.mp member)

/-- The node of an address is what the characters behind its last colon spell. -/
theorem node?_eq_some_iff {cs : List Char} {id : NodeId} :
    node? cs = some id ↔ ∃ network group digits, cs = network ++ group ∧
      (network = [] ∨ network.getLast? = some ':') ∧ ':' ∉ group ∧ (group = digits ∨ group = '+' :: digits) ∧
      Number.Spells 16 id digits ∧ id < 0x100000000 := by
  rw [node?, Number.below?_eq_some_iff (by decide) (by decide)]
  constructor
  · rintro ⟨digits, sign, spelled, small⟩
    obtain ⟨network, whole, ends, apart⟩ := exists_append_lastGroup cs
    exact ⟨network, lastGroup cs, digits, whole, ends, apart, sign, spelled, small⟩
  · rintro ⟨network, group, digits, rfl, ends, apart, sign, spelled, small⟩
    rw [lastGroup_append ends apart]
    exact ⟨digits, sign, spelled, small⟩

theorem node?_of_isAddressOf {id : NodeId} {cs : List Char} (own : IsAddressOf id cs) (small : id < 0x100000000) :
    node? cs = some id := by
  obtain ⟨network, group, zeros, whole, ends, apart, digits⟩ := own.group
  exact node?_eq_some_iff.mpr ⟨network, group, group, whole, ends, apart, Or.inl rfl, ⟨zeros, digits⟩, small⟩

end Address

namespace Entry

theorem ofText?_addressText {missing : String} (marked : Address.ofText? missing.toList = none)
    {address : Option Address} (printed : ∀ a ∈ address, IsAddress a.toList) :
    Address.ofText? (addressText missing address) = address := by
  cases address with
  | none => exact marked
  | some a => exact Address.ofText?_of_isAddress (printed a rfl)

theorem not_mem_addressText {c : Char} {missing : String} (other : isAddressChar c = false)
    (absent : c ∉ missing.toList) {address : Option Address} (printed : ∀ a ∈ address, IsAddress a.toList) :
    c ∉ addressText missing address := by
  cases address with
  | none => exact absent
  | some a => exact fun member => Bool.noConfusion (other.symm.trans ((printed a rfl).chars c member))

theorem solid_addressText {missing : String} (solid : Solid missing.toList)
    {address : Option Address} (printed : ∀ a ∈ address, IsAddress a.toList) :
    Solid (addressText missing address) := by
  cases address with
  | none => exact solid
  | some a => exact (printed a rfl).solid

theorem addressText_ne_nil {missing : String} (some : missing.toList ≠ []) {address : Option Address}
    (printed : ∀ a ∈ address, IsAddress a.toList) : addressText missing address ≠ [] := by
  cases address with
  | none => exact some
  | some a => exact (printed a rfl).nonempty

end Entry

end MeshTrace
