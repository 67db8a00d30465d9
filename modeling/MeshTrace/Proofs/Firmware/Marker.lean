import MeshTrace.Proofs.Firmware.Entry
import MeshTrace.Proofs.Number.Figure
import MeshTrace.Proofs.Text.Search

namespace MeshTrace

open Text

/-- The characters of spaces, numbers and addresses, and of what is printed where there is no address. -/
def isFiller (c : Char) : Bool :=
  isAddressChar c || [' ', '(', 'N', 'U', 'L', 'I', 'P', 'r', ')'].contains c

/-- What is left of a text whatever values it mentions. -/
def skeleton (cs : List Char) : List Char := cs.filter (!isFiller ·)

theorem skeleton_append (front back : List Char) : skeleton (front ++ back) = skeleton front ++ skeleton back :=
  List.filter_append ..

theorem skeleton_eq_nil {cs : List Char} (chars : ∀ c ∈ cs, isAddressChar c = true) : skeleton cs = [] :=
  List.filter_eq_nil_iff.mpr fun c member => by simp [isFiller, chars c member]

/-- What does not occur among some of the characters does not occur among all of them. -/
theorem occurs_eq_false (p : Char → Bool) {part cs : List Char}
    (apart : occurs (part.filter p) (cs.filter p) = false) : occurs part cs = false := by
  by_contra found
  have within : part <:+: cs := occurs_iff.mp (by simpa using found)
  exact Bool.noConfusion (apart.symm.trans (occurs_iff.mpr (within.filter p)))

/-- What does not occur in the skeleton does not occur in the text. -/
theorem occurs_eq_false_of_skeleton {part cs : List Char} (apart : occurs (skeleton part) (skeleton cs) = false) :
    occurs part cs = false := occurs_eq_false _ apart

theorem isAddressChar_of_isDigit {c : Char} (digit : c.isDigit = true) : isAddressChar c = true := by
  simp [isAddressChar, digit]

namespace Family

/-- The first marker of a message decides. -/
theorem ofMessage?_of_markers {message : List Char} {marker : String} {family : Family} (k : Nat)
    (listed : markers[k]? = some (marker, family)) (here : occurs marker.toList message = true)
    (earlier : (markers.take k).all (fun entry => !occurs (skeleton entry.1.toList) (skeleton message)) = true) :
    ofMessage? message = some family := by
  have whole : markers = markers.take k ++ (marker, family) :: markers.drop (k + 1) := by
    obtain ⟨inside, same⟩ := List.getElem?_eq_some_iff.mp listed
    rw [← same, ← List.drop_eq_getElem_cons inside, List.take_append_drop]
  have first : markers.find? (fun entry => occurs entry.1.toList message) = some (marker, family) := by
    rw [List.find?_eq_some_iff_append]
    refine ⟨here, _, _, whole, fun entry member => ?_⟩
    have apart := List.all_eq_true.mp earlier entry member
    rw [Bool.not_eq_true'] at apart ⊢
    exact occurs_eq_false_of_skeleton apart
  rw [ofMessage?, first, Option.map_some]

end Family

namespace Entry

theorem skeleton_decimal (n : Nat) : skeleton (decimal n) = [] :=
  skeleton_eq_nil fun _ member => isAddressChar_of_isDigit (Number.isDigit_of_mem_toDigits member)

theorem skeleton_spaces (n : Nat) : skeleton (spaces n) = [] := by
  refine List.filter_eq_nil_iff.mpr fun c member => ?_
  rw [List.eq_of_mem_replicate member]
  decide

/-- An address leaves in the skeleton what the words for its absence leave. -/
theorem skeleton_addressText {missing : String} (filler : skeleton missing.toList = []) {address : Option Address}
    (printed : ∀ a ∈ address, IsAddress a.toList) :
    skeleton (addressText missing address) = skeleton (addressText missing none) := by
  cases address with
  | none => rfl
  | some a => exact (skeleton_eq_nil (printed a rfl).chars).trans filler.symm

def family : Entry → Family
  | associated _ => .association
  | left _ _ _ => .leavingNetwork
  | leftNetwork => .leftNetwork
  | timeSource _ _ => .timeSource
  | parentLladdr _ _ => .parentLladdr
  | preferredParent _ _ | parentSwitch _ _ => .parentChange
  | packetSent _ _ => .appSent
  | packetReceived _ _ _ => .appReceived
  | linkStats _ _ => .linkStats
  | period _ _ | total _ _ _ | spent _ _ _ _ _ _ _ => .energest

theorem occurs_flatten_cons {part tag front : List Char} {parts : List (List Char)}
    (found : occurs part (tag ++ front) = true) : occurs part (tag ++ (front :: parts).flatten) = true := by
  rw [occurs_iff] at found ⊢
  rw [List.flatten_cons, ← List.append_assoc]
  exact found.trans (List.prefix_append _ _).isInfix

theorem occurs_of_mem_parts {e : Entry} {part cs : List Char} (member : cs ∈ e.parts)
    (found : occurs part cs = true) : occurs part e.text = true := by
  obtain ⟨front, back, split⟩ := List.append_of_mem member
  rw [occurs_iff] at found ⊢
  refine found.trans ⟨e.tag.toList ++ front.flatten, back.flatten, ?_⟩
  simp [text, split]

/-- The message without the values that it mentions. -/
def bare : Entry → Entry
  | associated _ => associated 0
  | left _ _ _ => left 0 0 0
  | leftNetwork => leftNetwork
  | timeSource _ _ => timeSource none none
  | parentLladdr callback _ => parentLladdr callback none
  | preferredParent _ _ => preferredParent none none
  | parentSwitch _ _ => parentSwitch none none
  | packetSent _ label => packetSent 0 (label.map fun _ => 0)
  | packetReceived _ _ _ => packetReceived 0 0 ""
  | linkStats _ _ => linkStats ⟨0, 0, 0, 0⟩ ""
  | period _ _ => period 0 0
  | total _ _ _ => total 0 0 0
  | spent label _ _ _ _ _ _ => spent label 0 0 0 0 0 0

/-- Only the fixed words of a message are in its skeleton. -/
theorem skeleton_text {e : Entry} (fits : e.Fits) : skeleton e.text = skeleton e.bare.text := by
  have nullLink : skeleton "(NULL LL addr)".toList = [] := by decide
  have nullRouting : skeleton "(NULL IP addr)".toList = [] := by decide
  have null : skeleton "NULL".toList = [] := by decide
  have nothing : skeleton "".toList = [] := by decide
  cases e with
  | timeSource old new =>
    simp only [text, bare, tag, parts, List.flatten_cons, skeleton_append, skeleton_addressText nullLink fits.1,
      skeleton_addressText nullLink fits.2]
  | preferredParent old new =>
    simp only [text, bare, tag, parts, List.flatten_cons, skeleton_append, skeleton_addressText null fits.1,
      skeleton_addressText null fits.2]
  | parentSwitch old new =>
    simp only [text, bare, tag, parts, List.flatten_cons, skeleton_append, skeleton_addressText nullRouting fits.1,
      skeleton_addressText nullRouting fits.2]
  | parentLladdr callback new =>
    simp only [text, bare, tag, parts, List.flatten_cons, skeleton_append, skeleton_addressText nullLink fits]
  | packetSent seqnum label =>
    cases label <;> simp only [text, bare, tag, parts, Option.map_some, Option.map_none, List.flatten_cons,
      skeleton_append, skeleton_decimal]
  | packetReceived seqnum sender address =>
    simp only [text, bare, tag, parts, List.flatten_cons, skeleton_append, skeleton_decimal,
      skeleton_eq_nil fits.2.2.chars, nothing]
  | linkStats counters neighbour =>
    simp only [text, bare, tag, parts, List.flatten_cons, skeleton_append, skeleton_decimal,
      skeleton_eq_nil fits.2.2.2.2.chars, nothing]
  | associated | left | leftNetwork | period | total | spent =>
    simp only [text, bare, tag, parts, List.flatten_cons, skeleton_append, skeleton_decimal, skeleton_spaces]

/-- Where the first marker of the message stands in the list. -/
def rank : Entry → Nat
  | associated _ => 0
  | left _ _ _ => 1
  | timeSource _ _ => 2
  | preferredParent _ _ => 7
  | parentSwitch _ _ => 8
  | parentLladdr _ _ => 9
  | leftNetwork => 10
  | packetSent _ _ => 11
  | packetReceived _ _ _ => 12
  | linkStats _ _ => 13
  | period _ _ | total _ _ _ | spent _ _ _ _ _ _ _ => 14

/-- No marker that counts before is in the message, whatever numbers and addresses it mentions. -/
theorem earlier_markers {e : Entry} (fits : e.Fits) :
    (Family.markers.take e.rank).all (fun entry => !occurs (skeleton entry.1.toList) (skeleton e.text)) = true := by
  rw [skeleton_text fits]
  cases e with
  | parentLladdr callback new =>
    simp only [String.reduceToList, Family.markers, rank, bare, text, tag, parts, addressText]
    cases callback <;> decide
  | packetSent seqnum label =>
    cases label <;>
      simp only [String.reduceToList, Family.markers, rank, bare, text, tag, parts, Option.map_some,
        Option.map_none] <;> decide
  | spent label before after ticks gap whole permil =>
    simp only [String.reduceToList, Family.markers, rank, bare, text, tag, parts]
    cases label <;> decide
  | _ =>
    simp only [String.reduceToList, Family.markers, rank, bare, text, tag, parts, addressText]
    decide

/-- Every entry is found to be of its own family. -/
theorem ofMessage?_text {e : Entry} (fits : e.Fits) : Family.ofMessage? e.text = some e.family := by
  have earlier := earlier_markers fits
  cases e with
  | parentLladdr callback new =>
    exact Family.ofMessage?_of_markers 9 rfl (occurs_flatten_cons (by cases callback <;> rw [tag] <;> decide)) earlier
  | packetSent seqnum label =>
    cases label <;> exact Family.ofMessage?_of_markers 11 rfl (occurs_flatten_cons (by rw [tag]; decide)) earlier
  | spent label before after ticks gap whole permil =>
    exact Family.ofMessage?_of_markers 14 rfl (occurs_flatten_cons (by cases label <;> rw [tag] <;> decide)) earlier
  | _ => exact Family.ofMessage?_of_markers _ rfl (occurs_flatten_cons (by rw [tag]; decide)) earlier

end Entry

end MeshTrace
