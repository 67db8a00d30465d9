import MeshTrace.Proofs.Firmware.Address
import MeshTrace.Proofs.Number.Spelling
import MeshTrace.Proofs.Text.Grammar

namespace MeshTrace

open Text

/-- Of all the places in a text from which it goes on in some way, this is the first. -/
structure FirstPlace (here : List Char → Prop) (front rest : List Char) : Prop where
  found : here rest
  first : ∀ before after, front = before ++ after → after ≠ [] → ¬here (after ++ rest)

/-- What is searched for is found at the first place from which the text goes on in that way. -/
theorem search_eq_some_iff_firstPlace {β : Type} {f : List Char → Option β} {cs : List Char} {b : β} :
    search f cs = some b ↔
      ∃ front rest, cs = front ++ rest ∧ f rest = some b ∧ FirstPlace (fun cs => ∃ b, f cs = some b) front rest := by
  rw [search_eq_some_iff]
  constructor
  · rintro ⟨front, rest, whole, found, first⟩
    refine ⟨front, rest, whole, found, ⟨b, found⟩, fun before after split nonempty => ?_⟩
    rintro ⟨b, early⟩
    cases early.symm.trans (first before after split nonempty)
  · rintro ⟨front, rest, whole, found, place⟩
    refine ⟨front, rest, whole, found, fun before after split nonempty => ?_⟩
    exact Option.eq_none_iff_forall_ne_some.mpr fun b early => place.first before after split nonempty ⟨b, early⟩

namespace Message

/-- The text goes on with the number of a packet sent. -/
def SendsHere (cs seqnum rest : List Char) : Prop :=
  cs = "app generate packet seqnum=".toList ++ (seqnum ++ rest) ∧ Shape.Leads isDecimal seqnum rest

/-- The text goes on with the number of a packet received and the address of its sender. -/
def ReceivesHere (cs seqnum sender : List Char) : Prop :=
  ∃ rest, cs = "app receive packet seqnum=".toList ++ (seqnum ++ (" from=".toList ++ (sender ++ rest))) ∧
    Shape.Leads isDecimal seqnum (" from=".toList ++ (sender ++ rest)) ∧ Shape.Leads (!isBlank ·) sender rest

/-- The number stands in decimal digits in the field `node_id=`, directly behind the number of the first packet sent. -/
inductive OwnField (message : List Char) (label : NodeId) : Prop
  | field {front rest seqnum own more : List Char} (whole : message = front ++ rest)
      (place : FirstPlace (fun cs => ∃ seqnum more, SendsHere cs seqnum more) front rest)
      (sends : SendsHere rest seqnum (" node_id=".toList ++ (own ++ more))) (leads : Shape.Leads isDecimal own more)
      (spelled : Number.Spells 10 label own) (small : label < 0x100000000)

/-- The number stands in hexadecimal digits, after a plus sign or not, behind the last colon of the sender's address in
the first packet received. -/
inductive SenderGroup (message : List Char) (label : NodeId) : Prop
  | group {front rest seqnum network group digits : List Char} (whole : message = front ++ rest)
      (place : FirstPlace (fun cs => ∃ seqnum sender, ReceivesHere cs seqnum sender) front rest)
      (receives : ReceivesHere rest seqnum (network ++ group))
      (ends : network = [] ∨ network.getLast? = some ':') (apart : ':' ∉ group)
      (sign : group = digits ∨ group = '+' :: digits) (spelled : Number.Spells 16 label digits)
      (small : label < 0x100000000)

/-- The number that the sender of a packet gives to itself in its message. -/
def ownLabel? (message : List Char) : Option NodeId :=
  (sentDigits? message).bind fun (_, label) => label.bind Number.short?

/-- The number in the last group of the sender's address in the message about an arrival. -/
def senderLabel? (message : List Char) : Option NodeId :=
  (receivedParts? message).bind fun (_, sender) => Address.node? sender

theorem read_digits_eq_some_iff {w : String} {cs rest : List Char} {slots : List (List Char)} :
    Shape.read [.text w, .digits] cs = some (slots, rest) ↔
      ∃ run, slots = [run] ∧ cs = w.toList ++ (run ++ rest) ∧ Shape.Leads isDecimal run rest := by
  simp only [Piece.digits, Shape.read_text_eq_some_iff, Shape.read_run_eq_some_iff, Shape.read_nil_eq_some_iff]
  constructor
  · rintro ⟨_, rfl, run, _, _, rfl, leads, ⟨rfl, rfl⟩, rfl⟩
    exact ⟨run, rfl, rfl, leads⟩
  · rintro ⟨run, rfl, rfl, leads⟩
    exact ⟨_, rfl, run, _, _, rfl, leads, ⟨rfl, rfl⟩, rfl⟩

theorem sentHere?_eq_none_iff {cs : List Char} :
    sentHere? cs = none ↔ ∀ seqnum rest, ¬SendsHere cs seqnum rest := by
  cases found : Shape.read [.text "app generate packet seqnum=", .digits] cs with
  | none =>
    have missing : sentHere? cs = none := by simp only [sentHere?, found]
    refine iff_of_true missing fun seqnum rest sends => ?_
    cases found.symm.trans (read_digits_eq_some_iff.mpr ⟨seqnum, rfl, sends.1, sends.2⟩)
  | some result =>
    obtain ⟨slots, rest⟩ := result
    obtain ⟨seqnum, rfl, whole, leads⟩ := read_digits_eq_some_iff.mp found
    refine iff_of_false ?_ fun nowhere => nowhere seqnum rest ⟨whole, leads⟩
    simp only [sentHere?, found]
    split <;> simp

/-- The digits that are read are those in the field. -/
theorem sentHere?_eq_some_iff {cs seqnum own : List Char} :
    sentHere? cs = some (seqnum, some own) ↔
      ∃ more, SendsHere cs seqnum (" node_id=".toList ++ (own ++ more)) ∧ Shape.Leads isDecimal own more := by
  constructor
  · intro here
    unfold sentHere? at here
    split at here
    · rename_i found
      obtain ⟨run, same, whole, leads⟩ := read_digits_eq_some_iff.mp found
      obtain rfl := List.singleton_inj.mp same
      split at here
      · rename_i label more field
        obtain ⟨run, same, rfl, leads'⟩ := read_digits_eq_some_iff.mp field
        obtain rfl := List.singleton_inj.mp same
        simp only [Option.some.injEq, Prod.mk.injEq] at here
        obtain ⟨rfl, rfl⟩ := here
        exact ⟨more, ⟨whole, leads⟩, leads'⟩
      · simp at here
    · cases here
  · rintro ⟨more, ⟨whole, leads⟩, leads'⟩
    have found := read_digits_eq_some_iff.mpr ⟨seqnum, rfl, whole, leads⟩
    have field : Shape.read [.text " node_id=", .digits] (" node_id=".toList ++ (own ++ more)) = some ([own], more) :=
      read_digits_eq_some_iff.mpr ⟨own, rfl, rfl, leads'⟩
    simp only [sentHere?, found, field]

theorem receivedHere?_eq_some_iff {cs seqnum sender : List Char} :
    receivedHere? cs = some (seqnum, sender) ↔ ReceivesHere cs seqnum sender := by
  have read {slots : List (List Char)} {rest : List Char} :
      Shape.read [.text "app receive packet seqnum=", .digits, .text " from=", .word] cs = some (slots, rest) ↔
        ∃ seqnum sender, slots = [seqnum, sender] ∧
          cs = "app receive packet seqnum=".toList ++ (seqnum ++ (" from=".toList ++ (sender ++ rest))) ∧
          Shape.Leads isDecimal seqnum (" from=".toList ++ (sender ++ rest)) ∧ Shape.Leads (!isBlank ·) sender rest := by
    simp only [Piece.digits, Piece.word, Shape.read_text_eq_some_iff, Shape.read_run_eq_some_iff,
      Shape.read_nil_eq_some_iff]
    constructor
    · rintro ⟨_, rfl, seqnum, _, _, rfl, leads, ⟨_, rfl, sender, _, _, rfl, leads', ⟨rfl, rfl⟩, rfl⟩, rfl⟩
      exact ⟨seqnum, sender, rfl, rfl, leads, leads'⟩
    · rintro ⟨seqnum, sender, rfl, rfl, leads, leads'⟩
      exact ⟨_, rfl, seqnum, _, _, rfl, leads, ⟨_, rfl, sender, _, _, rfl, leads', ⟨rfl, rfl⟩, rfl⟩, rfl⟩
  constructor
  · intro here
    unfold receivedHere? at here
    split at here
    · rename_i found
      obtain ⟨_, _, same, whole, leads, leads'⟩ := read.mp found
      simp only [List.cons.injEq, and_true] at same
      simp only [Option.some.injEq, Prod.mk.injEq] at here
      obtain ⟨rfl, rfl⟩ := same
      obtain ⟨rfl, rfl⟩ := here
      exact ⟨_, whole, leads, leads'⟩
    · cases here
  · rintro ⟨rest, whole, leads, leads'⟩
    simp only [receivedHere?, read.mpr ⟨seqnum, sender, rfl, whole, leads, leads'⟩]

/-- A run of digits reads as the number that it spells, if that fits into 32 bits. -/
theorem short?_eq_some_iff {digits more : List Char} (leads : Shape.Leads isDecimal digits more) {n : Nat} :
    Number.short? digits = some n ↔ Number.Spells 10 n digits ∧ n < 0x100000000 := by
  have unsigned : digits.head? ≠ some '+' := by
    intro sign
    cases leads.accepted '+' (List.mem_of_head? sign)
  rw [Number.short?, Number.below?_eq_filter unsigned, Option.filter_eq_some_iff, decide_eq_true_eq,
    Number.natural?_eq_some_iff (by decide) (by decide)]

/-- The number that is read is the one that stands in the field. -/
theorem ownLabel?_eq_some_iff {message : List Char} {label : NodeId} :
    ownLabel? message = some label ↔ OwnField message label := by
  have places (cs : List Char) :
      (∃ seqnum own, sentHere? cs = some (seqnum, own)) ↔ ∃ seqnum more, SendsHere cs seqnum more := by
    rw [← not_iff_not]
    simp only [not_exists, ← sentHere?_eq_none_iff, Option.eq_none_iff_forall_ne_some, Prod.forall, ne_eq]
  simp only [ownLabel?, sentDigits?, Option.bind_eq_some_iff, Prod.exists, search_eq_some_iff_firstPlace, places]
  constructor
  · rintro ⟨seqnum, _, ⟨front, rest, whole, here, place⟩, own, rfl, read⟩
    obtain ⟨more, sends, leads⟩ := sentHere?_eq_some_iff.mp here
    obtain ⟨spelled, small⟩ := (short?_eq_some_iff leads).mp read
    exact .field whole place sends leads spelled small
  · rintro ⟨whole, place, sends, leads, spelled, small⟩
    exact ⟨_, _, ⟨_, _, whole, sentHere?_eq_some_iff.mpr ⟨_, sends, leads⟩, place⟩, _, rfl,
      (short?_eq_some_iff leads).mpr ⟨spelled, small⟩⟩

/-- The number that is read is the one behind the last colon. -/
theorem senderLabel?_eq_some_iff {message : List Char} {label : NodeId} :
    senderLabel? message = some label ↔ SenderGroup message label := by
  simp only [senderLabel?, receivedParts?, Option.bind_eq_some_iff, Prod.exists, search_eq_some_iff_firstPlace,
    receivedHere?_eq_some_iff, Address.node?_eq_some_iff]
  constructor
  · rintro ⟨seqnum, _, ⟨front, rest, whole, receives, place⟩, network, group, digits, rfl, ends, apart, sign, spelled,
      small⟩
    exact .group whole place receives ends apart sign spelled small
  · rintro ⟨whole, place, receives, ends, apart, sign, spelled, small⟩
    exact ⟨_, _, ⟨_, _, whole, receives, place⟩, _, _, _, rfl, ends, apart, sign, spelled, small⟩

end Message

end MeshTrace
