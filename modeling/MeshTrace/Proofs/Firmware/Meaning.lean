import MeshTrace.Proofs.Firmware.Arrow
import MeshTrace.Trace.Classifier

namespace MeshTrace

open Text

namespace Entry

theorem counter?_decimal {n : Nat} (small : n < 0x10000000000000000) : Number.counter? (decimal n) = some n :=
  Number.below?_toDigits small

theorem short?_decimal {n : Nat} (small : n < 0x100000000) : Number.short? (decimal n) = some n :=
  Number.below?_toDigits small

/-- The label of a state means the state that the mapping gives it. -/
theorem component_text (mapping : LpmMapping) (label : EnergyLabel) :
    Message.component mapping label.text.toList = label.component mapping := by
  cases label <;> cases mapping <;> decide

theorem readEnergest_period {mapping : LpmMapping} {number seconds : Nat} (fits : (period number seconds).Fits) :
    Message.readEnergest mapping (period number seconds).text = .ok (.event (.energest (.period seconds))) := by
  have marked : occurs "Period".toList (period number seconds).text = true :=
    occurs_of_mem_parts (by simp [parts] : "Period summary #".toList ∈ _) (by decide)
  simp only [Message.readEnergest, marked, if_true, periodDigits?_text, Option.bind_some, counter?_decimal fits]
  rfl

theorem readEnergest_total {mapping : LpmMapping} {before after ticks : Nat}
    (fits : (total before after ticks).Fits) :
    Message.readEnergest mapping (total before after ticks).text = .ok (.event (.energest (.total ticks))) := by
  have unmarked : occurs "Period".toList (total before after ticks).text = false := by
    refine occurs_eq_false_of_skeleton ?_
    rw [skeleton_text fits, bare]
    decide
  have marked : occurs "Total time".toList (total before after ticks).text = true :=
    occurs_of_mem_parts (by simp [parts] : "Total time".toList ∈ _) (by decide)
  simp only [Message.readEnergest, unmarked, marked, if_true, totalDigits?_text, Option.bind_some,
    counter?_decimal fits]
  rfl

theorem readEnergest_spent {mapping : LpmMapping} {label : EnergyLabel} {before after ticks gap whole permil : Nat}
    (fits : (spent label before after ticks gap whole permil).Fits) :
    Message.readEnergest mapping (spent label before after ticks gap whole permil).text =
      .ok (.event (.energest (.spent (label.component mapping) ticks))) := by
  have numbers (n : Nat) : (decimal n).filter (fun c => c != ' ' && !c.isDigit) = [] :=
    List.filter_eq_nil_iff.mpr fun c member => by simp [Number.isDigit_of_mem_toDigits member]
  have blanks (n : Nat) : (spaces n).filter (fun c => c != ' ' && !c.isDigit) = [] :=
    List.filter_eq_nil_iff.mpr fun c member => by simp [List.eq_of_mem_replicate member]
  have unmarked : occurs "Period".toList (spent label before after ticks gap whole permil).text = false ∧
      occurs "Total time".toList (spent label before after ticks gap whole permil).text = false := by
    constructor <;> refine occurs_eq_false (fun c => c != ' ' && !c.isDigit) ?_ <;>
      simp only [text, tag, parts, List.flatten_cons, List.flatten_nil, List.filter_append, numbers, blanks] <;>
      cases label <;> decide
  simp only [Message.readEnergest, unmarked.1, unmarked.2, componentParts?_text, counter?_decimal fits,
    component_text]
  rfl

/-- A message is read as the event that it reports, in whatever state the classifier is. -/
theorem read_text (mapping : LpmMapping) {e : Entry} (fits : e.Fits) :
    ∃ said, Message.read mapping e.text e.family = .ok said ∧
      ∀ (c : Classifier) (node : NodeId), c.framing = .simulator →
        c.resolve node said = .ok (c, some (e.kind mapping)) := by
  cases e with
  | associated count => exact ⟨_, rfl, fun _ _ _ => rfl⟩
  | left tx rx sync => exact ⟨_, rfl, fun _ _ _ => rfl⟩
  | leftNetwork => exact ⟨_, rfl, fun _ _ _ => rfl⟩
  | timeSource old new =>
    refine ⟨.event (.timeSourceUpdated new), ?_, fun _ _ _ => rfl⟩
    simp only [family, Message.read, arrowTarget?_timeSource fits, Message.need, bind, Except.bind, pure, Except.pure,
      ofText?_addressText (by decide : Address.ofText? "(NULL LL addr)".toList = none) fits.2]
  | parentLladdr callback new =>
    refine ⟨.event (.parentLladdrUpdated new), ?_, fun _ _ _ => rfl⟩
    simp only [family, Message.read, arrowTarget?_parentLladdr fits, Message.need, bind, Except.bind, pure,
      Except.pure, ofText?_addressText (by decide : Address.ofText? "(NULL LL addr)".toList = none) fits]
  | preferredParent old new =>
    refine ⟨.event (.parentChanged old new), ?_, fun _ _ _ => rfl⟩
    simp only [family, Message.read, preferredParents?_preferredParent fits, Message.need, bind, Except.bind, pure,
      Except.pure, ofText?_addressText (by decide : Address.ofText? "NULL".toList = none) fits.1,
      ofText?_addressText (by decide : Address.ofText? "NULL".toList = none) fits.2]
  | parentSwitch old new =>
    refine ⟨.event (.parentChanged old new), ?_, fun _ _ _ => rfl⟩
    simp only [family, Message.read, preferredParents?_parentSwitch fits, switchedParents?_parentSwitch fits,
      Message.need, bind, Except.bind, pure, Except.pure,
      ofText?_addressText (by decide : Address.ofText? "(NULL IP addr)".toList = none) fits.1,
      ofText?_addressText (by decide : Address.ofText? "(NULL IP addr)".toList = none) fits.2]
  | packetSent seqnum label =>
    refine ⟨.sent seqnum ((label.map decimal).bind Number.short?), ?_, fun c node simulated => ?_⟩
    · simp only [family, Message.read, sentDigits?_text, Message.need, bind, Except.bind, pure, Except.pure,
        short?_decimal fits]
    · simp only [Classifier.resolve, simulated]
      rfl
  | packetReceived seqnum sender address =>
    obtain ⟨seqnumSmall, senderSmall, own⟩ := fits
    refine ⟨.received seqnum sender, ?_, fun c node simulated => ?_⟩
    · simp only [family, Message.read, receivedParts?_text own.address, Message.need, bind, Except.bind, pure,
        Except.pure, short?_decimal seqnumSmall, Address.node?_of_isAddressOf own senderSmall]
    · simp only [Classifier.resolve, simulated]
      rfl
  | linkStats counters neighbour =>
    obtain ⟨tx, ack, rx, drops, printed⟩ := fits
    refine ⟨.event (.linkStats counters neighbour), ?_, fun _ _ _ => rfl⟩
    simp only [family, Message.read, linkParts?_text printed, Message.need, bind, Except.bind, pure, Except.pure,
      List.map_cons, List.map_nil, counter?_decimal tx, counter?_decimal ack, counter?_decimal rx,
      counter?_decimal drops, String.ofList_toList]
  | period number seconds => exact ⟨_, readEnergest_period fits, fun _ _ _ => rfl⟩
  | total before after ticks => exact ⟨_, readEnergest_total fits, fun _ _ _ => rfl⟩
  | spent label before after ticks gap whole permil => exact ⟨_, readEnergest_spent fits, fun _ _ _ => rfl⟩

end Entry

end MeshTrace
