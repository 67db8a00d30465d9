import MeshTrace.Proofs.Classifier.Columns
import MeshTrace.Proofs.Classifier.Labels

namespace MeshTrace

namespace Message

/-- What a message says of the sender of a packet stands in its text, and nothing else is a packet. -/
def NamesSender (message : List Char) : Message → Prop
  | ignored => True
  | event (.packetSent _) => False
  | event (.packetReceived _ _) => False
  | event _ => True
  | sent _ label => ownLabel? message = label
  | received _ label => senderLabel? message = some label

/-- A message that is read names the sender as its text does. -/
theorem namesSender_of_read {mapping : LpmMapping} {message : List Char} {family : Family} {said : Message}
    (read : Message.read mapping message family = .ok said) : said.NamesSender message := by
  cases family with
  | appSent =>
    simp only [Message.read, bind, bind_eq_ok, need_eq_ok, pure, Except.pure, Except.ok.injEq] at read
    obtain ⟨⟨digits, label⟩, found, seqnum, short, rfl⟩ := read
    simp only [NamesSender, ownLabel?, found, Option.bind_some]
  | appReceived =>
    simp only [Message.read, bind, bind_eq_ok, need_eq_ok, pure, Except.pure, Except.ok.injEq] at read
    obtain ⟨⟨digits, sender⟩, found, seqnum, short, label, named, rfl⟩ := read
    simp only [NamesSender, senderLabel?, found, named, Option.bind_some]
  | energest =>
    rcases of_readEnergest read with rfl | ⟨report, rfl⟩ <;> exact trivial
  | linkStats =>
    simp only [Message.read, bind, bind_eq_ok, need_eq_ok, pure, Except.pure] at read
    obtain ⟨parts, found, read⟩ := read
    split at read
    · cases read
      exact trivial
    · cases read
  | timeSource | parentLladdr | parentChange =>
    simp only [Message.read, bind, bind_eq_ok, need_eq_ok, pure, Except.pure, Except.ok.injEq] at read
    obtain ⟨parts, found, rfl⟩ := read
    exact trivial
  | association | leavingNetwork | leftNetwork | linkTraffic =>
    cases read
    exact trivial

end Message

namespace Event

/-- The two numbers of a sender that an event shows: the one that it gives to itself, and the one of the testbed. -/
def registration? (e : Event) : Option (NodeId × NodeId) :=
  match e.kind with
  | .packetSent _ => (Message.ownLabel? e.raw.toList).map (·, e.node)
  | _ => none

end Event

/-- The testbed's number of the last sender, among these events, that gave itself this number. -/
def lastDevice? (label : NodeId) (events : List Event) : Option NodeId :=
  ((events.filterMap Event.registration?).filter (·.1 = label)).getLast?.map (·.2)

/-- The last entry of a number counts. -/
theorem lastDevice?_append (label : NodeId) (front back : List Event) :
    lastDevice? label (front ++ back) = (lastDevice? label back).or (lastDevice? label front) := by
  unfold lastDevice?
  rw [List.filterMap_append, List.filter_append, List.getLast?_append, Option.map_or]

namespace Classifier

/-- How a device table goes on when a node of the testbed reports, in a message, an event of some kind or none: a packet
sent enters the node under the number that it gives to itself, and an arrival looks its sender up. -/
inductive DeviceStep (devices : Table NodeId) (node : NodeId) (message : List Char) :
    Option EventKind → Table NodeId → Prop
  | sent {label : NodeId} (seqnum : Seqnum) : Message.ownLabel? message = some label →
      DeviceStep devices node message (some (.packetSent seqnum)) (devices.insert label node)
  | received {label : NodeId} (seqnum : Seqnum) : Message.senderLabel? message = some label →
      DeviceStep devices node message (some (.packetReceived seqnum ((devices.get? label).getD 0))) devices
  | other {kind : EventKind} :
      (Message.event kind).NamesSender message → DeviceStep devices node message (some kind) devices
  | nothing : DeviceStep devices node message none devices

namespace DeviceStep

variable {devices next : Table NodeId} {node : NodeId} {message : List Char}

/-- A packet sent has entered its node under the number in the message. -/
theorem of_sent {seqnum : Seqnum} (step : DeviceStep devices node message (some (.packetSent seqnum)) next) :
    ∃ label, Message.ownLabel? message = some label ∧ next = devices.insert label node := by
  cases step with
  | @sent label _ named => exact ⟨label, named, rfl⟩
  | other silent => exact silent.elim

theorem of_received {seqnum : Seqnum} {sender : NodeId}
    (step : DeviceStep devices node message (some (.packetReceived seqnum sender)) next) :
    ∃ label, Message.senderLabel? message = some label ∧ sender = (devices.get? label).getD 0 := by
  cases step with
  | @received label _ named => exact ⟨label, named, rfl⟩
  | other silent => exact silent.elim

/-- Only a packet sent changes the table. -/
theorem of_not_sent {kind : Option EventKind} (step : DeviceStep devices node message kind next)
    (silent : ∀ seqnum, kind ≠ some (.packetSent seqnum)) : next = devices := by
  cases step with
  | sent seqnum => exact absurd rfl (silent seqnum)
  | _ => rfl

end DeviceStep

variable {c next : Classifier} {node : NodeId} {message : List Char} {said : Message}

/-- A message of a testbed trace goes one step with the table. -/
theorem deviceStep_resolve (testbed : c.framing = .testbed) (names : said.NamesSender message) {kind : Option EventKind}
    (meant : c.resolve node said = .ok (next, kind)) : DeviceStep c.devices node message kind next.devices := by
  cases said with
  | ignored =>
    cases meant
    exact .nothing
  | event kind =>
    cases meant
    exact .other names
  | sent seqnum label =>
    simp only [resolve, testbed] at meant
    cases label with
    | none => cases meant
    | some label =>
      cases meant
      exact .sent seqnum names
  | received seqnum label =>
    simp only [resolve, testbed] at meant
    cases meant
    exact .received seqnum names

/-- What a line does: it leaves the device table as it is, and yields the end of the simulation at most, or it has a
message that says what the line yields. -/
theorem classify_cases (c : Classifier) (line : List Char) :
    ((c.classify line).1.devices = c.devices ∧ ∀ e, c.event? line = some e → e.endTime?.isSome = true) ∨
      ∃ columns said kind, (c.columns (Text.trim line)).2 = some columns ∧ said.NamesSender columns.message ∧
        ((c.carried.columns (Text.trim line)).1.framed columns).resolve columns.node said =
          .ok ((c.classify line).1, kind) ∧
        c.event? line = kind.map (⟨columns.time, columns.node, ·, String.ofList columns.message⟩) := by
  have devices : (c.carried.columns (Text.trim line)).1.devices = c.devices := by
    rw [fst_columns]
    rfl
  rcases framed : (c.carried.columns (Text.trim line)).2 with _ | columns
  · have read := classify_of_unframed framed
    refine Or.inl ⟨by rw [read, devices], fun e found => ?_⟩
    simp only [event?, read] at found
    rw [endTime?_of_simulationEnd? found]
    rfl
  · have read := classify_of_framed framed
    cases marked : Family.ofMessage? columns.message with
    | none =>
      simp only [marked] at read
      exact Or.inl ⟨by rw [read]; exact devices, fun e found => by simp [event?, read] at found⟩
    | some family =>
      simp only [marked] at read
      split at read
      · exact Or.inl ⟨by rw [read]; exact devices, fun e found => by simp [event?, read] at found⟩
      · rename_i next kind outcome
        obtain ⟨said, spoken, meant⟩ := Message.bind_eq_ok.mp outcome
        refine Or.inr ⟨columns, said, kind, c.snd_columns_carried (Text.trim line) ▸ framed,
          Message.namesSender_of_read spoken, ?_, ?_⟩
        · rw [read]
          exact meant
        · simp only [event?, read]

/-- What a testbed line does to the device table: its event, if it has one, is that of a message behind columns, or the
end of the simulation. -/
theorem deviceStep_classify (testbed : c.framing = .testbed) (line : List Char) :
    ((c.classify line).1.devices = c.devices ∧ ∀ e, c.event? line = some e → e.endTime?.isSome = true) ∨
      ∃ columns kind, (c.columns (Text.trim line)).2 = some columns ∧
        c.event? line = kind.map (⟨columns.time, columns.node, ·, String.ofList columns.message⟩) ∧
        DeviceStep c.devices columns.node columns.message kind (c.classify line).1.devices := by
  rcases c.classify_cases line with unread | ⟨columns, said, kind, framed, names, meant, found⟩
  · exact Or.inl unread
  · have step := deviceStep_resolve (by rw [fst_columns]; exact testbed) names meant
    rw [fst_columns] at step
    exact Or.inr ⟨columns, kind, framed, found, step⟩

theorem deviceStep_of_event? (testbed : c.framing = .testbed) {line : List Char} {e : Event}
    (found : c.event? line = some e) (inside : e.endTime? = none) :
    ∃ columns, (c.columns (Text.trim line)).2 = some columns ∧ e.node = columns.node ∧
      e.raw = String.ofList columns.message ∧
      DeviceStep c.devices columns.node columns.message (some e.kind) (c.classify line).1.devices := by
  rcases deviceStep_classify testbed line with ⟨-, ended⟩ | ⟨columns, kind, framed, meant, step⟩
  · have ends := ended e found
    rw [inside] at ends
    cases ends
  · rw [found] at meant
    obtain ⟨kind, rfl, rfl⟩ := Option.map_eq_some_iff.mp meant.symm
    exact ⟨columns, framed, rfl, rfl, step⟩

theorem devices_classify_of_not_sent (testbed : c.framing = .testbed) {line : List Char}
    (silent : ∀ e seqnum, c.event? line = some e → e.kind ≠ .packetSent seqnum) :
    (c.classify line).1.devices = c.devices := by
  rcases deviceStep_classify testbed line with ⟨kept, -⟩ | ⟨columns, kind, -, meant, step⟩
  · exact kept
  · refine step.of_not_sent fun seqnum sent => ?_
    rw [sent] at meant
    exact silent _ seqnum meant rfl

/-- One line enters the numbers of its own packet, if it sends one, and leaves all others as they are. -/
theorem get?_devices_classify (testbed : c.framing = .testbed) (line : List Char) (label : NodeId) :
    (c.classify line).1.devices.get? label =
      (lastDevice? label (c.event? line).toList).or (c.devices.get? label) := by
  rcases deviceStep_classify testbed line with ⟨kept, ended⟩ | ⟨columns, kind, framed, found, step⟩
  · have nothing : lastDevice? label (c.event? line).toList = none := by
      cases found : c.event? line with
      | none => rfl
      | some e =>
        obtain ⟨time, node, kind, raw⟩ := e
        cases kind with
        | simulationEnded => rfl
        | _ => cases ended _ found
    rw [kept, nothing, Option.none_or]
  · -- The event and the next table are fixed by the step, so that its cases can be gone through.
    rw [found]
    generalize (c.classify line).1.devices = next at step ⊢
    cases step with
    | @sent own seqnum named =>
      rw [Table.insert, Table.get?_update]
      by_cases same : own = label
      · simp [lastDevice?, Event.registration?, named, same]
      · simp [lastDevice?, Event.registration?, named, same, Ne.symm same]
    | received seqnum named => rfl
    | @other kind silent =>
      cases kind with
      | packetSent => exact silent.elim
      | _ => rfl
    | nothing => rfl

/-- The device table is what the packets sent have entered so far, the last entry of each number counting. -/
theorem get?_devices_after (testbed : c.framing = .testbed) (lines : List (List Char)) (label : NodeId) :
    (c.after lines).devices.get? label = (lastDevice? label (c.events lines)).or (c.devices.get? label) := by
  induction lines generalizing c with
  | nil => rfl
  | cons line lines ih =>
    have still : (c.classify line).1.framing = .testbed := (c.framing_classify line).trans testbed
    show ((c.classify line).1.after lines).devices.get? label = _
    rw [ih still, get?_devices_classify testbed, events, lastDevice?_append, Option.or_assoc]

/-- In a testbed trace, the sender of an arrival is the node whose line was the last to send a packet under the number
at the end of the sender's address, and node zero if there was none. The device table holds these nodes at every point:
a line that sends no packet, because it reports something else, is malformed or has no columns, leaves it as it is. The
numbers are those in the field of the packet sent and in the last group of the address. -/
theorem devices_after_start (mapping : LpmMapping) (earlier : List (List Char)) (line : List Char) :
    let c := (start .testbed mapping).after earlier
    let events := (start .testbed mapping).events earlier
    (∀ label, c.devices.get? label = lastDevice? label events) ∧
      (∀ e seqnum, c.event? line = some e → e.kind = .packetSent seqnum →
        ∃ columns label, (c.columns (Text.trim line)).2 = some columns ∧
          Message.ownLabel? columns.message = some label ∧ e.registration? = some (label, columns.node) ∧
          (c.classify line).1.devices = c.devices.insert label columns.node) ∧
      (∀ e seqnum sender, c.event? line = some e → e.kind = .packetReceived seqnum sender →
        ∃ columns label, (c.columns (Text.trim line)).2 = some columns ∧
          Message.senderLabel? columns.message = some label ∧ sender = (lastDevice? label events).getD 0) ∧
      ((∀ e seqnum, c.event? line = some e → e.kind ≠ .packetSent seqnum) →
        (c.classify line).1.devices = c.devices) ∧
      (∀ message label, Message.ownLabel? message = some label ↔ Message.OwnField message label) ∧
      ∀ message label, Message.senderLabel? message = some label ↔ Message.SenderGroup message label := by
  intro c events
  have testbed : c.framing = .testbed := framing_after (start .testbed mapping) earlier
  have table (label : NodeId) : c.devices.get? label = lastDevice? label events := by
    rw [get?_devices_after rfl earlier label]
    exact Option.or_none
  refine ⟨table, fun e seqnum found sent => ?_, fun e seqnum sender found received => ?_,
    devices_classify_of_not_sent testbed, fun _ _ => Message.ownLabel?_eq_some_iff,
    fun _ _ => Message.senderLabel?_eq_some_iff⟩
  · obtain ⟨columns, framed, node, raw, step⟩ := deviceStep_of_event? testbed found (by simp [Event.endTime?, sent])
    rw [sent] at step
    obtain ⟨label, named, next⟩ := step.of_sent
    exact ⟨columns, label, framed, named, by simp [Event.registration?, sent, node, raw, named], next⟩
  · obtain ⟨columns, framed, -, -, step⟩ := deviceStep_of_event? testbed found (by simp [Event.endTime?, received])
    rw [received] at step
    obtain ⟨label, named, looked⟩ := step.of_received
    exact ⟨columns, label, framed, named, by rw [looked, table]⟩

/-- Two nodes give themselves the same number, and a third one, later, none. -/
def sharedNumber : List (List Char) :=
  ["1.0;m3-7;app generate packet seqnum=1 node_id=16".toList, "2.0;m3-9;app generate packet seqnum=1 node_id=16".toList,
    "3.0;m3-8;app generate packet seqnum=1".toList]

def sharedNumberArrival : List Char := "4.0;m3-1;app receive packet seqnum=1 from=fe80::10".toList

/-- The arrival is from the second of the two nodes with the number. -/
theorem devices_after_start_sharedNumber :
    lastDevice? 16 ((start .testbed .lpmIsDeepSleep).events sharedNumber) = some 9 ∧
      (∃ e, ((start .testbed .lpmIsDeepSleep).after sharedNumber).event? sharedNumberArrival = some e ∧
        e.kind = .packetReceived 1 9) ∧
      Message.OwnField "app generate packet seqnum=1 node_id=16".toList 16 ∧
      Message.SenderGroup "app receive packet seqnum=1 from=fe80::10".toList 16 := by
  obtain ⟨table, -, -, -, own, sender⟩ := devices_after_start .lpmIsDeepSleep sharedNumber sharedNumberArrival
  have entry : ((start .testbed .lpmIsDeepSleep).after sharedNumber).devices.get? 16 = some 9 := by decide +kernel
  have arrival : (((start .testbed .lpmIsDeepSleep).after sharedNumber).event? sharedNumberArrival).map (·.kind) =
      some (.packetReceived 1 9) := by decide +kernel
  exact ⟨(table 16).symm.trans entry, Option.map_eq_some_iff.mp arrival, (own _ _).mp (by decide +kernel),
    (sender _ _).mp (by decide +kernel)⟩

end Classifier

end MeshTrace
