import MeshTrace.Proofs.Number.Digits
import MeshTrace.Proofs.Tracker.Packets
import MeshTrace.Run.Analysis

namespace MeshTrace

namespace Framing

/-- The nodes of a simulator trace fit into 32 bits. -/
theorem node_lt_of_simulatorColumns? {line : List Char} {columns : Columns}
    (found : simulatorColumns? line = some columns) : columns.node < 0x100000000 := by
  unfold simulatorColumns? at found
  split at found
  · cases found
  · split at found
    · cases found
    · split at found
      · rename_i short
        cases found
        exact Number.lt_of_below? short
      · cases found

theorem node_lt_of_testbedColumns? {origin seconds : Float} {line : List Char} {columns : Columns}
    (found : testbedColumns? origin seconds line = some columns) : columns.node < 0x100000000 := by
  unfold testbedColumns? at found
  split at found
  · obtain ⟨node, tagged, rfl⟩ := Option.map_eq_some_iff.mp found
    unfold tagNode? at tagged
    split at tagged
    · exact Number.lt_of_below? tagged
    · cases tagged
  · cases found

end Framing

namespace Message

theorem need_eq_ok {β : Type} {defect : Defect} {o : Option β} {b : β} :
    need defect o = .ok b ↔ o = some b := by
  cases o <;> simp [need]

theorem bind_eq_ok {ε β γ : Type} {x : Except ε β} {f : β → Except ε γ} {c : γ} :
    x.bind f = .ok c ↔ ∃ b, x = .ok b ∧ f b = .ok c := by
  cases x <;> simp [Except.bind]

theorem map_eq_ok {ε β γ : Type} {x : Except ε β} {f : β → γ} {c : γ} :
    x.map f = .ok c ↔ ∃ b, x = .ok b ∧ f b = c := by
  cases x <;> simp [Except.map]

theorem of_readEnergest {mapping : LpmMapping} {message : List Char} {said : Message}
    (read : readEnergest mapping message = .ok said) :
    said = .ignored ∨ ∃ report, said = .event (.energest report) := by
  unfold readEnergest at read
  split at read
  · obtain ⟨seconds, -, rfl⟩ := map_eq_ok.mp read
    exact Or.inr ⟨.period seconds, rfl⟩
  · split at read
    · obtain ⟨ticks, -, rfl⟩ := map_eq_ok.mp read
      exact Or.inr ⟨.total ticks, rfl⟩
    · split at read
      · cases read
        exact Or.inl rfl
      · rename_i label _ _
        obtain ⟨ticks, -, rfl⟩ := map_eq_ok.mp read
        exact Or.inr ⟨.spent (component mapping label) ticks, rfl⟩

/-- The number of the packet that a message says was sent. -/
def sentSeqnum? : Message → Option Seqnum
  | event (.packetSent seqnum) => some seqnum
  | sent seqnum _ => some seqnum
  | _ => none

theorem sentSeqnum?_lt {mapping : LpmMapping} {message : List Char} {family : Family} {said : Message}
    {seqnum : Seqnum} (read : Message.read mapping message family = .ok said)
    (sending : said.sentSeqnum? = some seqnum) : seqnum < 0x100000000 := by
  cases family with
  | appSent =>
    simp only [Message.read, bind, bind_eq_ok, need_eq_ok, pure, Except.pure, Except.ok.injEq] at read
    obtain ⟨parts, found, q, short, rfl⟩ := read
    cases sending
    exact Number.lt_of_below? short
  | energest =>
    rcases of_readEnergest read with rfl | ⟨report, rfl⟩ <;> cases sending
  | linkStats =>
    simp only [Message.read, bind, bind_eq_ok, need_eq_ok, pure, Except.pure] at read
    obtain ⟨parts, found, read⟩ := read
    split at read
    · cases read
      cases sending
    · cases read
  | appReceived =>
    simp only [Message.read, bind, bind_eq_ok, need_eq_ok, pure, Except.pure, Except.ok.injEq] at read
    obtain ⟨parts, found, q, short, label, named, rfl⟩ := read
    cases sending
  | timeSource | parentLladdr | parentChange =>
    simp only [Message.read, bind, bind_eq_ok, need_eq_ok, pure, Except.pure, Except.ok.injEq] at read
    obtain ⟨parts, found, rfl⟩ := read
    cases sending
  | association | leavingNetwork | leftNetwork | linkTraffic =>
    cases read
    cases sending

end Message

namespace Classifier

/-- The event of a line, if it has one. -/
def event? (c : Classifier) (line : List Char) : Option Event :=
  match (c.classify line).2 with
  | .ok event => event
  | .error _ => none

/-- The events of the lines that follow. -/
def events (c : Classifier) : List (List Char) → List Event
  | [] => []
  | line :: lines => (c.event? line).toList ++ (c.classify line).1.events lines

theorem node_lt_of_columns {c : Classifier} {line : List Char} {columns : Columns}
    (found : (c.columns line).2 = some columns) : columns.node < 0x100000000 := by
  unfold Classifier.columns at found
  split at found
  · exact Framing.node_lt_of_simulatorColumns? found
  · split at found
    · cases found
    · exact Framing.node_lt_of_testbedColumns? found

theorem endTime?_of_simulationEnd? {line : List Char} {e : Event} (ended : simulationEnd? line = some e) :
    e.endTime? = some e.time := by
  unfold simulationEnd? at ended
  split at ended
  · obtain ⟨micros, -, rfl⟩ := Option.map_eq_some_iff.mp ended
    rfl
  · cases ended

/-- An event comes from a line without columns that ends the simulation, or from the message behind the
columns of a line. -/
theorem of_event?_eq_some {c : Classifier} {line : List Char} {e : Event} (found : c.event? line = some e) :
    simulationEnd? (Text.trim line) = some e ∨
      ∃ (columns : Columns) (family : Family) (said : Message) (d next : Classifier),
        (Classifier.columns { c with node := none } (Text.trim line)).2 = some columns ∧
        Message.read d.mapping columns.message family = .ok said ∧
        d.resolve columns.node said = .ok (next, some e.kind) ∧ e.node = columns.node := by
  unfold event? classify at found
  rcases framed : Classifier.columns { c with node := none } (Text.trim line) with ⟨d, _ | ⟨time, node, message⟩⟩
  · simp only [framed] at found
    exact Or.inl found
  · simp only [framed] at found
    cases marked : Family.ofMessage? message with
    | none => simp [marked] at found
    | some family =>
      simp only [marked] at found
      cases resolved : (Message.read d.mapping message family).bind
          (resolve { d with lastTime := some time, node := some node } node) with
      | error defect => simp [resolved] at found
      | ok result =>
        obtain ⟨next, kind⟩ := result
        obtain ⟨said, read, meant⟩ := Message.bind_eq_ok.mp resolved
        simp only [resolved, Option.map_eq_some_iff] at found
        obtain ⟨kind, rfl, rfl⟩ := found
        exact Or.inr ⟨⟨time, node, message⟩, family, said,
          { d with lastTime := some time, node := some node }, next, rfl, read, meant, rfl⟩

theorem sentSeqnum?_of_resolve {c next : Classifier} {node : NodeId} {said : Message} {seqnum : Seqnum}
    (meant : c.resolve node said = .ok (next, some (.packetSent seqnum))) :
    said.sentSeqnum? = some seqnum := by
  cases said with
  | ignored => cases meant
  | event kind =>
    cases meant
    rfl
  | sent number label =>
    simp only [resolve] at meant
    split at meant <;> cases meant <;> rfl
  | received number label =>
    simp only [resolve] at meant
    split at meant <;> cases meant

/-- The packets that a trace reports as sent have short numbers and come from nodes with short numbers. -/
theorem short_of_sent? {c : Classifier} {line : List Char} {e : Event} {p : Packet}
    (found : c.event? line = some e) (sending : e.sent? = some p) :
    p.1 < 0x100000000 ∧ p.2 < 0x100000000 := by
  obtain ⟨eventTime, eventNode, kind, raw⟩ := e
  cases kind with
  | packetSent seqnum =>
    cases sending
    rcases of_event?_eq_some found with ended | ⟨columns, family, said, d, next, framed, read, meant, own⟩
    · cases endTime?_of_simulationEnd? ended
    · exact ⟨own ▸ node_lt_of_columns framed, Message.sentSeqnum?_lt read (sentSeqnum?_of_resolve meant)⟩
  | _ => cases sending

/-- The node and the number of a packet sent fit into 32 bits. -/
theorem short_of_mem_events {c : Classifier} {lines : List (List Char)} {e : Event} {p : Packet}
    (member : e ∈ c.events lines) (sending : e.sent? = some p) :
    p.1 < 0x100000000 ∧ p.2 < 0x100000000 := by
  induction lines generalizing c with
  | nil => cases member
  | cons line lines ih =>
    rcases List.mem_append.mp member with here | later
    · exact short_of_sent? (Option.mem_toList.mp here) sending
    · exact ih later

end Classifier

namespace Analysis

variable {α : Type} [Scalar α]

theorem classifier_readLine (a : Analysis α) (line : List Char) :
    (a.readLine line).classifier = (a.classifier.classify line).1 := rfl

/-- A line accounts its event, and then makes its node known. -/
theorem tracker_readLine (a : Analysis α) (line : List Char) :
    (a.readLine line).tracker =
      (a.classifier.classify line).1.node.toList.foldl Tracker.observe
        ((a.classifier.event? line).toList.foldl Tracker.apply a.tracker) := by
  rcases classified : a.classifier.classify line with ⟨⟨_, _, _, _, _, _ | id⟩, defect | _ | event⟩ <;>
    simp only [readLine, Classifier.event?, classified, Option.toList_none, Option.toList_some, List.foldl_nil,
      List.foldl_cons]

/-- Reading a line is accounting its event, and making its node known. -/
theorem reach_readLine {events : List Event} {a : Analysis α} (reach : Tracker.Reach events a.tracker)
    (line : List Char) :
    Tracker.Reach (events ++ (a.classifier.event? line).toList) (a.readLine line).tracker := by
  have accounted := reach.foldl (a.classifier.event? line).toList
  rw [tracker_readLine]
  -- The node of the line, if it has one, is made known, which does not touch the accounts.
  cases (a.classifier.classify line).1.node with
  | none => exact accounted
  | some id => exact accounted.known id

/-- The tracker accounts the events of the lines, in their order. -/
theorem reach_foldl {events : List Event} {a : Analysis α} (reach : Tracker.Reach events a.tracker)
    (lines : List (List Char)) :
    Tracker.Reach (events ++ a.classifier.events lines) (lines.foldl readLine a).tracker := by
  induction lines generalizing events a with
  | nil => simpa [Classifier.events] using reach
  | cons line lines ih =>
    have step := ih (reach_readLine reach line)
    rw [classifier_readLine, List.append_assoc] at step
    exact step

/-- Reading lines from the start reaches what their events reach. -/
theorem reach_start (framing : Framing) (mapping : LpmMapping) (lines : List (List Char)) :
    Tracker.Reach ((Classifier.start framing mapping).events lines)
      (lines.foldl readLine (start framing mapping : Analysis α)).tracker :=
  reach_foldl (a := start framing mapping) .start lines

end Analysis

end MeshTrace
