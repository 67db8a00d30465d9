import MeshTrace.Proofs.Classifier.Columns

namespace MeshTrace

/-- The other reading of the two low-power labels. -/
def LpmMapping.other : LpmMapping → LpmMapping
  | .lpmIsDeepSleep => .lpmIsSleep
  | .lpmIsSleep => .lpmIsDeepSleep

/-- The two low-power states change places, here and wherever states of the hardware are named. -/
def Component.exchanged : Component → Component
  | .cpuSleep => .cpuDeepSleep
  | .cpuDeepSleep => .cpuSleep
  | component => component

def EnergestReport.exchanged : EnergestReport → EnergestReport
  | .spent component ticks => .spent component.exchanged ticks
  | report => report

def EventKind.exchanged : EventKind → EventKind
  | .energest report => .energest report.exchanged
  | kind => kind

def Event.exchanged (e : Event) : Event := { e with kind := e.kind.exchanged }

namespace Message

def exchanged : Message → Message
  | .event kind => .event kind.exchanged
  | message => message

/-- The other mapping gives the other low-power state to every label. -/
theorem component_other (mapping : LpmMapping) (label : List Char) :
    component mapping.other label = (component mapping label).exchanged := by
  unfold component
  cases mapping <;> simp only [LpmMapping.other] <;> split <;> first | rfl | simp_all [Component.exchanged]

/-- Where a message ends, and what it lacks, does not depend on the mapping. -/
theorem readEnergest_other (mapping : LpmMapping) (message : List Char) :
    readEnergest mapping.other message = (readEnergest mapping message).map exchanged := by
  unfold readEnergest
  split
  · cases need Defect.period ((periodDigits? message).bind Number.counter?) <;> rfl
  · split
    · cases need Defect.total ((totalDigits? message).bind Number.counter?) <;> rfl
    · split
      · rfl
      · rename_i label digits parts
        simp only [component_other]
        cases need Defect.ticks (Number.counter? digits) <;> rfl

theorem read_other (mapping : LpmMapping) (message : List Char) (family : Family) :
    read mapping.other message family = (read mapping message family).map exchanged := by
  cases family with
  | energest => exact readEnergest_other mapping message
  | timeSource | parentLladdr =>
    simp only [read]
    cases need _ (arrowTarget? message) <;> rfl
  | parentChange =>
    simp only [read]
    split <;> cases need _ _ <;> rfl
  | appSent =>
    simp only [read]
    rcases need .seqnum (sentDigits? message) with defect | ⟨digits, label⟩
    · rfl
    · simp only [bind, Except.bind]
      cases need .seqnumRange (Number.short? digits) <;> rfl
  | appReceived =>
    simp only [read]
    rcases need .seqnumOrSender (receivedParts? message) with defect | ⟨digits, sender⟩
    · rfl
    · simp only [bind, Except.bind]
      cases need .seqnumRange (Number.short? digits) with
      | error defect => rfl
      | ok seqnum => cases need .sender (Address.node? sender) <;> rfl
  | linkStats =>
    simp only [read]
    rcases need .counters (linkParts? message) with defect | ⟨digits, neighbour⟩
    · rfl
    · simp only [bind, Except.bind]
      split <;> rfl
  | _ => rfl

end Message

namespace Classifier

def exchanged (c : Classifier) : Classifier := { c with mapping := c.mapping.other }

/-- The columns of a line do not depend on the mapping. -/
theorem columns_exchanged (c : Classifier) (line : List Char) :
    c.exchanged.columns line = ((c.columns line).1.exchanged, (c.columns line).2) := by
  obtain ⟨framing, mapping, origin, devices, lastTime, node⟩ := c
  cases framing with
  | simulator => rfl
  | testbed =>
    simp only [exchanged, columns]
    split <;> rfl

theorem framed_exchanged (c : Classifier) (columns : Columns) :
    c.exchanged.framed columns = (c.framed columns).exchanged := rfl

theorem resolve_exchanged (c : Classifier) (node : NodeId) (message : Message) :
    c.exchanged.resolve node message.exchanged =
      (c.resolve node message).map fun (c, kind) => (c.exchanged, kind.map EventKind.exchanged) := by
  obtain ⟨framing, mapping, origin, devices, lastTime, own⟩ := c
  cases message with
  | ignored | event kind => rfl
  | sent seqnum label => cases framing <;> cases label <;> rfl
  | received seqnum label => cases framing <;> rfl

theorem simulationEnd?_exchanged (line : List Char) : (simulationEnd? line).map Event.exchanged = simulationEnd? line := by
  unfold simulationEnd?
  split
  · cases endMicros? line <;> rfl
  · rfl

theorem understand_exchanged (c : Classifier) (columns : Columns) (family : Family) :
    (Message.read c.exchanged.mapping columns.message family).bind (c.exchanged.resolve columns.node) =
      ((Message.read c.mapping columns.message family).bind (c.resolve columns.node)).map
        fun (c, kind) => (c.exchanged, kind.map EventKind.exchanged) := by
  have read := Message.read_other c.mapping columns.message family
  rw [show c.exchanged.mapping = c.mapping.other from rfl, read]
  cases Message.read c.mapping columns.message family with
  | error defect => rfl
  | ok message => exact c.resolve_exchanged columns.node message

/-- The two mappings reject the same lines, for the same reasons, and ignore the same lines. Of the others they make events
that differ in the low-power states that they name. -/
theorem classify_exchanged (c : Classifier) (line : List Char) :
    c.exchanged.classify line = ((c.classify line).1.exchanged, (c.classify line).2.map (Option.map Event.exchanged)) := by
  have taken : c.exchanged.carried.columns (Text.trim line) =
      ((c.carried.columns (Text.trim line)).1.exchanged, (c.carried.columns (Text.trim line)).2) :=
    columns_exchanged c.carried (Text.trim line)
  rcases framed : (c.carried.columns (Text.trim line)).2 with _ | columns
  · have unframed : (c.exchanged.carried.columns (Text.trim line)).2 = none := by rw [taken, framed]
    rw [classify_of_unframed framed, classify_of_unframed unframed, taken, Except.map, simulationEnd?_exchanged]
  · have framed' : (c.exchanged.carried.columns (Text.trim line)).2 = some columns := by rw [taken, framed]
    rw [classify_of_framed framed, classify_of_framed framed', taken]
    cases Family.ofMessage? columns.message with
    | none => rfl
    | some family =>
      have understood := understand_exchanged ((c.carried.columns (Text.trim line)).1.framed columns) columns family
      simp only [framed_exchanged, understood]
      rcases (Message.read _ columns.message family).bind _ with defect | ⟨next, _ | kind⟩ <;> rfl

/-- Every line yields the same event, but for the two states. -/
theorem event?_exchanged (c : Classifier) (line : List Char) :
    c.exchanged.event? line = (c.event? line).map Event.exchanged := by
  rw [event?, classify_exchanged, event?]
  cases (c.classify line).2 <;> rfl

end Classifier

end MeshTrace
