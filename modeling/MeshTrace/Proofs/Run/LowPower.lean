import MeshTrace.Proofs.Classifier.Events
import MeshTrace.Proofs.Classifier.LowPower
import MeshTrace.Proofs.Number.Exact
import MeshTrace.Proofs.Tracker.Symmetry

namespace MeshTrace

def Ticks.exchanged (t : Ticks) : Ticks := { t with cpuSleep := t.cpuDeepSleep, cpuDeepSleep := t.cpuSleep }

/-- A node whose ticks in the two low-power states have changed places. -/
def Node.exchanged {α : Type} (n : Node α) : Node α := { n with ticks := n.ticks.exchanged }

/-- The same settings, but the labels are read the other way round, and the currents are those of the other state. -/
def Settings.exchanged {α : Type} (s : Settings α) : Settings α :=
  { s with
    mapping := s.mapping.other
    currents :=
      { s.currents with
        cpuSleep := s.currents.cpuDeepSleep
        cpuDeepSleep := s.currents.cpuSleep } }

variable {α : Type}

namespace Node

theorem closeEpisode_exchanged (n : Node α) (time : Millis) :
    n.exchanged.closeEpisode time = (n.closeEpisode time).exchanged := by
  cases since : n.joinedSince <;> simp [closeEpisode, exchanged, since]

theorem countLink_exchanged (n : Node α) (counters : LinkCounters) (neighbour : Address) :
    n.exchanged.countLink counters neighbour = (n.countLink counters neighbour).exchanged := by
  rw [countLink, countLink, apply_ite exchanged]
  rfl

variable [Scalar α]

theorem countEnergest_exchanged (n : Node α) (report : EnergestReport) :
    n.exchanged.countEnergest report.exchanged = (n.countEnergest report).exchanged := by
  cases report with
  | period seconds =>
    show (if seconds = 0 then _ else _) = exchanged (if seconds = 0 then _ else _)
    rw [apply_ite exchanged]
    rfl
  | total ticks => rfl
  | spent component ticks => cases component <;> rfl

theorem apply_exchanged (n : Node α) (time : Millis) (kind : EventKind) :
    n.exchanged.apply time kind.exchanged = (n.apply time kind).exchanged := by
  cases kind with
  | left | leftNetwork => exact closeEpisode_exchanged { n with joined := false, ticksJoined := false } time
  | parentChanged old new =>
    cases new with
    | none =>
      exact closeEpisode_exchanged
        { n with parentSwitches := n.parentSwitches + 1, parent := none, joined := false, ticksJoined := false } time
    | some parent => rfl
  | linkStats counters neighbour => exact n.countLink_exchanged counters neighbour
  | energest report => exact n.countEnergest_exchanged report
  | _ => rfl

/-- An event is accounted alike, but for the two states. -/
theorem account_exchanged (n : Node α) (e : Event) : n.exchanged.account e.exchanged = (n.account e).exchanged := by
  obtain ⟨time, node, kind, raw⟩ := e
  have applied := n.apply_exchanged time kind
  cases kind with
  | packetSent seqnum | packetReceived seqnum sender => rfl
  | _ => exact applied

end Node

variable [Scalar α]

/-- Accounting does not notice that the two low-power states change places. -/
def lowPower : Symmetry α where
  node := Node.exchanged
  event := Event.exchanged
  time := id
  fresh _ := rfl
  id _ := rfl
  owner e := by
    obtain ⟨time, node, kind, raw⟩ := e
    cases kind <;> rfl
  nodes e := by
    obtain ⟨time, node, kind, raw⟩ := e
    cases kind <;> rfl
  endTime? e := by
    obtain ⟨time, node, kind, raw⟩ := e
    cases kind <;> rfl
  account := Node.account_exchanged
  rejection? n e := by
    obtain ⟨time, node, kind, raw⟩ := e
    cases kind <;> rfl
  closeEpisode := Node.closeEpisode_exchanged

namespace Analysis

def exchanged (a : Analysis α) : Analysis α :=
  ⟨a.classifier.exchanged, lowPower.tracker a.tracker, a.linesRead, a.malformedLines⟩

theorem tracker_readLine_exchanged (a : Analysis α) (line : List Char) :
    (a.exchanged.readLine line).tracker = lowPower.tracker (a.readLine line).tracker := by
  have event : a.exchanged.classifier.event? line = (a.classifier.event? line).map Event.exchanged :=
    a.classifier.event?_exchanged line
  have node : (a.exchanged.classifier.classify line).1.node = (a.classifier.classify line).1.node :=
    congrArg (·.1.node) (a.classifier.classify_exchanged line)
  have accounted : ((a.classifier.event? line).toList.map Event.exchanged).foldl Tracker.apply a.exchanged.tracker =
      lowPower.tracker ((a.classifier.event? line).toList.foldl Tracker.apply a.tracker) :=
    lowPower.foldl_apply_tracker ..
  rw [tracker_readLine, tracker_readLine, node, event, Option.toList_map, accounted]
  cases (a.classifier.classify line).1.node with
  | none => rfl
  | some id => exact lowPower.observe_tracker _ id

theorem malformedLines_readLine_exchanged (a : Analysis α) (line : List Char) :
    (a.exchanged.readLine line).malformedLines = (a.readLine line).malformedLines := by
  have outcome : (a.exchanged.classifier.classify line).2 =
      (a.classifier.classify line).2.map (Option.map Event.exchanged) :=
    congrArg Prod.snd (a.classifier.classify_exchanged line)
  simp only [readLine, outcome]
  cases (a.classifier.classify line).2 <;> rfl

theorem readLine_exchanged (a : Analysis α) (line : List Char) :
    a.exchanged.readLine line = (a.readLine line).exchanged :=
  (Analysis.mk.injEq ..).mpr
    ⟨congrArg Prod.fst (a.classifier.classify_exchanged line), a.tracker_readLine_exchanged line, rfl,
      a.malformedLines_readLine_exchanged line⟩

/-- Lines are read alike, but for the two states. -/
theorem foldl_exchanged (a : Analysis α) (lines : List (List Char)) :
    lines.foldl readLine a.exchanged = (lines.foldl readLine a).exchanged := by
  induction lines generalizing a with
  | nil => rfl
  | cons line lines ih => rw [List.foldl_cons, readLine_exchanged, ih, List.foldl_cons]

theorem trace_exchanged (a : Analysis α) : a.exchanged.trace = lowPower.trace a.trace := by
  have finished := lowPower.finish_tracker a.tracker a.classifier.lastTime fun _ _ => rfl
  rw [show a.classifier.lastTime.map lowPower.time = a.classifier.lastTime from Option.map_id'] at finished
  have read : a.exchanged.trace =
      { (lowPower.tracker a.tracker).finish a.classifier.lastTime with
        diagnostics :=
          { ((lowPower.tracker a.tracker).finish a.classifier.lastTime).diagnostics with
            linesRead := a.linesRead
            malformedLines := a.malformedLines } } := rfl
  rw [read, finished]
  rfl

end Analysis

/-- What a record says but for the charge. -/
abbrev NodeRecord.uncharged (r : NodeRecord α) : NodeRecord α := { r with charge := Arith.ofNat 0 }

namespace RunSummary

def uncharged (run : RunSummary α) : RunSummary α := { run with nodes := run.nodes.map (·.uncharged) }

section

variable {rs qs : List (NodeRecord α)} (alike : rs.map (·.uncharged) = qs.map (·.uncharged))

include alike

theorem map_of_uncharged {β : Type} (f : NodeRecord α → β) (blind : ∀ r, f r.uncharged = f r) :
    rs.map f = qs.map f := by
  have forget (rs : List (NodeRecord α)) : rs.map f = (rs.map (·.uncharged)).map f := by
    rw [List.map_map]
    exact List.map_congr_left fun r _ => (blind r).symm
  rw [forget, alike, ← forget]

theorem filter_of_uncharged (p : NodeRecord α → Bool) (blind : ∀ r, p r.uncharged = p r) :
    (rs.filter p).map (·.uncharged) = (qs.filter p).map (·.uncharged) := by
  have forget (rs : List (NodeRecord α)) :
      (rs.filter p).map (·.uncharged) = (rs.map (·.uncharged)).filter p := by
    rw [List.filter_map]
    simp only [Function.comp_def, blind]
  rw [forget, alike, ← forget]

theorem counterTotal_of_uncharged (f : NodeRecord α → Nat) (blind : ∀ r, f r.uncharged = f r) :
    counterTotal f rs = counterTotal f qs := by
  have sum (rs : List (NodeRecord α)) : counterTotal f rs = (rs.map f).foldl (fun sum k => addCounter k sum) 0 := by
    rw [List.foldl_map, counterTotal]
  rw [sum, sum, map_of_uncharged alike f blind]

theorem length_of_uncharged : rs.length = qs.length := by simpa using congrArg List.length alike

end

/-- No figure of a run is made from the charges. -/
theorem uncharged_ofTrace {trace other : TrackedTrace α} {s s' : Settings α}
    (records : (listed other.nodes.values s').map (·.uncharged) = (listed trace.nodes.values s).map (·.uncharged))
    (count : other.nodes.values.length = trace.nodes.values.length) (endTime : other.endTime = trace.endTime)
    (diagnostics : (ofTrace other s').diagnostics = (ofTrace trace s).diagnostics) :
    (ofTrace other s').uncharged = (ofTrace trace s).uncharged := by
  have valid := filter_of_uncharged records (·.isValid) fun _ => rfl
  have delivering := filter_of_uncharged records (0 < ·.packetsReceived) fun _ => rfl
  rw [uncharged, uncharged, diagnostics]
  simp (disch := exact fun _ => rfl) only [ofTrace, meanSpread, fairnessOf, List.flatMap, count, endTime,
    map_of_uncharged records, map_of_uncharged delivering, counterTotal_of_uncharged records,
    counterTotal_of_uncharged valid, length_of_uncharged records, length_of_uncharged delivering]

end RunSummary

namespace Exact

/-- Exact terms may be added in either order. -/
theorem add_swap (a b c : Exact) : a + b + c = a + c + b := by
  cases a with
  | undefined => cases b <;> cases c <;> rfl
  | number a =>
    cases b with
    | undefined => cases c <;> rfl
    | number b =>
      cases c with
      | undefined => rfl
      | number c => exact congrArg number (add_right_comm a b c)

end Exact

/-- Each of the two states is still accounted with its own current. -/
theorem Node.record_exchanged (n : Node Exact) (q : Settings Exact) : n.exchanged.record q.exchanged = n.record q := by
  have charge : n.exchanged.ticks.charge n.ticksPerSecond q.exchanged.currents =
      n.ticks.charge n.ticksPerSecond q.currents := by
    unfold Ticks.charge
    split
    · rfl
    · exact Exact.add_swap ..
  have record : n.exchanged.record q.exchanged =
      { n.record q with
        charge :=
          if n.ticks.total = 0 then Arith.ofNat 0
          else n.exchanged.ticks.charge n.ticksPerSecond q.exchanged.currents } := rfl
  rw [record, charge]
  rfl

namespace RunSummary

/-- To read the two low-power labels the other way round, with the currents of the two states exchanged, is to give the
states other names: the same lines are rejected, ignored or accounted, the ticks in the two states change places at every
node, and the summary stays, but for the order in which the charge is added up. -/
theorem ofLines_exchanged (lines : List (List Char)) (framing : Framing) (s : Settings α) (q : Settings Exact) :
    let read (s : Settings α) (lines : List (List Char)) : Analysis α :=
      lines.foldl Analysis.readLine (.start framing s.mapping)
    (∀ before line, ((read s.exchanged before).classifier.classify line).2 =
        ((read s before).classifier.classify line).2.map (Option.map Event.exchanged)) ∧
      (read s.exchanged lines).tracker.nodes = (read s lines).tracker.nodes.map Node.exchanged ∧
      (read s.exchanged lines).trace.nodes = (read s lines).trace.nodes.map Node.exchanged ∧
      (ofLines lines framing s.exchanged).uncharged = (ofLines lines framing s).uncharged ∧
      ofLines lines framing q.exchanged = ofLines lines framing q := by
  intro read
  have readings (lines : List (List Char)) : read s.exchanged lines = (read s lines).exchanged :=
    Analysis.foldl_exchanged (.start framing s.mapping) lines
  have traces (lines : List (List Char)) : (read s.exchanged lines).trace = lowPower.trace (read s lines).trace := by
    rw [readings, Analysis.trace_exchanged]
  refine ⟨fun before line => ?_, ?_, ?_, ?_, ?_⟩
  · rw [readings]
    exact congrArg Prod.snd ((read s before).classifier.classify_exchanged line)
  · rw [readings]
    rfl
  · rw [traces]
    rfl
  · show (ofTrace (read s.exchanged lines).trace s.exchanged).uncharged = (ofTrace (read s lines).trace s).uncharged
    have records : (listed (lowPower.trace (read s lines).trace).nodes.values s.exchanged).map (·.uncharged) =
        (listed (read s lines).trace.nodes.values s).map (·.uncharged) :=
      lowPower.map_listed_trace (s := s) (q := s.exchanged) rfl rfl (fun _ => rfl) (fun _ => rfl) _
    rw [traces]
    exact uncharged_ofTrace records (lowPower.length_values_trace _) rfl
      (lowPower.diagnostics_ofTrace_trace rfl (fun _ _ => rfl) _)
  · show ofTrace (lines.foldl Analysis.readLine (Analysis.start framing q.mapping).exchanged).trace q.exchanged = _
    rw [Analysis.foldl_exchanged, Analysis.trace_exchanged]
    exact lowPower.ofTrace_trace (s := q) (q := q.exchanged) rfl rfl (fun n => n.record_exchanged q) (fun _ _ => rfl) _

/-- A report of a minute in which a node was in either low-power state. -/
def sleepyLines : List (List Char) :=
  ["60000000 8 [INFO: Energest] Period summary #0 (60 seconds)".toList,
    "60000000 8 [INFO: Energest] Total time : 60000000".toList,
    "60000000 8 [INFO: Energest] LPM : 7/60000000 (0 permil)".toList,
    "60000000 8 [INFO: Energest] Deep LPM : 9/60000000 (0 permil)".toList]

/-- The ticks of either label reach the state that the mapping gives them, and the charge is the same and not zero. -/
theorem ofLines_exchanged_sleepyLines :
    let s := Exact.settings
    let states (s : Settings Exact) : List (Nat × Nat) :=
      (sleepyLines.foldl Analysis.readLine (Analysis.start .simulator s.mapping)).tracker.nodes.values.map
        fun n : Node Exact => (n.ticks.cpuSleep, n.ticks.cpuDeepSleep)
    states s = [(9, 7)] ∧ states s.exchanged = [(7, 9)] ∧
      (ofLines sleepyLines .simulator s).nodes.map (·.charge) = [Exact.number (2417 / 200000000)] ∧
        (ofLines sleepyLines .simulator s.exchanged).nodes.map (·.charge) = [Exact.number (2417 / 200000000)] := by
  intro s states
  obtain ⟨-, nodes, -, -, summary⟩ := ofLines_exchanged sleepyLines .simulator s s
  have read : states s = [(9, 7)] := by decide +kernel
  have charge : (ofLines sleepyLines .simulator s).nodes.map (·.charge) = [Exact.number (2417 / 200000000)] := by
    decide +kernel
  have exchanged : states s.exchanged = (states s).map Prod.swap := by
    simp only [states, nodes, Table.values_map, List.map_map]
    exact List.map_congr_left fun _ _ => rfl
  refine ⟨read, ?_, charge, by rw [summary, charge]⟩
  rw [exchanged, read]
  rfl

end RunSummary

end MeshTrace
