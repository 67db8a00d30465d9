import MeshTrace.Proofs.Tracker.Symmetry

namespace MeshTrace

variable (c : Millis)

/-- The packets of a trace that starts later. The delays stay. -/
def Ledger.shift (l : Ledger) : Ledger :=
  { l with sent := l.sent.map (· + c), received := l.received.map (· + c) }

/-- A node of a trace that starts later. -/
def Node.shift {α : Type} (n : Node α) : Node α :=
  { n with
    associatedAt := n.associatedAt.map (· + c)
    joinedSince := n.joinedSince.map (· + c)
    ledger := n.ledger.shift c }

def EventKind.shift : EventKind → EventKind
  | .simulationEnded time => .simulationEnded (time + c)
  | kind => kind

def Event.shift (e : Event) : Event := { e with time := e.time + c, kind := e.kind.shift c }

namespace Ledger

variable (l : Ledger) (seqnum : Seqnum) (time : Millis)

theorem recordSent_shift :
    (l.shift c).recordSent seqnum (time + c) =
      ((l.recordSent seqnum time).1.shift c, (l.recordSent seqnum time).2) := by
  have known : (l.shift c).sent.contains seqnum = l.sent.contains seqnum := Table.contains_map ..
  unfold recordSent
  rw [known]
  split
  · rfl
  · simp only [shift, Table.map_insert]

/-- An arrival has the delay that it had, so it is recorded as it was. -/
theorem recordReceived_shift :
    (l.shift c).recordReceived seqnum (time + c) =
      ((l.recordReceived seqnum time).1.shift c, (l.recordReceived seqnum time).2) := by
  have known : (l.shift c).received.contains seqnum = l.received.contains seqnum := Table.contains_map ..
  have sent : (l.shift c).sent.get? seqnum = (l.sent.get? seqnum).map (· + c) := Table.get?_map ..
  unfold recordReceived
  rw [known, sent]
  split
  · rfl
  · cases l.sent.get? seqnum with
    | none => rfl
    | some sentAt => simp only [Option.map_some, Int.add_sub_add_right, shift, Table.map_insert]

theorem sentCount_shift : (l.shift c).sentCount = l.sentCount := Table.size_map ..

theorem receivedCount_shift : (l.shift c).receivedCount = l.receivedCount := Table.size_map ..

end Ledger

namespace Node

variable {α : Type}

theorem join_shift (n : Node α) (time : Millis) : (n.shift c).join (time + c) = (n.join time).shift c := by
  cases since : n.joinedSince <;> simp [join, shift, since]

theorem closeEpisode_shift (n : Node α) (time : Millis) :
    (n.shift c).closeEpisode (time + c) = (n.closeEpisode time).shift c := by
  cases since : n.joinedSince with
  | none => simp [closeEpisode, shift, since]
  | some start => simp [closeEpisode, shift, since, Int.add_sub_add_right time c start]

theorem leave_shift (n : Node α) (time : Millis) : (n.shift c).leave (time + c) = (n.leave time).shift c :=
  closeEpisode_shift c { n with joined := false, ticksJoined := false } time

theorem countLink_shift (n : Node α) (counters : LinkCounters) (neighbour : Address) :
    (n.shift c).countLink counters neighbour = (n.countLink counters neighbour).shift c := by
  rw [countLink, countLink, apply_ite (shift c)]
  rfl

variable [Scalar α]

theorem countEnergest_shift (n : Node α) (report : EnergestReport) :
    (n.shift c).countEnergest report = (n.countEnergest report).shift c := by
  cases report with
  | period seconds =>
    rw [countEnergest, countEnergest, apply_ite (shift c)]
    rfl
  | total ticks => rfl
  | spent component ticks => cases component <;> rfl

theorem apply_shift (n : Node α) (time : Millis) (kind : EventKind) :
    (n.shift c).apply (time + c) (kind.shift c) = (n.apply time kind).shift c := by
  cases kind with
  | associated =>
    show Node.join { n.shift c with associatedAt := _ } (time + c) = _
    rw [apply, ← join_shift]
    cases since : n.associatedAt <;> simp [shift, since]
  | left | leftNetwork => exact n.leave_shift c time
  | parentChanged old new =>
    cases new with
    | none => exact leave_shift c { n with parentSwitches := n.parentSwitches + 1, parent := none } time
    | some parent => exact join_shift c { n with parentSwitches := n.parentSwitches + 1, parent := some parent } time
  | linkStats counters neighbour => exact n.countLink_shift c counters neighbour
  | energest report => exact n.countEnergest_shift c report
  | _ => rfl

/-- A later event is accounted alike. -/
theorem account_shift (n : Node α) (e : Event) : (n.shift c).account (e.shift c) = (n.account e).shift c := by
  obtain ⟨time, node, kind, raw⟩ := e
  have applied := n.apply_shift c time kind
  cases kind with
  | packetSent seqnum =>
    show { n.shift c with ledger := ((n.ledger.shift c).recordSent seqnum (time + c)).1 } = _
    rw [Ledger.recordSent_shift]
    rfl
  | packetReceived seqnum sender =>
    show { n.shift c with ledger := ((n.ledger.shift c).recordReceived seqnum (time + c)).1 } = _
    rw [Ledger.recordReceived_shift]
    rfl
  | _ => exact applied

/-- A record shows no times but spans. -/
theorem record_shift (n : Node α) (s : Settings α) : (n.shift c).record s = n.record s := by
  have valid : (n.shift c).isValid s = n.isValid s := by
    rw [isValid, shift, Ledger.sentCount_shift]
    rfl
  rw [record, record, valid, shift, Ledger.sentCount_shift, Ledger.receivedCount_shift]
  rfl

end Node

theorem Event.rejection?_shift (e : Event) (l : Ledger) : (e.shift c).rejection? (l.shift c) = e.rejection? l := by
  obtain ⟨time, node, kind, raw⟩ := e
  cases kind with
  | packetSent seqnum =>
    simp only [rejection?, Event.shift, EventKind.shift, Ledger.recordSent_shift]
  | packetReceived seqnum sender =>
    simp only [rejection?, Event.shift, EventKind.shift, Ledger.recordReceived_shift]
  | _ => rfl

variable {α : Type} [Scalar α]

/-- Starting later is not noticed. -/
def timeShift : Symmetry α where
  node := Node.shift c
  event := Event.shift c
  time := (· + c)
  fresh _ := rfl
  id _ := rfl
  owner e := by
    obtain ⟨time, node, kind, raw⟩ := e
    cases kind <;> rfl
  nodes e := by
    obtain ⟨time, node, kind, raw⟩ := e
    cases kind <;> rfl
  endTime? e := by
    obtain ⟨time, node, kind, raw⟩ := e
    cases kind <;> rfl
  account := Node.account_shift c
  rejection? n e := e.rejection?_shift c n.ledger
  closeEpisode := Node.closeEpisode_shift c

namespace Tracker

theorem endTime_foldl_apply (t : Tracker α) (events : List Event)
    (reported : (∃ e ∈ events, e.endTime?.isSome) ∨ t.endTime.isSome) :
    (events.foldl apply t).endTime.isSome := by
  induction events generalizing t with
  | nil => simpa using reported
  | cons e events ih =>
    refine ih _ ?_
    rw [endTime_apply]
    rcases reported with ⟨last, member, ends⟩ | before
    · rcases List.mem_cons.mp member with rfl | later
      · exact Or.inr (by simp [ends])
      · exact Or.inl ⟨last, later, ends⟩
    · exact Or.inr (by simp [before])

/-- A trace that starts later has the same summary but for the time at which it ends, if it tells any. What its nodes keep
of times is the first association, the start of the open episode and the times of packets: these are later, and nothing
else changes. -/
theorem ofTrace_shift (s : Settings α) (events : List Event) (lastTime : Option Millis)
    (timed : (∃ e ∈ events, e.endTime?.isSome) ∨ lastTime.isSome) :
    let t : Tracker α := events.foldl apply .start
    let later : Tracker α := (events.map (·.shift c)).foldl apply .start
    let trace := t.finish lastTime
    let laterTrace := later.finish (lastTime.map (· + c))
    let run := RunSummary.ofTrace trace s
    later = ⟨t.nodes.map (·.shift c), t.endTime.map (· + c), t.diagnostics⟩ ∧
      laterTrace = ⟨trace.nodes.map (·.shift c), trace.endTime + c, trace.diagnostics⟩ ∧
      RunSummary.ofTrace laterTrace s = { run with endTime := run.endTime + c } := by
  intro t later trace laterTrace run
  have moved : later = (timeShift c).tracker t := (timeShift c).foldl_apply_tracker .start events
  have ended : t.endTime = none → lastTime = none → (0 : Millis) + c = 0 := by
    intro unended untimed
    rcases timed with reported | last
    · have ends := endTime_foldl_apply (.start : Tracker α) events (Or.inl reported)
      rw [unended] at ends
      cases ends
    · rw [untimed] at last
      cases last
  have finished : laterTrace = (timeShift c).trace trace := by
    rw [show laterTrace = later.finish (lastTime.map (· + c)) from rfl, moved]
    exact (timeShift c).finish_tracker t lastTime ended
  refine ⟨moved, finished, ?_⟩
  rw [finished]
  exact (timeShift c).ofTrace_trace rfl rfl (fun n => n.record_shift c s) (fun _ _ => rfl) trace

/-- Node two is associated, and a packet of it arrives 300 milliseconds after it is sent. -/
def timedVisit : List Event :=
  [⟨1000, 2, .associated, ""⟩, ⟨2000, 2, .packetSent 1, ""⟩, ⟨2300, 1, .packetReceived 1 2, ""⟩,
    ⟨9000, 0, .simulationEnded 9000, ""⟩]

/-- One visit of a node, an hour later. -/
theorem ofTrace_shift_timedVisit :
    (∃ e ∈ timedVisit, e.endTime?.isSome = true) ∧
      let t : Tracker Float := timedVisit.foldl apply .start
      let later : Tracker Float := (timedVisit.map (·.shift 500)).foldl apply .start
      RunSummary.ofTrace (later.finish (some 9500)) .standard =
          { RunSummary.ofTrace (t.finish (some 9000)) .standard with endTime := 9500 } ∧
        (later.state 2).associatedAt = some 1500 ∧ (later.state 2).ledger.delays = #[300] := by
  have timed : ∃ e ∈ timedVisit, e.endTime?.isSome = true := by decide
  have shifted := ofTrace_shift (α := Float) 500 .standard timedVisit (some 9000) (Or.inl timed)
  exact ⟨timed, shifted.2.2, by decide +kernel, by decide +kernel⟩

end Tracker

end MeshTrace
