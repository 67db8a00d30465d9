import Mathlib.Data.Finset.Prod
import MeshTrace.Proofs.Classifier.Events
import MeshTrace.Proofs.Run.Accounts
import MeshTrace.Proofs.Tracker.Total

namespace MeshTrace

variable {α : Type}

/-- A total is the sum, as far as counters go. -/
theorem RunSummary.counterTotal_eq (f : NodeRecord α → Nat) (records : List (NodeRecord α)) :
    counterTotal f records = min (records.map f).sum counterMax := by
  have step (sum : Nat) : sum ≤ counterMax →
      records.foldl (fun sum r => addCounter (f r) sum) sum = min (sum + (records.map f).sum) counterMax := by
    induction records generalizing sum with
    | nil => intro small; simp [small]
    | cons r records ih =>
      intro small
      rw [List.foldl_cons, ih (addCounter (f r) sum) (Nat.min_le_right ..)]
      simp only [addCounter, List.map_cons, List.sum_cons]
      omega
  simpa [counterTotal] using step 0 (Nat.zero_le _)

theorem RunSummary.counterTotal_of_le {f : NodeRecord α → Nat} {records : List (NodeRecord α)}
    (small : (records.map f).sum ≤ counterMax) : counterTotal f records = (records.map f).sum := by
  rw [counterTotal_eq, Nat.min_eq_left small]

theorem Node.isValid_of_unrestricted {s : Settings α} (unrestricted : s.requireJoin = false) (n : Node α) :
    n.isValid s = (n.ledger.sentCount != 0) := by
  simp [isValid, unrestricted]

/-- The end of a trace leaves the ledgers alone. -/
theorem Tracker.sum_finish (f : Ledger → Nat) (t : Tracker α) (lastTime : Option Millis) :
    ((t.finish lastTime).nodes.values.map (f ·.ledger)).sum = t.total (f ·.ledger) := by
  rw [values_finish, List.map_map, total]
  exact congrArg List.sum (List.map_congr_left fun n _ => congrArg f (n.ledger_closeEpisode _))

variable [Scalar α]

namespace RunSummary

theorem filter_isValid_listed (nodes : List (Node α)) (s : Settings α) :
    (listed nodes s).filter (·.isValid) =
      ((nodes.filter (·.id != s.coordinator)).map (·.record s)).filter (·.isValid) := by
  rw [listed, List.filter_filter]
  refine List.filter_congr fun r _ => ?_
  cases r.isValid <;> simp

/-- Nodes that sent nothing are left out of the valid records, and nothing else is if joining is not
required. -/
theorem sum_valid {s : Settings α} (unrestricted : s.requireJoin = false) {f : NodeRecord α → Nat}
    {g : Node α → Nat} (same : ∀ n, f (n.record s) = g n) {nodes : List (Node α)}
    (silent : ∀ n ∈ nodes, n.ledger.sentCount = 0 → g n = 0) :
    (((listed nodes s).filter (·.isValid)).map f).sum =
      ((nodes.filter (·.id != s.coordinator)).map g).sum := by
  rw [filter_isValid_listed]
  have quiet : ∀ n ∈ nodes.filter (·.id != s.coordinator), n.ledger.sentCount = 0 → g n = 0 :=
    fun n member => silent n (List.mem_filter.mp member).1
  generalize nodes.filter (·.id != s.coordinator) = others at quiet ⊢
  induction others with
  | nil => rfl
  | cons n others ih =>
    have rest := ih fun m member => quiet m (List.mem_cons_of_mem n member)
    have valid : (n.record s).isValid = (n.ledger.sentCount != 0) := n.isValid_of_unrestricted unrestricted
    by_cases zero : n.ledger.sentCount = 0
    · have nothing := quiet n List.mem_cons_self zero
      simp [valid, zero, nothing, rest]
    · simp [valid, zero, same, rest]

/-- The packets sent that the records show are those of all nodes but the coordinator. -/
theorem sum_packetsSent {trace : TrackedTrace α} {events : List Event} (accounts : trace.Accounts events)
    {s : Settings α} (unrestricted : s.requireJoin = false) :
    (((listed trace.nodes.values s).filter (·.isValid)).map (·.packetsSent)).sum =
      ((sentPackets events).filter (·.1 ≠ s.coordinator)).card := by
  rw [← accounts.sum_sentCount]
  exact sum_valid unrestricted (fun n => rfl) fun n member silent => silent

theorem sum_packetsReceived {trace : TrackedTrace α} {events : List Event} (accounts : trace.Accounts events)
    {s : Settings α} (unrestricted : s.requireJoin = false) :
    (((listed trace.nodes.values s).filter (·.isValid)).map (·.packetsReceived)).sum =
      ((deliveredPackets events).filter (·.1 ≠ s.coordinator)).card := by
  rw [← accounts.sum_receivedCount]
  refine sum_valid unrestricted (fun n => rfl) fun n member silent => ?_
  have fewer := accounts.receivedCount_le member
  rw [silent] at fewer
  exact Nat.le_zero.mp fewer

/-- The warnings about energy accounting leave all other warnings alone. -/
theorem foldl_warnings (nodes : List (Node α)) (d : Diagnostics) :
    nodes.foldl (fun d n => n.warnings d) d =
      { d with
        zeroEnergestNodes := d.zeroEnergestNodes + nodes.countP (·.lacksEnergest)
        zeroTickRateNodes := d.zeroTickRateNodes + nodes.countP (·.lacksTickRate) } := by
  induction nodes generalizing d with
  | nil => rfl
  | cons n nodes ih =>
    rw [List.foldl_cons, ih, List.countP_cons, List.countP_cons]
    simp only [Node.warnings, Nat.add_assoc, Nat.add_comm (List.countP ..)]

theorem packet_warnings (nodes : List (Node α)) (d : Diagnostics) :
    (nodes.foldl (fun d n => n.warnings d) d).duplicateSent = d.duplicateSent ∧
      (nodes.foldl (fun d n => n.warnings d) d).duplicateReceived = d.duplicateReceived ∧
      (nodes.foldl (fun d n => n.warnings d) d).unmatchedReceived = d.unmatchedReceived := by
  rw [foldl_warnings]
  exact ⟨rfl, rfl, rfl⟩

end RunSummary

/-- How many packets there can be if one node is left out. -/
theorem card_filter_ne_le (limit : Nat) {packets : Finset Packet} {coordinator : NodeId}
    (short : ∀ p ∈ packets, p.1 < limit ∧ p.2 < limit) (own : coordinator < limit) :
    (packets.filter (·.1 ≠ coordinator)).card ≤ (limit - 1) * limit := by
  have covered : packets.filter (·.1 ≠ coordinator) ⊆
      ((Finset.range limit).erase coordinator) ×ˢ Finset.range limit := by
    intro p member
    obtain ⟨inPackets, other⟩ := Finset.mem_filter.mp member
    have bounds := short p inPackets
    simp only [Finset.mem_product, Finset.mem_erase, Finset.mem_range]
    exact ⟨⟨other, bounds.1⟩, bounds.2⟩
  calc (packets.filter (·.1 ≠ coordinator)).card
      ≤ (((Finset.range limit).erase coordinator) ×ˢ Finset.range limit).card :=
        Finset.card_le_card covered
    _ = (limit - 1) * limit := by
        rw [Finset.card_product, Finset.card_erase_of_mem (Finset.mem_range.mpr own), Finset.card_range]

/-- What becomes of the packets in the events of a trace. -/
structure PacketBalance (events : List Event) (trace : TrackedTrace α) (run : RunSummary α)
    (coordinator : NodeId) : Prop where
  /-- Every packet sent by another node than the coordinator counts once. -/
  totalSent : run.totalSent = ((sentPackets events).filter (·.1 ≠ coordinator)).card
  /-- Every such packet that arrives after it was sent counts once. -/
  totalReceived : run.totalReceived = ((deliveredPackets events).filter (·.1 ≠ coordinator)).card
  received_le_sent : run.totalReceived ≤ run.totalSent
  /-- The totals are plain sums: no counter is too large. -/
  sent_exact : run.totalSent = ((run.nodes.filter (·.isValid)).map (·.packetsSent)).sum
  received_exact : run.totalReceived = ((run.nodes.filter (·.isValid)).map (·.packetsReceived)).sum
  /-- Every report of a packet sent is counted at its node or as a duplicate. -/
  sendings : events.countP (·.sent?.isSome) =
    (trace.nodes.values.map (·.ledger.sentCount)).sum + run.diagnostics.duplicateSent
  /-- Every report of an arrival is counted at the sender, as a duplicate or as unmatched. -/
  arrivals : events.countP (·.received?.isSome) =
    (trace.nodes.values.map (·.ledger.receivedCount)).sum + run.diagnostics.duplicateReceived +
      run.diagnostics.unmatchedReceived

namespace RunSummary

/-- If joining is not required, the totals of a run are those of the packets in its trace, and no packet
is lost between the lines and the accounts. -/
theorem packetBalance_ofLines (lines : List (List Char)) (framing : Framing) (s : Settings α)
    (unrestricted : s.requireJoin = false) (short : s.coordinator < 0x100000000) :
    PacketBalance ((Classifier.start framing s.mapping).events lines)
      (lines.foldl Analysis.readLine (Analysis.start framing s.mapping : Analysis α)).trace
      (ofLines lines framing s) s.coordinator := by
  let events := (Classifier.start framing s.mapping).events lines
  let a := lines.foldl Analysis.readLine (Analysis.start framing s.mapping : Analysis α)
  have reach : Tracker.Reach events a.tracker := Analysis.reach_start framing s.mapping lines
  have accounts : a.trace.Accounts events :=
    ⟨(reach.accounts a.classifier.lastTime).distinct, (reach.accounts a.classifier.lastTime).sent,
      (reach.accounts a.classifier.lastTime).delivered⟩
  have few : ((sentPackets events).filter (·.1 ≠ s.coordinator)).card ≤ counterMax := by
    refine (card_filter_ne_le 0x100000000 (fun p member => ?_) short).trans (by decide)
    obtain ⟨e, inTrace, sending⟩ := mem_sentPackets.mp member
    exact Classifier.short_of_mem_events inTrace sending
  have fewer : ((deliveredPackets events).filter (·.1 ≠ s.coordinator)).card ≤
      ((sentPackets events).filter (·.1 ≠ s.coordinator)).card :=
    Finset.card_le_card (Finset.filter_subset_filter _ (deliveredPackets_subset events))
  have sent := sum_packetsSent accounts unrestricted
  have received := sum_packetsReceived accounts unrestricted
  have sentExact := counterTotal_of_le (sent ▸ few)
  have receivedExact := counterTotal_of_le (received ▸ fewer.trans few)
  obtain ⟨duplicateSent, duplicateReceived, unmatchedReceived⟩ :=
    packet_warnings (a.trace.nodes.values.filter (·.id != s.coordinator)) a.trace.diagnostics
  exact
    { totalSent := sentExact.trans sent
      totalReceived := receivedExact.trans received
      received_le_sent := by
        calc (ofLines lines framing s).totalReceived
            = ((deliveredPackets events).filter (·.1 ≠ s.coordinator)).card := receivedExact.trans received
          _ ≤ ((sentPackets events).filter (·.1 ≠ s.coordinator)).card := fewer
          _ = (ofLines lines framing s).totalSent := (sentExact.trans sent).symm
      sent_exact := sentExact
      received_exact := receivedExact
      sendings := by
        rw [reach.countP_sent, ← Tracker.sum_finish Ledger.sentCount a.tracker a.classifier.lastTime]
        exact congrArg _ duplicateSent.symm
      arrivals := by
        rw [reach.countP_received, ← Tracker.sum_finish Ledger.receivedCount a.tracker a.classifier.lastTime]
        exact congrArg₂ (_ + · + ·) duplicateReceived.symm unmatchedReceived.symm }

/-- A packet arrives before it is sent and again after it; the coordinator sends one too. -/
def earlyArrival : List (List Char) :=
  ["1000 1 app receive packet seqnum=7 from=fe80::2".toList, "2000 2 app generate packet seqnum=7".toList,
    "3000 1 app receive packet seqnum=7 from=fe80::2".toList, "4000 1 app generate packet seqnum=7".toList]

/-- A packet arrives before it is sent, and again after. -/
theorem packetBalance_of_earlyArrival :
    Settings.standard.requireJoin = false ∧ Settings.standard.coordinator < 0x100000000 ∧
      PacketBalance ((Classifier.start .simulator .lpmIsDeepSleep).events earlyArrival)
        (earlyArrival.foldl Analysis.readLine (Analysis.start .simulator .lpmIsDeepSleep : Analysis Float)).trace
        (ofLines earlyArrival .simulator Settings.standard) 1 ∧
      (ofLines earlyArrival .simulator Settings.standard).totalSent = 1 ∧
      (ofLines earlyArrival .simulator Settings.standard).totalReceived = 1 := by
  have balance := packetBalance_ofLines earlyArrival .simulator Settings.standard rfl (by decide)
  exact ⟨rfl, by decide, balance, balance.totalSent.trans (by decide +kernel),
    balance.totalReceived.trans (by decide +kernel)⟩

end RunSummary

end MeshTrace
