import MeshTrace.Proofs.Classifier.Columns
import MeshTrace.Proofs.Run.Packets

namespace MeshTrace

/-- The nodes that the lines to come mention: those in the columns of lines, and the senders of packets that arrive. -/
def Classifier.mentioned (c : Classifier) (lines : List (List Char)) : Finset NodeId :=
  (lines.filterMap fun line => c.framing.node? (Text.trim line)).toFinset ∪
    (receivedPackets (c.events lines)).image (·.1)

/-- A node is mentioned in the columns of a line or as the sender of an arrival. -/
theorem Classifier.mem_mentioned {c : Classifier} {lines : List (List Char)} {id : NodeId} :
    id ∈ c.mentioned lines ↔
      (∃ line ∈ lines, c.framing.node? (Text.trim line) = some id) ∨
        ∃ seqnum, ∃ e ∈ c.events lines, e.received? = some (id, seqnum) := by
  simp only [mentioned, Finset.mem_union, List.mem_toFinset, List.mem_filterMap, Finset.mem_image, mem_receivedPackets,
    Prod.exists, exists_and_right, exists_eq_right]

theorem Classifier.mem_mentioned_cons {c : Classifier} {line : List Char} {lines : List (List Char)} {id : NodeId} :
    id ∈ c.mentioned (line :: lines) ↔ id ∈ c.mentioned [line] ∨ id ∈ (c.classify line).1.mentioned lines := by
  simp only [mem_mentioned, framing_classify, events, List.append_nil, List.mem_append, List.mem_cons, List.not_mem_nil,
    or_false, or_and_right, exists_or, exists_eq_left]
  exact or_or_or_comm

variable {α : Type} [Scalar α]

/-- The records of a run are those of the nodes in its trace, by increasing id, without the coordinator and, if they are
not to be listed, without invalid nodes. -/
structure RunSummary.Roster (run : RunSummary α) (trace : TrackedTrace α) (ids : Finset NodeId) (s : Settings α) :
    Prop where
  nodeCount : run.nodeCount = ids.card
  increasing : (run.nodes.map (·.id)).Pairwise (· < ·)
  records : ∀ r ∈ run.nodes, ∃ n, trace.nodes.get? r.id = some n ∧ n.record s = r
  mem_ids : ∀ id, id ∈ run.nodes.map (·.id) ↔
    id ∈ ids ∧ id ≠ s.coordinator ∧
      (s.includeInvalid = true ∨ ∃ n, trace.nodes.get? id = some n ∧ n.isValid s = true)
  excluded : run.fairnessExcluded = run.nodes.countP (·.packetsReceived = 0)
  delivered : ∀ r ∈ run.nodes, r.isValid = true →
    r.packetsReceived ≤ r.packetsSent ∧ r.delays.length = r.packetsReceived

namespace Analysis

/-- One line makes known the nodes that it mentions, and no other. -/
theorem contains_readLine (a : Analysis α) (line : List Char) (id : NodeId) :
    (a.readLine line).tracker.nodes.contains id = true ↔
      a.tracker.nodes.contains id = true ∨ id ∈ a.classifier.mentioned [line] := by
  have framed (t : Tracker α) (node? : Option NodeId) : (node?.toList.foldl Tracker.observe t).nodes.contains id = true ↔
      t.nodes.contains id = true ∨ node? = some id := by
    cases node? with
    | none => simp
    | some node => simp [Tracker.contains_observe, eq_comm (a := id)]
  rw [tracker_readLine, Classifier.node_classify, framed, Classifier.mem_mentioned]
  simp only [Classifier.events, List.append_nil, List.mem_singleton, exists_eq_left]
  cases found : a.classifier.event? line with
  | none => simp
  | some e =>
    -- The node that reports an event is that of its line, so only the sender of an arrival comes in addition.
    have reporter (inside : e.endTime? = none) := Classifier.node?_of_event? found inside
    simp only [Option.toList_some, List.foldl_cons, List.foldl_nil, Tracker.contains_apply, Event.mem_nodes_iff_received?,
      List.mem_singleton, exists_eq_left]
    constructor
    · rintro ((known | ⟨inside, rfl⟩ | sender) | node)
      · exact Or.inl known
      · exact Or.inr (Or.inl (reporter inside))
      · exact Or.inr (Or.inr sender)
      · exact Or.inr (Or.inl node)
    · rintro (known | node | sender)
      · exact Or.inl (Or.inl known)
      · exact Or.inr node
      · exact Or.inl (Or.inr (Or.inr sender))

/-- The nodes that lines make known are those that they mention. -/
theorem contains_foldl (a : Analysis α) (lines : List (List Char)) (id : NodeId) :
    (lines.foldl readLine a).tracker.nodes.contains id = true ↔
      a.tracker.nodes.contains id = true ∨ id ∈ a.classifier.mentioned lines := by
  induction lines generalizing a with
  | nil => simp [Classifier.mentioned, Classifier.events, receivedPackets]
  | cons line lines ih =>
    rw [List.foldl_cons, ih, contains_readLine, classifier_readLine, or_assoc, ← Classifier.mem_mentioned_cons]

theorem contains_foldl_start (framing : Framing) (mapping : LpmMapping) (lines : List (List Char)) (id : NodeId) :
    (lines.foldl readLine (start framing mapping) : Analysis α).tracker.nodes.contains id = true ↔
      id ∈ (Classifier.start framing mapping).mentioned lines := by
  rw [contains_foldl]
  exact or_iff_right (by simp [start, Tracker.start])

end Analysis

namespace RunSummary

theorem listed_eq (nodes : List (Node α)) (s : Settings α) :
    listed nodes s =
      (nodes.filter fun n => (n.isValid s || s.includeInvalid) && n.id != s.coordinator).map (·.record s) := by
  rw [listed, List.filter_map, List.filter_filter]
  rfl

theorem ids_listed_sublist (nodes : List (Node α)) (s : Settings α) :
    ((listed nodes s).map (·.id)).Sublist (nodes.map (·.id)) := by
  rw [listed_eq, List.map_map]
  exact List.filter_sublist.map _

/-- The records that the fairness counts and those that it leaves out are all of them. -/
theorem fairnessExcluded_ofTrace (trace : TrackedTrace α) (s : Settings α) :
    (ofTrace trace s).fairnessExcluded = (ofTrace trace s).nodes.countP (·.packetsReceived = 0) := by
  have counted : (ofTrace trace s).fairnessExcluded =
      (ofTrace trace s).nodes.length - (ofTrace trace s).nodes.countP (0 < ·.packetsReceived) :=
    congrArg _ List.countP_eq_length_filter.symm
  have parts := (ofTrace trace s).nodes.length_eq_countP_add_countP (0 < ·.packetsReceived)
  have others : (ofTrace trace s).nodes.countP (fun r => ¬decide (0 < r.packetsReceived) = true) =
      (ofTrace trace s).nodes.countP (·.packetsReceived = 0) :=
    List.countP_congr fun r _ => by simp
  omega

section

variable {trace : TrackedTrace α} (named : ∀ id n, trace.nodes.get? id = some n → n.id = id) (s : Settings α)

include named

/-- The records are those of the nodes that are not hidden and not the coordinator. -/
theorem mem_nodes_ofTrace {r : NodeRecord α} :
    r ∈ (ofTrace trace s).nodes ↔
      ∃ n, trace.nodes.get? n.id = some n ∧ ((n.isValid s = true ∨ s.includeInvalid = true) ∧ n.id ≠ s.coordinator) ∧
        n.record s = r := by
  have kept (n : Node α) : n ∈ trace.nodes.values ↔ trace.nodes.get? n.id = some n := by
    rw [Table.mem_values_iff]
    exact ⟨fun ⟨id, found⟩ => (named id n found).symm ▸ found, fun found => ⟨n.id, found⟩⟩
  simp [ofTrace, listed_eq, kept, and_assoc]

theorem mem_ids_ofTrace {ids : Finset NodeId} (known : ∀ id, trace.nodes.contains id = true ↔ id ∈ ids) (id : NodeId) :
    id ∈ (ofTrace trace s).nodes.map (·.id) ↔
      id ∈ ids ∧ id ≠ s.coordinator ∧
        (s.includeInvalid = true ∨ ∃ n, trace.nodes.get? id = some n ∧ n.isValid s = true) := by
  rw [List.mem_map, ← known, Table.contains, Option.isSome_iff_exists]
  simp only [mem_nodes_ofTrace named s]
  constructor
  · rintro ⟨_, ⟨n, kept, ⟨shown, other⟩, rfl⟩, rfl⟩
    exact ⟨⟨n, kept⟩, other, shown.symm.imp_right fun valid => ⟨n, kept, valid⟩⟩
  · rintro ⟨⟨n, kept⟩, other, shown⟩
    obtain rfl := named id n kept
    refine ⟨n.record s, ⟨n, kept, ⟨?_, other⟩, rfl⟩, rfl⟩
    rcases shown with included | ⟨m, same, valid⟩
    · exact Or.inr included
    · rw [kept] at same
      cases same
      exact Or.inl valid

/-- The roster of a trace whose ledgers are sound. -/
theorem roster_ofTrace {ids : Finset NodeId} (known : ∀ id, trace.nodes.contains id = true ↔ id ∈ ids)
    (sound : ∀ id n, trace.nodes.get? id = some n → n.ledger.receivedCount ≤ n.ledger.sentCount ∧ n.ledger.Balanced) :
    (ofTrace trace s).Roster trace ids s where
  nodeCount := trace.nodes.length_values.trans (Table.size_eq_card known)
  increasing := by
    have all := trace.nodes.keys_increasing
    rw [← Table.map_values_eq_keys named] at all
    exact all.sublist (ids_listed_sublist _ s)
  records := by
    intro r member
    obtain ⟨n, kept, -, rfl⟩ := (mem_nodes_ofTrace named s).mp member
    exact ⟨n, kept, rfl⟩
  mem_ids := mem_ids_ofTrace named s known
  excluded := fairnessExcluded_ofTrace trace s
  delivered := by
    intro r member valid
    obtain ⟨n, kept, -, rfl⟩ := (mem_nodes_ofTrace named s).mp member
    obtain ⟨fewer, balanced⟩ := sound n.id n kept
    have accepted : n.isValid s = true := valid
    refine ⟨fewer, ?_⟩
    simp only [Node.record, accepted, if_true]
    exact balanced

end

/-- The nodes of a run are those that its lines mention, in their columns or as the senders of packets that arrive; each
counts once, and has one record, at its place in the order of the ids, unless it is the coordinator or is left out as
invalid. No valid record tells of more arrivals than packets sent, and each has one delay for every arrival. -/
theorem roster_ofLines (lines : List (List Char)) (framing : Framing) (s : Settings α) :
    (ofLines lines framing s).Roster
      (lines.foldl Analysis.readLine (Analysis.start framing s.mapping : Analysis α)).trace
      ((Classifier.start framing s.mapping).mentioned lines) s := by
  let a := lines.foldl Analysis.readLine (Analysis.start framing s.mapping : Analysis α)
  have reach := Analysis.reach_start (α := α) framing s.mapping lines
  have accounts := reach.accounts a.classifier.lastTime
  have named (id : NodeId) (n : Node α) (kept : a.trace.nodes.get? id = some n) : n.id = id :=
    reach.id_of_finish a.classifier.lastTime kept
  have known (id : NodeId) : a.trace.nodes.contains id = a.tracker.nodes.contains id :=
    a.tracker.contains_finish a.classifier.lastTime id
  refine roster_ofTrace named s (fun id => ?_) fun id n kept => ⟨?_, ?_⟩
  · rw [known, Analysis.contains_foldl_start]
  · exact accounts.receivedCount_le (Table.mem_values_iff.mpr ⟨id, kept⟩)
  · exact reach.balanced_finish a.classifier.lastTime kept

/-- The root shows up where a packet arrives, its sender there only; the others report nothing that can be read. -/
example :
    let run : RunSummary Float := ofLines
      ["1000 1 app receive packet seqnum=1 from=fe80::3".toList, "2000 4 app generate packet seqnum=x".toList,
        "3000 5 booting".toList, "Test ended at simulation time: 4000".toList] .simulator Settings.standard
    run.nodeCount = 4 ∧ run.nodes.map (·.id) = [3, 4, 5] ∧ run.fairnessExcluded = 3 := by decide +kernel

end RunSummary

end MeshTrace
