import MeshTrace.Proofs.Ledger.Record
import MeshTrace.Proofs.Node.Joining

namespace MeshTrace

/-- A counter is never above the largest. -/
theorem addCounter_le (a b : Nat) : addCounter a b ≤ counterMax := Nat.min_le_right ..

/-- A counter never falls. -/
theorem le_addCounter {a : Nat} (small : a ≤ counterMax) (b : Nat) : a ≤ addCounter a b :=
  Nat.le_min.mpr ⟨Nat.le_add_right a b, small⟩

/-- Adding to a sum that stops at the limit, or adding nothing. -/
theorem elim_addCounter_min (sum : Nat) (ticks : Option Nat) :
    ticks.elim (min sum counterMax) (addCounter (min sum counterMax)) = min (sum + ticks.toList.sum) counterMax := by
  cases ticks with
  | none => rfl
  | some ticks =>
    simp only [Option.elim_some, Option.toList_some, List.sum_singleton, addCounter]
    omega

/-- A larger counter stays larger. -/
theorem addCounter_le_addCounter {a b : Nat} (less : a ≤ b) (c : Nat) : addCounter a c ≤ addCounter b c := by
  unfold addCounter
  omega

namespace Ledger

/-- A ledger after more packets: nothing that was counted is lost, and delays are only added. -/
structure Grows (l m : Ledger) : Prop where
  sentCount : l.sentCount ≤ m.sentCount
  receivedCount : l.receivedCount ≤ m.receivedCount
  delays : l.delays.toList <+: m.delays.toList

theorem Grows.refl (l : Ledger) : l.Grows l := ⟨le_refl _, le_refl _, List.prefix_refl _⟩

theorem Grows.trans {l m k : Ledger} (first : l.Grows m) (second : m.Grows k) : l.Grows k :=
  ⟨first.sentCount.trans second.sentCount, first.receivedCount.trans second.receivedCount,
    first.delays.trans second.delays⟩

variable (l : Ledger) (seqnum : Seqnum) (time : Millis)

/-- A ledger only grows when a packet is sent. -/
theorem grows_recordSent : l.Grows (l.recordSent seqnum time).1 := by
  refine ⟨?_, ?_, ?_⟩
  · rw [sentCount_recordSent]
    exact Nat.le_add_right ..
  · rw [receivedCount_recordSent]
  · unfold recordSent
    split <;> exact List.prefix_refl _

theorem grows_recordReceived : l.Grows (l.recordReceived seqnum time).1 := by
  refine ⟨?_, ?_, ?_⟩
  · rw [sentCount_recordReceived]
  · rw [receivedCount_recordReceived]
    exact Nat.le_add_right ..
  · unfold recordReceived
    split
    · exact List.prefix_refl _
    · split
      · exact List.prefix_refl _
      · rw [Array.toList_push]
        exact List.prefix_append ..

end Ledger

namespace Ticks

/-- What holds of the ticks that a node has reported. -/
structure Sound (t : Ticks) : Prop where
  radioRxJoined_le : t.radioRxJoined ≤ t.radioRx
  totalJoined_le : t.totalJoined ≤ t.total
  cpuOn_le : t.cpuOn ≤ counterMax
  cpuSleep_le : t.cpuSleep ≤ counterMax
  cpuDeepSleep_le : t.cpuDeepSleep ≤ counterMax
  radioTx_le : t.radioTx ≤ counterMax
  radioRx_le : t.radioRx ≤ counterMax
  total_le : t.total ≤ counterMax

/-- No ticks get lost. -/
structure Grows (t u : Ticks) : Prop where
  cpuOn : t.cpuOn ≤ u.cpuOn
  cpuSleep : t.cpuSleep ≤ u.cpuSleep
  cpuDeepSleep : t.cpuDeepSleep ≤ u.cpuDeepSleep
  radioTx : t.radioTx ≤ u.radioTx
  radioRx : t.radioRx ≤ u.radioRx
  radioRxJoined : t.radioRxJoined ≤ u.radioRxJoined
  total : t.total ≤ u.total
  totalJoined : t.totalJoined ≤ u.totalJoined

theorem Grows.refl (t : Ticks) : t.Grows t := by constructor <;> exact le_refl _

theorem Grows.trans {t u v : Ticks} (first : t.Grows u) (second : u.Grows v) : t.Grows v where
  cpuOn := first.cpuOn.trans second.cpuOn
  cpuSleep := first.cpuSleep.trans second.cpuSleep
  cpuDeepSleep := first.cpuDeepSleep.trans second.cpuDeepSleep
  radioTx := first.radioTx.trans second.radioTx
  radioRx := first.radioRx.trans second.radioRx
  radioRxJoined := first.radioRxJoined.trans second.radioRxJoined
  total := first.total.trans second.total
  totalJoined := first.totalJoined.trans second.totalJoined

theorem sound_none : none.Sound := by constructor <;> decide

namespace Sound

variable {t : Ticks} (sound : t.Sound) (ticks : Nat)

include sound

theorem spend (component : Component) : (t.spend ticks component).Sound := by
  cases component with
  | cpuOn => exact { sound with cpuOn_le := addCounter_le .. }
  | cpuSleep => exact { sound with cpuSleep_le := addCounter_le .. }
  | cpuDeepSleep => exact { sound with cpuDeepSleep_le := addCounter_le .. }
  | radioTx => exact { sound with radioTx_le := addCounter_le .. }
  | radioRx =>
    exact
      { sound with
        radioRxJoined_le := sound.radioRxJoined_le.trans (le_addCounter sound.radioRx_le ticks)
        radioRx_le := addCounter_le .. }

theorem grows_spend (component : Component) : t.Grows (t.spend ticks component) := by
  cases component with
  | cpuOn => exact { Grows.refl t with cpuOn := le_addCounter sound.cpuOn_le ticks }
  | cpuSleep => exact { Grows.refl t with cpuSleep := le_addCounter sound.cpuSleep_le ticks }
  | cpuDeepSleep => exact { Grows.refl t with cpuDeepSleep := le_addCounter sound.cpuDeepSleep_le ticks }
  | radioTx => exact { Grows.refl t with radioTx := le_addCounter sound.radioTx_le ticks }
  | radioRx => exact { Grows.refl t with radioRx := le_addCounter sound.radioRx_le ticks }

/-- Ticks that count as joined are counted among all ticks too. -/
theorem countTotal (joined : Bool) :
    let u := { t with
      total := addCounter t.total ticks
      totalJoined := if joined then addCounter t.totalJoined ticks else t.totalJoined }
    u.Sound ∧ t.Grows u := by
  have more := le_addCounter sound.total_le ticks
  have small := sound.totalJoined_le.trans sound.total_le
  cases joined with
  | false =>
    exact ⟨{ sound with totalJoined_le := sound.totalJoined_le.trans more, total_le := addCounter_le .. },
      { Grows.refl t with total := more }⟩
  | true =>
    have below := addCounter_le_addCounter sound.totalJoined_le ticks
    exact ⟨{ sound with totalJoined_le := below, total_le := addCounter_le .. },
      { Grows.refl t with total := more, totalJoined := le_addCounter small ticks }⟩

theorem countReception (joined : Bool) :
    let spent := t.spend ticks .radioRx
    let u := { spent with
      radioRxJoined := if joined then addCounter spent.radioRxJoined ticks else spent.radioRxJoined }
    u.Sound ∧ t.Grows u := by
  have spent := sound.spend ticks .radioRx
  have more := sound.grows_spend ticks .radioRx
  cases joined with
  | false => exact ⟨spent, more⟩
  | true =>
    have small := sound.radioRxJoined_le.trans sound.radioRx_le
    exact ⟨{ spent with radioRxJoined_le := addCounter_le_addCounter sound.radioRxJoined_le ticks },
      { more with radioRxJoined := le_addCounter small ticks }⟩

end Sound

end Ticks

variable {α : Type}

namespace Node

/-- What holds of a node at every point of a trace. -/
structure Sound (n : Node α) : Prop where
  joined_iff : n.joined = true ↔ n.joinedSince.isSome = true
  joined_of_ticksJoined : n.ticksJoined = true → n.joined = true
  timeJoined_nonneg : 0 ≤ n.timeJoined
  timeJoined_le : n.timeJoined ≤ timeMax
  periodSeconds_pos : 1 ≤ n.periodSeconds
  ticks : n.ticks.Sound
  linkTx_le : n.linkTx ≤ counterMax
  linkAck_le : n.linkAck ≤ counterMax
  linkQueueDropped_le : n.linkQueueDropped ≤ counterMax

/-- A node at a later point of a trace: nothing that was counted or timed gets less. -/
structure Grows (n m : Node α) : Prop where
  id : m.id = n.id
  timeJoined : n.timeJoined ≤ m.timeJoined
  parentSwitches : n.parentSwitches ≤ m.parentSwitches
  ledger : n.ledger.Grows m.ledger
  linkTx : n.linkTx ≤ m.linkTx
  linkAck : n.linkAck ≤ m.linkAck
  linkQueueDropped : n.linkQueueDropped ≤ m.linkQueueDropped
  ticks : n.ticks.Grows m.ticks

theorem Grows.refl (n : Node α) : n.Grows n :=
  ⟨rfl, le_refl _, le_refl _, .refl _, le_refl _, le_refl _, le_refl _, .refl _⟩

theorem Grows.trans {n m k : Node α} (first : n.Grows m) (second : m.Grows k) : n.Grows k where
  id := second.id.trans first.id
  timeJoined := first.timeJoined.trans second.timeJoined
  parentSwitches := first.parentSwitches.trans second.parentSwitches
  ledger := first.ledger.trans second.ledger
  linkTx := first.linkTx.trans second.linkTx
  linkAck := first.linkAck.trans second.linkAck
  linkQueueDropped := first.linkQueueDropped.trans second.linkQueueDropped
  ticks := first.ticks.trans second.ticks

namespace Sound

variable {n : Node α} (sound : n.Sound)

include sound

/-- The time joined stays within the span of times, and closing an episode does not lessen it. -/
theorem timeJoined_closeEpisode_bounds (time : Millis) :
    n.timeJoined ≤ (n.closeEpisode time).timeJoined ∧ (n.closeEpisode time).timeJoined ≤ timeMax := by
  have low := sound.timeJoined_nonneg
  have high := sound.timeJoined_le
  rw [timeJoined_closeEpisode]
  cases n.joinedSince with
  | none => exact ⟨le_refl _, high⟩
  | some since =>
    simp only [clampTime, timeMin, timeMax] at high ⊢
    omega

/-- To close an episode takes nothing from a node. -/
theorem grows_closeEpisode (time : Millis) : n.Grows (n.closeEpisode time) := by
  have longer := (sound.timeJoined_closeEpisode_bounds time).1
  rw [closeEpisode_eq]
  exact ⟨rfl, longer, le_refl _, .refl _, le_refl _, le_refl _, le_refl _, .refl _⟩

theorem join (time : Millis) : (n.join time).Sound :=
  { sound with
    joined_iff := by simp [Node.join]
    joined_of_ticksJoined := fun _ => rfl }

theorem leave (time : Millis) : (n.leave time).Sound := by
  obtain ⟨longer, bounded⟩ := sound.timeJoined_closeEpisode_bounds time
  rw [leave_eq]
  exact
    { sound with
      joined_iff := by simp
      joined_of_ticksJoined := by simp
      timeJoined_nonneg := sound.timeJoined_nonneg.trans longer
      timeJoined_le := bounded }

theorem grows_leave (time : Millis) : n.Grows (n.leave time) := by
  have longer := (sound.timeJoined_closeEpisode_bounds time).1
  rw [leave_eq]
  exact ⟨rfl, longer, le_refl _, .refl _, le_refl _, le_refl _, le_refl _, .refl _⟩

theorem countLink (counters : LinkCounters) (neighbour : Address) :
    (n.countLink counters neighbour).Sound := by
  unfold Node.countLink
  split
  · exact
      { sound with
        linkTx_le := addCounter_le ..
        linkAck_le := addCounter_le ..
        linkQueueDropped_le := addCounter_le .. }
  · exact sound

theorem grows_countLink (counters : LinkCounters) (neighbour : Address) :
    n.Grows (n.countLink counters neighbour) := by
  unfold Node.countLink
  split
  · exact
      { Grows.refl n with
        linkTx := le_addCounter sound.linkTx_le _
        linkAck := le_addCounter sound.linkAck_le _
        linkQueueDropped := le_addCounter sound.linkQueueDropped_le _ }
  · exact .refl n

variable [Scalar α]

/-- A report of the energy accounting keeps a node sound and takes nothing from it. -/
theorem countEnergest (report : EnergestReport) :
    (n.countEnergest report).Sound ∧ n.Grows (n.countEnergest report) := by
  unfold Node.countEnergest
  split
  · split
    · exact ⟨sound, .refl n⟩
    · rename_i positive
      exact ⟨{ sound with periodSeconds_pos := Nat.pos_of_ne_zero positive }, { Grows.refl n with }⟩
  · rename_i ticks
    obtain ⟨kept, more⟩ := sound.ticks.countTotal ticks n.ticksJoined
    exact ⟨{ sound with ticks := kept }, { Grows.refl n with ticks := more }⟩
  · rename_i ticks
    obtain ⟨kept, more⟩ := sound.ticks.countReception ticks n.ticksJoined
    exact ⟨{ sound with ticks := kept, joined_of_ticksJoined := fun sampled => sampled },
      { Grows.refl n with ticks := more }⟩
  · rename_i component ticks _
    exact ⟨{ sound with ticks := sound.ticks.spend ticks component },
      { Grows.refl n with ticks := sound.ticks.grows_spend ticks component }⟩

end Sound

variable [Scalar α]

/-- A node is sound from the start. -/
theorem sound_fresh (id : NodeId) : (fresh id : Node α).Sound where
  joined_iff := by simp [fresh]
  joined_of_ticksJoined := fun sampled => sampled
  timeJoined_nonneg := le_refl _
  timeJoined_le := show (0 : Int) ≤ timeMax by decide
  periodSeconds_pos := show 1 ≤ defaultPeriod by decide
  ticks := Ticks.sound_none
  linkTx_le := Nat.zero_le _
  linkAck_le := Nat.zero_le _
  linkQueueDropped_le := Nat.zero_le _

/-- Every event of a node keeps the node sound, and none of its figures gets less. -/
theorem Sound.account {n : Node α} (sound : n.Sound) (e : Event) :
    (n.account e).Sound ∧ n.Grows (n.account e) := by
  obtain ⟨time, node, kind, raw⟩ := e
  cases kind with
  | associated =>
    let m : Node α := { n with associatedAt := some (n.associatedAt.getD time) }
    have known : m.Sound := { sound with }
    exact ⟨known.join time, { Grows.refl n with }⟩
  | left | leftNetwork => exact ⟨sound.leave time, sound.grows_leave time⟩
  | parentChanged old new =>
    let m : Node α := { n with parentSwitches := n.parentSwitches + 1, parent := new }
    have switched : m.Sound := { sound with }
    have counted : n.Grows m := { Grows.refl n with parentSwitches := Nat.le_succ _ }
    simp only [Node.account, apply]
    split
    · exact ⟨switched.join time, { counted with }⟩
    · exact ⟨switched.leave time, counted.trans (switched.grows_leave time)⟩
  | linkStats counters neighbour =>
    exact ⟨sound.countLink counters neighbour, sound.grows_countLink counters neighbour⟩
  | energest report => exact sound.countEnergest report
  | packetSent seqnum =>
    exact ⟨{ sound with }, { Grows.refl n with ledger := n.ledger.grows_recordSent seqnum time }⟩
  | packetReceived seqnum sender =>
    exact ⟨{ sound with }, { Grows.refl n with ledger := n.ledger.grows_recordReceived seqnum time }⟩
  | timeSourceUpdated lladdr | parentLladdrUpdated lladdr =>
    exact ⟨{ sound with }, { Grows.refl n with }⟩
  | simulationEnded endTime => exact ⟨sound, .refl n⟩

end Node

end MeshTrace
