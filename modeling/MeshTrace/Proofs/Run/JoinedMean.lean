import Mathlib.Tactic.NormNum
import MeshTrace.Proofs.Number.Exact
import MeshTrace.Proofs.Run.Roster
import MeshTrace.Proofs.Tracker.Lifecycle

namespace MeshTrace

theorem foldr_max_nonneg (qs : List ℚ) : 0 ≤ qs.foldr max 0 := by
  induction qs with
  | nil => exact le_refl _
  | cons q qs ih => exact ih.trans (le_max_right ..)

theorem le_foldr_max {qs : List ℚ} {q : ℚ} (member : q ∈ qs) : q ≤ qs.foldr max 0 := by
  induction qs with
  | nil => cases member
  | cons p qs ih =>
    rcases List.mem_cons.mp member with rfl | later
    · exact le_max_left ..
    · exact (ih later).trans (le_max_right ..)

namespace RunSummary

open Exact

variable (run : RunSummary Exact)

/-- How long the listed nodes were joined together, in seconds. -/
def totalJoined : ℚ := (run.nodes.map (·.timeJoined.toRat)).sum

/-- The longest time, in seconds, that a listed node was joined; zero if none is listed. -/
def longestJoined : ℚ := (run.nodes.map (·.timeJoined.toRat)).foldr max 0

theorem longestJoined_nonneg : 0 ≤ run.longestJoined := foldr_max_nonneg _

/-- Each listed node takes at most the longest time, and there may be more nodes than are listed. -/
theorem totalJoined_le {count : Nat} (enough : run.nodes.length ≤ count) :
    run.totalJoined ≤ run.longestJoined * count := by
  have bound := List.sum_le_card_nsmul (run.nodes.map (·.timeJoined.toRat)) run.longestJoined
    fun q member => le_foldr_max member
  rw [nsmul_eq_mul, List.length_map, mul_comm] at bound
  exact bound.trans (mul_le_mul_of_nonneg_left (Nat.cast_le.mpr enough) run.longestJoined_nonneg)

variable (trace : TrackedTrace Exact) (s : Settings Exact)

theorem timeJoined_record (n : Node Exact) : (n.record s).timeJoined = number (n.timeJoined / 1000) :=
  number_div (by norm_num)

/-- With no node beside one, the mean time joined is zero. -/
theorem meanTimeJoined_eq_zero (few : (ofTrace trace s).nodeCount ≤ 1) :
    (ofTrace trace s).meanTimeJoined = number 0 :=
  if_neg few.not_gt

/-- With several nodes the mean is the sum of the times over one less than the number of nodes. -/
theorem meanTimeJoined_eq_div (several : 1 < (ofTrace trace s).nodeCount) :
    (ofTrace trace s).meanTimeJoined =
      number ((ofTrace trace s).totalJoined / ((ofTrace trace s).nodeCount - 1)) := by
  let run := ofTrace trace s
  have times : run.nodes.map (·.timeJoined) = (run.nodes.map (·.timeJoined.toRat)).map number := by
    rw [List.map_map]
    refine List.map_congr_left fun r member => ?_
    obtain ⟨n, -, rfl⟩ := List.mem_map.mp (List.mem_of_mem_filter member)
    rw [Function.comp_apply, timeJoined_record, toRat_number]
  have mean : run.meanTimeJoined =
      Arith.total (run.nodes.map (·.timeJoined)) / Arith.ofNat (run.nodeCount - 1) := if_pos several
  have positive : ((run.nodeCount - 1 : Nat) : ℚ) ≠ 0 := Nat.cast_ne_zero.mpr (Nat.sub_pos_of_lt several).ne'
  rw [mean, times, total_map_number, ofNat_eq, number_div positive, Nat.cast_sub several.le, Nat.cast_one]
  rfl

/-- No node is listed but those other than the coordinator. -/
theorem length_nodes_add_le (named : ∀ id n, trace.nodes.get? id = some n → n.id = id) :
    (ofTrace trace s).nodes.length + (if trace.nodes.contains s.coordinator then 1 else 0) ≤
      (ofTrace trace s).nodeCount := by
  have all : (ofTrace trace s).nodeCount = trace.nodes.size := trace.nodes.length_values
  have fewer : (ofTrace trace s).nodes.length ≤ (trace.nodes.values.filter (·.id != s.coordinator)).length :=
    (List.length_filter_le ..).trans_eq (List.length_map ..)
  have others := Table.length_filter_values named s.coordinator
  omega

end RunSummary

namespace Tracker

open Exact

/-- No node has been joined for less than no time. -/
theorem Reach.timeJoined_finish_nonneg {events : List Event} {t : Tracker Exact} (reach : Reach events t)
    (lastTime : Option Millis) {id : NodeId} {n : Node Exact} (kept : (t.finish lastTime).nodes.get? id = some n) :
    0 ≤ n.timeJoined := by
  have sound := reach.sound id
  rw [← closeEpisode_of_kept kept]
  exact sound.timeJoined_nonneg.trans (sound.timeJoined_closeEpisode_bounds _).1

/-- The mean time joined is at most the longest time that a listed node was joined if the coordinator is a node of the
trace, for then it is taken over the others. Where the coordinator is not a node of the trace, the sum over all nodes is
still divided by one less than their number, and the mean may be longer than any node was joined. -/
theorem Reach.meanTimeJoined_finish {events : List Event} {t : Tracker Exact} (reach : Reach events t)
    (lastTime : Option Millis) (s : Settings Exact) :
    let run := RunSummary.ofTrace (t.finish lastTime) s
    (∀ r ∈ run.nodes, ∃ q, 0 ≤ q ∧ r.timeJoined = number q) ∧
      ∃ mean, run.meanTimeJoined = number mean ∧
        (run.nodeCount ≤ 1 → mean = 0) ∧
        (1 < run.nodeCount → mean * (run.nodeCount - 1) = run.totalJoined) ∧
        (t.nodes.contains s.coordinator = true ∨ run.nodeCount ≤ 1 → mean ≤ run.longestJoined) ∧
        mean * (run.nodeCount - 1) ≤ run.longestJoined * run.nodeCount := by
  intro run
  have named (id : NodeId) (n : Node Exact) : (t.finish lastTime).nodes.get? id = some n → n.id = id :=
    reach.id_of_finish lastTime
  have fewer := RunSummary.length_nodes_add_le (t.finish lastTime) s named
  rw [t.contains_finish] at fewer
  refine ⟨fun r member => ?_, ?_⟩
  · obtain ⟨n, kept, -, rfl⟩ := (RunSummary.mem_nodes_ofTrace named s).mp member
    have nonneg : (0 : ℚ) ≤ n.timeJoined := Int.cast_nonneg (reach.timeJoined_finish_nonneg lastTime kept)
    exact ⟨n.timeJoined / 1000, div_nonneg nonneg (by norm_num), RunSummary.timeJoined_record s n⟩
  rcases Nat.lt_or_ge 1 run.nodeCount with several | few
  · have positive : (0 : ℚ) < run.nodeCount - 1 := sub_pos.mpr (Nat.one_lt_cast.mpr several)
    have product : run.totalJoined / (run.nodeCount - 1) * (run.nodeCount - 1) = run.totalJoined :=
      div_mul_cancel₀ _ positive.ne'
    refine ⟨_, RunSummary.meanTimeJoined_eq_div (t.finish lastTime) s several, fun few => absurd few several.not_ge,
      fun _ => product, fun known => ?_, ?_⟩
    · rw [if_pos (known.resolve_right several.not_ge)] at fewer
      have others := run.totalJoined_le (Nat.le_sub_one_of_lt fewer)
      rw [Nat.cast_sub several.le, Nat.cast_one] at others
      exact (div_le_iff₀ positive).mpr others
    · rw [product]
      exact run.totalJoined_le ((Nat.le_add_right ..).trans fewer)
  · refine ⟨0, RunSummary.meanTimeJoined_eq_zero (t.finish lastTime) s few, fun _ => rfl,
      fun several => absurd few several.not_ge, fun _ => run.longestJoined_nonneg, ?_⟩
    rw [zero_mul]
    exact mul_nonneg run.longestJoined_nonneg (Nat.cast_nonneg _)

/-- Nodes two and three are joined for ten and for four seconds; the coordinator only hears of them. -/
def twoGuests : List Event :=
  [⟨1000, 2, .associated, ""⟩, ⟨3000, 3, .associated, ""⟩, ⟨4000, 1, .packetReceived 1 3, ""⟩, ⟨7000, 3, .left, ""⟩,
    ⟨11000, 2, .left, ""⟩]

/-- Two guests beside the coordinator. -/
theorem meanTimeJoined_finish_twoGuests :
    let t : Tracker Exact := twoGuests.foldl apply .start
    let run := RunSummary.ofTrace (t.finish none) settings
    Reach twoGuests t ∧ t.nodes.contains settings.coordinator = true ∧ run.meanTimeJoined = number 7 ∧
      run.longestJoined = 10 ∧ ∃ mean, run.meanTimeJoined = number mean ∧ mean ≤ run.longestJoined := by
  intro t run
  have reach : Reach twoGuests t := Reach.start.foldl twoGuests
  have known : t.nodes.contains settings.coordinator = true := by decide +kernel
  obtain ⟨-, mean, value, -, -, bound, -⟩ := reach.meanTimeJoined_finish none settings
  exact ⟨reach, known, by decide +kernel, by decide +kernel, mean, value, bound (Or.inl known)⟩

/-- Two nodes are joined for ten seconds each, and the coordinator, node one, is never mentioned. -/
def absentCoordinator : List (List Char) :=
  ["1000000 2 association done".toList, "1000000 3 association done".toList, "11000000 2 leaving the network".toList,
    "11000000 3 leaving the network".toList, "Test ended at simulation time: 20000000".toList]

/-- The mean time joined is then twice as long as either node was joined. -/
theorem longestJoined_lt_absentCoordinator :
    let run := RunSummary.ofLines absentCoordinator .simulator settings
    run.nodes.map (·.timeJoined) = [number 10, number 10] ∧ run.longestJoined = 10 ∧
      ∃ mean, run.meanTimeJoined = number mean ∧ run.longestJoined < mean := by
  intro run
  exact ⟨by decide +kernel, by decide +kernel, 20, by decide +kernel, by decide +kernel⟩

end Tracker

end MeshTrace
