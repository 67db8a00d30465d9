import Mathlib
import MeshTrace.Trace.Event

namespace MeshTrace

/-- A node joins or leaves. -/
structure Change where
  time : Millis
  joins : Bool
  deriving DecidableEq, Repr

/-- The time from joining to leaving. -/
structure Episode where
  start : Millis
  finish : Millis
  deriving DecidableEq, Repr

/-- An episode that ends before it starts has no length. -/
def Episode.length (e : Episode) : Int := max 0 (e.finish - e.start)

namespace Change

/-- When a node leaves next, which is at `finish` if it does not leave before. -/
def leavingTime (finish : Millis) (changes : List Change) : Millis :=
  ((changes.find? (!·.joins)).map (·.time)).getD finish

/-- The episodes that start among changes of a node that was joined before them or not. An episode
starts when a node that is not joined joins, and lasts until the node leaves. -/
def episodes (finish : Millis) (joined : Bool) : List Change → List Episode
  | [] => []
  | c :: later =>
    if c.joins && !joined then ⟨c.time, leavingTime finish later⟩ :: episodes finish true later
    else episodes finish c.joins later

def joinedTime (finish : Millis) (joined : Bool) (changes : List Change) : Int :=
  ((episodes finish joined changes).map Episode.length).sum

section

variable (finish time : Millis) (joined : Bool) (later : List Change)

@[simp] theorem leavingTime_nil : leavingTime finish [] = finish := rfl

@[simp] theorem leavingTime_join : leavingTime finish (⟨time, true⟩ :: later) = leavingTime finish later := rfl

@[simp] theorem leavingTime_leave : leavingTime finish (⟨time, false⟩ :: later) = time := rfl

@[simp] theorem joinedTime_nil : joinedTime finish joined [] = 0 := rfl

@[simp] theorem joinedTime_join :
    joinedTime finish false (⟨time, true⟩ :: later) =
      max 0 (leavingTime finish later - time) + joinedTime finish true later := rfl

@[simp] theorem joinedTime_join_again :
    joinedTime finish true (⟨time, true⟩ :: later) = joinedTime finish true later := rfl

@[simp] theorem joinedTime_leave :
    joinedTime finish joined (⟨time, false⟩ :: later) = joinedTime finish false later := rfl

theorem joinedTime_nonneg (changes : List Change) : 0 ≤ joinedTime finish joined changes := by
  refine List.sum_nonneg fun length member => ?_
  obtain ⟨e, -, rfl⟩ := List.mem_map.mp member
  exact le_max_left ..

end

/-- Time joined passes in some episode of a millisecond or more. -/
theorem joinedTime_pos_iff {finish : Millis} {joined : Bool} {changes : List Change} :
    0 < joinedTime finish joined changes ↔ ∃ e ∈ episodes finish joined changes, e.start < e.finish := by
  have nonneg : ∀ length ∈ (episodes finish joined changes).map Episode.length, 0 ≤ length := by
    intro length member
    obtain ⟨e, -, rfl⟩ := List.mem_map.mp member
    exact le_max_left ..
  constructor
  · intro positive
    have longer : ((episodes finish joined changes).map fun _ => (0 : Int)).sum <
        ((episodes finish joined changes).map Episode.length).sum := by
      simpa [joinedTime] using positive
    obtain ⟨e, member, long⟩ := List.exists_lt_of_sum_lt _ _ longer
    exact ⟨e, member, by simpa [Episode.length] using long⟩
  · rintro ⟨e, member, long⟩
    have positive : 0 < e.length := by simpa [Episode.length] using long
    exact positive.trans_le (List.single_le_sum nonneg e.length (List.mem_map_of_mem member))

/-- An episode starts when the node joins. -/
theorem exists_joins_of_mem_episodes {finish : Millis} {joined : Bool} {changes : List Change} {e : Episode}
    (member : e ∈ episodes finish joined changes) : ∃ c ∈ changes, c.joins = true ∧ c.time = e.start := by
  induction changes generalizing joined with
  | nil => cases member
  | cons c later ih =>
    have lift {before : Bool} (rest : e ∈ episodes finish before later) :
        ∃ d ∈ c :: later, d.joins = true ∧ d.time = e.start := by
      obtain ⟨d, inside, start⟩ := ih rest
      exact ⟨d, List.mem_cons_of_mem c inside, start⟩
    simp only [episodes] at member
    split at member
    · rename_i opens
      rcases List.mem_cons.mp member with rfl | rest
      · exact ⟨c, List.mem_cons_self, (Bool.and_eq_true_iff.mp opens).1, rfl⟩
      · exact lift rest
    · exact lift member

/-- Changes in the order of their times, none of them after `finish`. -/
structure Ordered (finish : Millis) (changes : List Change) : Prop where
  sorted : changes.Pairwise (·.time ≤ ·.time)
  atMost : ∀ c ∈ changes, c.time ≤ finish

/-- The time of the first change, if there is one. -/
def startTime (finish : Millis) (changes : List Change) : Millis :=
  (changes.head?.map (·.time)).getD finish

/-- Whether the latest change so far is that the node joins. -/
def joinedAt (changes : List Change) (time : Millis) : Bool :=
  (changes.filter (·.time ≤ time)).getLast?.any (·.joins)

/-- How many milliseconds there are, from the first change to `finish`, at which the node is joined. -/
def joinedMillis (finish : Millis) (changes : List Change) : Nat :=
  let start := startTime finish changes
  (List.range (finish - start).toNat).countP fun elapsed : Nat => joinedAt changes (start + elapsed)

namespace Ordered

variable {finish : Millis} {c : Change} {later : List Change} (ordered : Ordered finish (c :: later))

include ordered

theorem tail : Ordered finish later :=
  ⟨(List.pairwise_cons.mp ordered.sorted).2, fun d member => ordered.atMost d (List.mem_cons_of_mem c member)⟩

theorem time_le_startTime : c.time ≤ startTime finish later := by
  cases later with
  | nil => exact ordered.atMost c List.mem_cons_self
  | cons d rest => exact (List.pairwise_cons.mp ordered.sorted).1 d List.mem_cons_self

theorem startTime_le_time {d : Change} (member : d ∈ later) : startTime finish later ≤ d.time := by
  cases later with
  | nil => cases member
  | cons first rest =>
    rcases List.mem_cons.mp member with rfl | behind
    · exact le_refl _
    · exact (List.pairwise_cons.mp ordered.tail.sorted).1 d behind

theorem startTime_le : startTime finish later ≤ finish := by
  cases later with
  | nil => exact le_refl _
  | cons d rest => exact ordered.atMost d (by simp)

/-- In an ordered history no episode ends before it starts. -/
theorem startTime_le_leavingTime : startTime finish later ≤ leavingTime finish later := by
  unfold leavingTime
  cases found : later.find? (!·.joins) with
  | none => exact ordered.startTime_le
  | some d => exact ordered.startTime_le_time (List.mem_of_find?_eq_some found)

/-- A node that joins is joined until its next change, whatever that is. -/
theorem joinedTime_cons :
    joinedTime finish false (c :: later) =
      (if c.joins then startTime finish later - c.time else 0) + joinedTime finish false later := by
  obtain ⟨time, joins⟩ := c
  cases joins with
  | false => simp
  | true =>
    have start := ordered.time_le_startTime
    have leaving := ordered.startTime_le_leavingTime
    rw [joinedTime_join, if_pos rfl, max_eq_right (Int.sub_nonneg_of_le (start.trans leaving))]
    cases later with
    | nil => rfl
    | cons d rest =>
      obtain ⟨next, stays⟩ := d
      cases stays with
      | false => rfl
      | true =>
        have again : next ≤ leavingTime finish rest := leaving
        rw [joinedTime_join, joinedTime_join_again, leavingTime_join, max_eq_right (Int.sub_nonneg_of_le again)]
        show leavingTime finish rest - time + _ = next - time + (leavingTime finish rest - next + _)
        lia

/-- Until the next change, the first one is the latest. -/
theorem joinedAt_before {time : Millis} (since : c.time ≤ time) (before : time < startTime finish later) :
    joinedAt (c :: later) time = c.joins := by
  have none : later.filter (·.time ≤ time) = [] := by
    rw [List.filter_eq_nil_iff]
    intro d member
    have behind := before.trans_le (ordered.startTime_le_time member)
    simpa using behind
  simp [joinedAt, since, none]

/-- From the next change on, the first one does not matter. -/
theorem joinedAt_after {time : Millis} (since : startTime finish later ≤ time) (before : time < finish) :
    joinedAt (c :: later) time = joinedAt later time := by
  cases later with
  | nil => exact absurd before (not_lt.mpr since)
  | cons d rest =>
    have reached : d.time ≤ time := since
    have first := ordered.time_le_startTime.trans since
    simp [joinedAt, first, reached, List.getLast?_cons]

theorem joinedMillis_cons :
    (joinedMillis finish (c :: later) : Int) =
      (if c.joins then startTime finish later - c.time else 0) + joinedMillis finish later := by
  obtain ⟨span, atNext⟩ := Int.le.dest ordered.time_le_startTime
  obtain ⟨rest, atFinish⟩ := Int.le.dest ordered.startTime_le
  have early : (List.range span).countP (fun elapsed : Nat => joinedAt (c :: later) (c.time + elapsed)) =
      if c.joins then span else 0 := by
    have constant : (List.range span).countP (fun elapsed : Nat => joinedAt (c :: later) (c.time + elapsed)) =
        (List.range span).countP fun _ => c.joins :=
      List.countP_congr fun elapsed member => by
        have inside := List.mem_range.mp member
        rw [ordered.joinedAt_before (by lia) (by lia)]
    rw [constant]
    cases c.joins <;> simp
  have late : (List.range rest).countP (fun elapsed : Nat => joinedAt (c :: later) (c.time + (span + elapsed : Nat))) =
      joinedMillis finish later := by
    have length : (finish - startTime finish later).toNat = rest := by lia
    rw [joinedMillis, length]
    refine List.countP_congr fun elapsed member => ?_
    have inside := List.mem_range.mp member
    have moved : c.time + (span + elapsed : Nat) = startTime finish later + elapsed := by lia
    rw [moved, ordered.joinedAt_after (by lia) (by lia)]
  have count : joinedMillis finish (c :: later) = (if c.joins then span else 0) + joinedMillis finish later := by
    have whole : (finish - c.time).toNat = span + rest := by lia
    show (List.range (finish - c.time).toNat).countP (fun elapsed : Nat => joinedAt (c :: later) (c.time + elapsed)) = _
    rw [whole, List.range_add, List.countP_append, List.countP_map, early, ← late]
    rfl
  rw [count]
  split <;> lia

end Ordered

/-- The lengths of the episodes add up to the milliseconds at which the node is joined. -/
theorem Ordered.joinedTime_eq {finish : Millis} {changes : List Change} (ordered : Ordered finish changes) :
    joinedTime finish false changes = joinedMillis finish changes := by
  induction changes with
  | nil => simp [joinedMillis, startTime]
  | cons c later ih => rw [ordered.joinedTime_cons, ordered.joinedMillis_cons, ih ordered.tail]

/-- A node is joined no longer than since it joined first. -/
theorem Ordered.joinedTime_le {finish : Millis} {changes : List Change} (ordered : Ordered finish changes)
    {first : Change} (found : changes.find? (·.joins) = some first) :
    joinedTime finish false changes ≤ finish - first.time := by
  induction changes with
  | nil => cases found
  | cons c later ih =>
    by_cases joins : c.joins = true
    · rw [List.find?_cons_of_pos joins] at found
      obtain rfl := Option.some.inj found
      have millis : joinedMillis finish (c :: later) ≤ (List.range (finish - c.time).toNat).length :=
        List.countP_le_length
      have span := ordered.atMost c List.mem_cons_self
      rw [List.length_range] at millis
      rw [ordered.joinedTime_eq]
      calc (joinedMillis finish (c :: later) : Int)
          ≤ ((finish - c.time).toNat : Int) := Int.ofNat_le.mpr millis
        _ = finish - c.time := Int.toNat_of_nonneg (Int.sub_nonneg_of_le span)
    · rw [List.find?_cons_of_neg joins] at found
      rw [ordered.joinedTime_cons, if_neg joins, Int.zero_add]
      exact ih ordered.tail found

end Change

end MeshTrace
