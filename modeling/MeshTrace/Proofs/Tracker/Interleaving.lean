import MeshTrace.Proofs.Tracker.Account
import MeshTrace.Run.Summary

namespace MeshTrace

/-- Two sequences of the same events, in which the events of every owner stand in the same order. -/
structure Interleaving (xs ys : List Event) : Prop where
  perm : xs.Perm ys
  order : ∀ owner, xs.filter (·.owner = owner) = ys.filter (·.owner = owner)

/-- The first event of one sequence stands in the other behind events of other owners only. -/
theorem Interleaving.cons_inv {x : Event} {xs ys : List Event} (same : Interleaving (x :: xs) ys) :
    ∃ before after, ys = before ++ x :: after ∧ (∀ e ∈ before, e.owner ≠ x.owner) ∧
      Interleaving xs (before ++ after) := by
  have own := same.order x.owner
  rw [List.filter_cons_of_pos (by simp), eq_comm, List.filter_eq_cons_iff] at own
  obtain ⟨before, after, whole, others, -, rest⟩ := own
  subst whole
  have others : ∀ e ∈ before, e.owner ≠ x.owner := by simpa using others
  refine ⟨before, after, rfl, others, ?_, fun owner => ?_⟩
  · exact (List.perm_cons x).mp (same.perm.trans List.perm_middle)
  · by_cases own : x.owner = owner
    · subst own
      have nothing : before.filter (·.owner = x.owner) = [] := by simpa using others
      rw [List.filter_append, nothing, rest, List.nil_append]
    · have order := same.order owner
      simpa [List.filter_append, List.filter_cons, own] using order

namespace Tracker

variable {α : Type} [Scalar α]

/-- Events of different owners can be accounted in either order: each reads and changes its own owner
only, and making nodes known and counting warnings do not depend on the order. -/
theorem apply_comm (t : Tracker α) {a b : Event} (different : a.owner ≠ b.owner) :
    (t.apply a).apply b = (t.apply b).apply a := by
  have ledgers (x y : Event) (other : x.owner ≠ y.owner) :
      (t.apply x).ledgerOf y.owner = t.ledgerOf y.owner := by
    cases own : y.owner with
    | node id => simp only [ledgerOf, state_apply, own ▸ other, if_false]
    | trace => rfl
  refine ext_node? (fun id => ?_) ?_ ?_
  · simp only [node?_apply, state_apply]
    by_cases ofA : a.owner = .node id
    · have notB : b.owner ≠ .node id := fun ofB => different (ofA.trans ofB.symm)
      simp [ofA, notB]
    · by_cases ofB : b.owner = .node id
      · simp [ofA, ofB]
      · by_cases inA : id ∈ a.nodes <;> simp [ofA, ofB, inA]
  · rw [endTime_apply, endTime_apply, endTime_apply, endTime_apply]
    by_cases ends : a.owner = .trace
    · rw [Event.endTime?_of_owner (ends ▸ different.symm), Option.none_or, Option.none_or]
    · rw [Event.endTime?_of_owner ends, Option.none_or, Option.none_or]
  · rw [diagnostics_apply, diagnostics_apply, diagnostics_apply, diagnostics_apply, ledgers a b different,
      ledgers b a different.symm, Diagnostics.count_comm]

/-- An event can be moved in front of events of other owners. -/
theorem foldl_apply_comm (t : Tracker α) {x : Event} {before : List Event}
    (others : ∀ e ∈ before, e.owner ≠ x.owner) :
    (before.foldl apply t).apply x = before.foldl apply (t.apply x) := by
  induction before generalizing t with
  | nil => rfl
  | cons e before ih =>
    rw [List.foldl_cons, List.foldl_cons, ih (t.apply e) fun d member => others d (List.mem_cons_of_mem e member),
      t.apply_comm (others e List.mem_cons_self)]

/-- Only the order of the events of each owner matters. -/
theorem foldl_apply_of_interleaving (t : Tracker α) {xs ys : List Event} (same : Interleaving xs ys) :
    xs.foldl apply t = ys.foldl apply t := by
  induction xs generalizing t ys with
  | nil => rw [same.perm.nil_eq]
  | cons x xs ih =>
    obtain ⟨before, after, rfl, others, rest⟩ := same.cons_inv
    rw [List.foldl_cons, ih (t.apply x) rest, List.foldl_append, List.foldl_append, List.foldl_cons,
      t.foldl_apply_comm others]

/-- The order in which the events of different owners are interleaved in a trace does not matter for
anything that is tracked, and so not for the summary. -/
theorem finish_of_interleaving {xs ys : List Event} (same : Interleaving xs ys)
    (lastTime : Option Millis) :
    ((xs.foldl apply .start : Tracker α).finish lastTime = (ys.foldl apply .start).finish lastTime) ∧
      ∀ s : Settings α, RunSummary.ofTrace ((xs.foldl apply .start).finish lastTime) s =
        RunSummary.ofTrace ((ys.foldl apply .start).finish lastTime) s := by
  have same := foldl_apply_of_interleaving (.start : Tracker α) same
  exact ⟨by rw [same], fun s => by rw [same]⟩

/-- A packet of node two, its arrival at node one, the association of node three and the end of the
simulation, in two orders. -/
theorem finish_of_late_association :
    let early : List Event := [⟨100, 2, .packetSent 7, ""⟩, ⟨120, 3, .associated, ""⟩,
      ⟨150, 1, .packetReceived 7 2, ""⟩, ⟨900, 0, .simulationEnded 900, ""⟩]
    let late : List Event := [⟨900, 0, .simulationEnded 900, ""⟩, ⟨100, 2, .packetSent 7, ""⟩,
      ⟨150, 1, .packetReceived 7 2, ""⟩, ⟨120, 3, .associated, ""⟩]
    Interleaving early late ∧
      (early.foldl apply .start : Tracker Float).finish (some 150) =
        (late.foldl apply .start).finish (some 150) := by
  intro early late
  have same : Interleaving early late := by
    refine ⟨by simp only [early, late]; decide, fun owner => ?_⟩
    simp only [early, late]
    cases owner with
    | trace => decide
    | node id =>
      by_cases sender : 2 = id
      · subst sender; decide
      · by_cases other : 3 = id
        · subst other; decide
        · simp [Event.owner, sender, other]
  exact ⟨same, (finish_of_interleaving same (some 150)).1⟩

end Tracker

end MeshTrace
