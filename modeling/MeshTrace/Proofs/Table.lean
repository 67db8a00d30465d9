import Mathlib.Algebra.GroupWithZero.Nat
import Mathlib.Data.Finset.Card
import Mathlib.Data.List.Forall2
import Mathlib.Data.List.Sort
import MeshTrace.Table

namespace MeshTrace.Table

variable {β γ : Type}

/-- The keys of a table increase strictly. -/
theorem keys_increasing (t : Table β) : t.keys.Pairwise (· < ·) := by
  rw [keys, List.pairwise_map]
  exact t.sorted

theorem keys_nodup (t : Table β) : t.keys.Nodup := t.keys_increasing.imp Nat.ne_of_lt

/-- What is looked up is an entry, and every entry can be looked up. -/
theorem get?_eq_some_iff {t : Table β} {k : Nat} {b : β} :
    t.get? k = some b ↔ (k, b) ∈ t.entries := by
  rw [get?, List.lookup_eq_some_iff]
  constructor
  · rintro ⟨front, back, whole, -⟩
    rw [whole]
    exact List.mem_append_right front List.mem_cons_self
  · intro member
    obtain ⟨front, back, whole⟩ := List.append_of_mem member
    refine ⟨front, back, whole, fun e inFront => ?_⟩
    have below := t.sorted
    rw [whole, List.pairwise_append] at below
    have less := below.2.2 e inFront (k, b) List.mem_cons_self
    simp only [bne_iff_ne, ne_eq]
    omega

/-- Sorted entries are determined by what is among them. -/
theorem entries_eq_of_mem_iff {es fs : List (Nat × β)} (sorted : es.Pairwise (fun a b => a.1 < b.1))
    (sorted' : fs.Pairwise (fun a b => a.1 < b.1)) (members : ∀ e, e ∈ es ↔ e ∈ fs) : es = fs := by
  have : Std.Irrefl fun a b : Nat × β => a.1 < b.1 := ⟨fun e => Nat.lt_irrefl e.1⟩
  have : Std.Antisymm fun a b : Nat × β => a.1 < b.1 := ⟨fun a b below above => by omega⟩
  exact sorted.eq_of_mem_iff sorted' members

/-- A table is determined by what is kept under each number. -/
theorem ext_get? {t u : Table β} (same : ∀ k, t.get? k = u.get? k) : t = u := by
  have entries : t.entries = u.entries := entries_eq_of_mem_iff t.sorted u.sorted fun e => by
    rw [← get?_eq_some_iff, ← get?_eq_some_iff, same]
  cases t
  cases u
  simpa using entries

/-- Two tables that differ under one number have the same values but for those under that number. -/
theorem filter_values_eq {t u : Table β} {k : Nat} {p : β → Bool} (same : ∀ l, l ≠ k → t.get? l = u.get? l)
    (left : ∀ b, t.get? k = some b → p b = false) (right : ∀ b, u.get? k = some b → p b = false) :
    t.values.filter p = u.values.filter p := by
  have entries : t.entries.filter (p ·.2) = u.entries.filter (p ·.2) := by
    refine entries_eq_of_mem_iff (t.sorted.filter _) (u.sorted.filter _) fun ⟨l, b⟩ => ?_
    simp only [List.mem_filter, ← get?_eq_some_iff]
    by_cases here : l = k
    · subst here
      constructor
      · rintro ⟨found, accepted⟩
        exact absurd accepted (by simp [left b found])
      · rintro ⟨found, accepted⟩
        exact absurd accepted (by simp [right b found])
    · rw [same l here]
  have split (v : Table β) : v.values.filter p = (v.entries.filter (p ·.2)).map (·.2) := List.filter_map
  rw [split, split, entries]

@[simp] theorem length_values (t : Table β) : t.values.length = t.size := List.length_map ..

theorem get?_update (t : Table β) (k l : Nat) (f : Option β → β) :
    (t.update k f).get? l = if l = k then some (f (t.get? k)) else t.get? l := by
  split
  · rename_i same
    rw [same, get?_update_self]
  · rename_i different
    exact get?_update_other t f different

@[simp] theorem values_map (f : β → γ) (t : Table β) : (t.map f).values = t.values.map f := by
  simp [values, map]

theorem get?_map (f : β → γ) (t : Table β) (k : Nat) : (t.map f).get? k = (t.get? k).map f := by
  obtain ⟨es, sorted⟩ := t
  simp only [get?, map]
  clear sorted
  induction es with
  | nil => rfl
  | cons head rest ih =>
    obtain ⟨j, b⟩ := head
    rw [List.map_cons, List.lookup_cons, List.lookup_cons, ih]
    cases k == j <;> rfl

@[simp] theorem contains_map (f : β → γ) (t : Table β) (k : Nat) : (t.map f).contains k = t.contains k := by
  rw [contains, get?_map, Option.isSome_map, contains]

@[simp] theorem size_map (f : β → γ) (t : Table β) : (t.map f).size = t.size := List.length_map ..

theorem map_insert (f : β → γ) (t : Table β) (k : Nat) (b : β) : (t.insert k b).map f = (t.map f).insert k (f b) := by
  refine ext_get? fun l => ?_
  rw [get?_map, insert, insert, get?_update, get?_update, get?_map]
  split <;> rfl

/-- The values of a table are those that can be looked up. -/
theorem mem_values_iff {t : Table β} {b : β} : b ∈ t.values ↔ ∃ k, t.get? k = some b := by
  simp [values, get?_eq_some_iff]

theorem mem_keys_iff {t : Table β} {k : Nat} : k ∈ t.keys ↔ t.contains k = true := by
  simp [keys, contains, Option.isSome_iff_exists, get?_eq_some_iff]

/-- Values that tell the numbers they are kept under. -/
theorem map_values_eq_keys {t : Table β} {key : β → Nat} (named : ∀ k b, t.get? k = some b → key b = k) :
    t.values.map key = t.keys := by
  unfold values keys
  rw [List.map_map]
  exact List.map_congr_left fun entry member => named entry.1 entry.2 (get?_eq_some_iff.mpr member)

@[simp] theorem contains_empty (k : Nat) : (∅ : Table β).contains k = false := rfl

theorem contains_insert (t : Table β) (k l : Nat) (b : β) :
    (t.insert k b).contains l = (decide (l = k) || t.contains l) := by
  rw [contains, insert, get?_update]
  split <;> simp_all [contains]

theorem size_eq_length_keys (t : Table β) : t.size = t.keys.length := (List.length_map _).symm

/-- All values but the one kept under a number, if there is one. -/
theorem length_filter_values {t : Table β} {key : β → Nat}
    (named : ∀ k b, t.get? k = some b → key b = k) (k : Nat) :
    (t.values.filter (key · != k)).length + (if t.contains k then 1 else 0) = t.size := by
  have others : (t.values.filter (key · != k)).length = (t.keys.filter (· != k)).length := by
    rw [← map_values_eq_keys named, List.filter_map, List.length_map]
    rfl
  have own : t.keys.count k = if t.contains k then 1 else 0 := by
    rw [t.keys_nodup.count]
    simp only [mem_keys_iff]
  have whole := t.keys.length_eq_length_filter_add (· == k)
  rw [size_eq_length_keys, whole, others, ← own, List.count, List.countP_eq_length_filter, Nat.add_comm]
  rfl

theorem size_ne_zero_iff {t : Table β} : t.size ≠ 0 ↔ ∃ k, t.contains k = true := by
  rw [size_eq_length_keys, ← Nat.pos_iff_ne_zero, List.length_pos_iff_exists_mem]
  simp only [mem_keys_iff]

/-- A table is as large as the set of its keys. -/
theorem size_eq_card {t : Table β} {s : Finset Nat} (members : ∀ k, t.contains k = true ↔ k ∈ s) : t.size = s.card := by
  have keys : t.keys.toFinset = s := by
    ext k
    rw [List.mem_toFinset, mem_keys_iff, members]
  rw [← keys, List.toFinset_card_of_nodup t.keys_nodup, size_eq_length_keys]

/-- A table that keeps something under all numbers of another is no smaller. -/
theorem size_le_of_contains {t : Table β} {u : Table γ}
    (covered : ∀ k, t.contains k = true → u.contains k = true) : t.size ≤ u.size := by
  rw [size_eq_length_keys, size_eq_length_keys]
  refine (t.keys_nodup.subperm fun k member => ?_).length_le
  exact mem_keys_iff.mpr (covered k (mem_keys_iff.mp member))

/-- Tables with the same keys are of one size. -/
theorem size_eq_of_contains {t : Table β} {u : Table γ} (same : ∀ k, t.contains k = u.contains k) :
    t.size = u.size :=
  Nat.le_antisymm (size_le_of_contains fun k kept => same k ▸ kept) (size_le_of_contains fun k kept => same k ▸ kept)

/-- Where all numbers of one table stand in another, its values stand among those of the other, in order. -/
theorem sublistForall₂_values {R : β → γ → Prop} {t : Table β} {u : Table γ}
    (covered : ∀ k b, t.get? k = some b → ∃ c, u.get? k = some c ∧ R b c) :
    List.SublistForall₂ R t.values u.values := by
  obtain ⟨es, sorted⟩ := t
  obtain ⟨fs, sorted'⟩ := u
  simp only [get?_eq_some_iff] at covered
  show List.SublistForall₂ R (es.map (·.2)) (fs.map (·.2))
  induction fs generalizing es with
  | nil =>
    cases es with
    | nil => exact .nil
    | cons e es =>
      obtain ⟨c, member, -⟩ := covered e.1 e.2 List.mem_cons_self
      cases member
  | cons f fs ih =>
    obtain ⟨above', tail'⟩ := List.pairwise_cons.mp sorted'
    cases es with
    | nil => exact .nil
    | cons e es =>
      obtain ⟨above, tail⟩ := List.pairwise_cons.mp sorted
      obtain ⟨c, member, related⟩ := covered e.1 e.2 List.mem_cons_self
      -- Behind the first entry of the second table stand larger numbers only.
      have behind {d : Nat × β} (below : f.1 < d.1) (inside : ∃ c, (d.1, c) ∈ f :: fs ∧ R d.2 c) :
          ∃ c, (d.1, c) ∈ fs ∧ R d.2 c := by
        obtain ⟨c, member, related⟩ := inside
        rcases List.mem_cons.mp member with same | later
        · have equal : d.1 = f.1 := congrArg Prod.fst same
          omega
        · exact ⟨c, later, related⟩
      rcases List.mem_cons.mp member with same | later
      · subst same
        refine .cons related (ih es tail tail' fun k b inside => ?_)
        exact behind (above (k, b) inside) (covered k b (List.mem_cons_of_mem e inside))
      · have below : f.1 < e.1 := above' (e.1, c) later
        refine .cons_right (ih (e :: es) sorted tail' fun k b inside => ?_)
        refine behind (d := (k, b)) ?_ (covered k b inside)
        rcases List.mem_cons.mp inside with same | further
        · exact same ▸ below
        · exact below.trans (above (k, b) further)

/-- Keeping something under a number changes a sum over the values by the difference there. -/
theorem sum_update (g : β → Nat) (t : Table β) (k : Nat) (f : Option β → β) :
    ((t.update k f).values.map g).sum + (t.get? k).elim 0 g =
      (t.values.map g).sum + g (f (t.get? k)) := by
  obtain ⟨es, sorted⟩ := t
  simp only [get?, update, values]
  induction es with
  | nil => simp [updateEntries]
  | cons head rest ih =>
    obtain ⟨j, b⟩ := head
    obtain ⟨above, tail⟩ := List.pairwise_cons.mp sorted
    have step := ih tail
    simp only [updateEntries, List.lookup_cons]
    by_cases same : k = j
    · simp [same]
      omega
    · have other : (k == j) = false := by simpa using same
      by_cases below : k < j
      · have missing : rest.lookup k = none := by
          rw [List.lookup_eq_none_iff]
          intro e member
          have less := above e member
          simp only [bne_iff_ne, ne_eq]
          omega
        simp [below, other, missing]
        omega
      · simp only [if_neg below, if_neg (Ne.symm same), other, List.map_cons, List.sum_cons]
        omega

/-- A number under which nothing was kept makes the table larger by one. -/
theorem size_insert_of_not_contains {t : Table β} {k : Nat} (b : β) (missing : t.contains k = false) :
    (t.insert k b).size = t.size + 1 := by
  have unkept : t.get? k = none := by simpa [contains] using missing
  have sizes (u : Table β) : (u.values.map fun _ => 1).sum = u.size := by
    rw [List.map_const', List.sum_replicate_nat, Nat.mul_one, values, List.length_map, size]
  have step := sum_update (fun _ => 1) t k fun _ => b
  rw [sizes, sizes, unkept] at step
  exact step

/-- The numbers kept in the tables of several owners, counted together. -/
theorem sum_size_eq_card {ι : Type} (xs : List ι) (key : ι → Nat) (table : ι → Table β)
    (distinct : (xs.map key).Nodup) {s : Finset (Nat × Nat)}
    (members : ∀ k l, (k, l) ∈ s ↔ ∃ x ∈ xs, key x = k ∧ (table x).contains l = true) :
    (xs.map fun x => (table x).size).sum = s.card := by
  let pairs := xs.flatMap fun x => (table x).keys.map fun l => (key x, l)
  have nodup : pairs.Nodup := by
    rw [List.nodup_flatMap]
    refine ⟨fun x _ => (table x).keys_nodup.map fun a b same => (Prod.mk.inj same).2, ?_⟩
    rw [List.Nodup, List.pairwise_map] at distinct
    refine distinct.imp fun {x y} different => ?_
    intro p inX inY
    obtain ⟨l, -, fromX⟩ := List.mem_map.mp inX
    obtain ⟨m, -, fromY⟩ := List.mem_map.mp inY
    exact different (congrArg Prod.fst (fromX.trans fromY.symm))
  have same : s = pairs.toFinset := by
    ext ⟨k, l⟩
    simp only [members, pairs, List.mem_toFinset, List.mem_flatMap, List.mem_map, mem_keys_iff,
      Prod.mk.injEq]
    constructor
    · rintro ⟨x, member, own, kept⟩
      exact ⟨x, member, l, kept, own, rfl⟩
    · rintro ⟨x, member, m, kept, own, rfl⟩
      exact ⟨x, member, own, kept⟩
  rw [same, List.toFinset_card_of_nodup nodup]
  simp [pairs, List.length_flatMap, size_eq_length_keys]

end MeshTrace.Table
