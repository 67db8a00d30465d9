namespace MeshTrace

/-- Values kept under numbers, listed in increasing order of the numbers. -/
structure Table (β : Type) where
  entries : List (Nat × β)
  sorted : entries.Pairwise (fun a b => a.1 < b.1)

namespace Table

variable {β γ : Type}

/-- The table without entries. -/
def empty : Table β := ⟨[], .nil⟩

instance : EmptyCollection (Table β) := ⟨empty⟩
instance : Inhabited (Table β) := ⟨empty⟩

/-- The value kept under `k`. -/
def get? (t : Table β) (k : Nat) : Option β := t.entries.lookup k

/-- Whether a value is kept under `k`. -/
def contains (t : Table β) (k : Nat) : Bool := (t.get? k).isSome

def keys (t : Table β) : List Nat := t.entries.map (·.1)

def values (t : Table β) : List β := t.entries.map (·.2)

def size (t : Table β) : Nat := t.entries.length

/-- Replaces what stands under `k` in a sorted list of entries, or adds it at its place. -/
def updateEntries (k : Nat) (f : Option β → β) : List (Nat × β) → List (Nat × β)
  | [] => [(k, f none)]
  | (j, b) :: rest =>
    if k < j then (k, f none) :: (j, b) :: rest
    else if j = k then (k, f (some b)) :: rest
    else (j, b) :: updateEntries k f rest

theorem mem_updateEntries_key {k : Nat} {f : Option β → β} {es : List (Nat × β)}
    {e : Nat × β} (member : e ∈ updateEntries k f es) : e.1 = k ∨ ∃ b, (e.1, b) ∈ es := by
  induction es with
  | nil =>
    simp only [updateEntries, List.mem_singleton] at member
    exact Or.inl (by rw [member])
  | cons head rest ih =>
    obtain ⟨j, b⟩ := head
    simp only [updateEntries] at member
    split at member
    · rcases List.mem_cons.mp member with new | old
      · exact Or.inl (by rw [new])
      · exact Or.inr ⟨e.2, old⟩
    · split at member
      · rcases List.mem_cons.mp member with new | old
        · exact Or.inl (by rw [new])
        · exact Or.inr ⟨e.2, List.mem_cons_of_mem _ old⟩
      · rcases List.mem_cons.mp member with same | later
        · exact Or.inr ⟨b, by rw [same]; exact List.mem_cons_self⟩
        · rcases ih later with new | ⟨c, old⟩
          · exact Or.inl new
          · exact Or.inr ⟨c, List.mem_cons_of_mem _ old⟩

/-- An update keeps the entries in the order of their keys. -/
theorem sorted_updateEntries {k : Nat} {f : Option β → β} {es : List (Nat × β)}
    (sorted : es.Pairwise (fun a b => a.1 < b.1)) :
    (updateEntries k f es).Pairwise (fun a b => a.1 < b.1) := by
  induction es with
  | nil => simp [updateEntries]
  | cons head rest ih =>
    obtain ⟨j, b⟩ := head
    obtain ⟨above, tail⟩ := List.pairwise_cons.mp sorted
    simp only [updateEntries]
    split
    · rename_i below
      refine List.pairwise_cons.mpr ⟨fun e member => ?_, sorted⟩
      rcases List.mem_cons.mp member with same | later
      · rw [same]; exact below
      · exact Nat.lt_trans below (above e later)
    · split
      · rename_i same
        exact List.pairwise_cons.mpr ⟨fun e member => same ▸ above e member, tail⟩
      · rename_i notBelow different
        refine List.pairwise_cons.mpr ⟨fun e member => ?_, ih tail⟩
        rcases mem_updateEntries_key member with new | ⟨c, old⟩
        · show j < e.1
          omega
        · exact above (e.1, c) old

/-- Keeps `f` of what stands under `k`, or `f none` if nothing does. -/
def update (t : Table β) (k : Nat) (f : Option β → β) : Table β :=
  ⟨updateEntries k f t.entries, sorted_updateEntries t.sorted⟩

/-- Keeps `b` under `k`, in place of what stood there. -/
def insert (t : Table β) (k : Nat) (b : β) : Table β := t.update k fun _ => b

/-- Applies `f` to every value. -/
def map (f : β → γ) (t : Table β) : Table γ where
  entries := t.entries.map fun e => (e.1, f e.2)
  sorted := by
    rw [List.pairwise_map]
    exact t.sorted

theorem get?_update_self (t : Table β) (k : Nat) (f : Option β → β) :
    (t.update k f).get? k = some (f (t.get? k)) := by
  obtain ⟨es, sorted⟩ := t
  simp only [get?, update]
  induction es with
  | nil => simp [updateEntries]
  | cons head rest ih =>
    obtain ⟨j, b⟩ := head
    obtain ⟨above, tail⟩ := List.pairwise_cons.mp sorted
    simp only [updateEntries]
    split
    · rename_i below
      have missing : rest.lookup k = none := by
        rw [List.lookup_eq_none_iff]
        intro e member
        have := above e member
        simp only [bne_iff_ne, ne_eq]
        simp only at this
        omega
      have other : (k == j) = false := by simp only [beq_eq_false_iff_ne, ne_eq]; omega
      simp [List.lookup_cons, other, missing]
    · split
      · rename_i same
        simp [same]
      · rename_i notBelow different
        have other : (k == j) = false := by
          simp only [beq_eq_false_iff_ne, ne_eq]; omega
        simpa [List.lookup_cons, other] using ih tail

theorem get?_update_other (t : Table β) {k l : Nat} (f : Option β → β) (different : l ≠ k) :
    (t.update k f).get? l = t.get? l := by
  obtain ⟨es, sorted⟩ := t
  simp only [get?, update]
  have other : (l == k) = false := by simpa using different
  induction es with
  | nil => simp [updateEntries, List.lookup_cons, other]
  | cons head rest ih =>
    obtain ⟨j, b⟩ := head
    simp only [updateEntries]
    split
    · simp [List.lookup_cons, other]
    · split
      · rename_i same
        simp [List.lookup_cons, other, same]
      · simp only [List.lookup_cons, ih (List.pairwise_cons.mp sorted).2]

end Table

end MeshTrace
