namespace MeshTrace.Text

variable {β : Type}

/-- What `f` finds at the first place of the text where it finds something. -/
def search (f : List Char → Option β) : List Char → Option β
  | [] => f []
  | c :: cs =>
    match f (c :: cs) with
    | some b => some b
    | none => search f cs

/-- Whether `part` stands somewhere in the text. -/
def occurs (part : List Char) (cs : List Char) : Bool :=
  (search (part.isPrefixOf? ·) cs).isSome

theorem search_eq_some_iff {f : List Char → Option β} {cs : List Char} {b : β} :
    search f cs = some b ↔
      ∃ front rest, cs = front ++ rest ∧ f rest = some b ∧
        ∀ before after, front = before ++ after → after ≠ [] → f (after ++ rest) = none := by
  induction cs with
  | nil =>
    constructor
    · intro found
      exact ⟨[], [], rfl, found, fun before after split some => by simp_all⟩
    · rintro ⟨front, rest, whole, found, -⟩
      obtain ⟨rfl, rfl⟩ := List.append_eq_nil_iff.mp whole.symm
      exact found
  | cons c cs ih =>
    simp only [search]
    constructor
    · intro found
      split at found
      · rename_i here
        cases Option.some.inj found
        exact ⟨[], c :: cs, rfl, here, fun before after split some => by simp_all⟩
      · rename_i missing
        obtain ⟨front, rest, whole, found, first⟩ := ih.mp found
        refine ⟨c :: front, rest, by rw [whole, List.cons_append], found, ?_⟩
        intro before after split nonempty
        cases before with
        | nil =>
          rw [List.nil_append] at split
          rw [← split, List.cons_append, ← whole]
          exact missing
        | cons d before =>
          rw [List.cons_append] at split
          exact first before after (List.cons.inj split).2 nonempty
    · rintro ⟨front, rest, whole, found, first⟩
      cases front with
      | nil =>
        rw [List.nil_append] at whole
        rw [whole, found]
      | cons d front =>
        rw [List.cons_append] at whole
        have missing := first [] (d :: front) rfl (by simp)
        rw [List.cons_append, ← whole] at missing
        rw [missing]
        refine ih.mpr ⟨front, rest, (List.cons.inj whole).2, found, ?_⟩
        intro before after split nonempty
        exact first (d :: before) after (by rw [split, List.cons_append]) nonempty

end MeshTrace.Text
