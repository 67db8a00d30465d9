import Mathlib.Data.List.Nodup
import Mathlib.Data.List.TakeWhile
import MeshTrace.Proofs.Text.Shape

namespace MeshTrace.Text.Shape

/-- The texts that a shape describes: one of the words in every place for words, and in every slot a text of accepted
characters. No slot has to be as long as possible. -/
inductive Describes : Shape → List (List Char) → List Char → Prop
  | done : Describes [] [] []
  | oneOf {shape : Shape} {slots : List (List Char)} {rest : List Char} {words : List String} {w : String}
      (member : w ∈ words) : Describes shape slots rest →
      Describes (.oneOf words false :: shape) slots (w.toList ++ rest)
  | run {shape : Shape} {slots : List (List Char)} {rest : List Char} {accepts : Char → Bool} {least : Nat}
      {slot : List Char} (accepted : ∀ c ∈ slot, accepts c = true) (long : least ≤ slot.length) :
      Describes shape slots rest →
      Describes (.run accepts least true :: shape) (slot :: slots) (slot ++ rest)

/-- No word that may follow starts with a character of the run before it. -/
def stopsRun (accepts : Char → Bool) : Shape → Bool
  | [] => true
  | .oneOf words false :: _ => words.all (·.toList.head?.any (!accepts ·))
  | _ => false

/-- Words are told apart by their first characters, and the end of a run by the first character after it. -/
def determined : Shape → Bool
  | [] => true
  | .oneOf words kept :: shape =>
    !kept && words.all (·.toList.head?.isSome) && decide (words.map (·.toList.head?)).Nodup && determined shape
  | .run accepts _ kept :: shape => kept && stopsRun accepts shape && determined shape

theorem describes_nil_iff {slots : List (List Char)} {cs : List Char} :
    Describes [] slots cs ↔ slots = [] ∧ cs = [] := by
  constructor
  · rintro ⟨⟩
    exact ⟨rfl, rfl⟩
  · rintro ⟨rfl, rfl⟩
    exact .done

theorem describes_oneOf_iff {words : List String} {shape : Shape} {slots : List (List Char)} {cs : List Char} :
    Describes (.oneOf words false :: shape) slots cs ↔
      ∃ w ∈ words, ∃ rest, cs = w.toList ++ rest ∧ Describes shape slots rest := by
  constructor
  · rintro ⟨⟩
    rename_i rest w member described
    exact ⟨w, member, rest, rfl, described⟩
  · rintro ⟨w, member, rest, rfl, described⟩
    exact .oneOf member described

theorem describes_run_iff {accepts : Char → Bool} {least : Nat} {shape : Shape} {slots : List (List Char)}
    {cs : List Char} :
    Describes (.run accepts least true :: shape) slots cs ↔
      ∃ slot more rest, slots = slot :: more ∧ cs = slot ++ rest ∧ (∀ c ∈ slot, accepts c = true) ∧
        least ≤ slot.length ∧ Describes shape more rest := by
  constructor
  · rintro ⟨⟩
    rename_i more rest slot accepted long described
    exact ⟨slot, more, rest, rfl, rfl, accepted, long, described⟩
  · rintro ⟨slot, more, rest, rfl, rfl, accepted, long, described⟩
    exact .run accepted long described

theorem read_cons_eq_some_iff {piece : Piece} {shape : Shape} {cs rest : List Char} {slots : List (List Char)} :
    read (piece :: shape) cs = some (slots, rest) ↔
      ∃ kept after more, piece.read cs = some (kept, after) ∧ shape.read after = some (more, rest) ∧
        slots = kept ++ more := by
  rw [read]
  cases piece.read cs with
  | none => simp
  | some found =>
    obtain ⟨kept, after⟩ := found
    simp only [Option.map_eq_some_iff, Prod.exists, Prod.mk.injEq, Option.some.injEq]
    constructor
    · rintro ⟨more, rest, later, rfl, rfl⟩
      exact ⟨kept, after, more, ⟨rfl, rfl⟩, later, rfl⟩
    · rintro ⟨kept, after, more, ⟨rfl, rfl⟩, later, rfl⟩
      exact ⟨more, rest, later, rfl, rfl⟩

theorem read_nil_eq_some_iff {cs rest : List Char} {slots : List (List Char)} :
    read [] cs = some (slots, rest) ↔ slots = [] ∧ cs = rest := by
  rw [read, Option.some.injEq, Prod.mk.injEq, eq_comm]

theorem read_text_eq_some_iff {w : String} {shape : Shape} {cs rest : List Char} {slots : List (List Char)} :
    read (.text w :: shape) cs = some (slots, rest) ↔
      ∃ after, cs = w.toList ++ after ∧ shape.read after = some (slots, rest) := by
  constructor
  · intro found
    obtain ⟨kept, after, more, first, later, rfl⟩ := read_cons_eq_some_iff.mp found
    obtain ⟨v, member, here⟩ := List.exists_of_findSome?_eq_some first
    obtain rfl := List.mem_singleton.mp member
    obtain ⟨tail, starts, same⟩ := Option.map_eq_some_iff.mp here
    obtain ⟨rfl, rfl⟩ := Prod.mk.inj same
    exact ⟨tail, (List.isPrefixOf?_eq_some_iff_append_eq.mp starts).symm, later⟩
  · rintro ⟨after, rfl, later⟩
    rw [read_text, later]

/-- A run of accepted characters, as long as there are any, and what follows it. -/
structure Leads (accepts : Char → Bool) (run rest : List Char) : Prop where
  nonempty : run ≠ []
  accepted : ∀ c ∈ run, accepts c = true
  stops : Stops accepts rest

theorem read_run_eq_some_iff {accepts : Char → Bool} {shape : Shape} {cs rest : List Char}
    {slots : List (List Char)} :
    read (.run accepts 1 true :: shape) cs = some (slots, rest) ↔
      ∃ run after more, cs = run ++ after ∧ Leads accepts run after ∧ shape.read after = some (more, rest) ∧
        slots = run :: more := by
  constructor
  · intro found
    obtain ⟨kept, after, more, first, later, rfl⟩ := read_cons_eq_some_iff.mp found
    simp only [Piece.read, Option.ite_none_left_eq_some, Option.some.injEq, Prod.mk.injEq] at first
    obtain ⟨long, rfl, rfl⟩ := first
    refine ⟨_, _, more, List.takeWhile_append_dropWhile.symm,
      ⟨List.ne_nil_of_length_pos (Nat.not_lt.mp long), fun c member => List.mem_takeWhile_imp member, ?_⟩, later, rfl⟩
    intro c head
    have stops := List.head?_dropWhile_not accepts cs
    rwa [head] at stops
  · rintro ⟨run, after, more, rfl, leads, later, rfl⟩
    rw [read_run true shape leads.accepted (List.length_pos_of_ne_nil leads.nonempty) leads.stops, later]
    rfl

/-- What was read is described, in front of what is left. -/
theorem describes_of_read {shape : Shape} (determined : shape.determined = true) {cs rest : List Char}
    {slots : List (List Char)} (found : shape.read cs = some (slots, rest)) :
    ∃ front, cs = front ++ rest ∧ Describes shape slots front := by
  induction shape generalizing cs slots with
  | nil =>
    obtain ⟨rfl, rfl⟩ := Prod.mk.inj (Option.some.inj found)
    exact ⟨[], rfl, .done⟩
  | cons piece shape ih =>
    obtain ⟨kept, after, more, first, later, rfl⟩ := read_cons_eq_some_iff.mp found
    cases piece with
    | oneOf words keeps =>
      simp only [Shape.determined, Bool.and_eq_true, Bool.not_eq_true'] at determined
      obtain ⟨⟨⟨rfl, -⟩, -⟩, determined⟩ := determined
      obtain ⟨front, rfl, described⟩ := ih determined later
      obtain ⟨w, member, here⟩ := List.exists_of_findSome?_eq_some first
      obtain ⟨tail, starts, same⟩ := Option.map_eq_some_iff.mp here
      obtain ⟨rfl, rfl⟩ := Prod.mk.inj same
      refine ⟨w.toList ++ front, ?_, .oneOf member described⟩
      rw [List.append_assoc, List.isPrefixOf?_eq_some_iff_append_eq.mp starts]
    | run accepts least keeps =>
      simp only [Shape.determined, Bool.and_eq_true] at determined
      obtain ⟨⟨rfl, -⟩, determined⟩ := determined
      obtain ⟨front, rfl, described⟩ := ih determined later
      simp only [Piece.read, Option.ite_none_left_eq_some, Option.some.injEq, Prod.mk.injEq] at first
      obtain ⟨long, rfl, same⟩ := first
      refine ⟨cs.takeWhile accepts ++ front, ?_,
        .run (fun c member => List.mem_takeWhile_imp member) (Nat.not_lt.mp long) described⟩
      rw [List.append_assoc, ← same, List.takeWhile_append_dropWhile]

/-- No other word fits where one of the words stands. -/
theorem read_oneOf_of_mem {words : List String} (nonempty : words.all (·.toList.head?.isSome) = true)
    (distinct : (words.map (·.toList.head?)).Nodup) {w : String} (member : w ∈ words) (rest : List Char) :
    (Piece.oneOf words false).read (w.toList ++ rest) = some ([], rest) := by
  have first {v : String} (among : v ∈ words) {after : List Char} (starts : w.toList ++ rest = v.toList ++ after) :
      v = w := by
    refine List.inj_on_of_nodup_map distinct among member ?_
    obtain ⟨c, start⟩ := Option.isSome_iff_exists.mp (List.all_eq_true.mp nonempty w member)
    obtain ⟨d, start'⟩ := Option.isSome_iff_exists.mp (List.all_eq_true.mp nonempty v among)
    have heads := congrArg List.head? starts
    rw [List.head?_append, List.head?_append, start, start'] at heads
    rw [start, start']
    exact heads.symm
  cases found : (Piece.oneOf words false).read (w.toList ++ rest) with
  | none =>
    have missing := List.findSome?_eq_none_iff.mp found w member
    rw [isPrefixOf?_append] at missing
    cases missing
  | some result =>
    obtain ⟨v, among, here⟩ := List.exists_of_findSome?_eq_some found
    obtain ⟨after, starts, rfl⟩ := Option.map_eq_some_iff.mp here
    have whole := List.isPrefixOf?_eq_some_iff_append_eq.mp starts
    obtain rfl := first among whole.symm
    rw [List.append_cancel_left whole]
    rfl

/-- What follows a run does not go on with it. -/
theorem stops_of_describes {accepts : Char → Bool} {shape : Shape} (stopped : shape.stopsRun accepts = true)
    {slots : List (List Char)} {cs : List Char} (described : Describes shape slots cs) : Stops accepts cs := by
  cases described with
  | done => exact stops_nil accepts
  | oneOf member described => exact stops_append (List.all_eq_true.mp stopped _ member) _
  | run accepted long described => cases stopped

/-- What is described can be read in no other way. -/
theorem read_of_describes {shape : Shape} (determined : shape.determined = true) {cs : List Char}
    {slots : List (List Char)} (described : Describes shape slots cs) : shape.read cs = some (slots, []) := by
  induction described with
  | done => rfl
  | @oneOf shape slots rest words w member described ih =>
    simp only [Shape.determined, Bool.and_eq_true, Bool.not_eq_true', decide_eq_true_eq] at determined
    obtain ⟨⟨⟨-, nonempty⟩, distinct⟩, determined⟩ := determined
    exact read_cons_eq_some_iff.mpr ⟨[], rest, slots, read_oneOf_of_mem nonempty distinct member rest, ih determined, rfl⟩
  | @run shape slots rest accepts least slot accepted long described ih =>
    simp only [Shape.determined, Bool.and_eq_true] at determined
    obtain ⟨⟨-, stopped⟩, determined⟩ := determined
    rw [read_run true shape accepted long (stops_of_describes stopped described), ih determined]
    rfl

/-- Reading a whole text finds the slots with which the shape describes it. -/
theorem readAll_eq_some_iff {shape : Shape} (determined : shape.determined = true) {cs : List Char}
    {slots : List (List Char)} : shape.readAll cs = some slots ↔ Describes shape slots cs := by
  constructor
  · intro found
    unfold readAll at found
    split at found
    · rename_i all
      obtain rfl := Option.some.inj found
      obtain ⟨front, rfl, described⟩ := describes_of_read determined all
      rwa [List.append_nil]
    · cases found
  · intro described
    rw [readAll, read_of_describes determined described]

end MeshTrace.Text.Shape
