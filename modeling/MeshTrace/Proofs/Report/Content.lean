import MeshTrace.Proofs.Text.Shape
import MeshTrace.Report.Reading

namespace MeshTrace.Report

open Text

/-- How lines end does not matter for what they say. -/
theorem contentLines_eq (text : List Char) :
    contentLines text = ((splitAt (· == '\n') text).map trim).filter (!·.isEmpty) := by
  unfold contentLines lines
  rcases List.eq_nil_or_concat (splitAt (· == '\n') text) with none | ⟨pieces, last, split⟩
  · rw [none]
    rfl
  · rw [split, List.concat_eq_append]
    have trimmed : pieces.map (trim ∘ dropReturn) = pieces.map trim :=
      List.map_congr_left fun piece _ => trim_dropReturn piece
    simp only [List.getLast?_append, List.getLast?_singleton, Option.some_or, List.dropLast_concat,
      List.map_append, List.map_map, trimmed, List.filter_append]
    cases last with
    | nil => rfl
    | cons c rest => rfl

/-- The content of two texts with a line feed between them is that of both. -/
theorem contentLines_append (front back : List Char) :
    contentLines (front ++ '\n' :: back) = contentLines front ++ contentLines back := by
  rw [contentLines_eq, splitAt_append (by decide), List.map_append, List.filter_append, ← contentLines_eq,
    ← contentLines_eq]

/-- A line that is kept as it is when a report is read. -/
structure Plain (line : List Char) : Prop where
  nonempty : line ≠ []
  tight : Tight line
  unbroken : '\n' ∉ line

theorem Plain.contentLines_eq {line : List Char} (plain : Plain line) : contentLines line = [line] := by
  have whole : splitAt (· == '\n') line = [line] :=
    splitAt_eq_singleton fun c member => beq_false_of_ne fun same => plain.unbroken (same ▸ member)
  rw [Report.contentLines_eq, whole, List.map_singleton, plain.tight.trim_eq]
  exact List.filter_cons_of_pos (by simp [plain.nonempty])

/-- A shape of one line, with slots that are not blank, is written as such a line. -/
theorem Plain.write {shape : Shape} (start : shape.startsTight = true) (finish : shape.endsTight = true)
    (unbroken : shape.free '\n' = true) {slots : List (List Char)} (fit : Shape.Slots shape slots)
    (solid : ∀ slot ∈ slots, Solid slot) : Plain (shape.write slots) := by
  obtain ⟨d, first, headSolid⟩ := (Option.any_eq_true ..).mp (Shape.head?_write start fit)
  obtain ⟨e, last, lastSolid⟩ := (Option.any_eq_true ..).mp (Shape.getLast?_write finish fit solid)
  refine ⟨?_, ⟨?_, ?_⟩, Shape.not_mem_write unbroken fit fun slot member broken => ?_⟩
  · intro empty
    rw [empty] at first
    cases first
  · intro c head
    obtain rfl := Option.some.inj (first.symm.trans head)
    simpa using headSolid
  · intro c tail
    obtain rfl := Option.some.inj (last.symm.trans tail)
    simpa using lastSolid
  · exact absurd (solid slot member _ broken) (by decide)

/-- Plain lines are the content of the text that they make. -/
theorem contentLines_joinLines {lines : List (List Char)} (plain : ∀ line ∈ lines, Plain line) :
    contentLines (joinLines lines) = lines := by
  induction lines with
  | nil => rfl
  | cons line rest ih =>
    have first := (plain line List.mem_cons_self).contentLines_eq
    have others := ih fun l member => plain l (List.mem_cons_of_mem line member)
    cases rest with
    | nil => exact first
    | cons next rest =>
      have joined : joinLines (line :: next :: rest) = line ++ '\n' :: joinLines (next :: rest) := by
        simp [joinLines]
      rw [joined, contentLines_append, first, others, List.singleton_append]

end MeshTrace.Report
