import MeshTrace.Proofs.Text.Shape

namespace MeshTrace.Text

/-- A text between its first word and an end that is not blank is tight. -/
theorem tight_append {front back : List Char} (solid : Solid front) (nonempty : front ≠ [])
    (ends : back.getLast?.any (!isBlank ·) = true) : Tight (front ++ back) := by
  constructor
  · intro c first
    rw [List.head?_append_of_ne_nil front nonempty] at first
    exact solid c (List.mem_of_head? first)
  · intro c last
    have whole : (front ++ back).getLast?.any (!isBlank ·) = true := Shape.getLast?_append_any ends
    simpa [last] using whole

theorem nextWord?_append {word gap rest : List Char} (solid : Solid word) (nonempty : word ≠ [])
    (blank : Blanks gap) (apart : gap ≠ [])
    (start : ∀ c, rest.head? = some c → isBlank c = false) :
    nextWord? (word ++ (gap ++ rest)) = some (word, rest) := by
  have accepted : ∀ c ∈ word, (!isBlank c) = true := by
    intro c member
    rw [solid c member]
    rfl
  have stops : Stops (!isBlank ·) (gap ++ rest) := by
    intro c first
    rw [List.head?_append_of_ne_nil gap apart] at first
    simp [blank c (List.mem_of_head? first)]
  have whole : trimStart (word ++ (gap ++ rest)) = word ++ (gap ++ rest) := by
    refine trimStart_eq_self fun c first => ?_
    rw [List.head?_append_of_ne_nil word nonempty] at first
    exact solid c (List.mem_of_head? first)
  unfold nextWord?
  rw [whole]
  split
  · rename_i empty
    exact absurd (List.append_eq_nil_iff.mp empty).1 nonempty
  · rw [takeWhile_append_of_stops accepted stops, dropWhile_append_of_stops accepted stops, trimStart_append blank,
      trimStart_eq_self start]

end MeshTrace.Text
