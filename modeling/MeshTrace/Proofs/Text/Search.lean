import Mathlib.Data.List.Infix
import MeshTrace.Proofs.Text.Shape
import MeshTrace.Text.Search

namespace MeshTrace.Text

variable {β : Type}

theorem search_of_some {f : List Char → Option β} {cs : List Char} {b : β} (found : f cs = some b) :
    search f cs = some b := by
  cases cs with
  | nil => exact found
  | cons c cs => rw [search, found]

theorem search_append {f : List Char → Option β} (front rest : List Char)
    (missing : ∀ after, after <:+ front → after ≠ [] → f (after ++ rest) = none) :
    search f (front ++ rest) = search f rest := by
  induction front with
  | nil => rfl
  | cons c front ih =>
    have here := missing (c :: front) List.suffix_rfl (by simp)
    rw [List.cons_append] at here
    rw [List.cons_append, search, here]
    exact ih fun after suffix => missing after (suffix.trans (List.suffix_cons c front))

/-- Nothing is found if nothing is found at any place. -/
theorem search_eq_none_iff {f : List Char → Option β} {cs : List Char} :
    search f cs = none ↔ ∀ after, after <:+ cs → f after = none := by
  induction cs with
  | nil => simp [search]
  | cons c cs ih =>
    simp only [search, List.suffix_cons_iff]
    cases found : f (c :: cs) with
    | none => simp_all
    | some b =>
      simp only [reduceCtorEq, false_iff]
      intro none
      exact Option.some_ne_none b (found.symm.trans (none _ (Or.inl rfl)))

/-- A text occurs if it stands somewhere within the other. -/
theorem occurs_iff {part cs : List Char} : occurs part cs = true ↔ part <:+: cs := by
  constructor
  · intro found
    obtain ⟨rest, found⟩ := Option.isSome_iff_exists.mp found
    obtain ⟨front, back, whole, here, -⟩ := search_eq_some_iff.mp found
    rw [List.isPrefixOf?_eq_some_iff_append_eq] at here
    exact ⟨front, rest, by rw [whole, ← here, List.append_assoc]⟩
  · rintro ⟨front, back, rfl⟩
    by_contra missing
    have nowhere : search (part.isPrefixOf? ·) (front ++ part ++ back) = none := by
      simpa [occurs] using missing
    rw [List.append_assoc, search_eq_none_iff] at nowhere
    have here := nowhere (part ++ back) (List.suffix_append front _)
    simp [isPrefixOf?_append] at here

/-- Nothing is found by what looks for a text that does not occur. -/
theorem search_eq_none_of_occurs {f : List Char → Option β} {part cs : List Char}
    (starts : ∀ rest, f rest ≠ none → part <+: rest) (missing : occurs part cs = false) : search f cs = none := by
  rw [search_eq_none_iff]
  intro after suffix
  by_contra found
  have here : occurs part cs = true := occurs_iff.mpr ((starts after found).isInfix.trans suffix.isInfix)
  exact Bool.noConfusion (missing.symm.trans here)

/-- Whether a text does not start anywhere in front of itself. -/
def clear (part front : List Char) : Bool :=
  front.tails.all fun after => after.isEmpty || !part.isPrefixOf (after ++ part)

theorem not_prefix_of_clear {part front after : List Char} (free : clear part front = true)
    (suffix : after <:+ front) (nonempty : after ≠ []) (rest : List Char) :
    ¬part <+: after ++ (part ++ rest) := by
  intro starts
  have here := List.all_eq_true.mp free after ((List.mem_tails after front).mpr suffix)
  have early : part <+: after ++ part := by
    refine List.prefix_of_prefix_length_le starts ?_ (by simp)
    rw [← List.append_assoc]
    exact List.prefix_append _ rest
  simp [nonempty, List.isPrefixOf_iff_prefix.mpr early] at here

/-- A reader that starts with a text finds it behind whatever does not contain its start. -/
theorem search_append_of_clear {f : List Char → Option β} {part front : List Char}
    (starts : ∀ cs, f cs ≠ none → part <+: cs) (free : clear part front = true) (rest : List Char) :
    search f (front ++ (part ++ rest)) = search f (part ++ rest) := by
  refine search_append front _ fun after suffix nonempty => ?_
  by_contra found
  exact not_prefix_of_clear free suffix nonempty rest (starts _ found)

theorem Shape.prefix_of_read {w : String} {shape : Shape} {cs : List Char} {r : List (List Char) × List Char}
    (read : Shape.read (.text w :: shape) cs = some r) : w.toList <+: cs := by
  cases found : w.toList.isPrefixOf? cs with
  | none => simp [Shape.read, Piece.text, Piece.read, found] at read
  | some rest => exact ⟨rest, List.isPrefixOf?_eq_some_iff_append_eq.mp found⟩

/-- What starts with a text is found behind whatever does not contain its start. -/
theorem Shape.search_text (w : String) (shape : Shape) {f : List Char → Option β} {front rest : List Char} {b : β}
    (form : ∀ cs, Shape.read (.text w :: shape) cs = none → f cs = none) (free : clear w.toList front = true)
    (found : f (w.toList ++ rest) = some b) : search f (front ++ (w.toList ++ rest)) = some b := by
  rw [search_append_of_clear (fun cs some => ?_) free, search_of_some found]
  cases read : Shape.read (.text w :: shape) cs with
  | none => exact absurd (form cs read) some
  | some r => exact prefix_of_read read

/-- A choice of words is found behind whatever has none of the characters that they start with. -/
theorem Shape.search_oneOf (words : List String) (kept : Bool) (shape : Shape) {f : List Char → Option β}
    {front rest : List Char} {b : β}
    (form : ∀ cs, Shape.read (.oneOf words kept :: shape) cs = none → f cs = none)
    (free : words.all (·.toList.head?.any (!front.contains ·)) = true) (found : f rest = some b) :
    search f (front ++ rest) = some b := by
  rw [search_append front rest fun after suffix nonempty => form _ ?_, search_of_some found]
  have missing : (Piece.oneOf words kept).read (after ++ rest) = none := by
    refine List.findSome?_eq_none_iff.mpr fun w member => ?_
    obtain ⟨c, start, absent⟩ := (Option.any_eq_true ..).mp (List.all_eq_true.mp free w member)
    cases here : w.toList.isPrefixOf? (after ++ rest) with
    | none => rfl
    | some more =>
      have whole := List.isPrefixOf?_eq_some_iff_append_eq.mp here
      have first : after.head? = some c := by
        rw [← List.head?_append_of_ne_nil after nonempty, ← whole, List.head?_append, start, Option.some_or]
      have inFront : c ∈ front := suffix.subset (List.mem_of_head? first)
      simp [inFront] at absent
  rw [read, missing]

end MeshTrace.Text
