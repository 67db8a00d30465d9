import Mathlib.Data.List.TakeWhile
import MeshTrace.Text.Blank

namespace MeshTrace.Text

/-- A text without blanks. -/
def Solid (cs : List Char) : Prop := ∀ c ∈ cs, isBlank c = false

/-- A text of blanks only. -/
def Blanks (cs : List Char) : Prop := ∀ c ∈ cs, isBlank c = true

/-- A text that neither starts nor ends with a blank. -/
structure Tight (cs : List Char) : Prop where
  head : ∀ c, cs.head? = some c → isBlank c = false
  last : ∀ c, cs.getLast? = some c → isBlank c = false

-- Decided along the list: the instances that are found with all of Mathlib go through every character there is.
instance (cs : List Char) : Decidable (Solid cs) := List.decidableBAll (isBlank · = false) cs

instance (cs : List Char) : Decidable (Blanks cs) := List.decidableBAll (isBlank · = true) cs

theorem isBlank_of_visible {c : Char} (low : 0x21 ≤ c.toNat) (high : c.toNat ≤ 0x7E) : isBlank c = false := by
  simp only [isBlank, Bool.or_eq_false_iff, Bool.and_eq_false_iff, decide_eq_false_iff_not]
  omega

theorem isBlank_of_isDigit {c : Char} (digit : c.isDigit = true) : isBlank c = false := by
  simp only [Char.isDigit, Bool.and_eq_true, decide_eq_true_eq] at digit
  have low : 0x30 ≤ c.toNat := digit.1
  have high : c.toNat ≤ 0x39 := digit.2
  exact isBlank_of_visible (by omega) (by omega)

theorem trimStart_append {front : List Char} (blank : Blanks front) (cs : List Char) :
    trimStart (front ++ cs) = trimStart cs :=
  List.dropWhile_append_of_pos blank

theorem trimStart_eq_self {cs : List Char} (head : ∀ c, cs.head? = some c → isBlank c = false) :
    trimStart cs = cs := by
  cases cs with
  | nil => rfl
  | cons c cs => exact List.dropWhile_cons_of_neg (by simp [head c rfl])

theorem trimEnd_append {back : List Char} (blank : Blanks back) (cs : List Char) :
    trimEnd (cs ++ back) = trimEnd cs := by
  rw [trimEnd, List.reverse_append, trimStart_append fun c member => blank c (List.mem_reverse.mp member)]
  rfl

theorem trim_append {back : List Char} (blank : Blanks back) (cs : List Char) :
    trim (cs ++ back) = trim cs := by
  unfold trim
  have start : trimStart (cs ++ back) = if (trimStart cs).isEmpty then trimStart back else trimStart cs ++ back :=
    List.dropWhile_append
  by_cases empty : (trimStart cs).isEmpty = true
  · have nothing : trimStart back = [] := by
      have none := trimStart_append blank []
      rwa [List.append_nil] at none
    rw [start, if_pos empty, nothing, List.isEmpty_iff.mp empty]
  · rw [start, if_neg empty, trimEnd_append blank]

theorem Tight.trim_eq {cs : List Char} (tight : Tight cs) : trim cs = cs := by
  have reversed : trimStart cs.reverse = cs.reverse :=
    trimStart_eq_self fun c last => tight.last c (by rwa [List.head?_reverse] at last)
  rw [trim, trimStart_eq_self tight.head, trimEnd, reversed, List.reverse_reverse]

/-- Only blanks around a tight text are trimmed. -/
theorem Tight.trim_append_append {front cs back : List Char} (tight : Tight cs)
    (before : Blanks front) (after : Blanks back) :
    trim (front ++ cs ++ back) = cs := by
  rw [trim_append after, trim, trimStart_append before]
  exact tight.trim_eq

/-- A carriage return at the end of a line is a blank. -/
theorem trim_dropReturn (line : List Char) : trim (dropReturn line) = trim line := by
  unfold dropReturn
  split
  · rename_i front reversed
    have whole : line = front.reverse ++ ['\r'] := by
      rw [← List.reverse_reverse line, reversed, List.reverse_cons]
    have blank : Blanks ['\r'] := by decide
    rw [whole, trim_append blank]
  · rfl

theorem splitAt_eq_splitOnP (cut : Char → Bool) (cs : List Char) : splitAt cut cs = cs.splitOnP cut := by
  induction cs with
  | nil => rfl
  | cons c cs ih =>
    obtain ⟨piece, pieces, split⟩ := List.exists_cons_of_ne_nil (List.splitOnP_ne_nil cut cs)
    unfold splitAt at ih ⊢
    rw [List.foldr_cons, ih, List.splitOnP_cons_eq_if_modifyHead, split]
    rfl

theorem splitAt_append {cut : Char → Bool} {c : Char} (cuts : cut c = true) (front back : List Char) :
    splitAt cut (front ++ c :: back) = splitAt cut front ++ splitAt cut back := by
  simp only [splitAt_eq_splitOnP, List.splitOnP_append_cons front back cuts]

theorem splitAt_eq_singleton {cut : Char → Bool} {cs : List Char} (whole : ∀ c ∈ cs, cut c = false) :
    splitAt cut cs = [cs] := by
  rw [splitAt_eq_splitOnP, List.splitOnP_eq_singleton whole]

end MeshTrace.Text
