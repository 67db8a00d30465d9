import Mathlib.Data.List.Basic
import Mathlib.Data.List.Forall2
import MeshTrace.Proofs.Text.Blank
import MeshTrace.Text.Shape

namespace MeshTrace.Text

theorem isPrefixOf?_append (part rest : List Char) : part.isPrefixOf? (part ++ rest) = some rest :=
  List.isPrefixOf?_eq_some_iff_append_eq.mpr rfl

/-- A run ends where its text does, or at the first character that it does not accept. -/
def Stops (accepts : Char → Bool) (cs : List Char) : Prop := ∀ c, cs.head? = some c → accepts c = false

theorem stops_nil (accepts : Char → Bool) : Stops accepts [] := by
  rintro c ⟨⟩

/-- A run stops where a text begins that it does not accept. -/
theorem stops_append {accepts : Char → Bool} {front : List Char} (apart : front.head?.any (!accepts ·) = true)
    (rest : List Char) : Stops accepts (front ++ rest) := by
  cases front with
  | nil => cases apart
  | cons d front =>
    intro c first
    obtain rfl := Option.some.inj first
    simpa using apart

theorem takeWhile_append_of_stops {accepts : Char → Bool} {front rest : List Char}
    (accepted : ∀ c ∈ front, accepts c = true) (stops : Stops accepts rest) :
    (front ++ rest).takeWhile accepts = front := by
  rw [List.takeWhile_append_of_pos accepted]
  cases rest with
  | nil => simp
  | cons c rest => simp [stops c rfl]

theorem dropWhile_append_of_stops {accepts : Char → Bool} {front rest : List Char}
    (accepted : ∀ c ∈ front, accepts c = true) (stops : Stops accepts rest) :
    (front ++ rest).dropWhile accepts = rest := by
  rw [List.dropWhile_append_of_pos accepted]
  cases rest with
  | nil => simp
  | cons c rest => simp [stops c rfl]

namespace Shape

/-- Writes the shape with the given texts in the places that are kept; of several words that are
not kept the first is written. -/
def write : Shape → List (List Char) → List Char
  | [], _ => []
  | .oneOf words false :: shape, slots => (words.headD "").toList ++ write shape slots
  | .run _ _ false :: shape, slots => write shape slots
  | _ :: shape, [] => write shape []
  | _ :: shape, slot :: slots => slot ++ write shape slots

theorem read_oneOf (w : String) (words : List String) (shape : Shape) (rest : List Char) :
    read (.oneOf (w :: words) false :: shape) (w.toList ++ rest) = shape.read rest := by
  simp [read, Piece.read, isPrefixOf?_append]

theorem read_text (w : String) (shape : Shape) (rest : List Char) :
    read (.text w :: shape) (w.toList ++ rest) = shape.read rest := read_oneOf w [] shape rest

theorem read_run {accepts : Char → Bool} {least : Nat} (kept : Bool) (shape : Shape) {front rest : List Char}
    (accepted : ∀ c ∈ front, accepts c = true) (long : least ≤ front.length) (stops : Stops accepts rest) :
    read (.run accepts least kept :: shape) (front ++ rest) =
      (shape.read rest).map fun (more, rest) => ((if kept then [front] else []) ++ more, rest) := by
  simp [read, Piece.read, takeWhile_append_of_stops accepted stops, dropWhile_append_of_stops accepted stops,
    Nat.not_lt.mpr long]

/-- What the shape writes does not go on with a character of the run before it. -/
def separates (accepts : Char → Bool) : Shape → Bool
  | [] => true
  | .oneOf words false :: _ => (words.headD "").toList.head?.any (!accepts ·)
  | _ => false

/-- All that a shape writes it can tell apart again. -/
def separated : Shape → Bool
  | [] => true
  | .oneOf words kept :: shape => !words.isEmpty && !kept && separated shape
  | .run accepts _ kept :: shape => kept && separates accepts shape && separated shape

/-- Texts for the slots of a shape. -/
inductive Slots : Shape → List (List Char) → Prop
  | done : Slots [] []
  | oneOf {shape : Shape} {slots : List (List Char)} (words : List String) :
      Slots shape slots → Slots (.oneOf words false :: shape) slots
  | run {shape : Shape} {slots : List (List Char)} {accepts : Char → Bool} {least : Nat} {slot : List Char}
      (accepted : ∀ c ∈ slot, accepts c = true) (long : least ≤ slot.length) :
      Slots shape slots → Slots (.run accepts least true :: shape) (slot :: slots)

/-- The runs of a shape: what they accept and how long they are at least. -/
def runs : Shape → List ((Char → Bool) × Nat)
  | [] => []
  | .oneOf _ _ :: shape => runs shape
  | .run accepts least _ :: shape => (accepts, least) :: runs shape

/-- Texts that fit the runs of a shape fit its slots. -/
theorem slots_of_forall₂ {shape : Shape} (separate : shape.separated = true) {slots : List (List Char)}
    (fits : List.Forall₂ (fun run slot => (∀ c ∈ slot, run.1 c = true) ∧ run.2 ≤ slot.length) shape.runs slots) :
    Slots shape slots := by
  induction shape generalizing slots with
  | nil =>
    cases fits
    exact .done
  | cons piece shape ih =>
    cases piece with
    | oneOf words kept =>
      simp only [separated, Bool.and_eq_true, Bool.not_eq_true'] at separate
      obtain ⟨⟨-, rfl⟩, separate⟩ := separate
      exact .oneOf words (ih separate fits)
    | run accepts least kept =>
      simp only [separated, Bool.and_eq_true] at separate
      obtain ⟨⟨rfl, -⟩, separate⟩ := separate
      cases fits with
      | cons fit fits => exact .run fit.1 fit.2 (ih separate fits)

theorem write_nil (slots : List (List Char)) : write [] slots = [] := by
  rw [write]

theorem write_oneOf (words : List String) (shape : Shape) (slots : List (List Char)) :
    write (.oneOf words false :: shape) slots = (words.headD "").toList ++ shape.write slots := by
  rw [write]

theorem write_text (w : String) (shape : Shape) (slots : List (List Char)) :
    write (.text w :: shape) slots = w.toList ++ shape.write slots := write_oneOf [w] shape slots

theorem write_run (accepts : Char → Bool) (least : Nat) (shape : Shape) (slot : List Char)
    (slots : List (List Char)) :
    write (.run accepts least true :: shape) (slot :: slots) = slot ++ shape.write slots := by
  simp [write]

/-- What a shape writes does not go on with the run before it. -/
theorem stops_write {accepts : Char → Bool} {shape : Shape} (separate : shape.separates accepts = true)
    (slots : List (List Char)) : Stops accepts (shape.write slots) := by
  unfold separates at separate
  split at separate
  · intro c first
    cases first
  · rename_i words shape
    rw [write_oneOf]
    exact stops_append separate _
  · cases separate

/-- A shape reads what it writes. -/
theorem read_write {shape : Shape} (separate : shape.separated = true) {slots : List (List Char)}
    (fit : Slots shape slots) : shape.read (shape.write slots) = some (slots, []) := by
  induction fit with
  | done => rfl
  | oneOf words fit ih =>
    simp only [separated, Bool.and_eq_true] at separate
    cases words with
    | nil => cases separate.1.1
    | cons w words => rw [write_oneOf, List.headD_cons, read_oneOf, ih separate.2]
  | @run shape slots accepts least slot accepted long fit ih =>
    simp only [separated, Bool.and_eq_true, Bool.true_and] at separate
    rw [write_run, read_run true shape accepted long (stops_write separate.1 slots), ih separate.2]
    rfl

/-- What a shape writes it reads to the end. -/
theorem readAll_write {shape : Shape} (separate : shape.separated = true) {slots : List (List Char)}
    (fit : Slots shape slots) : shape.readAll (shape.write slots) = some slots := by
  rw [readAll, read_write separate fit]

/-- No word of the shape has this character. -/
def free (c : Char) : Shape → Bool
  | [] => true
  | .oneOf words _ :: shape => !(words.headD "").toList.contains c && free c shape
  | .run _ _ _ :: shape => free c shape

/-- The shape starts with a word that does not start with a blank. -/
def startsTight : Shape → Bool
  | .oneOf words _ :: _ => (words.headD "").toList.head?.any (!isBlank ·)
  | _ => false

/-- The shape ends with a word that does not end with a blank, or with a run that is not empty. -/
def endsTight : Shape → Bool
  | [] => false
  | [.oneOf words _] => (words.headD "").toList.getLast?.any (!isBlank ·)
  | [.run _ least _] => 0 < least
  | _ :: piece :: shape => endsTight (piece :: shape)

theorem not_mem_write {c : Char} {shape : Shape} (missing : shape.free c = true) {slots : List (List Char)}
    (fit : Slots shape slots) (other : ∀ slot ∈ slots, c ∉ slot) : c ∉ shape.write slots := by
  induction fit with
  | done => exact List.not_mem_nil
  | oneOf words fit ih =>
    simp only [free, Bool.and_eq_true] at missing
    rw [write_oneOf, List.mem_append]
    rintro (here | later)
    · exact absurd (List.contains_iff_mem.mpr here) (by simpa using missing.1)
    · exact ih missing.2 other later
  | @run shape slots accepts least slot accepted long fit ih =>
    rw [write_run, List.mem_append]
    rintro (here | later)
    · exact other slot List.mem_cons_self here
    · exact ih missing (fun s member => other s (List.mem_cons_of_mem slot member)) later

theorem head?_write {shape : Shape} (start : shape.startsTight = true) {slots : List (List Char)}
    (fit : Slots shape slots) : (shape.write slots).head?.any (!isBlank ·) = true := by
  cases fit with
  | done => cases start
  | oneOf words fit =>
    rw [write_oneOf]
    simp only [startsTight] at start
    cases word : (words.headD "").toList with
    | nil =>
      rw [word] at start
      cases start
    | cons c rest =>
      rw [word] at start
      exact start
  | run accepted long fit => cases start

theorem getLast?_append_any {front back : List Char} {p : Char → Bool} (solid : back.getLast?.any p = true) :
    (front ++ back).getLast?.any p = true := by
  obtain ⟨c, last, holds⟩ := (Option.any_eq_true ..).mp solid
  rw [List.getLast?_append, last]
  exact holds

theorem getLast?_write {shape : Shape} (finish : shape.endsTight = true) {slots : List (List Char)}
    (fit : Slots shape slots) (solid : ∀ slot ∈ slots, Solid slot) :
    (shape.write slots).getLast?.any (!isBlank ·) = true := by
  induction fit with
  | done => cases finish
  | @oneOf shape slots words fit ih =>
    rw [write_oneOf]
    cases fit with
    | done => simpa [endsTight, write] using finish
    | oneOf others fit => exact getLast?_append_any (ih finish solid)
    | run accepted long fit => exact getLast?_append_any (ih finish solid)
  | @run shape slots accepts least slot accepted long fit ih =>
    rw [write_run]
    have later : ∀ s ∈ slots, Solid s :=
      fun s member => solid s (List.mem_cons_of_mem slot member)
    cases fit with
    | done =>
      have nonempty : slot ≠ [] := by
        rintro rfl
        simp_all [endsTight]
      obtain ⟨front, last, rfl⟩ := List.eq_nil_or_concat slot |>.resolve_left nonempty
      have clean := solid _ List.mem_cons_self last (by simp)
      simp [write, clean]
    | oneOf others fit => exact getLast?_append_any (ih finish later)
    | run accepted long fit => exact getLast?_append_any (ih finish later)

end Shape

end MeshTrace.Text
