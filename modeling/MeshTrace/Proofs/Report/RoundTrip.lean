import MeshTrace.Proofs.Number.Figure
import MeshTrace.Proofs.Report.Content
import MeshTrace.Report.Writing

namespace MeshTrace

open Text

/-- The counters of a run are in the range of counters. -/
structure RunScalars.Counted (s : RunScalars Float) : Prop where
  dropped : s.linkQueueDropped < 0x10000000000000000
  sent : s.totalSent < 0x10000000000000000
  received : s.totalReceived < 0x10000000000000000

namespace Report

theorem figure_solid (x : Float) : Solid (figure x) :=
  fun _ member => Number.isBlank_of_mem_fixedText (by decide) member

theorem counter_solid (n : Nat) : Solid (counter n) :=
  fun _ member => isBlank_of_isDigit (Number.isDigit_of_mem_toDigits member)

theorem figure_fits (x : Float) : (∀ c ∈ figure x, (!isBlank c) = true) ∧ 1 ≤ (figure x).length := by
  refine ⟨fun c member => ?_, List.length_pos_of_ne_nil (Number.fixedText_ne_nil (by decide) x)⟩
  rw [figure_solid x c member]
  rfl

theorem counter_fits (n : Nat) : (∀ c ∈ counter n, isDecimal c = true) ∧ 1 ≤ (counter n).length :=
  ⟨fun _ member => isDecimal_of_isDigit (Number.isDigit_of_mem_toDigits member), Nat.length_toDigits_pos⟩

theorem link_slots (a b c : Float) (n : Nat) : Shape.Slots linkShape [figure a, counter n, figure b, figure c] :=
  Shape.slots_of_forall₂ (by decide)
    (.cons (figure_fits a) (.cons (counter_fits n) (.cons (figure_fits b) (.cons (figure_fits c) .nil))))

theorem totals_slots (m n : Nat) : Shape.Slots totalsShape [counter m, counter n] :=
  Shape.slots_of_forall₂ (by decide) (.cons (counter_fits m) (.cons (counter_fits n) .nil))

theorem joining_slots (a b c : Float) : Shape.Slots joiningShape [figure a, figure b, figure c] :=
  Shape.slots_of_forall₂ (by decide) (.cons (figure_fits a) (.cons (figure_fits b) (.cons (figure_fits c) .nil)))

theorem delay_slots (a b c d : Float) : Shape.Slots delayShape [figure a, figure b, figure c, figure d] :=
  Shape.slots_of_forall₂ (by decide)
    (.cons (figure_fits a) (.cons (figure_fits b) (.cons (figure_fits c) (.cons (figure_fits d) .nil))))

theorem fairness_slots (a b c d : Float) :
    Shape.Slots fairnessShape [figure a, figure b, figure c, figure d] :=
  Shape.slots_of_forall₂ (by decide)
    (.cons (figure_fits a) (.cons (figure_fits b) (.cons (figure_fits c) (.cons (figure_fits d) .nil))))

/-- A shape that starts with a mean and its spread writes them as a report does. -/
theorem write_pair (p : MeanSpread Float) (shape : Shape) (slots : List (List Char)) :
    Shape.write (pairShape ++ shape) (figure p.mean :: figure p.spread :: slots) =
      meanText p ++ shape.write slots := by
  have label : " std= ".toList = " ".toList ++ ("std=".toList ++ " ".toList) := by decide
  delta meanText
  simp only [pairShape, Piece.word, label, List.cons_append, List.nil_append, List.append_assoc, Shape.write_text,
    Shape.write_oneOf, Shape.write_run, List.headD_cons]

theorem write_pair_end (p : MeanSpread Float) :
    Shape.write pairShape [figure p.mean, figure p.spread] = meanText p := by
  have written := write_pair p [] []
  rwa [List.append_nil, Shape.write_nil, List.append_nil] at written

/-- The lines of a report are texts of the shapes that they are read by. -/
theorem runLines_eq (s : RunScalars Float) : runLines s =
    [linkShape.write [figure s.linkPar, counter s.linkQueueDropped, figure s.pdr.mean, figure s.pdr.spread],
      totalsShape.write [counter s.totalSent, counter s.totalReceived],
      joiningShape.write [figure s.parentSwitches.mean, figure s.parentSwitches.spread, figure s.meanTimeJoined],
      delayShape.write [figure s.delay.mean, figure s.delay.spread, figure s.jitter.mean, figure s.jitter.spread],
      fairnessShape.write [figure s.fairness.pdr, figure s.fairness.parentSwitches, figure s.fairness.delay,
        figure s.fairness.jitter]] := by
  simp only [runLines, linkShape, totalsShape, joiningShape, delayShape, fairnessShape, Piece.word,
    Piece.digits, List.cons_append, List.nil_append, List.append_assoc, Shape.write_text, Shape.write_nil,
    Shape.write_run, write_pair, write_pair_end, List.append_nil]

/-- Every line of a report is kept as it was written. -/
theorem plain_of_mem_runLines {s : RunScalars Float} {line : List Char} (member : line ∈ runLines s) :
    Plain line := by
  simp only [runLines_eq, List.mem_cons, List.not_mem_nil, or_false] at member
  rcases member with rfl | rfl | rfl | rfl | rfl
  · refine .write (by decide) (by decide) (by decide) (link_slots ..) ?_
    simp [figure_solid, counter_solid]
  · refine .write (by decide) (by decide) (by decide) (totals_slots ..) ?_
    simp [counter_solid]
  · refine .write (by decide) (by decide) (by decide) (joining_slots ..) ?_
    simp [figure_solid]
  · refine .write (by decide) (by decide) (by decide) (delay_slots ..) ?_
    simp [figure_solid]
  · refine .write (by decide) (by decide) (by decide) (fairness_slots ..) ?_
    simp [figure_solid]

/-- The texts in the slots of a written line are found. -/
theorem slots_write {number : Nat} {shape : Shape} (separate : shape.separated = true) {texts : List (List Char)}
    (fit : Shape.Slots shape texts) : slots number shape (shape.write texts) = .ok texts := by
  rw [slots, Shape.readAll_write separate fit]

theorem counterIn_counter {field : String} {n : Nat} (small : n < 0x10000000000000000) :
    counterIn field (counter n) = .ok n := by
  have read : Number.counter? (counter n) = some n := Number.below?_toDigits small
  rw [counterIn, read]

/-- What a figure of a report reads as. -/
def figureValue (x : Float) : Float :=
  (Number.float? (figure x)).get (Number.float?_fixedText_isSome (by decide) x)

/-- Every figure can be read. -/
theorem float?_figure (x : Float) : Number.float? (figure x) = some (figureValue x) := (Option.some_get _).symm

theorem float_figure {field : String} {x : Float} : float field (figure x) = .ok (figureValue x) := by
  rw [float, float?_figure]

/-- What the figures of a run read as when they have been written. -/
def reread (s : RunScalars Float) : RunScalars Float where
  linkPar := figureValue s.linkPar
  linkQueueDropped := s.linkQueueDropped
  pdr := ⟨figureValue s.pdr.mean, figureValue s.pdr.spread⟩
  totalSent := s.totalSent
  totalReceived := s.totalReceived
  parentSwitches := ⟨figureValue s.parentSwitches.mean, figureValue s.parentSwitches.spread⟩
  meanTimeJoined := figureValue s.meanTimeJoined
  delay := ⟨figureValue s.delay.mean, figureValue s.delay.spread⟩
  jitter := ⟨figureValue s.jitter.mean, figureValue s.jitter.spread⟩
  fairness :=
    { pdr := figureValue s.fairness.pdr
      parentSwitches := figureValue s.fairness.parentSwitches
      delay := figureValue s.fairness.delay
      jitter := figureValue s.fairness.jitter }

section

variable (a b c d : Float)

theorem readLink_write {n : Nat} (small : n < 0x10000000000000000) :
    readLink (linkShape.write [figure a, counter n, figure b, figure c]) =
      .ok (figureValue a, n, ⟨figureValue b, figureValue c⟩) := by
  simp only [readLink, slots_write (by decide) (link_slots a b c n), float_figure, counterIn_counter small, bind,
    Except.bind, pure, Except.pure]

theorem readTotals_write {m n : Nat} (sent : m < 0x10000000000000000) (received : n < 0x10000000000000000) :
    readTotals (totalsShape.write [counter m, counter n]) = .ok (m, n) := by
  simp only [readTotals, slots_write (by decide) (totals_slots m n), counterIn_counter sent,
    counterIn_counter received, bind, Except.bind, pure, Except.pure]

theorem readJoining_write :
    readJoining (joiningShape.write [figure a, figure b, figure c]) =
      .ok (⟨figureValue a, figureValue b⟩, figureValue c) := by
  simp only [readJoining, slots_write (by decide) (joining_slots a b c), float_figure, bind, Except.bind, pure,
    Except.pure]

theorem readDelay_write :
    readDelay (delayShape.write [figure a, figure b, figure c, figure d]) =
      .ok (⟨figureValue a, figureValue b⟩, ⟨figureValue c, figureValue d⟩) := by
  simp only [readDelay, slots_write (by decide) (delay_slots a b c d), float_figure, bind, Except.bind, pure,
    Except.pure]

/-- The line about fairness is not taken for the older one. -/
theorem readFairness_write :
    readFairness (fairnessShape.write [figure a, figure b, figure c, figure d]) =
      .ok ⟨figureValue a, figureValue b, figureValue c, figureValue d⟩ := by
  have newer : olderFairnessShape.readAll (fairnessShape.write [figure a, figure b, figure c, figure d]) = none :=
    rfl
  simp only [readFairness, newer, slots_write (by decide) (fairness_slots a b c d), float_figure, bind, Except.bind,
    pure, Except.pure]

end

section

variable {s : RunScalars Float} (dropped : s.linkQueueDropped < 0x10000000000000000)
  (sent : s.totalSent < 0x10000000000000000) (received : s.totalReceived < 0x10000000000000000)

include dropped sent received

/-- A report is read from the end of a text, whatever stands before it. -/
theorem readRun_of_contentLines {text : List Char} (front : List (List Char))
    (content : contentLines text = front ++ runLines s) : readRun text = .ok (reread s) := by
  have size : (front ++ runLines s).length - 5 = front.length := by
    rw [List.length_append]
    exact Nat.add_sub_cancel front.length 5
  simp only [readRun, content, size, List.drop_left]
  simp only [runLines_eq, readLink_write _ _ _ dropped, readTotals_write sent received, readJoining_write,
    readDelay_write, readFairness_write, bind, Except.bind, pure, Except.pure]
  rfl

end

/-- The content of a report are its five lines. -/
theorem contentLines_runText (s : RunScalars Float) : contentLines (runText s) = runLines s :=
  contentLines_joinLines fun _ member => plain_of_mem_runLines member

theorem readRun_runText {s : RunScalars Float} (counted : s.Counted) : readRun (runText s) = .ok (reread s) :=
  readRun_of_contentLines counted.dropped counted.sent counted.received [] (contentLines_runText s)

/-- A report is read back from a file, where a line feed follows. -/
theorem readRun_runText_lineFeed {s : RunScalars Float} (counted : s.Counted) :
    readRun (runText s ++ ['\n']) = .ok (reread s) := by
  refine readRun_of_contentLines counted.dropped counted.sent counted.received [] ?_
  rw [contentLines_append, contentLines_runText]
  exact List.append_nil _

/-- What is written about a run can be read back from the end of any text. -/
theorem readRun_append_runText (s : RunScalars Float) (dropped : s.linkQueueDropped < 0x10000000000000000)
    (sent : s.totalSent < 0x10000000000000000) (received : s.totalReceived < 0x10000000000000000) :
    (contentLines (runText s)).length = 5 ∧ (∀ x, Number.float? (figure x) = some (figureValue x)) ∧
      ∀ front, readRun (front ++ '\n' :: (runText s ++ ['\n'])) = .ok (reread s) := by
  refine ⟨?_, float?_figure, fun front => ?_⟩
  · rw [contentLines_runText]
    rfl
  · refine readRun_of_contentLines dropped sent received (contentLines front) ?_
    rw [contentLines_append, contentLines_append, contentLines_runText]
    exact congrArg _ (List.append_nil _)

/-- Figures that are no numbers, and counters at their limits. -/
def extremes : RunScalars Float :=
  ⟨0.0 / 0.0, counterMax, ⟨1.0 / 0.0, -1.0 / 0.0⟩, counterMax, 0, ⟨-0.0, 1e300⟩, 0.0005, ⟨1.0, 2.0⟩, ⟨3.0, 4.0⟩,
    ⟨0.25, 0.5, 0.75, 1.0⟩⟩

/-- A report with extreme figures behind a log and an older last line. -/
theorem readRun_append_runText_extremes :
    readRun ("reading the trace\n\nJain's Justice Index = 0.5".toList ++ '\n' :: (runText extremes ++ ['\n'])) =
      .ok (reread extremes) :=
  (readRun_append_runText extremes (by decide) (by decide) (by decide)).2.2 _

end Report

end MeshTrace
