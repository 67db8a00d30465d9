import MeshTrace.Proofs.Classifier.Columns
import MeshTrace.Proofs.Run.Packets

namespace MeshTrace

variable {α : Type}

/-- The same summary of a trace of which more lines were read, some of them malformed. -/
def RunSummary.addLines (run : RunSummary α) (lines malformed : Nat) : RunSummary α :=
  { run with
    diagnostics :=
      { run.diagnostics with
        linesRead := run.diagnostics.linesRead + lines
        malformedLines := run.diagnostics.malformedLines + malformed } }

@[simp] theorem RunSummary.endTime_addLines (run : RunSummary α) (lines malformed : Nat) :
    (run.addLines lines malformed).endTime = run.endTime := rfl

/-- A message is of no family if it has none of the markers. -/
theorem Family.ofMessage?_eq_none_iff {message : List Char} :
    ofMessage? message = none ↔ ∀ entry ∈ markers, Text.occurs entry.1.toList message = false := by
  simp only [ofMessage?, Option.map_eq_none_iff, List.find?_eq_none, Bool.not_eq_true]

namespace Analysis

/-- Two traces that go on alike, though more lines have been read of the second, and more of them were
malformed. -/
structure Ahead (lines malformed : Nat) (a b : Analysis α) : Prop where
  classifier : b.classifier.carried = a.classifier.carried
  tracker : b.tracker = a.tracker
  linesRead : b.linesRead = a.linesRead + lines
  malformedLines : b.malformedLines = a.malformedLines + malformed

namespace Ahead

variable {lines malformed : Nat} {a b : Analysis α} (ahead : Ahead lines malformed a b)

include ahead

theorem classify_eq (line : List Char) : b.classifier.classify line = a.classifier.classify line := by
  rw [← Classifier.classify_carried b.classifier, ahead.classifier, Classifier.classify_carried]

variable [Scalar α]

theorem readLine (line : List Char) : Ahead lines malformed (a.readLine line) (b.readLine line) := by
  have same := ahead.classify_eq line
  have read := ahead.linesRead
  have defects := ahead.malformedLines
  refine ⟨?_, ?_, ?_, ?_⟩
  · simp only [Analysis.readLine, same]
  · simp only [Analysis.readLine, same, ahead.tracker]
  · simp only [Analysis.readLine]
    omega
  · simp only [Analysis.readLine, same]
    split <;> omega

theorem foldl (rest : List (List Char)) :
    Ahead lines malformed (rest.foldl Analysis.readLine a) (rest.foldl Analysis.readLine b) := by
  induction rest generalizing a b with
  | nil => exact ahead
  | cons line rest ih => exact ih (ahead.readLine line)

/-- The lines that one trace is ahead change nothing in its summary but the count of lines. -/
theorem ofTrace (s : Settings α) :
    RunSummary.ofTrace b.trace s = (RunSummary.ofTrace a.trace s).addLines lines malformed := by
  have lastTime : b.classifier.lastTime = a.classifier.lastTime := congrArg (·.lastTime) ahead.classifier
  have trace : b.trace =
      { a.trace with
        diagnostics :=
          { a.trace.diagnostics with
            linesRead := a.linesRead + lines
            malformedLines := a.malformedLines + malformed } } := by
    simp only [Analysis.trace, ahead.tracker, lastTime, ahead.linesRead, ahead.malformedLines]
  rw [trace]
  simp only [RunSummary.ofTrace, RunSummary.addLines, RunSummary.foldl_warnings]
  rfl

end Ahead

variable [Scalar α]

theorem classifier_foldl (a : Analysis α) (lines : List (List Char)) :
    (lines.foldl readLine a).classifier = a.classifier.after lines := by
  induction lines generalizing a with
  | nil => rfl
  | cons line lines ih => exact ih (a.readLine line)

theorem classifier_foldl_start (framing : Framing) (mapping : LpmMapping) (lines : List (List Char)) :
    (lines.foldl readLine (.start framing mapping) : Analysis α).classifier =
      (Classifier.start framing mapping).after lines :=
  classifier_foldl _ lines

theorem framing_foldl_start (framing : Framing) (mapping : LpmMapping) (lines : List (List Char)) :
    (lines.foldl readLine (.start framing mapping) : Analysis α).classifier.framing = framing := by
  rw [classifier_foldl_start, Classifier.framing_after]
  rfl

/-- The origin is the time of the first line that has one. -/
theorem origin_foldl_start (framing : Framing) (mapping : LpmMapping) (lines : List (List Char)) :
    (lines.foldl readLine (.start framing mapping) : Analysis α).classifier.origin =
      lines.findSome? fun line => framing.seconds? (Text.trim line) := by
  rw [classifier_foldl_start, Classifier.origin_after]
  exact Option.none_or

variable {a : Analysis α} {line : List Char}

/-- A malformed line makes its node known, and changes nothing else that is tracked. -/
theorem readLine_of_error {defect : Malformed} (rejected : (a.classifier.classify line).2 = .error defect) :
    ∃ columns, (a.classifier.carried.columns (Text.trim line)).2 = some columns ∧
      a.readLine line =
        { classifier := (a.classifier.carried.columns (Text.trim line)).1.framed columns
          tracker := a.tracker.observe columns.node
          linesRead := a.linesRead + 1
          malformedLines := a.malformedLines + 1 } := by
  obtain ⟨columns, read, next⟩ := Classifier.classify_of_error rejected
  refine ⟨columns, read, ?_⟩
  simp only [readLine, rejected, next, Classifier.framed]

/-- A line with columns and no marker makes its node known, and nothing else. -/
theorem readLine_of_unmarked {columns : Columns}
    (framed : (a.classifier.carried.columns (Text.trim line)).2 = some columns)
    (unmarked : Family.ofMessage? columns.message = none) :
    a.readLine line =
      { classifier := (a.classifier.carried.columns (Text.trim line)).1.framed columns
        tracker := a.tracker.observe columns.node
        linesRead := a.linesRead + 1
        malformedLines := a.malformedLines } := by
  simp only [readLine, Classifier.classify_of_unmarked framed unmarked, Classifier.framed]

/-- A line without columns that does not end the simulation changes the origin at most. -/
theorem readLine_of_unframed (unframed : (a.classifier.carried.columns (Text.trim line)).2 = none)
    (silent : Classifier.simulationEnd? (Text.trim line) = none) :
    a.readLine line =
      { a with
        classifier := (a.classifier.carried.columns (Text.trim line)).1
        linesRead := a.linesRead + 1 } := by
  have node : (a.classifier.carried.columns (Text.trim line)).1.node = none := by
    rw [Classifier.fst_columns]
    rfl
  simp only [readLine, Classifier.classify_of_unframed unframed, silent, node]

/-- Behind a malformed line a trace goes on as behind a line with the same time and node and no marker. -/
theorem ahead_of_error {other : List Char} {defect : Malformed} {p : Framing.Parts} {message : List Char}
    (rejected : (a.classifier.classify line).2 = .error defect)
    (apart : a.classifier.framing.parts? (Text.trim line) = some p)
    (otherApart : a.classifier.framing.parts? (Text.trim other) = some { p with message })
    (unmarked : Family.ofMessage? message = none) : Ahead 0 1 (a.readLine other) (a.readLine line) := by
  obtain ⟨columns, framed, read⟩ := readLine_of_error rejected
  have same := Classifier.columns_of_parts? (c := a.classifier.carried) apart otherApart
  have framedOther : (a.classifier.carried.columns (Text.trim other)).2 = some { columns with message } := by
    rw [same, framed]
    rfl
  rw [read, readLine_of_unmarked framedOther unmarked, same]
  exact ⟨rfl, rfl, rfl, rfl⟩

/-- The same trace with another origin of its times. -/
def withOrigin (a : Analysis α) (origin : Option Float) : Analysis α :=
  { a with classifier := { a.classifier with origin } }

/-- Behind a line without columns a trace goes on as without it, but with the origin that the line may offer. -/
theorem ahead_of_unframed (unframed : (a.classifier.columns (Text.trim line)).2 = none)
    (silent : Classifier.simulationEnd? (Text.trim line) = none) :
    Ahead 1 0 (a.withOrigin (a.classifier.origin.or (a.classifier.framing.seconds? (Text.trim line))))
      (a.readLine line) := by
  rw [readLine_of_unframed (a.classifier.snd_columns_carried (Text.trim line) ▸ unframed) silent]
  refine ⟨?_, rfl, rfl, rfl⟩
  rw [Classifier.fst_columns]
  rfl

end Analysis

namespace RunSummary

open Analysis

variable [Scalar α]

theorem ofLines_append_cons (front rest : List (List Char)) (line : List Char) (framing : Framing) (s : Settings α) :
    ofLines (front ++ line :: rest) framing s =
      ofTrace (rest.foldl readLine ((front.foldl readLine (.start framing s.mapping)).readLine line)).trace s := by
  rw [ofLines, List.foldl_append, List.foldl_cons]

/-- A malformed line is as good as a line without a message: if its message is replaced by one without a marker,
the summary stays the same but for the count of malformed lines. It changes no ledger, no counter, no state of a node,
and not the numbering of the nodes. -/
theorem ofLines_of_rejected (front rest : List (List Char)) {line other : List Char} (framing : Framing)
    (s : Settings α) {defect : Malformed} {p : Framing.Parts} {message : List Char}
    (rejected : (((Classifier.start framing s.mapping).after front).classify line).2 = .error defect)
    (apart : framing.parts? (Text.trim line) = some p)
    (otherApart : framing.parts? (Text.trim other) = some { p with message })
    (unmarked : ∀ entry ∈ Family.markers, Text.occurs entry.1.toList message = false) :
    let a : Analysis α := front.foldl readLine (.start framing s.mapping)
    ofLines (front ++ line :: rest) framing s = (ofLines (front ++ other :: rest) framing s).addLines 0 1 ∧
      (a.readLine line).classifier.devices = a.classifier.devices ∧
        (a.readLine line).tracker.diagnostics = a.tracker.diagnostics ∧
        (a.readLine line).tracker.endTime = a.tracker.endTime ∧
        ∀ id, (a.readLine line).tracker.state id = a.tracker.state id := by
  intro a
  have kept : a.classifier.framing = framing := framing_foldl_start framing s.mapping front
  rw [← classifier_foldl_start (α := α)] at rejected
  rw [← kept] at apart otherApart
  have ahead := ahead_of_error rejected apart otherApart (Family.ofMessage?_eq_none_iff.mpr unmarked)
  obtain ⟨columns, framed, read⟩ := readLine_of_error rejected
  rw [ofLines_append_cons, ofLines_append_cons]
  refine ⟨(ahead.foldl rest).ofTrace s, ?_⟩
  rw [read, Classifier.fst_columns]
  exact ⟨rfl, rfl, rfl, a.tracker.state_observe columns.node⟩

/-- A packet whose sender does not tell its own number, and the arrival of another packet of that sender. -/
def unnamedSender : List (List Char) :=
  ["1000.5;m3-2;app generate packet seqnum=6 node_id=2".toList, "1001.5;m3-2;app generate packet seqnum=7".toList,
    "1002;m3-1;app receive packet seqnum=6 from=fe80::2".toList]

/-- A packet sent in a testbed trace does not say its sender. -/
theorem ofLines_of_rejected_unnamedSender :
    let read : Classifier := (Classifier.start .testbed .lpmIsDeepSleep).after (unnamedSender.take 1)
    let line := "1001.5;m3-2;app generate packet seqnum=7".toList
    let silent := "1001.5 ; m3-2; rebooting".toList
    (read.classify line).2 = .error ⟨.appSent, .nodeId, "1001.5;m3-2;app generate packet seqnum=7"⟩ ∧
      ofLines unnamedSender .testbed Settings.standard =
        (ofLines (unnamedSender.set 1 silent) .testbed Settings.standard).addLines 0 1 ∧
      (ofLines unnamedSender .testbed Settings.standard).totalReceived = 1 := by
  intro read line silent
  let parts : Framing.Parts := ⟨"1001.5".toList, "m3-2".toList, "app generate packet seqnum=7".toList⟩
  have rejected : (read.classify line).2 =
      .error ⟨.appSent, .nodeId, "1001.5;m3-2;app generate packet seqnum=7"⟩ := by decide +kernel
  have apart : Framing.testbed.parts? (Text.trim line) = some parts := by rfl
  have silentApart : Framing.testbed.parts? (Text.trim silent) = some { parts with message := "rebooting".toList } := by
    rfl
  have inert := ofLines_of_rejected (α := Float) (unnamedSender.take 1) (unnamedSender.drop 2) .testbed
    Settings.standard rejected apart silentApart (by decide)
  exact ⟨rejected, inert.1, by decide +kernel⟩

/-- A line without columns that does not end the simulation leaves behind its time at most, as the origin of a
trace that has no other origin yet. A line that offers no time, or comes after another that did, leaves the summary
as it is but for the count of lines. -/
theorem ofLines_of_unframed (front rest : List (List Char)) {line : List Char} (framing : Framing) (s : Settings α)
    (unframed : (((Classifier.start framing s.mapping).after front).columns (Text.trim line)).2 = none)
    (silent : Classifier.simulationEnd? (Text.trim line) = none) :
    let a : Analysis α := front.foldl readLine (.start framing s.mapping)
    let origin := (front ++ [line]).findSome? fun l => framing.seconds? (Text.trim l)
    ofLines (front ++ line :: rest) framing s =
        (ofTrace (rest.foldl readLine (a.withOrigin origin)).trace s).addLines 1 0 ∧
      ((framing.seconds? (Text.trim line) = none ∨ ∃ l ∈ front, (framing.seconds? (Text.trim l)).isSome = true) →
        ofLines (front ++ line :: rest) framing s = (ofLines (front ++ rest) framing s).addLines 1 0) := by
  intro a origin
  have kept : a.classifier.framing = framing := framing_foldl_start framing s.mapping front
  have before : a.classifier.origin = front.findSome? fun l => framing.seconds? (Text.trim l) :=
    origin_foldl_start framing s.mapping front
  have after : a.classifier.origin.or (framing.seconds? (Text.trim line)) = origin := by
    rw [before]
    simp only [origin, List.findSome?_append, List.findSome?_singleton]
  rw [← classifier_foldl_start (α := α)] at unframed
  have ahead := ahead_of_unframed unframed silent
  rw [kept, after] at ahead
  have general := (ahead.foldl rest).ofTrace s
  rw [← ofLines_append_cons] at general
  refine ⟨general, fun known => ?_⟩
  have same : origin = a.classifier.origin := by
    rw [← after]
    rcases known with nothing | ⟨l, member, offered⟩
    · rw [nothing, Option.or_none]
    · have found : a.classifier.origin.isSome = true := by
        rw [before, List.isSome_findSome?, List.any_eq_true]
        exact ⟨l, member, offered⟩
      rw [Option.or_of_isSome found]
  rw [general, same, ofLines, List.foldl_append]
  rfl

/-- A number alone on a line, and a node that is associated with the network half a second past the thousandth
second. -/
def strayNumber : List (List Char) := ["5".toList, "1000.5;m3-2;association done".toList]

/-- A number alone on a line comes after the first line with a time. -/
theorem ofLines_of_unframed_late :
    let read := (Classifier.start .testbed .lpmIsDeepSleep).after (strayNumber.drop 1)
    (read.columns (Text.trim "5".toList)).2 = none ∧ Classifier.simulationEnd? (Text.trim "5".toList) = none ∧
      ofLines (strayNumber.drop 1 ++ ["5".toList]) .testbed Settings.standard =
        (ofLines (strayNumber.drop 1) .testbed Settings.standard).addLines 1 0 := by
  intro read
  have unframed : (read.columns (Text.trim "5".toList)).2 = none := by decide +kernel
  have silent : Classifier.simulationEnd? (Text.trim "5".toList) = none := by decide +kernel
  have offered : (Framing.testbed.seconds? (Text.trim "1000.5;m3-2;association done".toList)).isSome = true := by
    decide +kernel
  have late := ofLines_of_unframed (α := Float) (strayNumber.drop 1) [] .testbed Settings.standard unframed silent
  exact ⟨unframed, silent, late.2 (Or.inr ⟨_, List.mem_singleton_self _, offered⟩)⟩

/-- In front of all other lines the number is the origin: the trace ends more than sixteen minutes after it instead
of where it starts. -/
theorem ofLines_strayNumber :
    ((Classifier.start .testbed .lpmIsDeepSleep).columns (Text.trim "5".toList)).2 = none ∧
      Classifier.simulationEnd? (Text.trim "5".toList) = none ∧
      (ofLines strayNumber .testbed Settings.standard).endTime = 995500 ∧
      (ofLines (strayNumber.drop 1) .testbed Settings.standard).endTime = 0 ∧
      ofLines strayNumber .testbed Settings.standard ≠
        (ofLines (strayNumber.drop 1) .testbed Settings.standard).addLines 1 0 := by
  have shifted : (ofLines strayNumber .testbed Settings.standard).endTime = 995500 := by decide +kernel
  have alone : (ofLines (strayNumber.drop 1) .testbed Settings.standard).endTime = 0 := by decide +kernel
  refine ⟨by decide +kernel, by decide +kernel, shifted, alone, fun same => ?_⟩
  rw [same, endTime_addLines, alone] at shifted
  exact absurd shifted (by decide)

end RunSummary

end MeshTrace
