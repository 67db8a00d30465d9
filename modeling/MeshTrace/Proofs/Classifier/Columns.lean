import MeshTrace.Proofs.Classifier.Simulator

namespace MeshTrace

namespace Framing

/-- A line taken apart, before its time and its node are read. -/
structure Parts where
  time : List Char
  node : List Char
  message : List Char

/-- Takes a line apart; none if it has fewer parts. -/
def parts? : Framing → List Char → Option Parts
  | simulator, line =>
    match Text.nextWord? line with
    | none => none
    | some (time, rest) => (Text.nextWord? rest).map fun (node, message) => ⟨time, node, message⟩
  | testbed, line =>
    match Text.columns ';' 3 line with
    | [time, tag, message] => some ⟨Text.trim time, Text.trim tag, Text.trim message⟩
    | _ => none

theorem simulatorColumns?_of_parts? {line : List Char} {p : Parts} (apart : simulator.parts? line = some p) :
    simulatorColumns? line =
      match Number.time? p.time, Number.short? p.node with
      | some micros, some id => some ⟨micros / 1000, id, p.message⟩
      | _, _ => none := by
  unfold parts? at apart
  dsimp only at apart
  split at apart
  · cases apart
  · rename_i time rest first
    obtain ⟨⟨node, message⟩, second, rfl⟩ := Option.map_eq_some_iff.mp apart
    cases micros : Number.time? time <;> cases id : Number.short? node <;>
      simp only [simulatorColumns?, first, second, micros, id]

theorem testbedSeconds?_of_parts? {line : List Char} {p : Parts} (apart : testbed.parts? line = some p) :
    testbedSeconds? line = (Number.float? p.time).filter Float.isFinite := by
  unfold parts? at apart
  dsimp only at apart
  split at apart
  · rename_i time tag message cut
    cases apart
    simp only [testbedSeconds?, cut]
  · cases apart

theorem testbedColumns?_of_parts? (origin seconds : Float) {line : List Char} {p : Parts}
    (apart : testbed.parts? line = some p) :
    testbedColumns? origin seconds line =
      (tagNode? p.node).map fun node =>
        ⟨(Binary64.ofFloat ((seconds - origin) * 1000.0)).toTime, node, p.message⟩ := by
  unfold parts? at apart
  dsimp only at apart
  split at apart
  · rename_i time tag message cut
    cases apart
    simp only [testbedColumns?, cut]
  · cases apart

/-- The node in the columns of a line, which does not depend on where the trace starts. -/
def node? : Framing → List Char → Option NodeId
  | simulator, line => (simulatorColumns? line).map (·.node)
  | testbed, line => (testbedSeconds? line).bind fun seconds => (testbedColumns? seconds seconds line).map (·.node)

/-- The time that a line offers as the origin of a trace. -/
def seconds? : Framing → List Char → Option Float
  | simulator, _ => none
  | testbed, line => testbedSeconds? line

end Framing

namespace Classifier

/-- What a classifier takes along to the next line: all but the node of the last one. -/
def carried (c : Classifier) : Classifier := { c with node := none }

/-- What one line has carried over does not matter for the next. -/
theorem classify_carried (c : Classifier) (line : List Char) : c.carried.classify line = c.classify line := rfl

/-- Two lines whose times and nodes are written in the same way differ in their messages only. -/
theorem columns_of_parts? {c : Classifier} {line other : List Char} {p : Framing.Parts} {message : List Char}
    (apart : c.framing.parts? line = some p) (otherApart : c.framing.parts? other = some { p with message }) :
    c.columns other =
      ((c.columns line).1, (c.columns line).2.map fun columns => { columns with message }) := by
  obtain ⟨framing, mapping, origin, devices, lastTime, node⟩ := c
  cases framing with
  | simulator =>
    simp only [columns, Framing.simulatorColumns?_of_parts? apart, Framing.simulatorColumns?_of_parts? otherApart]
    cases Number.time? p.time with
    | none => rfl
    | some micros => cases Number.short? p.node <;> rfl
  | testbed =>
    simp only [columns, Framing.testbedSeconds?_of_parts? apart, Framing.testbedSeconds?_of_parts? otherApart]
    cases (Number.float? p.time).filter Float.isFinite with
    | none => rfl
    | some seconds =>
      simp only [Framing.testbedColumns?_of_parts? _ seconds apart, Framing.testbedColumns?_of_parts? _ seconds otherApart,
        Option.map_map]
      rfl

/-- After a line with columns: its time and node are known. -/
def framed (c : Classifier) (columns : Columns) : Classifier :=
  { c with lastTime := some columns.time, node := some columns.node }

variable {c : Classifier} {line : List Char}

/-- A line without columns leaves behind what was read of its time at most. -/
theorem classify_of_unframed (unframed : (c.carried.columns (Text.trim line)).2 = none) :
    c.classify line = ((c.carried.columns (Text.trim line)).1, .ok (simulationEnd? (Text.trim line))) := by
  rcases read : c.carried.columns (Text.trim line) with ⟨d, found⟩
  rw [read] at unframed
  subst unframed
  unfold carried at read
  simp only [classify, read]

/-- A line with columns is judged by its message. -/
theorem classify_of_framed {columns : Columns}
    (framed : (c.carried.columns (Text.trim line)).2 = some columns) :
    let d := (c.carried.columns (Text.trim line)).1.framed columns
    c.classify line =
      match Family.ofMessage? columns.message with
      | none => (d, .ok none)
      | some family =>
        match (Message.read d.mapping columns.message family).bind (d.resolve columns.node) with
        | .error defect => (d, .error ⟨family, defect, String.ofList (Text.trim line)⟩)
        | .ok (next, kind) =>
          (next, .ok (kind.map (⟨columns.time, columns.node, ·, String.ofList columns.message⟩))) := by
  rcases read : c.carried.columns (Text.trim line) with ⟨d, found⟩
  rw [read] at framed
  subst framed
  unfold carried at read
  simp only [classify, read]
  rfl

/-- A line whose message has no marker only tells its time and its node. -/
theorem classify_of_unmarked {columns : Columns}
    (framed : (c.carried.columns (Text.trim line)).2 = some columns)
    (unmarked : Family.ofMessage? columns.message = none) :
    c.classify line = ((c.carried.columns (Text.trim line)).1.framed columns, .ok none) := by
  simp only [classify_of_framed framed, unmarked]

/-- A line with a defect tells its time and its node too, and nothing else: whatever else of it could be read
is given up. -/
theorem classify_of_error {defect : Malformed} (rejected : (c.classify line).2 = .error defect) :
    ∃ columns, (c.carried.columns (Text.trim line)).2 = some columns ∧
      (c.classify line).1 = (c.carried.columns (Text.trim line)).1.framed columns := by
  rcases framed : (c.carried.columns (Text.trim line)).2 with _ | columns
  · rw [classify_of_unframed framed] at rejected
    cases rejected
  · refine ⟨columns, rfl, ?_⟩
    rw [classify_of_framed framed] at rejected ⊢
    split at rejected
    · cases rejected
    · split at rejected
      · rfl
      · cases rejected

/-- Reading the columns of a line changes nothing but the origin, which is the first time that is offered. -/
theorem fst_columns (c : Classifier) (line : List Char) :
    (c.columns line).1 = { c with origin := c.origin.or (c.framing.seconds? line) } := by
  obtain ⟨framing, mapping, origin, devices, lastTime, node⟩ := c
  cases framing with
  | simulator => simp [columns, Framing.seconds?]
  | testbed =>
    cases read : Framing.testbedSeconds? line with
    | none => simp [columns, Framing.seconds?, read]
    | some seconds => cases origin <;> simp [columns, Framing.seconds?, read]

theorem snd_columns_carried (c : Classifier) (line : List Char) : (c.carried.columns line).2 = (c.columns line).2 := by
  unfold columns carried
  cases c.framing with
  | simulator => rfl
  | testbed => dsimp only; split <;> rfl

/-- The meaning of a message adds to the numbering of the nodes at most. -/
theorem resolve_eq {c next : Classifier} {node : NodeId} {said : Message} {kind : Option EventKind}
    (meant : c.resolve node said = .ok (next, kind)) : next = { c with devices := next.devices } := by
  unfold resolve at meant
  split at meant
  · cases meant
    rfl
  · cases meant
    rfl
  · split at meant <;> cases meant <;> rfl
  · split at meant <;> cases meant <;> rfl

/-- The node of a line is known from the framing alone. -/
theorem node_columns (c : Classifier) (line : List Char) : (c.columns line).2.map (·.node) = c.framing.node? line := by
  obtain ⟨framing, mapping, origin, devices, lastTime, node⟩ := c
  cases framing with
  | simulator => rfl
  | testbed =>
    cases timed : Framing.testbedSeconds? line with
    | none => simp only [columns, Framing.node?, timed, Option.map_none, Option.bind_none]
    | some seconds =>
      simp only [columns, Framing.node?, timed, Option.bind_some, Framing.testbedColumns?]
      split
      · simp only [Option.map_map, Function.comp_def]
      · rfl

/-- What does not end the simulation is reported by the node in the columns of its line. -/
theorem node?_of_event? {c : Classifier} {line : List Char} {e : Event} (found : c.event? line = some e)
    (inside : e.endTime? = none) : c.framing.node? (Text.trim line) = some e.node := by
  rcases of_event?_eq_some found with ended | ⟨columns, family, said, d, next, framed, read, meant, own⟩
  · rw [endTime?_of_simulationEnd? ended] at inside
    cases inside
  · have node := node_columns c.carried (Text.trim line)
    rw [carried, framed] at node
    rw [own]
    exact node.symm

/-- A classifier knows the node of the last line, if that had columns, whatever its message said. -/
theorem node_classify (c : Classifier) (line : List Char) :
    (c.classify line).1.node = c.framing.node? (Text.trim line) := by
  rw [← node_columns, ← snd_columns_carried]
  rcases framed : (c.carried.columns (Text.trim line)).2 with _ | columns
  · rw [classify_of_unframed framed, fst_columns]
    rfl
  · rw [classify_of_framed framed]
    split
    · rfl
    · split
      · rfl
      · rename_i outcome
        obtain ⟨said, read, meant⟩ := Message.bind_eq_ok.mp outcome
        rw [resolve_eq meant]
        rfl

/-- No line changes the framing. -/
theorem framing_classify (c : Classifier) (line : List Char) : (c.classify line).1.framing = c.framing :=
  congrArg Prod.fst (settings_classify c line)

theorem framing_after (c : Classifier) (lines : List (List Char)) : (c.after lines).framing = c.framing :=
  congrArg Prod.fst (settings_after c lines)

/-- The origin is that of the first line with a time. -/
theorem origin_classify (c : Classifier) (line : List Char) :
    (c.classify line).1.origin = c.origin.or (c.framing.seconds? (Text.trim line)) := by
  have offered : (c.carried.columns (Text.trim line)).1.origin = c.origin.or (c.framing.seconds? (Text.trim line)) := by
    rw [fst_columns]
    rfl
  unfold carried at offered
  unfold classify
  dsimp only
  split
  · exact offered
  · split
    · exact offered
    · split
      · exact offered
      · rename_i outcome
        obtain ⟨said, read, meant⟩ := Message.bind_eq_ok.mp outcome
        rw [resolve_eq meant]
        exact offered

/-- The origin is the first time that can be read, whether the rest of its line can be read or not. -/
theorem origin_after (c : Classifier) (lines : List (List Char)) :
    (c.after lines).origin = c.origin.or (lines.findSome? fun line => c.framing.seconds? (Text.trim line)) := by
  induction lines generalizing c with
  | nil => exact (Option.or_none ..).symm
  | cons line lines ih =>
    show ((c.classify line).1.after lines).origin = _
    rw [ih, origin_classify, framing_classify, Option.or_assoc, List.findSome?_cons]
    cases c.framing.seconds? (Text.trim line) <;> rfl

end Classifier

end MeshTrace
