import MeshTrace.Proofs.Classifier.Events
import MeshTrace.Proofs.Firmware.Ends
import MeshTrace.Proofs.Firmware.Meaning
import MeshTrace.Proofs.Firmware.Printable
import MeshTrace.Proofs.Text.Words

namespace MeshTrace

open Text

/-- What the simulator writes at the end of the test. -/
def endText (micros : Nat) : List Char := "Test ended at simulation time: ".toList ++ Entry.decimal micros

/-- The lines in which the simulator reports an event: a message behind its columns, or the end of the test,
with any blanks around them. -/
inductive SimulatorLine (mapping : LpmMapping) : List Char → Event → Prop
  | message {front gap space back : List Char} {t : Int} {node : NodeId} {e : Entry} (frontBlank : Blanks front)
      (gapBlank : Blanks gap) (gapSome : gap ≠ []) (spaceBlank : Blanks space) (spaceSome : space ≠ [])
      (backBlank : Blanks back) (low : timeMin ≤ t) (high : t ≤ timeMax) (small : node < 0x100000000)
      (fits : e.Fits) :
      SimulatorLine mapping
        (front ++ (Number.timeText t ++ (gap ++ (Entry.decimal node ++ (space ++ e.text)))) ++ back)
        ⟨t / 1000, node, e.kind mapping, String.ofList e.text⟩
  | ended {front back : List Char} {micros : Nat} (frontBlank : Blanks front) (backBlank : Blanks back)
      (small : micros < 0x8000000000000000) :
      SimulatorLine mapping (front ++ endText micros ++ back)
        ⟨(micros / 1000 : Nat), 0, .simulationEnded (micros / 1000 : Nat), String.ofList (endText micros)⟩

/-- Every event that the firmware can print has a line. -/
theorem exists_simulatorLine (mapping : LpmMapping) {t : Int} {node : NodeId} {kind : EventKind} (low : timeMin ≤ t)
    (high : t ≤ timeMax) (small : node < 0x100000000) (printable : kind.Printable) :
    ∃ line raw, SimulatorLine mapping line ⟨t / 1000, node, kind, raw⟩ := by
  obtain ⟨e, fits, rfl⟩ := Entry.exists_of_printable mapping printable
  have none : Blanks [] := by decide
  have blank : Blanks [' '] := by decide
  exact ⟨_, _, .message none blank (by simp) blank (by simp) none low high small fits⟩

namespace Framing

/-- A line that is put together from a time, a node and a message has these columns. -/
theorem simulatorColumns?_append {gap space message : List Char} {t : Int} {node : NodeId} (gapBlank : Blanks gap)
    (gapSome : gap ≠ []) (spaceBlank : Blanks space) (spaceSome : space ≠ [])
    (start : ∀ c, message.head? = some c → isBlank c = false) (low : timeMin ≤ t) (high : t ≤ timeMax)
    (small : node < 0x100000000) :
    simulatorColumns? (Number.timeText t ++ (gap ++ (Entry.decimal node ++ (space ++ message)))) =
      some ⟨t / 1000, node, message⟩ := by
  have time := nextWord?_append (Number.solid_timeText t) (Number.timeText_ne_nil t) gapBlank gapSome
    (Entry.stops_decimal node (space ++ message))
  have number := nextWord?_append (Entry.solid_decimal node) Nat.toDigits_ne_nil spaceBlank spaceSome start
  simp only [simulatorColumns?, time, number, Number.time?_timeText low high, Entry.short?_decimal small]

theorem simulatorColumns?_eq_none {line word rest : List Char} (first : nextWord? line = some (word, rest))
    (other : Number.time? word = none) : simulatorColumns? line = none := by
  cases second : nextWord? rest with
  | none => simp only [simulatorColumns?, first, second]
  | some found => simp only [simulatorColumns?, first, second, other]

end Framing

namespace Classifier

theorem endMicros?_endText {micros : Nat} (small : micros < 0x8000000000000000) :
    endMicros? (endText micros) = some (micros : Int) := by
  have parts : endText micros = "Test ended at simulation time".toList ++
      (":".toList ++ (Entry.spaces 1 ++ (Entry.decimal micros ++ []))) := by
    have opening : "Test ended at simulation time: ".toList =
        "Test ended at simulation time".toList ++ (":".toList ++ Entry.spaces 1) := by decide
    unfold endText
    rw [opening, List.append_nil, List.append_assoc, List.append_assoc]
  have read : Shape.read [.text "Test ended at simulation time", .oneOf [":", ""] false, .blanks, .digits]
      (endText micros) = some ([Entry.decimal micros], []) := by
    rw [parts, Shape.read_text, Shape.read_oneOf, Entry.read_spaces _ _ (Entry.stops_decimal micros _),
      Entry.read_digits _ _ (stops_nil _)]
    rfl
  have value : Number.time? (Entry.decimal micros) = some (micros : Int) := by
    rw [Entry.decimal, ← Number.timeText_natCast]
    exact Number.time?_timeText (by unfold timeMin; omega) (by unfold timeMax; omega)
  rw [endMicros?, search_of_some (b := Entry.decimal micros) (by simp only [read]), Option.bind_some, value]

/-- The line at the end of a simulation yields its end, in whole milliseconds. -/
theorem simulationEnd?_endText {micros : Nat} (small : micros < 0x8000000000000000) :
    simulationEnd? (endText micros) = some ⟨(micros / 1000 : Nat), 0, .simulationEnded (micros / 1000 : Nat),
      String.ofList (endText micros)⟩ := by
  have marked : occurs "Test ended".toList (endText micros) = true := by
    rw [occurs_iff]
    exact ⟨[], " at simulation time: ".toList ++ Entry.decimal micros, rfl⟩
  rw [simulationEnd?, if_pos marked, endMicros?_endText small, Option.map_some]
  rfl

/-- What stays the same in a trace. -/
def settings (c : Classifier) : Framing × LpmMapping := (c.framing, c.mapping)

theorem settings_columns (c : Classifier) (line : List Char) : (c.columns line).1.settings = c.settings := by
  unfold columns
  split
  · rfl
  · split <;> rfl

theorem settings_resolve {c next : Classifier} {node : NodeId} {said : Message} {kind : Option EventKind}
    (meant : c.resolve node said = .ok (next, kind)) : next.settings = c.settings := by
  unfold resolve at meant
  split at meant
  · cases meant
    rfl
  · cases meant
    rfl
  · split at meant <;> cases meant <;> rfl
  · split at meant <;> cases meant <;> rfl

theorem settings_classify (c : Classifier) (line : List Char) : (c.classify line).1.settings = c.settings := by
  have kept : ({ c with node := none }.columns (trim line)).1.settings = c.settings := settings_columns _ _
  unfold classify
  dsimp only
  split
  · exact kept
  · split
    · exact kept
    · split
      · exact kept
      · rename_i outcome
        obtain ⟨said, read, meant⟩ := Message.bind_eq_ok.mp outcome
        exact (settings_resolve meant).trans kept

def after (c : Classifier) (lines : List (List Char)) : Classifier :=
  lines.foldl (fun c line => (c.classify line).1) c

theorem settings_after (c : Classifier) (lines : List (List Char)) : (c.after lines).settings = c.settings := by
  induction lines generalizing c with
  | nil => rfl
  | cons line lines ih => exact (ih _).trans (settings_classify c line)

/-- A line with the columns of an entry yields the event of the entry. -/
theorem classify_of_simulatorColumns? {c : Classifier} (simulated : c.framing = .simulator) {line : List Char}
    {t : Int} {node : NodeId} {e : Entry} (fits : e.Fits)
    (found : Framing.simulatorColumns? (trim line) = some ⟨t, node, e.text⟩) :
    (c.classify line).2 = .ok (some ⟨t, node, e.kind c.mapping, String.ofList e.text⟩) := by
  obtain ⟨said, read, meant⟩ := Entry.read_text c.mapping fits
  have columns : { c with node := none }.columns (trim line) =
      ({ c with node := none }, some ⟨t, node, e.text⟩) := by
    simp only [Classifier.columns, simulated, found]
  have resolved := meant { c with lastTime := some t, node := some node } node simulated
  simp only [classify, columns, Entry.ofMessage?_text fits, read, Except.bind, resolved, Option.map_some]

/-- Every line that the simulator may write yields its event. -/
theorem classify_of_simulatorLine {c : Classifier} (simulated : c.framing = .simulator) {line : List Char}
    {event : Event} (written : SimulatorLine c.mapping line event) : (c.classify line).2 = .ok (some event) := by
  cases written with
  | @message front gap space back t node e frontBlank gapBlank gapSome spaceBlank spaceSome backBlank low high small
      fits =>
    have start : ∀ d, e.text.head? = some d → isBlank d = false := by
      intro d first
      rw [Entry.head?_text] at first
      obtain rfl := Option.some.inj first
      decide
    have tight : Tight (Number.timeText t ++ (gap ++ (Entry.decimal node ++ (space ++ e.text)))) :=
      tight_append (Number.solid_timeText t) (Number.timeText_ne_nil t) (Shape.getLast?_append_any
        (Shape.getLast?_append_any (Shape.getLast?_append_any (Entry.ends_text fits))))
    refine classify_of_simulatorColumns? simulated fits ?_
    rw [tight.trim_append_append frontBlank backBlank]
    exact Framing.simulatorColumns?_append gapBlank gapSome spaceBlank spaceSome start low high small
  | @ended front back micros frontBlank backBlank small =>
    have parts : endText micros =
        "Test".toList ++ ([' '] ++ ("ended at simulation time: ".toList ++ Entry.decimal micros)) := rfl
    have word : Solid "Test".toList := by decide
    have tight : Tight (endText micros) := by
      rw [parts]
      exact tight_append word (by decide) (Shape.getLast?_append_any (Shape.getLast?_append_any
        (Entry.ends_decimal micros)))
    have first : nextWord? (endText micros) =
        some ("Test".toList, "ended at simulation time: ".toList ++ Entry.decimal micros) := by
      rw [parts]
      exact nextWord?_append word (by decide) (by decide) (by decide) (stops_append (by decide) _)
    have columns : { c with node := none }.columns (endText micros) = ({ c with node := none }, none) := by
      have missing := Framing.simulatorColumns?_eq_none first (by decide)
      simp only [Classifier.columns, simulated, missing]
    simp only [classify, tight.trim_append_append frontBlank backBlank, columns, simulationEnd?_endText small]

/-- Whatever lines came before, a line of the simulator is classified as the event that it was written for, and
every event that the firmware can print has such a line. -/
theorem classify_after_of_simulatorLine (mapping : LpmMapping) (earlier : List (List Char)) :
    (∀ line event, SimulatorLine mapping line event →
      (((start .simulator mapping).after earlier).classify line).2 = .ok (some event)) ∧
    ∀ (t : Int) (node : NodeId) (kind : EventKind), timeMin ≤ t → t ≤ timeMax → node < 0x100000000 →
      kind.Printable → ∃ line raw, SimulatorLine mapping line ⟨t / 1000, node, kind, raw⟩ := by
  constructor
  · intro line event written
    have kept := settings_after (start .simulator mapping) earlier
    obtain ⟨simulated, mapped⟩ := Prod.mk.inj kept
    refine classify_of_simulatorLine simulated ?_
    rw [mapped]
    exact written
  · intro t node kind low high small printable
    exact exists_simulatorLine mapping low high small printable

/-- A time before zero is rounded down, and the sender is found behind the last colon of its address. -/
theorem classify_after_received :
    (((start .simulator .lpmIsSleep).after ["noise".toList]).classify
      "\t-1500  7 [INFO: App       ] app receive packet seqnum=4294967295 from=fd00::208:8:8:0A \r".toList).2 =
      .ok (some ⟨-2, 7, .packetReceived 4294967295 10,
        "[INFO: App       ] app receive packet seqnum=4294967295 from=fd00::208:8:8:0A"⟩) := by
  have own : IsAddressOf 10 "fd00::208:8:8:0A".toList := by
    refine ⟨List.all_eq_true.mp (by decide), "fd00::208:8:8:".toList, "0A".toList, 1, ?_⟩
    decide
  have fits : (Entry.packetReceived 4294967295 10 "fd00::208:8:8:0A").Fits := ⟨by decide, by decide, own⟩
  exact (classify_after_of_simulatorLine .lpmIsSleep ["noise".toList]).1 _ _
    (@SimulatorLine.message _ ['\t'] [' ', ' '] [' '] [' ', '\r'] (-1500) 7 _ (by decide) (by decide) (by decide)
      (by decide) (by decide) (by decide) (by decide) (by decide) (by decide) fits)

end Classifier

end MeshTrace
