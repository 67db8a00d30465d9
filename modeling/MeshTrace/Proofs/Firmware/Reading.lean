import MeshTrace.Proofs.Firmware.Address

namespace MeshTrace

open Text

namespace Entry

theorem decimal_fits (n : Nat) : (∀ c ∈ decimal n, isDecimal c = true) ∧ 1 ≤ (decimal n).length :=
  ⟨fun _ member => isDecimal_of_isDigit (Number.isDigit_of_mem_toDigits member), Nat.length_toDigits_pos⟩

theorem word_fits {cs : List Char} (solid : Solid cs) (nonempty : cs ≠ []) :
    (∀ c ∈ cs, (!isBlank c) = true) ∧ 1 ≤ cs.length := by
  refine ⟨fun c member => ?_, List.length_pos_of_ne_nil nonempty⟩
  rw [solid c member]
  rfl

theorem read_digits (shape : Shape) (n : Nat) {rest : List Char} (stops : Stops isDecimal rest) :
    Shape.read (.digits :: shape) (decimal n ++ rest) =
      (shape.read rest).map fun (more, rest) => (decimal n :: more, rest) :=
  Shape.read_run true shape (decimal_fits n).1 (decimal_fits n).2 stops

/-- The digits of a packet sent are read from its message, and those of the sender if it has them. -/
theorem sentDigits?_text (seqnum : Seqnum) (label : Option Nat) :
    Message.sentDigits? (packetSent seqnum label).text = some (decimal seqnum, label.map decimal) := by
  cases label with
  | none =>
    have read : Shape.read [.text "app generate packet seqnum=", .digits]
        ("app generate packet seqnum=".toList ++ (decimal seqnum ++ [])) = some ([decimal seqnum], []) := by
      rw [Shape.read_text, read_digits _ _ (stops_nil _)]
      rfl
    have unlabelled : Shape.read [.text " node_id=", .digits] [] = none := by decide
    refine Shape.search_text _ [.digits] (fun cs none => by simp only [Message.sentHere?, none]) (by rw [tag]; decide) ?_
    simp only [Message.sentHere?, List.flatten_cons, List.flatten_nil, read, unlabelled, Option.map_none]
  | some label =>
    have read : Shape.read [.text "app generate packet seqnum=", .digits]
        ("app generate packet seqnum=".toList ++ (decimal seqnum ++ (" node_id=".toList ++ (decimal label ++ [])))) =
          some ([decimal seqnum], " node_id=".toList ++ (decimal label ++ [])) := by
      rw [Shape.read_text, read_digits _ _ (stops_append (by decide) _)]
      rfl
    have labelled : Shape.read [.text " node_id=", .digits] (" node_id=".toList ++ (decimal label ++ [])) =
        some ([decimal label], []) := by
      rw [Shape.read_text, read_digits _ _ (stops_nil _)]
      rfl
    refine Shape.search_text _ [.digits] (fun cs none => by simp only [Message.sentHere?, none]) (by rw [tag]; decide) ?_
    simp only [Message.sentHere?, List.flatten_cons, List.flatten_nil, read, labelled, Option.map_some]

theorem receivedParts?_text {seqnum : Seqnum} {sender : NodeId} {address : Address}
    (printed : IsAddress address.toList) :
    Message.receivedParts? (packetReceived seqnum sender address).text = some (decimal seqnum, address.toList) := by
  have slots : Shape.Slots [.text "app receive packet seqnum=", .digits, .text " from=", .word]
      [decimal seqnum, address.toList] :=
    Shape.slots_of_forall₂ (by decide)
      (.cons (decimal_fits _) (.cons (word_fits printed.solid printed.nonempty) .nil))
  refine Shape.search_text _ [.digits, .text " from=", .word] (fun cs none => by simp only [Message.receivedHere?, none])
    (by rw [tag]; decide) ?_
  have read : Shape.read _ ("app receive packet seqnum=".toList ++
      [decimal seqnum, " from=".toList, address.toList].flatten) = _ := Shape.read_write (by decide) slots
  simp only [Message.receivedHere?, read]

theorem linkParts?_text {counters : LinkCounters} {neighbour : Address} (printed : IsAddress neighbour.toList) :
    Message.linkParts? (linkStats counters neighbour).text =
      some ([decimal counters.tx, decimal counters.ack, decimal counters.rx, decimal counters.queueDrops],
        neighbour.toList) := by
  have slots : Shape.Slots [.text "num packets: tx=", .digits, .text " ack=", .digits, .text " rx=", .digits,
      .text " queue_drops=", .digits, .text " to=", .word]
      [decimal counters.tx, decimal counters.ack, decimal counters.rx, decimal counters.queueDrops,
        neighbour.toList] :=
    Shape.slots_of_forall₂ (by decide) (.cons (decimal_fits _) (.cons (decimal_fits _) (.cons (decimal_fits _)
      (.cons (decimal_fits _) (.cons (word_fits printed.solid printed.nonempty) .nil)))))
  refine Shape.search_text _ [.digits, .text " ack=", .digits, .text " rx=", .digits, .text " queue_drops=", .digits,
    .text " to=", .word] (fun cs none => by simp only [none]) (by rw [tag]; decide) ?_
  have read : Shape.read _ ("num packets: tx=".toList ++ [decimal counters.tx, " ack=".toList, decimal counters.ack,
      " rx=".toList, decimal counters.rx, " queue_drops=".toList, decimal counters.queueDrops, " to=".toList,
      neighbour.toList].flatten) = _ := Shape.read_write (by decide) slots
  simp only [read]

theorem periodDigits?_text (number seconds : Nat) :
    Message.periodDigits? (period number seconds).text = some (decimal seconds) := by
  have slots : Shape.Slots [.text "Period summary #", .digits, .text " (", .digits, .text " second",
      .oneOf ["s", ""] false, .text ")"] [decimal number, decimal seconds] :=
    Shape.slots_of_forall₂ (by decide) (.cons (decimal_fits _) (.cons (decimal_fits _) .nil))
  have read : Shape.read _ ("Period summary #".toList ++ [decimal number, " (".toList, decimal seconds,
      " second".toList, "s".toList, ")".toList].flatten) = _ := Shape.read_write (by decide) slots
  have grouped : (period number seconds).text = ("[INFO: Energest  ] ".toList ++ "--- ".toList) ++
      ("Period summary #".toList ++ [decimal number, " (".toList, decimal seconds, " second".toList, "s".toList,
        ")".toList].flatten) := by
    simp only [text, tag, parts, List.flatten_cons, List.append_assoc]
  rw [grouped]
  refine Shape.search_text _ [.digits, .text " (", .digits, .text " second", .oneOf ["s", ""] false, .text ")"]
    (fun cs none => by simp only [none]) (by decide) ?_
  simp only [read]

theorem read_spaces (shape : Shape) (n : Nat) {rest : List Char} (stops : Stops isBlank rest) :
    Shape.read (.blanks :: shape) (spaces n ++ rest) = shape.read rest := by
  have blank : ∀ c ∈ spaces n, isBlank c = true := by
    intro c member
    rw [List.eq_of_mem_replicate member]
    decide
  rw [Piece.blanks, Shape.read_run false shape blank (Nat.zero_le _) stops]
  simp

theorem stops_decimal (n : Nat) (rest : List Char) : Stops isBlank (decimal n ++ rest) := by
  intro c first
  rw [decimal, List.head?_append_of_ne_nil _ Nat.toDigits_ne_nil] at first
  exact isBlank_of_isDigit (Number.isDigit_of_mem_toDigits (List.mem_of_head? first))

theorem totalDigits?_text (before after ticks : Nat) :
    Message.totalDigits? (total before after ticks).text = some (decimal ticks) := by
  have read : Shape.read [.text "Total time", .blanks, .text ":", .blanks, .digits]
      ("Total time".toList ++ [spaces before, ":".toList, spaces after, decimal ticks].flatten) =
        some ([decimal ticks], []) := by
    simp only [List.flatten_cons, List.flatten_nil]
    rw [Shape.read_text, read_spaces _ _ (stops_append (by decide) _), Shape.read_text,
      read_spaces _ _ (stops_decimal ticks _),
      read_digits _ _ (stops_nil _)]
    rfl
  refine Shape.search_text _ [.blanks, .text ":", .blanks, .digits] (fun cs none => by simp only [none])
    (by rw [tag]; decide) ?_
  simp only [read]

/-- Every label is told from the others. -/
theorem read_label (label : EnergyLabel) (rest : List Char) :
    (Piece.oneOf ["CPU", "Deep LPM", "LPM", "Radio Tx", "Radio Rx"] true).read (label.text.toList ++ rest) =
      some ([label.text.toList], rest) := by
  cases label <;> simp [Piece.read, EnergyLabel.text, List.isPrefixOf?]

theorem componentParts?_text (label : EnergyLabel) (before after ticks gap whole permil : Nat) :
    Message.componentParts? (spent label before after ticks gap whole permil).text =
      some (label.text.toList, decimal ticks) := by
  have accepted : ∀ c ∈ decimal ticks, (!isBlank c && c != '/') = true := by
    intro c member
    have digit := Number.isDigit_of_mem_toDigits member
    rw [isBlank_of_isDigit digit, Bool.not_false, Bool.true_and, bne_iff_ne]
    rintro rfl
    revert digit
    decide
  have read : Shape.read [.oneOf ["CPU", "Deep LPM", "LPM", "Radio Tx", "Radio Rx"] true, .blanks, .text ":", .blanks,
      .run (fun c => !isBlank c && c != '/') 0 true]
      [label.text.toList, spaces before, ":".toList, spaces after, decimal ticks, "/".toList, spaces gap,
        decimal whole, " (".toList, decimal permil, " permil)".toList].flatten =
        some ([label.text.toList, decimal ticks], ["/".toList, spaces gap, decimal whole, " (".toList,
          decimal permil, " permil)".toList].flatten) := by
    rw [List.flatten_cons, Shape.read, read_label]
    simp only [List.flatten_cons]
    rw [read_spaces _ _ (stops_append (by decide) _), Shape.read_text, read_spaces _ _ (stops_decimal ticks _),
      Shape.read_run true [] accepted (Nat.zero_le _) (stops_append (by decide) _)]
    rfl
  refine Shape.search_oneOf ["CPU", "Deep LPM", "LPM", "Radio Tx", "Radio Rx"] true
    [.blanks, .text ":", .blanks, .run (fun c => !isBlank c && c != '/') 0 true]
    (fun cs none => by simp only [none]) (by rw [tag]; decide) ?_
  simp only [parts, read]

end Entry

end MeshTrace
