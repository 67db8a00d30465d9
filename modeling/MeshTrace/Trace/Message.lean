import MeshTrace.Text.Search
import MeshTrace.Text.Shape
import MeshTrace.Trace.Event
import MeshTrace.Trace.Family

namespace MeshTrace

/-- Which of the two low-power labels of the energy accounting is the deeper state: the firmware
variants disagree. -/
inductive LpmMapping
  | lpmIsDeepSleep
  | lpmIsSleep
  deriving DecidableEq, Repr

/-- What a message of a known family lacks. -/
inductive Defect
  | timeSource
  | parents
  | parentLladdr
  | seqnum
  | seqnumRange
  | nodeId
  | seqnumOrSender
  | sender
  | counters
  | counterRange
  | period
  | total
  | ticks
  deriving DecidableEq, Repr

/-- The defect in words. -/
def Defect.reason : Defect → String
  | timeSource => "missing time source address"
  | parents => "missing parent addresses"
  | parentLladdr => "missing parent lladdr"
  | seqnum => "missing seqnum"
  | seqnumRange => "seqnum out of range"
  | nodeId => "missing node_id"
  | seqnumOrSender => "missing seqnum or sender"
  | sender => "sender address"
  | counters => "missing link counters"
  | counterRange => "counter out of range"
  | period => "missing period length"
  | total => "missing total ticks"
  | ticks => "missing component ticks"

namespace Address

/-- The address in a text; none if the text carries the marker of no address. -/
def ofText? (cs : List Char) : Option Address :=
  let cs := Text.trim cs
  if Text.occurs "NULL".toList cs then none else some (String.ofList cs)

/-- The last group of an address. -/
def lastGroup (cs : List Char) : List Char := (cs.reverse.takeWhile (· != ':')).reverse

/-- The node that an address belongs to: its number is the last group, in hexadecimal digits. -/
def node? (cs : List Char) : Option NodeId := Number.below? 0x100000000 16 (lastGroup cs)

end Address

/-- What a message says, before it is known how its trace numbers the nodes. -/
inductive Message
  /-- Nothing that is accounted. -/
  | ignored
  /-- The same event in every trace. -/
  | event (kind : EventKind)
  /-- A packet sent, with the number that the sender gives to itself. -/
  | sent (seqnum : Seqnum) (label : Option NodeId)
  /-- A packet received, with the number that the sender gives to itself. -/
  | received (seqnum : Seqnum) (label : NodeId)
  deriving DecidableEq, Repr

namespace Message

open Text

/-- The text after the first arrow that something follows, if it stays on one line. -/
def arrowTarget? (message : List Char) : Option (List Char) :=
  search (fun cs =>
    match " -> ".toList.isPrefixOf? cs with
    | some (c :: rest) => if (c :: rest).contains '\n' then none else some (c :: rest)
    | _ => none) message

/-- Splits a text at its first arrow. -/
def splitAtArrow? : List Char → Option (List Char × List Char)
  | [] => none
  | c :: cs =>
    match " -> ".toList.isPrefixOf? (c :: cs) with
    | some rest => some ([], rest)
    | none => (splitAtArrow? cs).map fun (front, rest) => (c :: front, rest)

/-- The old and the new parent in a message of the routing layer. -/
def preferredParents? (message : List Char) : Option (List Char × List Char) :=
  search (fun cs =>
    match Shape.read [.text "rpl_set_preferred_parent: used to be ", .word, .text " now is ", .word]
        cs with
    | some ([old, new], _) =>
      match old.reverse with
      | ',' :: c :: front => some ((c :: front).reverse, new)
      | _ => none
    | _ => none) message

/-- The old and the new parent in a message about a parent switch: an arrow stands between them, and
both are on one line. -/
def switchedParents? (message : List Char) : Option (List Char × List Char) :=
  search (fun cs =>
    match " parent switch: ".toList.isPrefixOf? cs with
    | some (c :: rest) =>
      if (c :: rest).contains '\n' then none
      else
        match splitAtArrow? rest with
        | some (front, d :: new) => some (c :: front, d :: new)
        | _ => none
    | _ => none) message

/-- The digits of a packet number and, if they follow, of the sender. -/
def sentHere? (cs : List Char) : Option (List Char × Option (List Char)) :=
  match Shape.read [.text "app generate packet seqnum=", .digits] cs with
  | some ([seqnum], rest) =>
    match Shape.read [.text " node_id=", .digits] rest with
    | some ([label], _) => some (seqnum, some label)
    | _ => some (seqnum, none)
  | _ => none

/-- The digits of the packet number and, if the message has them, of the sender. -/
def sentDigits? (message : List Char) : Option (List Char × Option (List Char)) := search sentHere? message

/-- The digits of a packet number and the address of the sender. -/
def receivedHere? (cs : List Char) : Option (List Char × List Char) :=
  match Shape.read [.text "app receive packet seqnum=", .digits, .text " from=", .word] cs with
  | some ([seqnum, sender], _) => some (seqnum, sender)
  | _ => none

/-- The digits of the packet number and the address of the sender. -/
def receivedParts? (message : List Char) : Option (List Char × List Char) := search receivedHere? message

/-- The digits of the four link counters, in order, and the neighbour. -/
def linkParts? (message : List Char) : Option (List (List Char) × List Char) :=
  search (fun cs =>
    match Shape.read [.text "num packets: tx=", .digits, .text " ack=", .digits, .text " rx=",
        .digits, .text " queue_drops=", .digits, .text " to=", .word] cs with
    | some ([tx, ack, rx, drops, neighbour], _) => some ([tx, ack, rx, drops], neighbour)
    | _ => none) message

/-- The digits of the length of a period. -/
def periodDigits? (message : List Char) : Option (List Char) :=
  search (fun cs =>
    match Shape.read [.text "Period summary #", .digits, .text " (", .digits, .text " second",
        .oneOf ["s", ""] false, .text ")"] cs with
    | some ([_, seconds], _) => some seconds
    | _ => none) message

/-- The digits of the ticks of a period. -/
def totalDigits? (message : List Char) : Option (List Char) :=
  search (fun cs =>
    match Shape.read [.text "Total time", .blanks, .text ":", .blanks, .digits] cs with
    | some ([ticks], _) => some ticks
    | _ => none) message

/-- The label of a state and what stands where its ticks should. -/
def componentParts? (message : List Char) : Option (List Char × List Char) :=
  search (fun cs =>
    match Shape.read [.oneOf ["CPU", "Deep LPM", "LPM", "Radio Tx", "Radio Rx"] true, .blanks,
        .text ":", .blanks, .run (fun c => !isBlank c && c != '/') 0 true] cs with
    | some ([label, ticks], _) => some (label, ticks)
    | _ => none) message

/-- The state that a label of the energy accounting stands for. -/
def component (mapping : LpmMapping) (label : List Char) : Component :=
  match String.ofList label, mapping with
  | "CPU", _ => .cpuOn
  | "LPM", .lpmIsDeepSleep => .cpuDeepSleep
  | "LPM", .lpmIsSleep => .cpuSleep
  | "Deep LPM", .lpmIsDeepSleep => .cpuSleep
  | "Deep LPM", .lpmIsSleep => .cpuDeepSleep
  | "Radio Tx", _ => .radioTx
  | _, _ => .radioRx

/-- Takes the value that is there, or reports the defect. -/
def need {β : Type} (defect : Defect) : Option β → Except Defect β
  | some b => .ok b
  | none => .error defect

/-- Reads a line of the energy accounting. Labels without accounted ticks are ignored. -/
def readEnergest (mapping : LpmMapping) (message : List Char) : Except Defect Message :=
  if occurs "Period".toList message then
    (need .period ((periodDigits? message).bind Number.counter?)).map fun seconds =>
      event (.energest (.period seconds))
  else if occurs "Total time".toList message then
    (need .total ((totalDigits? message).bind Number.counter?)).map fun ticks =>
      event (.energest (.total ticks))
  else
    match componentParts? message with
    | none => .ok ignored
    | some (label, ticks) =>
      (need .ticks (Number.counter? ticks)).map fun ticks =>
        event (.energest (.spent (component mapping label) ticks))

/-- Reads a message of a family. -/
def read (mapping : LpmMapping) (message : List Char) : Family → Except Defect Message
  | .association => .ok (event .associated)
  | .leavingNetwork => .ok (event .left)
  | .leftNetwork => .ok (event .leftNetwork)
  | .linkTraffic => .ok ignored
  | .timeSource => do
    let target ← need .timeSource (arrowTarget? message)
    return event (.timeSourceUpdated (Address.ofText? target))
  | .parentLladdr => do
    let target ← need .parentLladdr (arrowTarget? message)
    return event (.parentLladdrUpdated (Address.ofText? target))
  | .parentChange => do
    let (old, new) ← need .parents
      (match preferredParents? message with
      | some parents => some parents
      | none => switchedParents? message)
    return event (.parentChanged (Address.ofText? old) (Address.ofText? new))
  | .appSent => do
    let (digits, label) ← need .seqnum (sentDigits? message)
    let seqnum ← need .seqnumRange (Number.short? digits)
    return sent seqnum (label.bind Number.short?)
  | .appReceived => do
    let (digits, sender) ← need .seqnumOrSender (receivedParts? message)
    let seqnum ← need .seqnumRange (Number.short? digits)
    let label ← need .sender (Address.node? sender)
    return received seqnum label
  | .linkStats => do
    let (digits, neighbour) ← need .counters (linkParts? message)
    match digits.map Number.counter? with
    | [some tx, some ack, some rx, some drops] =>
      return event (.linkStats ⟨tx, ack, rx, drops⟩ (String.ofList neighbour))
    | _ => throw .counterRange
  | .energest => readEnergest mapping message

end Message

end MeshTrace
