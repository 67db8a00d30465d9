import MeshTrace.Trace.Message

namespace MeshTrace

/-- The characters that addresses are printed with. -/
def isAddressChar (c : Char) : Bool :=
  c.isDigit || ('a' ≤ c && c ≤ 'f') || ('A' ≤ c && c ≤ 'F') || c = ':' || c = '.'

/-- A printed address. -/
structure IsAddress (cs : List Char) : Prop where
  nonempty : cs ≠ []
  chars : ∀ c ∈ cs, isAddressChar c = true

/-- A printed address whose last group is the number of a node: in hexadecimal digits of either letter
case, with or without zeros in front. -/
structure IsAddressOf (id : NodeId) (cs : List Char) : Prop where
  chars : ∀ c ∈ cs, isAddressChar c = true
  group : ∃ (network group : List Char) (zeros : Nat), cs = network ++ group ∧
    (network = [] ∨ network.getLast? = some ':') ∧ ':' ∉ group ∧
    group.map Char.toLower = List.replicate zeros '0' ++ Nat.toDigits 16 id

/-- The labels of the states in the energy accounting. -/
inductive EnergyLabel
  | cpu
  | lpm
  | deepLpm
  | radioTx
  | radioRx
  deriving DecidableEq, Repr

namespace EnergyLabel

def text : EnergyLabel → String
  | cpu => "CPU"
  | lpm => "LPM"
  | deepLpm => "Deep LPM"
  | radioTx => "Radio Tx"
  | radioRx => "Radio Rx"

/-- The state that the label stands for. -/
def component : LpmMapping → EnergyLabel → Component
  | _, cpu => .cpuOn
  | .lpmIsDeepSleep, lpm => .cpuDeepSleep
  | .lpmIsSleep, lpm => .cpuSleep
  | .lpmIsDeepSleep, deepLpm => .cpuSleep
  | .lpmIsSleep, deepLpm => .cpuDeepSleep
  | _, radioTx => .radioTx
  | _, radioRx => .radioRx

end EnergyLabel

/-- A message of the firmware, with all that it mentions. -/
inductive Entry
  | associated (count : Nat)
  | left (tx rx sync : Nat)
  | leftNetwork
  | timeSource (old new : Option Address)
  /-- With or without the name of the function that prints it. -/
  | parentLladdr (callback : Bool) (new : Option Address)
  | preferredParent (old new : Option Address)
  | parentSwitch (old new : Option Address)
  /-- With or without the number that the application gives to the node. -/
  | packetSent (seqnum : Seqnum) (label : Option Nat)
  | packetReceived (seqnum : Seqnum) (sender : NodeId) (address : Address)
  | linkStats (counters : LinkCounters) (neighbour : Address)
  | period (number seconds : Nat)
  /-- With so many spaces before and after the colon. -/
  | total (before after ticks : Nat)
  /-- With so many spaces before and after the colon, and after the slash. -/
  | spent (label : EnergyLabel) (before after ticks gap whole permil : Nat)

namespace Entry

def decimal (n : Nat) : List Char := Nat.toDigits 10 n

def spaces (n : Nat) : List Char := List.replicate n ' '

/-- An address, or what is printed where there is none. -/
def addressText (missing : String) : Option Address → List Char
  | some address => address.toList
  | none => missing.toList

/-- The layer that prints the message. -/
def tag : Entry → String
  | associated _ | left _ _ _ => "[INFO: TSCH      ] "
  | timeSource _ _ => "[INFO: TSCH Queue] "
  | leftNetwork | parentLladdr _ _ | preferredParent _ _ | parentSwitch _ _ => "[INFO: RPL       ] "
  | packetSent _ _ | packetReceived _ _ _ => "[INFO: App       ] "
  | linkStats _ _ => "[INFO: Link Stats] "
  | period _ _ | total _ _ _ | spent _ _ _ _ _ _ _ => "[INFO: Energest  ] "

/-- The message without its tag, in parts. -/
def parts : Entry → List (List Char)
  | associated count => ["association done (".toList, decimal count, ")".toList]
  | left tx rx sync =>
    ["leaving the network, stats: tx ".toList, decimal tx, ", rx ".toList, decimal rx, ", sync ".toList, decimal sync]
  | leftNetwork => ["rpl callback: node has left the network".toList]
  | timeSource old new =>
    ["update time source: ".toList, addressText "(NULL LL addr)" old, " -> ".toList, addressText "(NULL LL addr)" new]
  | parentLladdr callback new =>
    [(if callback then "rpl callback: new parent lladdr" else "new parent lladdr").toList, " -> ".toList,
      addressText "(NULL LL addr)" new]
  | preferredParent old new =>
    ["rpl_set_preferred_parent: used to be ".toList, addressText "NULL" old, ",".toList, " now is ".toList,
      addressText "NULL" new]
  | parentSwitch old new =>
    ["parent switch: ".toList, addressText "(NULL IP addr)" old, " -> ".toList, addressText "(NULL IP addr)" new]
  | packetSent seqnum none => ["app generate packet seqnum=".toList, decimal seqnum]
  | packetSent seqnum (some label) =>
    ["app generate packet seqnum=".toList, decimal seqnum, " node_id=".toList, decimal label]
  | packetReceived seqnum _ address =>
    ["app receive packet seqnum=".toList, decimal seqnum, " from=".toList, address.toList]
  | linkStats counters neighbour =>
    ["num packets: tx=".toList, decimal counters.tx, " ack=".toList, decimal counters.ack, " rx=".toList,
      decimal counters.rx, " queue_drops=".toList, decimal counters.queueDrops, " to=".toList, neighbour.toList]
  | period number seconds =>
    ["--- ".toList, "Period summary #".toList, decimal number, " (".toList, decimal seconds, " second".toList,
      "s".toList, ")".toList]
  | total before after ticks => ["Total time".toList, spaces before, ":".toList, spaces after, decimal ticks]
  | spent label before after ticks gap whole permil =>
    [label.text.toList, spaces before, ":".toList, spaces after, decimal ticks, "/".toList, spaces gap,
      decimal whole, " (".toList, decimal permil, " permil)".toList]

/-- The message as it is printed. -/
def text (e : Entry) : List Char := e.tag.toList ++ e.parts.flatten

/-- The event that the message reports. -/
def kind (mapping : LpmMapping) : Entry → EventKind
  | associated _ => .associated
  | left _ _ _ => .left
  | leftNetwork => .leftNetwork
  | timeSource _ new => .timeSourceUpdated new
  | parentLladdr _ new => .parentLladdrUpdated new
  | preferredParent old new => .parentChanged old new
  | parentSwitch old new => .parentChanged old new
  | packetSent seqnum _ => .packetSent seqnum
  | packetReceived seqnum sender _ => .packetReceived seqnum sender
  | linkStats counters neighbour => .linkStats counters neighbour
  | period _ seconds => .energest (.period seconds)
  | total _ _ ticks => .energest (.total ticks)
  | spent label _ _ ticks _ _ _ => .energest (.spent (label.component mapping) ticks)

/-- The values that the firmware can print: numbers of thirty-two bits, counters of sixty-four bits and
addresses. -/
def Fits : Entry → Prop
  | associated _ | left _ _ _ | leftNetwork => True
  | timeSource old new | preferredParent old new | parentSwitch old new =>
    (∀ address ∈ old, IsAddress address.toList) ∧ ∀ address ∈ new, IsAddress address.toList
  | parentLladdr _ new => ∀ address ∈ new, IsAddress address.toList
  | packetSent seqnum _ => seqnum < 0x100000000
  | packetReceived seqnum sender address =>
    seqnum < 0x100000000 ∧ sender < 0x100000000 ∧ IsAddressOf sender address.toList
  | linkStats counters neighbour =>
    counters.tx < 0x10000000000000000 ∧ counters.ack < 0x10000000000000000 ∧
      counters.rx < 0x10000000000000000 ∧ counters.queueDrops < 0x10000000000000000 ∧
      IsAddress neighbour.toList
  | period _ seconds => seconds < 0x10000000000000000
  | total _ _ ticks => ticks < 0x10000000000000000
  | spent _ _ _ ticks _ _ _ => ticks < 0x10000000000000000

end Entry

end MeshTrace
