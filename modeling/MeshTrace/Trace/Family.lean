import MeshTrace.Text.Search

namespace MeshTrace

/-- The kinds of messages that are recognised by a marker in their text. -/
inductive Family
  | association
  | leavingNetwork
  | timeSource
  /-- Single frames, which the link counters sum up. -/
  | linkTraffic
  | parentChange
  | parentLladdr
  | leftNetwork
  | appSent
  | appReceived
  | linkStats
  | energest
  deriving DecidableEq, Repr

namespace Family

/-- The name in messages to the user. -/
def name : Family → String
  | association => "Association"
  | leavingNetwork => "LeavingNetwork"
  | timeSource => "TimeSource"
  | linkTraffic => "LinkTraffic"
  | parentChange => "ParentChange"
  | parentLladdr => "ParentLladdr"
  | leftNetwork => "LeftNetwork"
  | appSent => "AppSent"
  | appReceived => "AppReceived"
  | linkStats => "LinkStats"
  | energest => "Energest"

/-- The markers; of several in one message the first of this list counts. -/
def markers : List (String × Family) :=
  [("association done", association),
    ("leaving the network", leavingNetwork),
    ("update time source", timeSource),
    ("sending to", linkTraffic),
    ("send packet to", linkTraffic),
    ("received packet from", linkTraffic),
    ("received from", linkTraffic),
    ("rpl_set_preferred_parent", parentChange),
    (" parent switch: ", parentChange),
    ("new parent lladdr", parentLladdr),
    ("node has left the network", leftNetwork),
    ("app generate packet", appSent),
    ("app receive packet", appReceived),
    ("num packets", linkStats),
    ("INFO: Energest", energest)]

/-- The family of a message, if it has a marker. -/
def ofMessage? (message : List Char) : Option Family :=
  (markers.find? fun entry => Text.occurs entry.1.toList message).map (·.2)

end Family

end MeshTrace
