import Mathlib.Data.Nat.Notation

namespace ExLibp2p.Telemetry

/-! The catalog of telemetry events. An atom is given by its text. -/

abbrev Event := List String

def spanEvents : List Event :=
  [["ex_libp2p", "node", "dial"], ["ex_libp2p", "gossipsub", "publish"]]

def executeEvents : List Event :=
  [["ex_libp2p", "gossipsub", "subscribe"],
    ["ex_libp2p", "gossipsub", "unsubscribe"],
    ["ex_libp2p", "health", "check"],
    ["ex_libp2p", "health", "check_failed"]]

def spanSuffixes : List String :=
  ["start", "stop", "exception"]

def eventNames : List Event :=
  let spanExpanded := spanEvents.flatMap fun event =>
    spanSuffixes.map fun suffix => event ++ [suffix]
  spanExpanded ++ executeEvents

end ExLibp2p.Telemetry
