import ExLibp2p.Node.Ops

namespace ExLibp2p

open ExLibp2p.Data
open ExLibp2p.Erlang

/-! What the client functions see of a call to a node, `call.ex` and
`node/result.ex`. -/

def PeerId.toTerm (peerId : PeerId) : Term :=
  .map [(.atom "__struct__", .atom "Elixir.ExLibp2p.PeerId"),
    (.atom "id", .binary peerId.id)]

def Node.Reply.toTerm : Node.Reply → Term
  | .term value => value
  | .okPeerId peerId => .ok peerId.toTerm
  | .okPeers peers => .ok (.list (peers.map PeerId.toTerm))

namespace Call

/-- How `GenServer.call` ends. It raises where it is not given a server. -/
inductive Outcome
  | replied (value : Term)
  | exited (reason : Term)
  | raised (exception : Exception)

def nodeUnavailable (reason : Term) : Term :=
  .error (.tuple [.atom "node_unavailable", reason])

def safeCall : Outcome → Except Exception Term
  | .replied value => .ok value
  | .exited reason => .ok (nodeUnavailable reason)
  | .raised exception => .error exception

end Call

namespace Node.Result

inductive Tag
  | ok
  | error
  | unknown
  deriving DecidableEq

def tag : Term → Tag
  | .atom "ok" => .ok
  | .tuple [.atom "ok", _] => .ok
  | .tuple [.atom "error", _] => .error
  | _ => .unknown

def Tag.toTerm : Tag → Term
  | .ok => .atom "ok"
  | .error => .atom "error"
  | .unknown => .atom "unknown"

end Node.Result

end ExLibp2p
