import ExLibp2p.Call
import ExLibp2p.Data.Tally

namespace ExLibp2p.Health

open ExLibp2p.Data
open ExLibp2p.Erlang
open ExLibp2p.Call

/-! The periodic check of `health.ex`. -/

def defaultInterval : Nat := 30000

structure State where
  node : Term
  interval : Nat
  consecutiveFailures : Nat

inductive TelemetryEvent
  | check (connectedPeers : Nat) (peerId : Term)
  | checkFailed (consecutiveFailures : Nat) (reason : Term)

inductive Effect
  | execute (event : TelemetryEvent)
  | sendAfter (interval : Nat)

/-- `Process.send_after/3` takes a time that is not negative. -/
def scheduleCheck : Term → Except Exception Nat
  | .integer (.ofNat interval) => .ok interval
  | interval => .error (.argumentError "send_after" interval)

def init (opts : List (String × Term)) :
    Except Exception (List Effect × State) := do
  match opts.lookup "node" with
  | none => throw (.keyError "node")
  | some node =>
      let interval ← scheduleCheck
        ((opts.lookup "interval").getD (.integer defaultInterval))
      return ([.sendAfter interval], { node, interval, consecutiveFailures := 0 })

inductive Query
  | peerId
  | connectedPeers
  | listeningAddrs
  deriving DecidableEq

def Query.message : Query → Term
  | .peerId => .atom "peer_id"
  | .connectedPeers => .atom "connected_peers"
  | .listeningAddrs => .atom "listening_addrs"

structure Status where
  peerId : Term
  connectedPeers : Term
  listeningAddrs : Term

def asOk : Term → Except Term Term
  | .tuple [.atom "ok", value] => .ok value
  | other => .error other

/-- The outer result is that of the function, which may raise. What does not
match a clause of the `with` is returned as it is. -/
def collectStatus (answers : Query → Outcome) :
    Except Exception (Except Term Status) := do
  match asOk (← safeCall (answers .peerId)) with
  | .error other => return .error other
  | .ok peerId =>
      match asOk (← safeCall (answers .connectedPeers)) with
      | .error other => return .error other
      | .ok connectedPeers =>
          match asOk (← safeCall (answers .listeningAddrs)) with
          | .error other => return .error other
          | .ok listeningAddrs =>
              return .ok { peerId, connectedPeers, listeningAddrs }

def length : Term → Except Exception Nat
  | .nil => .ok 0
  | .cons _ tail => return (← length tail) + 1
  | other => .error (.argumentError "length" other)

def handleCall (answers : Query → Outcome) (state : State) :
    Term → Except Exception (Except Term Status × State)
  | .atom "check" => do
      let status ← collectStatus answers
      return (status, state)
  | other => throw (.functionClauseError "Health.handle_call/3" other)

def checked (answers : Query → Outcome) (state : State) :
    Except Exception (TelemetryEvent × State) := do
  match ← collectStatus answers with
  | .ok status =>
      let connectedPeers ← length status.connectedPeers
      return (.check connectedPeers status.peerId,
        { state with consecutiveFailures := 0 })
  | .error (.tuple [.atom "error", reason]) =>
      let failures := state.consecutiveFailures + 1
      return (.checkFailed failures reason,
        { state with consecutiveFailures := failures })
  | .error other => throw (.caseClauseError other)

def handleInfo (answers : Query → Outcome) (state : State) :
    Term → Except Exception (List Effect × State)
  | .atom "check" => do
      let (event, next) ← checked answers state
      return ([.execute event, .sendAfter next.interval], next)
  | other => throw (.functionClauseError "Health.handle_info/2" other)

inductive Message
  | call (request : Term)
  | info (message : Term)

structure System where
  server : Option State
  timers : Nat
  mailbox : List Message

/-- A timer runs out, somebody sends a message, or the process takes the
oldest message while the node answers as given. -/
inductive Input
  | expire
  | send (message : Message)
  | handle (answers : Query → Outcome)

inductive Output
  | done
  | replied (status : Except Term Status)
  | performed (effects : List Effect)
  | crashed (message : Message) (exception : Exception)

namespace System

def crash (system : System) (rest : List Message) (message : Message)
    (exception : Exception) : System × Output :=
  ({ system with server := none, mailbox := rest },
    .crashed message exception)

def receive (system : System) (state : State) (rest : List Message)
    (answers : Query → Outcome) : Message → System × Output
  | .call request =>
      match handleCall answers state request with
      | .error exception => system.crash rest (.call request) exception
      | .ok (status, next) =>
          ({ system with server := some next, mailbox := rest },
            .replied status)
  | .info message =>
      match handleInfo answers state message with
      | .error exception => system.crash rest (.info message) exception
      | .ok (effects, next) =>
          let timers := effects.countP fun
            | .sendAfter _ => true
            | .execute _ => false
          ({ server := some next, timers := system.timers + timers,
              mailbox := rest }, .performed effects)

end System

def step (system : System) : Input → Option (System × Output)
  | .expire =>
      if 0 < system.timers then
        some ({ system with
          timers := system.timers - 1
          mailbox := system.mailbox ++ [.info (.atom "check")] }, .done)
      else
        none
  | .send message =>
      some ({ system with mailbox := system.mailbox ++ [message] }, .done)
  | .handle answers =>
      match system.server, system.mailbox with
      | some state, message :: rest =>
          some (system.receive state rest answers message)
      | _, _ => none

def health (node : Term) (interval : Nat) : Machine System Input Output where
  init :=
    { server := some { node, interval, consecutiveFailures := 0 }
      timers := 1
      mailbox := [] }
  step := step

/-- What `init/1` leaves is the first state, with its timer running. -/
theorem health_of_init {opts : List (String × Term)} {effects : List Effect}
    {state : State} (started : init opts = .ok (effects, state)) :
    effects = [.sendAfter state.interval] ∧
      (health state.node state.interval).init =
        { server := some state, timers := effects.length, mailbox := [] } := by
  unfold init at started
  split at started
  · cases started
  · rename_i node isNode
    obtain ⟨interval, isInterval, same⟩ := bind_eq_ok.mp started
    cases same
    exact ⟨rfl, rfl⟩

end ExLibp2p.Health
