import ExLibp2p.Data.Dict
import ExLibp2p.Data.Machine
import ExLibp2p.Erlang.Term
import ExLibp2p.Telemetry

namespace ExLibp2p.Telemetry.Counters

open ExLibp2p.Data ExLibp2p.Erlang

/-! The counter store. It keeps the id of its telemetry handler in the map of
the counters. -/

inductive ResultTag
  | ok
  | error
  | unknown
  deriving DecidableEq

def ResultTag.atom : ResultTag → String
  | .ok => "ok"
  | .error => "error"
  | .unknown => "unknown"

inductive Key
  | handlerId
  | counter (event : Event) (result : ResultTag)
  deriving DecidableEq

inductive Value
  | nil
  | text (content : String)
  | integer (value : Nat)
  deriving DecidableEq

/-- `&(&1 + 1)`, which raises on anything but a number. -/
def Value.increment? : Value → Option Value
  | .integer value => some (.integer (value + 1))
  | _ => none

structure State where
  counts : Dict Key Value
  attached : Bool

inductive Effect
  | attachMany (handlerId : String) (events : List Event)
  | trapExit
  | detach (handlerId : String)
  deriving DecidableEq

def handlerId (uniqueInteger : Nat) : String :=
  "ex_libp2p_counters_" ++ toString uniqueInteger

def init (uniqueInteger : Nat) : List Effect × State :=
  let id := handlerId uniqueInteger
  ([.attachMany id eventNames, .trapExit],
    { counts := AList.singleton .handlerId (.text id), attached := true })

/-- A map by its pairs, whose keys are distinct. -/
abbrev Metadata := List (Term × Term)

/-- `Map.get(metadata, :result)` -/
def Metadata.result (metadata : Metadata) : Option Term :=
  metadata.findSome? fun pair =>
    match pair.1 with
    | .atom "result" => some pair.2
    | _ => none

def resultTag (metadata : Metadata) : ResultTag :=
  match metadata.result with
  | some (.atom "ok") => .ok
  | some (.atom "error") => .error
  | _ => .unknown

inductive Cast
  | increment (event : Event) (result : ResultTag)
  | unknown

def handleEvent (event : Event) (metadata : Metadata) : Cast :=
  .increment event (resultTag metadata)

def handleCast (state : State) : Cast → Option State
  | .increment event result =>
      let key := .counter event result
      match state.counts.lookup key with
      | none =>
          some { state with counts := state.counts.insert key (.integer 1) }
      | some value =>
          value.increment?.map fun value =>
            { state with counts := state.counts.insert key value }
  | .unknown => some state

inductive Call
  | snapshot
  | reset
  | sync
  | unknown

inductive Reply
  | counts (counts : Dict Key Value)
  | ok
  | unknownCall

def userCounts (state : State) : Dict Key Value :=
  Dict.retain (fun key _ => decide (key ≠ .handlerId)) state.counts

def handleCall (state : State) : Call → Reply × State
  | .snapshot => (.counts (userCounts state), state)
  | .reset =>
      let id := (state.counts.lookup .handlerId).getD .nil
      (.ok, { state with counts := AList.singleton .handlerId id })
  | .sync => (.ok, state)
  | .unknown => (.unknownCall, state)

def terminate (state : State) : List Effect :=
  match state.counts.lookup .handlerId with
  | some (.text id) => [.detach id]
  | _ => []

end ExLibp2p.Telemetry.Counters
