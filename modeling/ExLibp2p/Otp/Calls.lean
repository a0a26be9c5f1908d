import ExLibp2p.Data.Machine
import ExLibp2p.Otp.Distribution
import ExLibp2p.PeerId

namespace ExLibp2p.Otp.Calls

open ExLibp2p.Data
open ExLibp2p.Erlang
open ExLibp2p.Otp.Distribution

/-! The callers of `Distribution.call/5`, `cast/4` and `send/4` on one node,
with the responses that the registry delivers to their mailboxes. -/

/-- The fields of `%OutboundResponse{}` that matter here. -/
structure Response where
  requestId : String
  data : Term

/-- One process: the responses in its mailbox, oldest first, and the request
of the call in which it blocks. -/
structure Process where
  mailbox : List Response
  waiting : Option String

structure System where
  registered : List Pid
  issued : List String
  answered : List String
  processes : Pid → Process

inductive Operation
  | call
  | cast
  | send
  deriving DecidableEq

def Operation.tag : Operation → String
  | .call => "call"
  | .cast => "cast"
  | .send => "send"

structure Request where
  operation : Operation
  peer : PeerId
  name : String
  message : Term

def Request.payload (runtime : Runtime) (request : Request) : Bytes :=
  encode runtime (.tuple [.atom request.operation.tag, .atom request.name,
    request.message])

/-- What can happen next. `send_request` returns an identifier or fails, and
between two operations a process may take a response out of its mailbox
itself. -/
inductive Input
  | register (pid : Pid)
  | unregister (pid : Pid)
  | request (pid : Pid) (request : Request) (sent : Option String)
  | respond (requestId : String) (data : Term)
  | receive (pid : Pid)
  | timeout (pid : Pid)
  | discard (pid : Pid)

inductive Output
  | done
  | sent (peer : PeerId) (payload : Bytes)
  | unreachable (pid : Pid)
  | timedOut (pid : Pid)
  | returned (pid : Pid) (own consumed : String)
      (result : Except Exception (Except Term Term))

def System.init : System where
  registered := []
  issued := []
  answered := []
  processes := fun _ => { mailbox := [], waiting := none }

def System.put (system : System) (pid : Pid) (process : Process) : System :=
  { system with
    processes := fun other =>
      if other = pid then process else system.processes other }

/-- The registry sends a response to every registered process. -/
def System.deliver (system : System) (response : Response) : System :=
  { system with
    answered := response.requestId :: system.answered
    processes := fun pid =>
      let process := system.processes pid
      if pid ∈ system.registered then
        { process with mailbox := process.mailbox ++ [response] }
      else
        process }

/-- A request of a process that is not blocked. Only a call waits. -/
def System.request (runtime : Runtime) (system : System) (pid : Pid)
    (request : Request) : Option String → System × Output
  | none =>
      (system, if request.operation = .call then .unreachable pid else .done)
  | some requestId =>
      let process := system.processes pid
      let sent := { system with issued := requestId :: system.issued }
      (if request.operation = .call then
          sent.put pid { process with waiting := some requestId }
        else
          sent,
        .sent request.peer (request.payload runtime))

/-- The identifiers that libp2p issues are new, each request gets at most one
response, and the `after` clause fires only when no response is queued. -/
def step (runtime : Runtime) (system : System) :
    Input → Option (System × Output)
  | .register pid =>
      some ({ system with registered := pid :: system.registered.erase pid },
        .done)
  | .unregister pid =>
      some ({ system with registered := system.registered.erase pid }, .done)
  | .request pid request sent =>
      if (system.processes pid).waiting = none ∧
          ∀ requestId ∈ sent, requestId ∉ system.issued then
        some (system.request runtime pid request sent)
      else
        none
  | .respond requestId data =>
      if requestId ∈ system.issued ∧ requestId ∉ system.answered then
        some (system.deliver { requestId, data }, .done)
      else
        none
  | .receive pid =>
      -- the pattern takes the first response, whatever its request
      match system.processes pid with
      | { mailbox := response :: rest, waiting := some own } =>
          some (system.put pid { mailbox := rest, waiting := none },
            .returned pid own response.requestId
              (callResult runtime response.data))
      | _ => none
  | .timeout pid =>
      match system.processes pid with
      | { mailbox := [], waiting := some _ } =>
          some (system.put pid { mailbox := [], waiting := none },
            .timedOut pid)
      | _ => none
  | .discard pid =>
      match system.processes pid with
      | { mailbox := _ :: rest, waiting := none } =>
          some (system.put pid { mailbox := rest, waiting := none }, .done)
      | _ => none

def calls (runtime : Runtime) : Machine System Input Output where
  init := System.init
  step := step runtime

end ExLibp2p.Otp.Calls
