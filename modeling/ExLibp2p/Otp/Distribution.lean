import ExLibp2p.Erlang.Term

namespace ExLibp2p.Otp

open ExLibp2p.Data
open ExLibp2p.Erlang

/-! Message passing to registered processes of `distribution.ex`. -/

abbrev Pid := Nat

inductive CallOutcome
  | reply (value : Term)
  | exit (reason : Term)

/-- What the virtual machine and the local processes do while one request is
handled. `binary_to_term` with `:safe` returns or raises `ArgumentError`, a
lookup through a registry module may raise anything, and `GenServer.call`
returns or exits. -/
structure Runtime where
  binaryToTerm : Bytes → Option Term
  termToBinary : Term → Bytes
  whereis : String → Option Pid
  whereisVia : Term → Term → Except Exception (Option Pid)
  call : Pid → Term → CallOutcome
  inspect : Term → String

inductive DecodeError
  | invalidMessage
  | payloadTooLarge
  | invalidInput
  deriving DecidableEq

def DecodeError.reason : DecodeError → Term
  | .invalidMessage => .atom "invalid_message"
  | .payloadTooLarge => .atom "payload_too_large"
  | .invalidInput => .atom "invalid_input"

inductive Effect
  | call (pid : Pid) (message : Term)
  | cast (pid : Pid) (message : Term)
  | send (pid : Pid) (message : Term)
  | sendResponse (channelId response : Bytes)

namespace Distribution

def maxPayloadBytes : Nat := 1048576

variable (runtime : Runtime)

def encode (term : Term) : Bytes :=
  runtime.termToBinary term

def decode : Term → Except DecodeError Term
  | .binary binary =>
      if binary.length > maxPayloadBytes then
        .error .payloadTooLarge
      else
        match runtime.binaryToTerm binary with
        | some term => .ok term
        | none => .error .invalidMessage
  | _ => .error .invalidInput

def whereis : Term → Except Exception (Option Pid)
  | .atom name => .ok (runtime.whereis name)
  | .tuple [.atom "via", registry, key] => runtime.whereisVia registry key
  | name => .error (.functionClauseError "Distribution.whereis/1" name)

def safeCall (pid : Pid) (message : Term) : Except Term Term :=
  match runtime.call pid message with
  | .reply value => .ok value
  | .exit (.tuple [.atom "noproc", _]) => .error (.atom "noproc")
  | .exit (.tuple [.atom "timeout", _]) => .error (.atom "timeout")
  | .exit reason =>
      .error (.tuple [.atom "exit", .text (runtime.inspect reason)])

def reply (value : Term) : Term :=
  .tuple [.atom "reply", value]

/-- The effects on local processes, and the encoded response. -/
def handleRemoteRequest : Term → Except Exception (List Effect × Bytes)
  | .tuple [.atom "call", name, message] => do
      match ← whereis runtime name with
      | none => return ([], encode runtime (.error (.atom "noproc")))
      | some pid =>
          let response :=
            match safeCall runtime pid message with
            | .ok value => reply value
            | .error reason => .error reason
          return ([.call pid message], encode runtime response)
  | .tuple [.atom "cast", name, message] => do
      let pid ← whereis runtime name
      return ((pid.map fun pid => Effect.cast pid message).toList,
        encode runtime (reply (.atom "ok")))
  | .tuple [.atom "send", name, message] => do
      let pid ← whereis runtime name
      return ((pid.map fun pid => Effect.send pid message).toList,
        encode runtime (reply (.atom "ok")))
  | _ => return ([], encode runtime (.error (.atom "unknown_request")))

def callResult (responseData : Term) : Except Exception (Except Term Term) :=
  match decode runtime responseData with
  | .ok (.tuple [.atom "reply", value]) => .ok (.ok value)
  | .ok (.tuple [.atom "error", reason]) => .ok (.error reason)
  | .ok other => .error (.caseClauseError (.ok other))
  | .error _ => .ok (.error (.atom "invalid_response"))

end Distribution

end ExLibp2p.Otp
