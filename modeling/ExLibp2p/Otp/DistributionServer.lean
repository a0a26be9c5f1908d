import ExLibp2p.Data.Machine
import ExLibp2p.Otp.Distribution

namespace ExLibp2p.Otp.DistributionServer

open ExLibp2p.Data
open ExLibp2p.Erlang
open ExLibp2p.Otp.Distribution

/-! The server of `distribution_server.ex`. Its state is the node and never
changes. -/

/-- What the callback tells apart: a message
`{:libp2p, :inbound_request, %InboundRequest{}}`, by the fields of the struct
that the server reads, and all others, which it ignores. -/
inductive Info
  | inboundRequest (channelId data : Term)
  | other

/-- `RequestResponse.send_response/3`, which takes binaries only. -/
def sendResponse (channelId : Term) (response : Bytes) :
    Except Exception Effect :=
  match channelId with
  | .binary channelId => .ok (.sendResponse channelId response)
  | other =>
      .error (.functionClauseError "RequestResponse.send_response/3" other)

def handleInfo (runtime : Runtime) : Info → Except Exception (List Effect)
  | .inboundRequest channelId data =>
      match decode runtime data with
      | .ok request => do
          let (effects, response) ← handleRemoteRequest runtime request
          return effects ++ [← sendResponse channelId response]
      | .error .invalidMessage => do
          let response := encode runtime (.error (.atom "invalid_message"))
          return [← sendResponse channelId response]
      | .error other => throw (.caseClauseError (.error other.reason))
  | .other => return []

structure InboundRequest where
  channelId : String
  data : Bytes

def InboundRequest.info (event : InboundRequest) : Info :=
  .inboundRequest (.text event.channelId) (.binary event.data)

/-! The process around the callback. The module has no `handle_call/3` and no
`handle_cast/2`, so that those of `use GenServer` stand. -/

inductive Message
  | info (message : Info)
  | call
  | cast
  | system (message : Term)

def field (key : String) (fields : List (Term × Term)) : Option Term :=
  fields.findSome? fun
    | (.atom name, value) => if name = key then some value else none
    | _ => none

/-- What a term is to the process that finds it in its mailbox. -/
def Message.ofTerm : Term → Message
  | .tuple [.atom "$gen_call", _, _] => .call
  | .tuple [.atom "$gen_cast", _] => .cast
  | .tuple [.atom "system", sender, request] =>
      .system (.tuple [.atom "system", sender, request])
  | .tuple [.atom "EXIT", sender, reason] =>
      .system (.tuple [.atom "EXIT", sender, reason])
  | .tuple [.atom "libp2p", .atom "inbound_request", .map fields] =>
      match field "__struct__" fields, field "channel_id" fields,
          field "data" fields with
      | some (.atom "Elixir.ExLibp2p.Node.Event.InboundRequest"),
          some channelId, some data => .info (.inboundRequest channelId data)
      | _, _, _ => .info .other
  | _ => .info .other

/-- The process of the server, and whether it goes on after a message that is
meant for OTP's own loop. -/
structure Process where
  pid : Pid
  goesOn : Term → Bool

inductive Outcome
  | handled (effects : List Effect)
  | raised (exception : Exception)
  | stopped

namespace Process

variable (process : Process)

def receive (runtime : Runtime) : Message → Outcome
  | .info message =>
      match handleInfo runtime message with
      | .ok effects => .handled effects
      | .error exception => .raised exception
  | .call => .raised (.runtimeError "no handle_call/3 clause was provided")
  | .cast => .raised (.runtimeError "no handle_cast/2 clause was provided")
  | .system message =>
      if process.goesOn message then .handled [] else .stopped

def ownMessage : Effect → Option Message
  | .cast pid message =>
      if pid = process.pid then
        some (.ofTerm (.tuple [.atom "$gen_cast", message]))
      else
        none
  | .send pid message =>
      if pid = process.pid then some (.ofTerm message) else none
  | _ => none

inductive Input
  | arrive (event : InboundRequest)
  | take (runtime : Runtime)

inductive Output
  | arrived
  | took (message : Message) (outcome : Outcome)

/-- The mailbox, as long as the process is there. Messages are taken in the
order in which they came, each under what the virtual machine does at its
time. -/
def step : Option (List Message) → Input →
    Option (Option (List Message) × Output)
  | none, .arrive _ => some (none, .arrived)
  | some mailbox, .arrive event =>
      some (some (mailbox ++ [.info event.info]), .arrived)
  | some (message :: mailbox), .take runtime =>
      match process.receive runtime message with
      | .handled effects =>
          some (some (mailbox ++ effects.filterMap process.ownMessage),
            .took message (.handled effects))
      | outcome => some (none, .took message outcome)
  | _, .take _ => none

def server : Machine (Option (List Message)) Input Output where
  init := some []
  step := process.step

end Process

def IsOperation (operation : String) : Prop :=
  operation = "call" ∨ operation = "cast" ∨ operation = "send"

def responses (effects : List Effect) : List (Bytes × Bytes) :=
  effects.filterMap fun
    | .sendResponse channelId response => some (channelId, response)
    | _ => none

/-- The process behind the name in a request, where there is one. -/
def target (runtime : Runtime) : Term → Option Pid
  | .atom name => runtime.whereis name
  | .tuple [.atom "via", registry, key] =>
      ((runtime.whereisVia registry key).toOption).join
  | _ => none

/-- The response that a request is owed: the reply of the process that a call
reached, an acknowledgement of a cast or a send, and an error with some reason
for everything else. -/
inductive Owed (runtime : Runtime) (data : Bytes) : Term → Prop
  | replied {name message value : Term} {pid : Pid}
      (request : runtime.binaryToTerm data =
        some (.tuple [.atom "call", name, message]))
      (reached : target runtime name = some pid)
      (answer : runtime.call pid message = .reply value) :
      Owed runtime data (.tuple [.atom "reply", value])
  | exited {name message reason : Term} {pid : Pid} (shown : Term)
      (request : runtime.binaryToTerm data =
        some (.tuple [.atom "call", name, message]))
      (reached : target runtime name = some pid)
      (answer : runtime.call pid message = .exit reason) :
      Owed runtime data (.error shown)
  | unreached {name message : Term} (shown : Term)
      (request : runtime.binaryToTerm data =
        some (.tuple [.atom "call", name, message]))
      (absent : target runtime name = none) :
      Owed runtime data (.error shown)
  | acknowledged {operation : String} {name message : Term}
      (isNotice : operation = "cast" ∨ operation = "send")
      (request : runtime.binaryToTerm data =
        some (.tuple [.atom operation, name, message])) :
      Owed runtime data (.tuple [.atom "reply", .atom "ok"])
  | malformed {request : Term} (shown : Term)
      (decoded : runtime.binaryToTerm data = some request)
      (other : ∀ operation name message, IsOperation operation →
        request ≠ .tuple [.atom operation, name, message]) :
      Owed runtime data (.error shown)
  | undecodable (shown : Term) (refused : runtime.binaryToTerm data = none) :
      Owed runtime data (.error shown)

/-- Exactly one response, on the channel of the request, with what is owed. -/
def Answered (runtime : Runtime) (channelId data : Term)
    (effects : List Effect) : Prop :=
  ∃ id bytes term, channelId = .binary id ∧ data = .binary bytes ∧
    responses effects = [(id, runtime.termToBinary term)] ∧
    Owed runtime bytes term

/-- Names that the lookup takes: atoms, and registry names whose lookup
returns. -/
def Resolvable (runtime : Runtime) : Term → Prop
  | .atom _ => True
  | .tuple [.atom "via", registry, key] =>
      ∃ pid, runtime.whereisVia registry key = .ok pid
  | _ => False

/-- The payload is within the limit, and a well-formed request names its
process by a resolvable name. -/
def Servable (runtime : Runtime) (data : Bytes) : Prop :=
  data.length ≤ maxPayloadBytes ∧
    ∀ operation name message, IsOperation operation →
      runtime.binaryToTerm data =
        some (.tuple [.atom operation, name, message]) →
          Resolvable runtime name

/-- What the process survives: requests that it can serve, and of the other
messages those that neither call nor cast nor stop it. -/
def Survivable (process : Process) (runtime : Runtime) : Message → Prop
  | .info (.inboundRequest channelId data) =>
      ∃ id bytes, channelId = .binary id ∧ data = .binary bytes ∧
        Servable runtime bytes
  | .info .other => True
  | .call => False
  | .cast => False
  | .system message => process.goesOn message = true

section Requests

variable {runtime : Runtime}

theorem whereis_eq_ok {name : Term} {pid : Option Pid} :
    whereis runtime name = .ok pid ↔
      Resolvable runtime name ∧ target runtime name = pid := by
  unfold Resolvable
  split
  · rename_i atom
    change Except.ok (runtime.whereis atom) = Except.ok pid ↔
      True ∧ runtime.whereis atom = pid
    simp
  · rename_i registry key
    change runtime.whereisVia registry key = .ok pid ↔
      _ ∧ (runtime.whereisVia registry key).toOption.join = pid
    cases runtime.whereisVia registry key with
    | error exception => simp
    | ok found => simp [Except.toOption]
  · rename_i notAtom notVia
    apply iff_of_false
    · rw [whereis]
      · intro impossible
        cases impossible
      · exact notAtom
      · exact notVia
    · exact And.left

theorem safeCall_of_reply {pid : Pid} {message value : Term}
    (answer : runtime.call pid message = .reply value) :
    safeCall runtime pid message = .ok value := by
  rw [safeCall, answer]

theorem safeCall_of_exit {pid : Pid} {message reason : Term}
    (answer : runtime.call pid message = .exit reason) :
    ∃ shown, safeCall runtime pid message = .error shown := by
  rw [safeCall, answer]
  split
  · contradiction
  · exact ⟨_, rfl⟩
  · exact ⟨_, rfl⟩
  · exact ⟨_, rfl⟩

theorem owed_of_safeCall {data : Bytes} {name message : Term} {pid : Pid}
    (decoded : runtime.binaryToTerm data =
      some (.tuple [.atom "call", name, message]))
    (reached : target runtime name = some pid) :
    Owed runtime data
      (match safeCall runtime pid message with
      | .ok value => reply value
      | .error reason => .error reason) := by
  cases answer : runtime.call pid message with
  | reply value =>
      rw [safeCall_of_reply answer]
      exact .replied decoded reached answer
  | exit reason =>
      obtain ⟨shown, failed⟩ := safeCall_of_exit answer
      rw [failed]
      exact .exited shown decoded reached answer

theorem handleRemoteRequest_of_resolvable {data : Bytes} {request : Term}
    (decoded : runtime.binaryToTerm data = some request)
    (resolvable : ∀ operation name message, IsOperation operation →
      request = .tuple [.atom operation, name, message] →
        Resolvable runtime name) :
    ∃ effects term,
      handleRemoteRequest runtime request =
        .ok (effects, runtime.termToBinary term) ∧
      responses effects = [] ∧ Owed runtime data term := by
  unfold handleRemoteRequest
  split
  · rename_i name message
    have found := whereis_eq_ok.mpr
      ⟨resolvable "call" name message (.inl rfl) rfl, rfl⟩
    rw [found]
    cases reached : target runtime name with
    | none =>
        exact ⟨_, _, rfl, rfl, .unreached _ decoded reached⟩
    | some pid =>
        exact ⟨_, _, rfl, rfl, owed_of_safeCall decoded reached⟩
  · rename_i name message
    have found := whereis_eq_ok.mpr
      ⟨resolvable "cast" name message (.inr (.inl rfl)) rfl, rfl⟩
    rw [found]
    refine ⟨_, _, rfl, ?_, .acknowledged (.inl rfl) decoded⟩
    cases target runtime name with
    | none => rfl
    | some pid => rfl
  · rename_i name message
    have found := whereis_eq_ok.mpr
      ⟨resolvable "send" name message (.inr (.inr rfl)) rfl, rfl⟩
    rw [found]
    refine ⟨_, _, rfl, ?_, .acknowledged (.inr rfl) decoded⟩
    cases target runtime name with
    | none => rfl
    | some pid => rfl
  · rename_i notCall notCast notSend
    refine ⟨_, _, rfl, rfl, .malformed _ decoded ?_⟩
    intro operation name message isOperation same
    rcases isOperation with rfl | rfl | rfl
    · exact notCall name message same
    · exact notCast name message same
    · exact notSend name message same

theorem resolvable_of_handled {request : Term} {effects : List Effect}
    {response : Bytes}
    (handled : handleRemoteRequest runtime request = .ok (effects, response))
    {operation : String} {name message : Term}
    (isOperation : IsOperation operation)
    (shape : request = .tuple [.atom operation, name, message]) :
    Resolvable runtime name := by
  subst shape
  rcases isOperation with rfl | rfl | rfl
  · obtain ⟨pid, found, -⟩ := bind_eq_ok.mp handled
    exact (whereis_eq_ok.mp found).1
  · obtain ⟨pid, found, -⟩ := bind_eq_ok.mp handled
    exact (whereis_eq_ok.mp found).1
  · obtain ⟨pid, found, -⟩ := bind_eq_ok.mp handled
    exact (whereis_eq_ok.mp found).1

end Requests

theorem responses_append (first second : List Effect) :
    responses (first ++ second) = responses first ++ responses second :=
  List.filterMap_append ..

theorem decode_binary {runtime : Runtime} {data : Bytes}
    (small : data.length ≤ maxPayloadBytes) :
    decode runtime (.binary data) =
      match runtime.binaryToTerm data with
      | some term => .ok term
      | none => .error .invalidMessage :=
  if_neg (Nat.not_lt_of_le small)

theorem Servable.answered {runtime : Runtime} {id data : Bytes}
    (servable : Servable runtime data) :
    ∃ effects,
      handleInfo runtime (.inboundRequest (.binary id) (.binary data)) =
        .ok effects ∧
      Answered runtime (.binary id) (.binary data) effects := by
  obtain ⟨small, names⟩ := servable
  rw [handleInfo, decode_binary small]
  cases decoded : runtime.binaryToTerm data with
  | none =>
      exact ⟨_, rfl, _, _, _, rfl, rfl, rfl, .undecodable _ decoded⟩
  | some request =>
      obtain ⟨effects, term, handled, silent, owed⟩ :=
        handleRemoteRequest_of_resolvable decoded
          fun operation name message isOperation shape =>
            names operation name message isOperation (shape ▸ decoded)
      refine ⟨effects ++ [.sendResponse id (runtime.termToBinary term)], ?_,
        id, data, term, rfl, rfl, ?_, owed⟩
      · change (handleRemoteRequest runtime request >>= _) = _
        rw [handled]
        rfl
      · rw [responses_append, silent]
        rfl

theorem binary_of_sendResponse {channelId : Term} {response : Bytes}
    {effect : Effect} (sent : sendResponse channelId response = .ok effect) :
    ∃ id, channelId = .binary id := by
  cases channelId with
  | binary id => exact ⟨id, rfl⟩
  | _ => cases sent

theorem servable_of_handleInfo {runtime : Runtime} {channelId data : Term}
    {effects : List Effect}
    (handled : handleInfo runtime (.inboundRequest channelId data) =
      .ok effects) :
    ∃ id bytes, channelId = .binary id ∧ data = .binary bytes ∧
      Servable runtime bytes := by
  cases data with
  | binary bytes =>
      by_cases small : bytes.length ≤ maxPayloadBytes
      · rw [handleInfo, decode_binary small] at handled
        cases decoded : runtime.binaryToTerm bytes with
        | none =>
            rw [decoded] at handled
            obtain ⟨effect, sent, -⟩ := bind_eq_ok.mp handled
            obtain ⟨id, isBinary⟩ := binary_of_sendResponse sent
            refine ⟨id, bytes, isBinary, rfl, small, ?_⟩
            intro operation name message isOperation impossible
            rw [decoded] at impossible
            cases impossible
        | some request =>
            rw [decoded] at handled
            obtain ⟨⟨performed, response⟩, inner, responded⟩ :=
              bind_eq_ok.mp handled
            obtain ⟨effect, sent, -⟩ := bind_eq_ok.mp responded
            obtain ⟨id, isBinary⟩ := binary_of_sendResponse sent
            refine ⟨id, bytes, isBinary, rfl, small, ?_⟩
            intro operation name message isOperation shape
            cases decoded.symm.trans shape
            exact resolvable_of_handled inner isOperation rfl
      · rw [handleInfo, decode, if_pos (Nat.lt_of_not_le small)] at handled
        cases handled
  | _ => cases handled

namespace Process

variable {process : Process} {runtime : Runtime} {message : Message}

theorem receive_of_survivable
    (survivable : Survivable process runtime message) :
    ∃ effects, process.receive runtime message = .handled effects ∧
      ∀ channelId data, message = .info (.inboundRequest channelId data) →
        Answered runtime channelId data effects := by
  cases message with
  | info info =>
      cases info with
      | inboundRequest channelId data =>
          obtain ⟨id, bytes, rfl, rfl, servable⟩ := survivable
          obtain ⟨effects, handled, answered⟩ := servable.answered
          refine ⟨effects, ?_, ?_⟩
          · rw [receive, handled]
          · intro channelId data same
            cases same
            exact answered
      | other => exact ⟨[], rfl, fun channelId data same => by cases same⟩
  | call => exact survivable.elim
  | cast => exact survivable.elim
  | system message =>
      exact ⟨[], if_pos survivable, fun channelId data same => by cases same⟩

theorem survivable_of_receive {effects : List Effect}
    (received : process.receive runtime message = .handled effects) :
    Survivable process runtime message := by
  cases message with
  | info info =>
      cases info with
      | inboundRequest channelId data =>
          rw [receive] at received
          split at received
          · rename_i performed handled
            exact servable_of_handleInfo handled
          · cases received
      | other => trivial
  | call => cases received
  | cast => cases received
  | system message =>
      rw [receive] at received
      split at received
      · assumption
      · cases received

/-- The callback returned, and answered if the message was a request. -/
def Fine : Input × Output → Prop
  | (.take runtime, .took message outcome) =>
      ∃ effects, outcome = .handled effects ∧
        ∀ channelId data, message = .info (.inboundRequest channelId data) →
          Answered runtime channelId data effects
  | _ => True

def Harmless (process : Process) : Input × Output → Prop
  | (.take runtime, .took message _) => Survivable process runtime message
  | _ => True

def arrivals (trace : List (Input × Output)) : List Message :=
  trace.filterMap fun
    | (.arrive event, _) => some (.info event.info)
    | _ => none

def taken (trace : List (Input × Output)) : List Message :=
  trace.filterMap fun
    | (_, .took message _) => some message
    | _ => none

/-- Every message that was taken was handled, every request with its one
response, and the server is there, with what it has not taken yet of the
requests that came. -/
def Served (trace : List (Input × Output)) (state : Option (List Message)) :
    Prop :=
  (∀ entry ∈ trace, Fine entry) ∧
    ∃ mailbox, state = some mailbox ∧
      (arrivals trace).Sublist (taken trace ++ mailbox)

inductive Move (process : Process) (mailbox : List Message) :
    Input → Option (List Message) → Output → Prop
  | arrived (event : InboundRequest) :
      Move process mailbox (.arrive event)
        (some (mailbox ++ [.info event.info])) .arrived
  | handled {runtime : Runtime} {message : Message} {rest : List Message}
      {effects : List Effect} (oldest : mailbox = message :: rest)
      (received : process.receive runtime message = .handled effects) :
      Move process mailbox (.take runtime)
        (some (rest ++ effects.filterMap process.ownMessage))
        (.took message (.handled effects))
  | ended {runtime : Runtime} {message : Message} {rest : List Message}
      {outcome : Outcome} (oldest : mailbox = message :: rest)
      (received : process.receive runtime message = outcome)
      (fails : ∀ effects, outcome ≠ .handled effects) :
      Move process mailbox (.take runtime) none (.took message outcome)

theorem Move.of_step {mailbox : List Message} {input : Input}
    {next : Option (List Message)} {output : Output}
    (stepped : process.step (some mailbox) input = some (next, output)) :
    Move process mailbox input next output := by
  cases input with
  | arrive event =>
      cases stepped
      exact .arrived event
  | take runtime =>
      cases mailbox with
      | nil => cases stepped
      | cons message rest =>
          simp only [step] at stepped
          split at stepped
          · rename_i effects received
            cases stepped
            exact .handled rfl received
          · rename_i outcome fails
            cases stepped
            exact .ended rfl rfl fails

theorem Move.fine_iff {mailbox : List Message} {input : Input}
    {next : Option (List Message)} {output : Output}
    (move : Move process mailbox input next output) :
    Fine (input, output) ↔ Harmless process (input, output) := by
  cases move with
  | arrived event => exact Iff.rfl
  | handled oldest received =>
      constructor
      · intro fine
        exact survivable_of_receive received
      · intro survivable
        obtain ⟨performed, same, answered⟩ := receive_of_survivable survivable
        cases received.symm.trans same
        exact ⟨_, rfl, answered⟩
  | ended oldest received fails =>
      constructor
      · intro fine
        obtain ⟨effects, isHandled, -⟩ := fine
        exact (fails effects isHandled).elim
      · intro survivable
        obtain ⟨effects, same, -⟩ := receive_of_survivable survivable
        exact (fails effects (received.symm.trans same)).elim

theorem arrivals_append (first second : List (Input × Output)) :
    arrivals (first ++ second) = arrivals first ++ arrivals second :=
  List.filterMap_append ..

theorem taken_append (first second : List (Input × Output)) :
    taken (first ++ second) = taken first ++ taken second :=
  List.filterMap_append ..

theorem Move.served {trace : List (Input × Output)} {mailbox : List Message}
    {input : Input} {next : Option (List Message)} {output : Output}
    (move : Move process mailbox input next output)
    (served : Served trace (some mailbox)) (fine : Fine (input, output)) :
    Served (trace ++ [(input, output)]) next := by
  obtain ⟨before, waiting, same, came⟩ := served
  cases same
  refine ⟨List.forall_mem_append.mpr ⟨before, ?_⟩, ?_⟩
  · exact List.forall_mem_singleton.mpr fine
  · rw [arrivals_append, taken_append]
    cases move with
    | arrived event =>
        refine ⟨_, rfl, ?_⟩
        change (arrivals trace ++ [Message.info event.info]).Sublist
          (taken trace ++ [] ++ (mailbox ++ [Message.info event.info]))
        rw [List.append_nil, ← List.append_assoc]
        exact came.append (List.Sublist.refl _)
    | @handled runtime message rest effects oldest received =>
        subst oldest
        refine ⟨_, rfl, ?_⟩
        change (arrivals trace ++ []).Sublist (taken trace ++ [message] ++
          (rest ++ effects.filterMap process.ownMessage))
        rw [← List.append_assoc, ← List.append_cons]
        exact came.append (List.nil_sublist _)
    | ended oldest received fails =>
        obtain ⟨effects, isHandled, -⟩ := fine
        exact (fails effects isHandled).elim

theorem harmless_of_fine {state next : Option (List Message)} {input : Input}
    {output : Output}
    (stepped : process.step state input = some (next, output))
    (fine : Fine (input, output)) : Harmless process (input, output) := by
  cases state with
  | none =>
      cases input with
      | arrive event => trivial
      | take runtime => cases stepped
  | some mailbox => exact (Move.of_step stepped).fine_iff.mp fine

end Process

/-- The external form of `{:call, "x", :ping}`. -/
def callByText : Bytes :=
  [131, 104, 3, 119, 4, 99, 97, 108, 108, 109, 0, 0, 0, 1, 120, 119, 4, 112,
    105, 110, 103]

/-- The external form of `{:send, :dist, :hello}`. -/
def sendHello : Bytes :=
  [131, 104, 3, 119, 4, 115, 101, 110, 100, 119, 4, 100, 105, 115, 116, 119, 5,
    104, 101, 108, 108, 111]

def loneServer : Process where
  pid := 7
  goesOn := fun _ => false

/-- A runtime whose only process is the server, and which reads only the bytes
above. -/
def loneRuntime : Runtime where
  binaryToTerm := fun data =>
    if data = callByText then
      some (.tuple [.atom "call", .text "x", .atom "ping"])
    else if data = sendHello then
      some (.tuple [.atom "send", .atom "dist", .atom "hello"])
    else
      none
  termToBinary := fun _ => [131, 106]
  whereis := fun name => if name = "dist" then some 7 else none
  whereisVia := fun _ _ => .ok none
  call := fun _ _ => .exit (.tuple [.atom "calling_self", .nil])
  inspect := fun _ => ""

theorem servable_of_readable {data : Bytes}
    (small : data.length ≤ maxPayloadBytes) (other : data ≠ callByText) :
    Servable loneRuntime data := by
  refine ⟨small, ?_⟩
  intro operation name message isOperation decoded
  simp only [loneRuntime, if_neg other] at decoded
  split at decoded
  · cases decoded
    trivial
  · cases decoded

/-- One peer has a message sent to the server itself, another one sends
noise. -/
def hello : List Process.Input :=
  [.arrive ⟨"ch-1", sendHello⟩, .arrive ⟨"ch-2", [0]⟩, .take loneRuntime,
    .take loneRuntime, .take loneRuntime]

end ExLibp2p.Otp.DistributionServer
