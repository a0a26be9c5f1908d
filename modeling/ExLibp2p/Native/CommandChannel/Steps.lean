import ExLibp2p.Native.CommandChannel
import ExLibp2p.Native.SwarmLoop.Pending

namespace ExLibp2p.Native.CommandChannel

open ExLibp2p.Data
open ExLibp2p.Erlang
open ExLibp2p.Native.RoutingTable (channelCapacity)
open ExLibp2p.Native.SwarmLoop
  (Settings Answers Effect Turn Locals Instant swarmLoop swarmLoop_step_eq_some
    request)

theorem replies_append (first second : List Effect) :
    replies (first ++ second) = replies first ++ replies second :=
  List.filterMap_append

theorem replies_announce (locals : Locals) (message : Term) :
    replies (SwarmLoop.announce locals message) = [] := by
  unfold SwarmLoop.announce
  cases locals.eventHandler with
  | none => rfl
  | some pid => rfl

theorem replies_whenKademlia {settings : Settings} {effect : Effect}
    (plain : asReply effect = none) :
    replies (SwarmLoop.whenKademlia settings [effect]) = [] := by
  unfold SwarmLoop.whenKademlia
  split
  · simp [replies, plain]
  · rfl

theorem replies_discoverPeers (settings : Settings) (locals : Locals)
    (answers : Answers) (peers : List (PeerId × Multiaddr)) :
    replies (SwarmLoop.discoverPeers settings locals answers peers) = [] := by
  rw [SwarmLoop.discoverPeers, replies_append, List.append_eq_nil_iff]
  constructor
  · apply List.filterMap_eq_nil_iff.mpr
    intro effect member
    obtain ⟨pair, -, inPair⟩ := List.mem_flatMap.mp member
    rcases List.mem_append.mp inPair with added | dialled
    · rw [SwarmLoop.whenKademlia] at added
      split at added
      · rw [List.mem_singleton.mp added]
        rfl
      · cases added
    · split at dialled
      · rw [List.mem_singleton.mp dialled]
        rfl
      · cases dialled
  · cases peers with
    | nil => rfl
    | cons peer rest => exact replies_announce locals _

theorem replies_handleEvent (settings : Settings) (locals : Locals)
    (now : Instant) (answers : Answers) (event : SwarmEvent) :
    replies (SwarmLoop.handleEvent settings locals now answers event).2 = [] := by
  cases event with
  | requestReceived peer requestId request channel =>
      simp only [SwarmLoop.handleEvent, SwarmLoop.receiveRequest]
      split
      · rfl
      · exact replies_announce locals _
  | mdnsDiscovered peers =>
      exact replies_discoverPeers settings locals answers peers
  | mdnsExpired => rfl
  | _ => exact replies_announce locals _

theorem replies_importRoutingTable (settings : Settings)
    (entries : List DhtState.RoutingEntry) (caller : ReplyTo) :
    ∃ value, replies (SwarmLoop.importRoutingTable settings entries caller) =
      [(caller, value)] := by
  rw [SwarmLoop.importRoutingTable_eq]
  split
  · have noneAdded : replies ((SwarmLoop.importedPairs settings entries).map
        fun pair => .addAddress pair.1 pair.2) = [] := by
      rw [replies, List.filterMap_map]
      exact List.filterMap_eq_nil_iff.mpr fun _ _ => rfl
    simp only [replies_append, noneAdded, List.nil_append]
    exact ⟨_, rfl⟩
  · exact ⟨_, rfl⟩

theorem replies_request (settings : Settings) (answers : Answers)
    {command : Command} {caller : ReplyTo}
    (carries : command.replyTo = some caller) :
    ∃ value, replies (request settings answers command) =
      [(caller, value)] := by
  cases command with
  | dhtImportRoutingTable entries reply =>
      cases carries
      exact replies_importRoutingTable settings entries _
  | connectedPeers reply =>
      cases carries
      exact ⟨_, rfl⟩
  | listeningAddrs reply =>
      cases carries
      exact ⟨_, rfl⟩
  | bandwidthStats reply =>
      cases carries
      exact ⟨_, rfl⟩
  | gossipsubMeshPeers topic reply =>
      cases carries
      exact ⟨_, rfl⟩
  | gossipsubAllPeers reply =>
      cases carries
      exact ⟨_, rfl⟩
  | gossipsubPeerScore peerId reply =>
      cases carries
      exact ⟨_, rfl⟩
  | dhtExportRoutingTable reply =>
      cases carries
      exact ⟨_, rfl⟩
  | rpcSendRequest peerId data reply =>
      cases carries
      exact ⟨_, rfl⟩
  | _ => cases carries

theorem replies_request_of_plain (settings : Settings) (answers : Answers)
    {command : Command} (plain : command.replyTo = none) :
    replies (request settings answers command) = [] := by
  cases command with
  | rendezvousRegister ns ttl peer =>
      simp only [request]
      split <;> rfl
  | rendezvousDiscover ns peer =>
      simp only [request]
      split <;> rfl
  | rendezvousUnregister ns peer =>
      simp only [request]
      split <;> rfl
  | _ =>
      first
        | rfl
        | exact replies_whenKademlia rfl
        | cases plain

section Turns

variable {settings : Settings} {loop next : SwarmLoop.State} {turn : Turn}
  {effects : List Effect}

theorem replies_of_command {locals after : Locals} {answers : Answers}
    {command : Command}
    (handled : SwarmLoop.handleCommand settings locals answers (some command) =
      some (after, effects)) :
    (command.replyTo = none ∧ replies effects = []) ∨
      ∃ caller value, command.replyTo = some caller ∧
        effects = request settings answers command ∧
        replies effects = [(caller, value)] := by
  cases carries : command.replyTo with
  | none =>
      refine .inl ⟨rfl, ?_⟩
      cases command with
      | rpcSendResponse channelId data =>
          simp only [SwarmLoop.handleCommand, SwarmLoop.sendResponse,
            Option.some.injEq] at handled
          split at handled
          · cases handled
            rfl
          · cases handled
            rfl
      | shutdown => cases handled
      | registerEventHandler pid =>
          cases handled
          rfl
      | _ =>
          cases handled
          exact replies_request_of_plain settings answers carries
  | some caller =>
      obtain ⟨value, replied⟩ := replies_request settings answers carries
      refine .inr ⟨caller, value, rfl, ?_⟩
      have same : effects = request settings answers command := by
        cases command with
        | rpcSendResponse channelId data => cases carries
        | shutdown => cases carries
        | registerEventHandler pid => cases carries
        | _ =>
            cases handled
            rfl
      exact ⟨same, same ▸ replied⟩

/-- A turn that takes a query answers it, and no other turn answers any. -/
theorem replies_of_step
    (stepped : (swarmLoop settings).step loop turn = some (next, effects)) :
    ((commandOf turn).bind Command.replyTo = none ∧ replies effects = []) ∨
      ∃ command answers caller value,
        turn = .command (some command) answers ∧
        command.replyTo = some caller ∧
        effects = request settings answers command ∧
        replies effects = [(caller, value)] := by
  rcases swarmLoop_step_eq_some stepped with ⟨-, locals, -, turned⟩ | ⟨-, rfl, ended⟩
  · cases turn with
    | tick now =>
        cases turned
        refine .inl ⟨rfl, ?_⟩
        exact List.filterMap_map.trans
          (List.filterMap_eq_nil_iff.mpr fun _ _ => rfl)
    | event event now answers =>
        have silent := replies_handleEvent settings loop.locals now answers event
        rw [Option.some.inj turned] at silent
        exact .inl ⟨rfl, silent⟩
    | command command answers =>
        cases command with
        | none => cases turned
        | some command =>
            rcases replies_of_command turned with plain | ⟨caller, value, rest⟩
            · exact .inl plain
            · exact .inr ⟨command, answers, caller, value, rfl, rest⟩
  · refine .inl ⟨?_, rfl⟩
    cases turn with
    | tick now => rfl
    | event event now answers => rfl
    | command command answers =>
        cases command with
        | none => rfl
        | some command =>
            cases command with
            | shutdown => rfl
            | _ => cases ended

theorem running_of_step
    (stepped : (swarmLoop settings).step loop turn = some (next, effects)) :
    loop.exited = false := by
  simp only [swarmLoop] at stepped
  split at stepped
  · contradiction
  · rename_i admitted
    rw [not_or, Bool.not_eq_true] at admitted
    exact admitted.1

theorem exited_of_shutdown {answers : Answers}
    (stepped : (swarmLoop settings).step loop
      (.command (some .shutdown) answers) = some (next, effects)) :
    next.exited = true := by
  rcases swarmLoop_step_eq_some stepped with ⟨-, locals, -, turned⟩ | ⟨exited, -⟩
  · cases turned
  · exact exited

end Turns

inductive Moves (settings : Settings) (state next : State) :
    Action → Output → Prop
  | sent {action : Action} {command : Command} (handle : Handle)
      (held : state.handle = .held)
      (plain : command.replyTo = none)
      (alive : state.receiver = true)
      (room : state.queue.length < channelCapacity)
      (same : next =
        { state with queue := state.queue ++ [command], handle })
      (kept : handle = .held ∨ handle = .dropping) :
      Moves settings state next action (.sent command (.ok ()))
  | asked {makeCmd : ReplyTo → Command}
      (held : state.handle = .held)
      (carries : (makeCmd state.callers).replyTo = some state.callers)
      (alive : state.receiver = true)
      (room : state.queue.length < channelCapacity)
      (same : next =
        { state with
          queue := state.queue ++ [makeCmd state.callers]
          calls := state.calls.insert state.callers .waiting
          callers := state.callers + 1 }) :
      Moves settings state next (.queryTyped makeCmd)
        (.sent (makeCmd state.callers) (.ok ()))
  | refused {action : Action} {command : Command} {error : NifError}
      (handle : Handle) (callers : Nat)
      (held : state.handle = .held)
      (cause : (error = .nodeStopped ∧ state.receiver = false) ∨
        (error = .channelFull ∧ state.queue.length ≥ channelCapacity))
      (same : next = { state with handle, callers })
      (kept : handle = .held ∨ handle = .dropping)
      (counted : state.callers ≤ callers) :
      Moves settings state next action (.sent command (.error error))
  | started
      (starting : state.handle = .starting)
      (same : next =
        { state with handle := .held, senders := state.senders.erase .cmdTx }) :
      Moves settings state next .startReturns .quiet
  | released
      (dropping : state.handle = .dropping)
      (same : next =
        { state with
          handle := .dropped, senders := state.senders.erase .handleTx }) :
      Moves settings state next .releaseHandle .quiet
  | turned {turn : Turn} {panics : Option Nat} {queue : List Command}
      {loop : SwarmLoop.State} {effects : List Effect}
      (dequeued : state.dequeue turn = some queue)
      (stepped : (swarmLoop settings).step state.loop turn =
        some (loop, effects))
      (same : next = ({ state with queue }.turned (commandOf turn) panics
        (loop, effects)).1) :
      Moves settings state next (.turn turn panics)
        (.turned (commandOf turn) (panics.elim effects effects.take))
  | left (exited : state.loop.exited = true) (alive : state.receiver = true)
      (same : next = state.leave) :
      Moves settings state next .leave .quiet
  | woken {caller : ReplyTo} {result : Except NifError Reply}
      (settled : (∃ value,
          state.calls.lookup caller = some (.replied value) ∧
            result = .ok value) ∨
        (state.calls.lookup caller = some .closed ∧
          result = .error .nodeStopped))
      (same : next = { state with calls := state.calls.erase caller }) :
      Moves settings state next (.wake caller) (.returned caller result)

theorem trySend_cases (state : State) (command : Command) :
    (state.receiver = true ∧ state.queue.length < channelCapacity ∧
      state.trySend command =
        .ok { state with queue := state.queue ++ [command] }) ∨
    ∃ error, state.trySend command = .error error ∧
      ((error = .nodeStopped ∧ state.receiver = false) ∨
        (error = .channelFull ∧ state.queue.length ≥ channelCapacity)) := by
  unfold State.trySend
  cases alive : state.receiver with
  | false => exact .inr ⟨.nodeStopped, rfl, .inl ⟨rfl, rfl⟩⟩
  | true =>
      simp only [Bool.not_true, Bool.false_eq_true, if_false]
      split
      · rename_i full
        exact .inr ⟨.channelFull, rfl, .inr ⟨rfl, full⟩⟩
      · rename_i room
        exact .inl ⟨trivial, Nat.lt_of_not_le room, rfl⟩

theorem Moves.of_sendTyped {settings : Settings} {state next : State}
    {action : Action} {command : Command} {handle : Handle} {output : Output}
    (held : state.handle = .held) (plain : command.replyTo = none)
    (kept : handle = .held ∨ handle = .dropping)
    (taken : state.sendTyped command = (next, output)) :
    Moves settings state { next with handle } action output := by
  unfold State.sendTyped at taken
  rcases trySend_cases state command with
    ⟨alive, room, sent⟩ | ⟨error, failed, cause⟩
  · rw [sent] at taken
    cases taken
    exact .sent handle held plain alive room rfl kept
  · rw [failed] at taken
    cases taken
    exact .refused handle state.callers held cause rfl kept (Nat.le_refl _)

theorem handle_of_sendTyped {state next : State} {command : Command}
    {output : Output} (taken : state.sendTyped command = (next, output)) :
    next.handle = state.handle := by
  unfold State.sendTyped at taken
  rcases trySend_cases state command with ⟨-, -, sent⟩ | ⟨error, failed, -⟩
  · rw [sent] at taken
    cases taken
    rfl
  · rw [failed] at taken
    cases taken
    rfl

theorem Moves.of_call {settings : Settings} {state next : State}
    {action : Action} {command : Command} {output : Output}
    (held : state.handle = .held) (plain : command.replyTo = none)
    (taken : state.sendTyped command = (next, output)) :
    Moves settings state next action output :=
  .of_sendTyped held plain (.inl ((handle_of_sendTyped taken).trans held)) taken

theorem Moves.of_queryTyped {settings : Settings} {state next : State}
    {makeCmd : ReplyTo → Command} {output : Output}
    (held : state.handle = .held)
    (carries : (makeCmd state.callers).replyTo = some state.callers)
    (taken : state.queryTyped makeCmd = (next, output)) :
    Moves settings state next (.queryTyped makeCmd) output := by
  simp only [State.queryTyped] at taken
  rcases trySend_cases { state with callers := state.callers + 1 }
    (makeCmd state.callers) with ⟨alive, room, sent⟩ | ⟨error, failed, cause⟩
  · rw [sent] at taken
    cases taken
    exact .asked held carries alive room rfl
  · rw [failed] at taken
    cases taken
    exact .refused state.handle _ held cause rfl (.inl held) (Nat.le_succ _)

theorem Moves.of_wake {settings : Settings} {state next : State}
    {caller : ReplyTo} {output : Output}
    (taken : state.wake caller = some (next, output)) :
    Moves settings state next (.wake caller) output := by
  simp only [State.wake] at taken
  split at taken
  · rename_i value found
    cases taken
    exact .woken (.inl ⟨value, found, rfl⟩) rfl
  · rename_i found
    cases taken
    exact .woken (.inr ⟨found, rfl⟩) rfl
  · contradiction

theorem Moves.of_step {settings : Settings} {state next : State}
    {action : Action} {output : Output}
    (taken : (channel settings).step state action = some (next, output)) :
    Moves settings state next action output := by
  cases action with
  | startReturns =>
      obtain ⟨starting, taken⟩ := Option.ite_none_right_eq_some.mp taken
      cases taken
      exact .started starting rfl
  | sendTyped command =>
      obtain ⟨admitted, taken⟩ := Option.ite_none_right_eq_some.mp taken
      exact .of_call admitted.1 admitted.2 (Option.some.inj taken)
  | queryTyped makeCmd =>
      obtain ⟨admitted, taken⟩ := Option.ite_none_right_eq_some.mp taken
      exact .of_queryTyped admitted.1 admitted.2 (Option.some.inj taken)
  | registerEventHandler pid =>
      obtain ⟨held, taken⟩ := Option.ite_none_right_eq_some.mp taken
      exact .of_call held rfl (Option.some.inj taken)
  | stopNode =>
      obtain ⟨held, taken⟩ := Option.ite_none_right_eq_some.mp taken
      exact .of_call held rfl (Option.some.inj taken)
  | dropHandle =>
      obtain ⟨admitted, taken⟩ := Option.ite_none_right_eq_some.mp taken
      cases taken
      exact .of_sendTyped admitted.1 rfl (.inr rfl) rfl
  | releaseHandle =>
      obtain ⟨dropping, taken⟩ := Option.ite_none_right_eq_some.mp taken
      cases taken
      exact .released dropping rfl
  | turn turn panics =>
      obtain ⟨queue, dequeued, taken⟩ := Option.bind_eq_some_iff.mp taken
      obtain ⟨result, stepped, same⟩ := Option.map_eq_some_iff.mp taken
      cases same
      exact .turned dequeued stepped rfl
  | leave =>
      obtain ⟨admitted, taken⟩ := Option.ite_none_right_eq_some.mp taken
      rw [Bool.and_eq_true] at admitted
      cases taken
      exact .left admitted.1 admitted.2 rfl
  | wake caller =>
      exact .of_wake taken

end ExLibp2p.Native.CommandChannel
