import ExLibp2p.Client

namespace ExLibp2p.Client

open ExLibp2p.Data
open ExLibp2p.Data.Script
open ExLibp2p.Erlang
open ExLibp2p.Call
open ExLibp2p.Telemetry.Counters (Metadata)

def admitted (addr : Bytes) : Bool :=
  (Multiaddr.new (.binary addr)).toBool

def dialMessage (addr : Bytes) : Term :=
  .tuple [.atom "dial", .binary addr]

/-- The result for an address, by the number of calls before. -/
def dialed (replies : Nat → Term) (number : Nat) (addr : Bytes) : Term :=
  if admitted addr then replies number else .error (.atom "invalid_multiaddr")

def dialStarted (addr : Bytes) : Effect :=
  .execute (dialEvent ++ ["start"]) [(.atom "addr", .binary addr)]

def dialStopped (result : Term) : Effect :=
  .execute (dialEvent ++ ["stop"]) (resultMetadata result)

def dialCalls (addr : Bytes) : List Effect :=
  if admitted addr then [.call (dialMessage addr)] else []

def dialEffects (addr : Bytes) (result : Term) : List Effect :=
  dialStarted addr :: (dialCalls addr ++ [dialStopped result])

/-- The results of a list of addresses, by the number of calls before. -/
def dialedAll (replies : Nat → Term) : Nat → List Bytes → List Term
  | _, [] => []
  | number, addr :: rest =>
      dialed replies number addr ::
        dialedAll replies (number + (calls (dialCalls addr)).length) rest

def dialAllEffects (addrs : List Bytes) (results : List Term) :
    List Effect :=
  (List.zipWith dialEffects addrs results).flatten

def Effect.execute? : Effect → Option (Telemetry.Event × Metadata)
  | .call _ => none
  | .execute event metadata => some (event, metadata)

def announcements (effects : List Effect) : List (Telemetry.Event × Metadata) :=
  effects.filterMap Effect.execute?

def dialAnnouncements (addr : Bytes) (result : Term) :
    List (Telemetry.Event × Metadata) :=
  [(dialEvent ++ ["start"], [(.atom "addr", .binary addr)]),
    (dialEvent ++ ["stop"], resultMetadata result)]

section Dials

variable {answers : Nat → Outcome} {replies : Nat → Term}
  {earlier : List Effect}

theorem calls_dialCalls (addr : Bytes) :
    calls (dialCalls addr) =
      if admitted addr then [dialMessage addr] else [] := by
  unfold dialCalls
  split
  · rfl
  · rfl

theorem calls_dialEffects (addr : Bytes) (result : Term) :
    calls (dialEffects addr result) = calls (dialCalls addr) := by
  have around : dialEffects addr result =
      [dialStarted addr] ++ dialCalls addr ++ [dialStopped result] := rfl
  rw [around, calls_append, calls_append]
  exact List.append_nil _

theorem announcements_dialEffects (addr : Bytes) (result : Term) :
    announcements (dialEffects addr result) =
      dialAnnouncements addr result := by
  unfold dialEffects dialCalls
  split
  · rfl
  · rfl

theorem run_dial
    (answered : ∀ number,
      Call.safeCall (answers number) = .ok (replies number)) (addr : Bytes) :
    run (dial answers (.binary addr)) earlier =
      (.ok (dialed replies (calls earlier).length addr),
        earlier ++ dialEffects addr
          (dialed replies (calls earlier).length addr)) := by
  have started : calls (earlier ++ [dialStarted addr]) = calls earlier := by
    rw [calls_append]
    exact List.append_nil _
  unfold dialEffects dialed dialCalls admitted
  cases valid : Multiaddr.new (.binary addr) with
  | ok multiaddr =>
      have script : dial answers (.binary addr) =
          span dialEvent [(.atom "addr", .binary addr)] (do
            let result ← safeCall answers (dialMessage addr)
            return (result, resultMetadata result)) := by
        rw [dial, valid]
        rfl
      have called : run (safeCall answers (dialMessage addr))
          (earlier ++ [dialStarted addr]) =
          (.ok (replies (calls earlier).length),
            earlier ++ [dialStarted addr] ++ [.call (dialMessage addr)]) := by
        rw [run_safeCall, started, answered]
      rw [script, run_span, ← dialStarted, run_bind, called]
      simp [Except.toBool, dialStopped]
  | error invalid =>
      have script : dial answers (.binary addr) =
          span dialEvent [(.atom "addr", .binary addr)] (do
            let result ← pure (.error (.atom "invalid_multiaddr"))
            return (result, resultMetadata result)) := by
        rw [dial, valid]
      rw [script, run_span]
      simp [Except.toBool, dialStopped, dialStarted]

theorem run_dialEach
    (answered : ∀ number,
      Call.safeCall (answers number) = .ok (replies number))
    (addrs : List Bytes) :
    run (dialEach answers (.list (addrs.map .binary))) earlier =
      (.ok (dialedAll replies (calls earlier).length addrs),
        earlier ++ dialAllEffects addrs
          (dialedAll replies (calls earlier).length addrs)) := by
  induction addrs generalizing earlier with
  | nil =>
      exact congrArg (Except.ok [], ·) (List.append_nil earlier).symm
  | cons addr rest induction =>
      have script : dialEach answers
          (.list ((addr :: rest).map .binary)) = (do
            let result ← dial answers (.binary addr)
            let results ← dialEach answers (.list (rest.map .binary))
            return result :: results) := rfl
      rw [script, run_bind, run_dial answered]
      simp only
      rw [run_bind, induction, calls_append, List.length_append,
        calls_dialEffects]
      simp [dialedAll, dialAllEffects]

theorem length_calls_dialCalls (addr : Bytes) :
    (calls (dialCalls addr)).length = [addr].countP admitted := by
  rw [calls_dialCalls, List.countP_singleton]
  split
  · rfl
  · rfl

theorem length_dialedAll (number : Nat) (addrs : List Bytes) :
    (dialedAll replies number addrs).length = addrs.length := by
  induction addrs generalizing number with
  | nil => rfl
  | cons addr rest induction => exact congrArg (· + 1) (induction _)

theorem dialedAll_getElem {addr : Bytes} {addrs : List Bytes} (number : Nat)
    {place : Nat} (there : addrs[place]? = some addr) :
    (dialedAll replies number addrs)[place]? =
      some (dialed replies (number + (addrs.take place).countP admitted)
        addr) := by
  induction addrs generalizing number place with
  | nil => cases there
  | cons first rest induction =>
      cases place with
      | zero =>
          cases Option.some.inj there
          rfl
      | succ place =>
          rw [dialedAll, List.getElem?_cons_succ, induction _ there,
            length_calls_dialCalls, List.take_succ_cons, Nat.add_assoc,
            ← List.countP_append]
          rfl

theorem calls_dialAllEffects {addrs : List Bytes} {results : List Term}
    (lengths : results.length = addrs.length) :
    calls (dialAllEffects addrs results) =
      (addrs.filter admitted).map dialMessage := by
  induction addrs generalizing results with
  | nil => rfl
  | cons addr rest induction =>
      cases results with
      | nil => cases lengths
      | cons result results =>
          have parts : dialAllEffects (addr :: rest) (result :: results) =
              dialEffects addr result ++ dialAllEffects rest results := rfl
          rw [parts, calls_append, calls_dialEffects, calls_dialCalls,
            induction (Nat.succ.inj lengths), List.filter_cons]
          split
          · rfl
          · rfl

theorem announcements_dialAllEffects (addrs : List Bytes)
    (results : List Term) :
    announcements (dialAllEffects addrs results) =
      (List.zipWith dialAnnouncements addrs results).flatten := by
  induction addrs generalizing results with
  | nil => rfl
  | cons addr rest induction =>
      cases results with
      | nil => rfl
      | cons result results =>
          have parts : dialAllEffects (addr :: rest) (result :: results) =
              dialEffects addr result ++ dialAllEffects rest results := rfl
          rw [parts, announcements, List.filterMap_append]
          exact congrArg₂ (· ++ ·) (announcements_dialEffects addr result)
            (induction results)

end Dials

/-- Where the node's replies raise nothing, every address is tried in its turn
whatever became of those before: one that fails the check is no call and gets an
error of its own, the others' calls go out in their order with one to bootstrap
behind them, each result stands at its address, and each address is announced
twice, the second time with the tag of its result. -/
theorem bootstrap_accounted {answers : Nat → Outcome} {replies : Nat → Term}
    (answered : ∀ number,
      Call.safeCall (answers number) = .ok (replies number))
    {addrs : List Bytes} (nonempty : addrs ≠ []) :
    ∃ results effects,
      run (bootstrap answers (.list (addrs.map .binary))) [] =
        (completed results (replies (addrs.countP admitted)), effects) ∧
      results.length = addrs.length ∧
      (∀ place addr, addrs[place]? = some addr → results[place]? =
        some (dialed replies ((addrs.take place).countP admitted) addr)) ∧
      calls effects = (addrs.filter admitted).map dialMessage ++
        [.atom "dht_bootstrap"] ∧
      announcements effects =
        (List.zipWith dialAnnouncements addrs results).flatten := by
  let results := dialedAll replies 0 addrs
  have lengths : results.length = addrs.length := length_dialedAll 0 addrs
  have dials := calls_dialAllEffects lengths
  have dialling : run (dialEach answers (.list (addrs.map .binary))) [] =
      (.ok results, dialAllEffects addrs results) :=
    run_dialEach answered addrs
  have bootstrapping : run (dhtBootstrap answers)
      (dialAllEffects addrs results) =
      (.ok (replies (addrs.countP admitted)),
        dialAllEffects addrs results ++ [.call (.atom "dht_bootstrap")]) := by
    rw [dhtBootstrap, run_safeCall, dials, List.length_map,
      ← List.countP_eq_length_filter, answered]
  refine ⟨results, dialAllEffects addrs results ++
    [.call (.atom "dht_bootstrap")], ?_, lengths, ?_, ?_, ?_⟩
  · cases addrs with
    | nil => contradiction
    | cons addr rest =>
        have script : bootstrap answers (.list ((addr :: rest).map .binary)) =
            (do
              let dialResults ← dialEach answers
                (.list ((addr :: rest).map .binary))
              let answer ← dhtBootstrap answers
              lift (completed dialResults answer)) := rfl
        rw [script, run_bind, dialling]
        simp only
        rw [run_bind, bootstrapping]
        exact run_lift _
  · intro place addr there
    have found : results[place]? = _ := dialedAll_getElem 0 there
    rw [found, Nat.zero_add]
  · rw [calls_append, dials]
    rfl
  · rw [announcements, List.filterMap_append]
    exact (List.append_nil _).trans (announcements_dialAllEffects addrs results)

/-- A malformed address before one that the node refuses to dial. -/
theorem bootstrap_accounted_refused :
    ∃ results effects,
      run (bootstrap (fun number => .replied
          (if number = 0 then .error (.atom "channel_full") else .atom "ok"))
        (.list [.text "nonsense", .text "/ip4/127.0.0.1/tcp/4001"])) [] =
        (.ok (.ok (.list results)), effects) ∧
      results[1]? = some (.error (.atom "channel_full")) ∧
      calls effects = [dialMessage (utf8 "/ip4/127.0.0.1/tcp/4001"),
        .atom "dht_bootstrap"] := by
  obtain ⟨results, effects, ran, -, places, called, -⟩ :=
    @bootstrap_accounted
      (fun number => .replied
        (if number = 0 then .error (.atom "channel_full") else .atom "ok"))
      _ (fun _ => rfl) _
      (List.cons_ne_nil (utf8 "nonsense") [utf8 "/ip4/127.0.0.1/tcp/4001"])
  exact ⟨results, effects, ran, places 1 _ rfl, called⟩

end ExLibp2p.Client
