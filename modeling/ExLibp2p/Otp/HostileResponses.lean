import ExLibp2p.Otp.Correlation

namespace ExLibp2p.Otp.Calls

open ExLibp2p.Data
open ExLibp2p.Erlang
open ExLibp2p.Otp.Distribution

/-! What a blocked call makes of a response whose bytes the remote peer chose. -/

section Responses

variable (runtime : Runtime) (data : Bytes)

/-- What the caller is owed for these bytes: the reply that they decode to, and
an error for everything else. Nothing is raised. -/
inductive Owed : Except Exception (Except Term Term) → Prop
  | replied {value : Term}
      (decoded : decode runtime (.binary data) = .ok (reply value)) :
      Owed (.ok (.ok value))
  | failed (reason : Term)
      (other : ∀ value, decode runtime (.binary data) ≠ .ok (reply value)) :
      Owed (.ok (.error reason))

/-- In every run, a call that takes a response with these bytes out of its
mailbox returns what its caller is owed. -/
def Total : Prop :=
  ∀ trace system, Machine.Run (calls runtime) trace system →
    ∀ pid own response rest,
      system.processes pid =
          { mailbox := response :: rest, waiting := some own } →
        response.data = .binary data →
          ∃ next result,
            (calls runtime).step system (.receive pid) =
              some (next, .returned pid own response.requestId result) ∧
            Owed runtime data result

/-- Whatever term the bytes hold is tagged as a reply or as an error. -/
def Tagged : Prop :=
  ∀ term, runtime.binaryToTerm data = some term →
    ∃ value, term = reply value ∨ term = .error value

variable {data}

theorem callResult_of_large (large : maxPayloadBytes < data.length) :
    decode runtime (.binary data) = .error .payloadTooLarge ∧
      callResult runtime (.binary data) =
        .ok (.error (.atom "invalid_response")) := by
  have decoded : decode runtime (.binary data) = .error .payloadTooLarge :=
    if_pos large
  refine ⟨decoded, ?_⟩
  rw [callResult, decoded]

theorem decode_of_small (small : data.length ≤ maxPayloadBytes) :
    decode runtime (.binary data) =
      match runtime.binaryToTerm data with
      | some term => .ok term
      | none => .error .invalidMessage :=
  if_neg (Nat.not_lt.mpr small)

variable {runtime}

/-- The caller gets what it is owed unless the `case` has no clause for the
term that the bytes hold. -/
theorem owed_callResult_iff :
    Owed runtime data (callResult runtime (.binary data)) ↔
      maxPayloadBytes < data.length ∨ Tagged runtime data := by
  by_cases large : maxPayloadBytes < data.length
  · obtain ⟨decoded, result⟩ := callResult_of_large runtime large
    rw [result]
    refine iff_of_true (.failed _ ?_) (.inl large)
    intro value same
    rw [decoded] at same
    cases same
  · have small := decode_of_small runtime (Nat.le_of_not_lt large)
    rw [or_iff_right large]
    cases read : runtime.binaryToTerm data with
    | none =>
        rw [read] at small
        rw [callResult, small]
        refine iff_of_true (.failed _ ?_) ?_
        · intro value same
          rw [small] at same
          cases same
        · intro term same
          rw [read] at same
          cases same
    | some term =>
        rw [read] at small
        constructor
        · intro owed other same
          rw [read] at same
          cases same
          rw [callResult, small] at owed
          split at owed
          · rename_i value tagged
            cases tagged
            exact ⟨value, .inl rfl⟩
          · rename_i reason tagged
            cases tagged
            exact ⟨reason, .inr rfl⟩
          · cases owed
          · rename_i impossible
            cases impossible
        · intro tagged
          obtain ⟨value, isReply | isError⟩ := tagged term read
          · subst isReply
            rw [callResult, small]
            exact .replied small
          · subst isError
            rw [callResult, small]
            refine .failed value ?_
            intro other same
            simp [small, reply, Term.error] at same

def answeredCall (data : Bytes) : List Input :=
  [.register 1, .request 1 (ping .call) (some "OutboundRequestId(1)"),
    .respond "OutboundRequestId(1)" (.binary data)]

theorem exists_answered_run (runtime : Runtime) (data : Bytes) :
    ∃ trace system, Machine.Run (calls runtime) trace system ∧
      system.processes 1 =
        { mailbox := [⟨"OutboundRequestId(1)", .binary data⟩]
          waiting := some "OutboundRequestId(1)" } := by
  obtain ⟨trace, system, started, run, -⟩ := Machine.exists_run_of_start
    (rfl : ((calls runtime).start (answeredCall data)).isSome)
  have mailbox : ((calls runtime).start (answeredCall data)).map
      (fun result => result.2.processes 1) =
        some { mailbox := [⟨"OutboundRequestId(1)", .binary data⟩]
               waiting := some "OutboundRequestId(1)" } := rfl
  rw [started, Option.map_some, Option.some.injEq] at mailbox
  exact ⟨trace, system, run, mailbox⟩

end Responses

/-- A call is total on the bytes of a response exactly when they exceed the
limit, hold no term, or hold one with either tag. -/
theorem call_total_iff (runtime : Runtime) (data : Bytes) :
    Total runtime data ↔ maxPayloadBytes < data.length ∨ Tagged runtime data := by
  rw [← owed_callResult_iff]
  constructor
  · intro total
    obtain ⟨trace, system, run, blocked⟩ :=
      exists_answered_run runtime data
    obtain ⟨next, result, taken, owed⟩ :=
      total trace system run 1 _ _ _ blocked rfl
    cases (step_receive blocked).symm.trans taken
    exact owed
  · intro owed trace system run pid own response rest blocked bytes
    refine ⟨_, _, step_receive blocked, ?_⟩
    rw [bytes]
    exact owed

def integerData : Bytes :=
  [131, 97, 1]

def integerRuntime : Runtime :=
  { pingRuntime with
    binaryToTerm := fun data =>
      if data = integerData then some (.integer 1) else none }

/-- A peer that answers with an untagged term raises in the caller. -/
theorem integerData_not_total :
    callResult integerRuntime (.binary integerData) =
        .error (.caseClauseError (.ok (.integer 1))) ∧
      ¬ Total integerRuntime integerData := by
  refine ⟨rfl, ?_⟩
  intro total
  obtain ⟨trace, system, run, blocked⟩ :=
    exists_answered_run integerRuntime integerData
  obtain ⟨next, result, taken, owed⟩ :=
    total trace system run 1 _ _ _ blocked rfl
  cases (step_receive blocked).symm.trans taken
  cases owed

end ExLibp2p.Otp.Calls
