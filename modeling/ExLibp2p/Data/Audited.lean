import ExLibp2p.Data.Cursor

namespace ExLibp2p.Data

/-! Readers that keep an account of their work, also when they fail. -/

inductive Event
  /-- `Vec::with_capacity` -/
  | reserve (capacity : Nat)
  /-- A loop starts another round. -/
  | round
  /-- The end of a read is computed and compared with the length. -/
  | check (offset need : Nat)
  /-- The bytes of a read are taken, and the offset moves to their end. -/
  | slice (start stop : Nat)

def Event.isRound : Event → Bool
  | .round => true
  | _ => false

def rounds (events : List Event) : Nat :=
  events.countP Event.isRound

theorem rounds_append (first second : List Event) :
    rounds (first ++ second) = rounds first + rounds second :=
  List.countP_append

def Audited (Error Value : Type) : Type :=
  Cursor → Except Error (Value × Cursor) × List Event

namespace Audited

variable {Error Value Result : Type}

def andThen (first : Audited Error Value)
    (next : Value → Audited Error Result) : Audited Error Result :=
  fun cursor =>
    match first cursor with
    | (.error error, events) => (.error error, events)
    | (.ok (value, middle), events) =>
        let (result, later) := next value middle
        (result, events ++ later)

instance : Monad (Audited Error) where
  pure := fun value cursor => (.ok (value, cursor), [])
  bind := andThen

def note (event : Event) : Audited Error Unit :=
  fun cursor => (.ok ((), cursor), [event])

def fail (error : Error) : Audited Error Value :=
  fun _ => (.error error, [])

def take (truncated : Nat → Nat → Error) (count : Nat) : Audited Error Bytes :=
  fun cursor =>
    let stop := cursor.offset + count
    if stop > cursor.buf.length then
      (.error (truncated cursor.offset count), [.check cursor.offset count])
    else
      (.ok (cursor.rest.take count, { cursor with offset := stop }),
        [.check cursor.offset count, .slice cursor.offset stop])

def readMany (readOne : Audited Error Value) :
    Nat → List Value → Audited Error (List Value)
  | 0, values => pure values
  | count + 1, values => do
      note .round
      let value ← readOne
      readMany readOne count (values ++ [value])

def Erases (audited : Audited Error Value) (reader : Reader Error Value) :
    Prop :=
  ∀ cursor, (audited cursor).1 = reader.run cursor

theorem Erases.pure (value : Value) :
    Erases (Pure.pure value : Audited Error Value) (Pure.pure value) :=
  fun _ => rfl

theorem Erases.fail (error : Error) :
    Erases (fail error : Audited Error Value) (throw error) :=
  fun _ => rfl

theorem Erases.bind {audited : Audited Error Value}
    {reader : Reader Error Value} {next : Value → Audited Error Result}
    {nextReader : Value → Reader Error Result} (first : Erases audited reader)
    (second : ∀ value, Erases (next value) (nextReader value)) :
    Erases (audited >>= next) (reader >>= nextReader) := by
  intro cursor
  have start := first cursor
  rw [StateT.run_bind, ← start]
  change (andThen audited next cursor).1 = _
  rw [andThen]
  cases ran : audited cursor with
  | mk result events =>
      cases result with
      | error error => rfl
      | ok reached =>
          obtain ⟨value, middle⟩ := reached
          exact second value middle

theorem Erases.note {audited : Audited Error Value}
    {reader : Reader Error Value} (event : Event)
    (erases : Erases audited reader) :
    Erases (do Audited.note event; audited) reader :=
  fun cursor => erases cursor

theorem Erases.expect [DecidableEq Value] {audited : Audited Error Value}
    {reader : Reader Error Value} (erases : Erases audited reader)
    (expected : Value) (error : Value → Error) :
    Erases
      (do
        let found ← audited
        if found ≠ expected then
          Audited.fail (error found))
      (do
        let found ← reader
        if found ≠ expected then
          throw (error found)) := by
  refine erases.bind fun found => ?_
  by_cases same : found = expected
  · simp only [same, ne_eq, not_true_eq_false, if_false]
    exact .pure ()
  · simp only [same, ne_eq, not_false_eq_true, if_true]
    exact .fail _

theorem Erases.readMany {readOne : Audited Error Value}
    {reader : Reader Error Value} (erases : Erases readOne reader) (count : Nat)
    (values : List Value) :
    Erases (readMany readOne count values) (Data.readMany reader count values) := by
  induction count generalizing values with
  | zero => exact .pure values
  | succ count induction =>
      exact .note .round (erases.bind fun value => induction (values ++ [value]))

section Accounts

variable (cost widest largest : Nat) (Harmless : Error → Prop)

def Sound (length : Nat) : Event → Prop
  | .reserve capacity => capacity ≤ largest
  | .round => True
  | .check offset need => offset ≤ length ∧ need ≤ widest
  | .slice start stop => start ≤ stop ∧ stop ≤ length

inductive Accounted (slack gain : Nat) (post : Value → Prop) (cursor : Cursor) :
    Except Error (Value × Cursor) × List Event → Prop
  | ok {value : Value} {next : Cursor} {events : List Event}
      (sound : ∀ event ∈ events,
        Sound widest largest cursor.buf.length event)
      (buf : next.buf = cursor.buf)
      (bound : next.offset ≤ cursor.buf.length)
      (paid : cursor.offset + gain + cost * rounds events ≤ next.offset)
      (holds : post value) :
      Accounted slack gain post cursor (.ok (value, next), events)
  | error {error : Error} {events : List Event}
      (sound : ∀ event ∈ events,
        Sound widest largest cursor.buf.length event)
      (harmless : Harmless error)
      (owed : cursor.offset + cost * rounds events ≤
        cursor.buf.length + slack) :
      Accounted slack gain post cursor (.error error, events)

/-- From every offset within the text, the reader gains so many bytes and owes
no more than the slack. -/
def Bounded (slack gain : Nat) (post : Value → Prop)
    (audited : Audited Error Value) : Prop :=
  ∀ cursor, cursor.offset ≤ cursor.buf.length →
    Accounted cost widest largest Harmless slack gain post cursor
      (audited cursor)

variable {cost widest largest Harmless}

theorem Bounded.pure {post : Value → Prop} {value : Value} (holds : post value) :
    Bounded cost widest largest Harmless 0 0 post (Pure.pure value) := by
  intro cursor valid
  exact .ok (List.forall_mem_nil _) rfl valid (Nat.le_refl _) holds

theorem Bounded.fail {post : Value → Prop} {error : Error}
    (harmless : Harmless error) :
    Bounded cost widest largest Harmless 0 0 post (fail error) := by
  intro cursor valid
  exact .error (List.forall_mem_nil _) harmless valid

theorem Bounded.take {truncated : Nat → Nat → Error} {count : Nat}
    (narrow : count ≤ widest)
    (harmless : ∀ offset need, Harmless (truncated offset need)) :
    Bounded cost widest largest Harmless 0 count
      (fun bytes => bytes.length = count) (take truncated count) := by
  intro cursor valid
  have checked : Sound widest largest cursor.buf.length
      (.check cursor.offset count) := ⟨valid, narrow⟩
  simp only [Audited.take]
  split
  · exact .error (List.forall_mem_singleton.mpr checked) (harmless _ _) valid
  · rename_i enough
    have bound := Nat.le_of_not_lt enough
    refine .ok ?_ rfl bound (Nat.le_refl _) ?_
    · exact List.forall_mem_cons.mpr ⟨checked,
        List.forall_mem_singleton.mpr ⟨Nat.le_add_right _ _, bound⟩⟩
    · simp only [Cursor.rest, List.length_take, List.length_drop]
      omega

theorem Accounted.prepend {cursor middle : Cursor} {events after : List Event}
    {outcome : Except Error (Result × Cursor)}
    {slack second gain debt more : Nat} {last : Result → Prop}
    (sound : ∀ event ∈ events, Sound widest largest cursor.buf.length event)
    (buf : middle.buf = cursor.buf)
    (paid : cursor.offset + gain + cost * rounds events ≤ middle.offset + debt)
    (enough : second + debt ≤ slack + gain)
    (later : Accounted cost widest largest Harmless second (debt + more) last
      middle (outcome, after)) :
    Accounted cost widest largest Harmless slack (gain + more) last cursor
      (outcome, events ++ after) := by
  cases later with
  | ok laterSound laterBuf bound laterPaid holds =>
      rw [buf] at laterSound bound
      refine .ok (List.forall_mem_append.mpr ⟨sound, laterSound⟩)
        (laterBuf.trans buf) bound ?_ holds
      rw [rounds_append, Nat.mul_add]
      omega
  | error laterSound harmless owed =>
      rw [buf] at laterSound owed
      refine .error (List.forall_mem_append.mpr ⟨sound, laterSound⟩) harmless ?_
      rw [rounds_append, Nat.mul_add]
      omega

theorem Bounded.bind {audited : Audited Error Value}
    {next : Value → Audited Error Result} {slack first second gain more : Nat}
    {post : Value → Prop} {last : Result → Prop}
    (start : Bounded cost widest largest Harmless first gain post audited)
    (continued : ∀ value, post value →
      Bounded cost widest largest Harmless second more last (next value))
    (firstSlack : first ≤ slack) (secondSlack : second ≤ slack + gain) :
    Bounded cost widest largest Harmless slack (gain + more) last
      (audited >>= next) := by
  intro cursor valid
  have begun := start cursor valid
  change Accounted cost widest largest Harmless slack (gain + more) last cursor
    (andThen audited next cursor)
  rw [andThen]
  cases ran : audited cursor with
  | mk result events =>
      rw [ran] at begun
      cases begun with
      | error sound harmless owed => exact .error sound harmless (by omega)
      | @ok value middle events sound buf bound paid holds =>
          have inside : middle.offset ≤ middle.buf.length := by
            rw [buf]
            exact bound
          have later := continued value holds middle inside
          rw [← Nat.zero_add more] at later
          exact .prepend sound buf paid secondSlack later

theorem Bounded.reserve {audited : Audited Error Value} {slack gain : Nat}
    {post : Value → Prop} {capacity : Nat} (small : capacity ≤ largest)
    (bounded : Bounded cost widest largest Harmless slack gain post audited) :
    Bounded cost widest largest Harmless slack gain post
      (do note (.reserve capacity); audited) := by
  intro cursor valid
  have later := bounded cursor valid
  rw [← Nat.zero_add gain] at later ⊢
  exact .prepend (List.forall_mem_singleton.mpr small) rfl (Nat.le_refl _)
    (Nat.le_refl _) later

theorem Bounded.round {audited : Audited Error Value} {slack gain : Nat}
    {post : Value → Prop}
    (bounded : Bounded cost widest largest Harmless slack (cost + gain) post
      audited) :
    Bounded cost widest largest Harmless (slack + cost) gain post
      (do note .round; audited) := by
  intro cursor valid
  have paid : cursor.offset + 0 + cost * rounds [.round] ≤
      cursor.offset + cost := Nat.le_of_eq (by simp [rounds, Event.isRound])
  rw [← Nat.zero_add gain]
  exact .prepend (List.forall_mem_singleton.mpr trivial) rfl paid
    (Nat.le_refl _) (bounded cursor valid)

theorem Bounded.weaken {audited : Audited Error Value}
    {slack slackier gain less : Nat} {post last : Value → Prop}
    (bounded : Bounded cost widest largest Harmless slack gain post audited)
    (more : slack ≤ slackier) (fewer : less ≤ gain)
    (implies : ∀ value, post value → last value) :
    Bounded cost widest largest Harmless slackier less last audited := by
  intro cursor valid
  cases ran : audited cursor with
  | mk result events =>
      have outcome := bounded cursor valid
      rw [ran] at outcome
      cases outcome with
      | ok sound buf bound paid holds =>
          exact .ok sound buf bound (by omega) (implies _ holds)
      | error sound harmless owed => exact .error sound harmless (by omega)

theorem Bounded.readMany {readOne : Audited Error Value} {slack : Nat}
    {post : Value → Prop}
    (bounded : Bounded cost widest largest Harmless slack cost post readOne)
    (count : Nat) (values : List Value) :
    Bounded cost widest largest Harmless (slack + cost) 0 (fun _ => True)
      (readMany readOne count values) := by
  induction count generalizing values with
  | zero =>
      have done : Bounded cost widest largest Harmless 0 0 (fun _ => True)
          (Pure.pure values : Audited Error (List Value)) :=
        .pure trivial
      exact done.weaken (Nat.zero_le _) (Nat.le_refl 0) fun _ holds => holds
  | succ count induction =>
      have rest := bounded.bind
        (fun value _ => induction (values ++ [value]))
        (Nat.le_refl _) (Nat.le_refl _)
      exact rest.round

end Accounts

end Audited

end ExLibp2p.Data
