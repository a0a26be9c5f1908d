import ExLibp2p.Data.Bytes

namespace ExLibp2p.Data

universe u

/-! Readers over a buffer with an offset, and the phrases they recognise. -/

structure Cursor where
  buf : Bytes
  offset : Nat

namespace Cursor

def new (buf : Bytes) : Cursor where
  buf := buf
  offset := 0

def rest (cursor : Cursor) : Bytes :=
  cursor.buf.drop cursor.offset

end Cursor

abbrev Reader (Error : Type) (Value : Type) :=
  StateT Cursor (Except Error) Value

def readMany {Error Value : Type} (readOne : Reader Error Value) :
    Nat → List Value → Reader Error (List Value)
  | 0, values => pure values
  | count + 1, values => do
      let value ← readOne
      readMany readOne count (values ++ [value])

/-- A reader recognises a language of phrases if it succeeds exactly when a
phrase stands at the offset, returns what that phrase denotes and moves the
offset to its end. -/
def Recognises {Error Value : Type} (reader : Reader Error Value)
    (Phrase : Bytes → Value → Prop) : Prop :=
  ∀ cursor, cursor.offset ≤ cursor.buf.length → ∀ value next,
    reader.run cursor = .ok (value, next) ↔
      ∃ phrase, Phrase phrase value ∧ cursor.rest = phrase ++ next.rest ∧
        next = { cursor with offset := cursor.offset + phrase.length }

variable {Error Value Result : Type}

theorem run_bind_eq_ok {reader : Reader Error Value}
    {next : Value → Reader Error Result} {cursor last : Cursor}
    {result : Result} :
    (reader >>= next).run cursor = .ok (result, last) ↔
      ∃ value middle, reader.run cursor = .ok (value, middle) ∧
        (next value).run middle = .ok (result, last) := by
  rw [StateT.run_bind, bind_eq_ok]
  constructor
  · intro found
    obtain ⟨⟨value, middle⟩, first, second⟩ := found
    exact ⟨value, middle, first, second⟩
  · intro found
    obtain ⟨value, middle, first, second⟩ := found
    exact ⟨(value, middle), first, second⟩

theorem Cursor.length_of_rest {cursor : Cursor} {phrase : Bytes} {later : Bytes}
    (valid : cursor.offset ≤ cursor.buf.length)
    (split : cursor.rest = phrase ++ later) :
    cursor.offset + phrase.length ≤ cursor.buf.length := by
  have lengths := congrArg List.length split
  simp only [Cursor.rest, List.length_drop, List.length_append] at lengths
  omega

theorem Cursor.rest_advance {cursor : Cursor} {phrase later : Bytes}
    (split : cursor.rest = phrase ++ later) :
    ({ cursor with offset := cursor.offset + phrase.length } : Cursor).rest =
      later := by
  have dropped := congrArg (List.drop phrase.length) split
  simpa [Cursor.rest, List.drop_drop, Nat.add_comm] using dropped

theorem Recognises.congr {reader : Reader Error Value}
    {First Second : Bytes → Value → Prop} (recognises : Recognises reader First)
    (same : ∀ phrase value, First phrase value ↔ Second phrase value) :
    Recognises reader Second := by
  intro cursor valid value next
  rw [recognises cursor valid]
  simp only [same]

theorem Recognises.pure (value : Value) :
    Recognises (Pure.pure value : Reader Error Value)
      (fun phrase result => phrase = [] ∧ result = value) := by
  intro cursor valid result next
  rw [StateT.run_pure]
  constructor
  · intro equation
    cases equation
    exact ⟨[], ⟨rfl, rfl⟩, rfl, rfl⟩
  · intro found
    obtain ⟨phrase, ⟨rfl, rfl⟩, -, rfl⟩ := found
    rfl

theorem Recognises.bind {reader : Reader Error Value}
    {next : Value → Reader Error Result} {First : Bytes → Value → Prop}
    {Second : Value → Bytes → Result → Prop}
    (first : Recognises reader First)
    (second : ∀ value, Recognises (next value) (Second value)) :
    Recognises (reader >>= next) (fun phrase result =>
      ∃ value front back, First front value ∧ Second value back result ∧
        phrase = front ++ back) := by
  intro cursor valid result last
  rw [run_bind_eq_ok]
  constructor
  · intro found
    obtain ⟨value, middle, readFirst, readSecond⟩ := found
    obtain ⟨front, isFirst, split, rfl⟩ :=
      (first cursor valid value middle).mp readFirst
    have middleValid := Cursor.length_of_rest valid split
    obtain ⟨back, isSecond, later, rfl⟩ :=
      (second value _ middleValid result last).mp readSecond
    refine ⟨front ++ back, ⟨value, front, back, isFirst, isSecond, rfl⟩, ?_, ?_⟩
    · rw [split, later, List.append_assoc]
    · simp [Nat.add_assoc]
  · intro found
    obtain ⟨phrase, ⟨value, front, back, isFirst, isSecond, rfl⟩, split, rfl⟩ :=
      found
    rw [List.append_assoc] at split
    have middleRest := Cursor.rest_advance split
    refine ⟨value, { cursor with offset := cursor.offset + front.length },
      (first cursor valid value _).mpr ⟨front, isFirst, ?_, rfl⟩, ?_⟩
    · rw [middleRest]
      exact split
    · refine (second value _ (Cursor.length_of_rest valid split) result _).mpr
        ⟨back, isSecond, ?_, ?_⟩
      · rw [middleRest]
      · simp [Nat.add_assoc]

theorem Recognises.expect [DecidableEq Value] {reader : Reader Error Value}
    {Phrase : Bytes → Value → Prop} (recognises : Recognises reader Phrase)
    (expected : Value) (error : Value → Error) :
    Recognises (do
        let found ← reader
        if found ≠ expected then
          throw (error found))
      (fun phrase _ => Phrase phrase expected) := by
  intro cursor valid result next
  rw [run_bind_eq_ok, ← recognises cursor valid expected next]
  constructor
  · intro found
    obtain ⟨value, middle, read, checked⟩ := found
    by_cases same : value = expected
    · subst same
      rw [if_neg (not_not_intro rfl)] at checked
      cases checked
      exact read
    · rw [if_pos same] at checked
      cases checked
  · intro read
    refine ⟨expected, next, read, ?_⟩
    rw [if_neg (not_not_intro rfl)]
    rfl

theorem Recognises.readMany {reader : Reader Error Value}
    {Phrase : Bytes → Value → Prop} (recognises : Recognises reader Phrase)
    (count : Nat) (values : List Value) :
    Recognises (readMany reader count values) (fun phrase result =>
      ∃ read, read.length = count ∧ Repeated Phrase phrase read ∧
        result = values ++ read) := by
  induction count generalizing values with
  | zero =>
      refine (Recognises.pure values).congr ?_
      intro phrase result
      constructor
      · intro found
        obtain ⟨rfl, rfl⟩ := found
        exact ⟨[], rfl, .nil, by simp⟩
      · intro found
        obtain ⟨read, empty, repeated, rfl⟩ := found
        obtain rfl := List.length_eq_zero_iff.mp empty
        cases repeated
        exact ⟨rfl, by simp⟩
  | succ count induction =>
      refine (recognises.bind fun value => induction (values ++ [value])).congr
        ?_
      intro phrase result
      constructor
      · intro found
        obtain ⟨value, front, back, head, ⟨read, length, tail, rfl⟩, rfl⟩ :=
          found
        exact ⟨value :: read, by rw [List.length_cons, length],
          .cons head tail, by simp⟩
      · intro found
        obtain ⟨read, length, repeated, rfl⟩ := found
        cases repeated with
        | nil => contradiction
        | cons head tail =>
            exact ⟨_, _, _, head, ⟨_, Nat.succ.inj length, tail, by simp⟩, rfl⟩

theorem run'_eq_ok {reader : Reader Error Value} {cursor : Cursor}
    {value : Value} :
    reader.run' cursor = .ok value ↔
      ∃ next, reader.run cursor = .ok (value, next) := by
  change (Prod.fst <$> reader.run cursor) = .ok value ↔ _
  cases reader.run cursor with
  | error error =>
      constructor
      · intro impossible
        cases impossible
      · intro found
        obtain ⟨next, impossible⟩ := found
        cases impossible
  | ok result =>
      constructor
      · intro equation
        cases equation
        exact ⟨result.2, rfl⟩
      · intro found
        obtain ⟨next, equation⟩ := found
        cases equation
        rfl

theorem Recognises.run'_new {reader : Reader Error Value}
    {Phrase : Bytes → Value → Prop} (recognises : Recognises reader Phrase)
    (data : Bytes) (value : Value) :
    reader.run' (Cursor.new data) = .ok value ↔
      ∃ phrase later, Phrase phrase value ∧ data = phrase ++ later := by
  have start := recognises (Cursor.new data) (Nat.zero_le _) value
  rw [run'_eq_ok]
  constructor
  · intro found
    obtain ⟨next, equation⟩ := found
    obtain ⟨phrase, isPhrase, split, -⟩ := (start next).mp equation
    exact ⟨phrase, next.rest, isPhrase, split⟩
  · intro found
    obtain ⟨phrase, later, isPhrase, whole⟩ := found
    have split : (Cursor.new data).rest = phrase ++ later := whole
    refine ⟨_, (start _).mpr ⟨phrase, isPhrase, ?_, rfl⟩⟩
    rw [Cursor.rest_advance split]
    exact split

end ExLibp2p.Data
