import ExLibp2p.Data.Cursor

namespace ExLibp2p.Data

/-! Texts as sequences of fields, and readers that take one field after the
other. A reader that meets the end inside a field reports where that field
starts and how long it is. -/

/-- The first field that does not fit into so many bytes: where it starts, and
its length. -/
def firstCut : List Bytes → Nat → Option (Nat × Nat)
  | [], _ => none
  | field :: fields, length =>
      if length < field.length then
        some (0, field.length)
      else
        (firstCut fields (length - field.length)).map fun (offset, need) =>
          (field.length + offset, need)

theorem firstCut_bounds {fields : List Bytes} {length offset need : Nat}
    (found : firstCut fields length = some (offset, need)) :
    offset ≤ length ∧ length < offset + need := by
  induction fields generalizing length offset with
  | nil => cases found
  | cons field fields induction =>
      rw [firstCut] at found
      split at found
      · rename_i short
        cases found
        exact ⟨Nat.zero_le _, by omega⟩
      · rename_i whole
        obtain ⟨⟨inner, size⟩, later, same⟩ := Option.map_eq_some_iff.mp found
        cases same
        have bounds := induction later
        omega

theorem exists_firstCut {fields : List Bytes} {length : Nat}
    (short : length < fields.flatten.length) :
    ∃ offset need, firstCut fields length = some (offset, need) := by
  induction fields generalizing length with
  | nil => exact absurd short (Nat.not_lt_zero length)
  | cons field fields induction =>
      rw [firstCut]
      split
      · exact ⟨_, _, rfl⟩
      · rw [List.flatten_cons, List.length_append] at short
        have shorter : length - field.length < fields.flatten.length := by omega
        obtain ⟨offset, need, later⟩ := induction shorter
        rw [later]
        exact ⟨_, _, rfl⟩

theorem firstCut_append (front back : List Bytes) (length : Nat) :
    firstCut (front ++ back) length =
      if length < front.flatten.length then
        firstCut front length
      else
        (firstCut back (length - front.flatten.length)).map
          fun (offset, need) => (front.flatten.length + offset, need) := by
  induction front generalizing length with
  | nil => simp
  | cons field fields induction =>
      rw [List.cons_append, firstCut, firstCut, List.flatten_cons,
        List.length_append, induction]
      by_cases short : length < field.length
      · rw [if_pos short, if_pos short, if_pos (by omega)]
      · rw [if_neg short, if_neg short]
        by_cases inside : length - field.length < fields.flatten.length
        · rw [if_pos inside, if_pos (by omega)]
        · rw [if_neg inside, if_neg (by omega), Option.map_map, Nat.sub_sub]
          congr 1
          funext cut
          simp [Nat.add_assoc]

variable {Error Value Result : Type} {truncated : Nat → Nat → Error}

/-- A reader takes exactly these fields, wherever they stand, and reports the
first one that the end of the text cuts. -/
structure Consumes (truncated : Nat → Nat → Error) (reader : Reader Error Value)
    (fields : List Bytes) (value : Value) : Prop where
  whole : ∀ before later,
    reader.run { buf := before ++ (fields.flatten ++ later)
                 offset := before.length } =
      .ok (value,
        { buf := before ++ (fields.flatten ++ later)
          offset := before.length + fields.flatten.length })
  cut : ∀ before part offset need, part <+: fields.flatten →
    firstCut fields part.length = some (offset, need) →
      reader.run { buf := before ++ part, offset := before.length } =
        .error (truncated (before.length + offset) need)

namespace Consumes

theorem pure (value : Value) :
    Consumes truncated (Pure.pure value) [] value where
  whole := fun _ _ => rfl
  cut := fun _ _ _ _ _ found => nomatch found

theorem rest_of_cut {front back : List Bytes} {part : Bytes}
    (starts : part <+: (front ++ back).flatten)
    (enough : front.flatten.length ≤ part.length) :
    ∃ rest, part = front.flatten ++ rest ∧ rest <+: back.flatten := by
  rw [List.flatten_append] at starts
  obtain ⟨rest, rfl⟩ := List.prefix_of_prefix_length_le
    (List.prefix_append front.flatten back.flatten) starts enough
  exact ⟨rest, rfl, (List.prefix_append_right_inj _).mp starts⟩

theorem bind {reader : Reader Error Value} {next : Value → Reader Error Result}
    {front back : List Bytes} {value : Value} {result : Result}
    (first : Consumes truncated reader front value)
    (second : Consumes truncated (next value) back result) :
    Consumes truncated (reader >>= next) (front ++ back) result where
  whole := by
    intro before later
    have read := first.whole before (back.flatten ++ later)
    have continued := second.whole (before ++ front.flatten) later
    simp only [List.append_assoc, List.length_append] at read continued
    rw [List.flatten_append, List.append_assoc, StateT.run_bind, read]
    refine continued.trans ?_
    rw [List.length_append, Nat.add_assoc]
  cut := by
    intro before part offset need starts found
    rw [firstCut_append] at found
    rw [StateT.run_bind]
    split at found
    · rename_i inside
      rw [List.flatten_append] at starts
      have inFront : part <+: front.flatten :=
        List.prefix_of_prefix_length_le starts (List.prefix_append _ _)
          (Nat.le_of_lt inside)
      rw [first.cut before part offset need inFront found]
      rfl
    · rename_i enough
      obtain ⟨rest, rfl, inBack⟩ := rest_of_cut starts (Nat.le_of_not_lt enough)
      rw [List.length_append, Nat.add_sub_cancel_left] at found
      obtain ⟨⟨inner, size⟩, later, same⟩ := Option.map_eq_some_iff.mp found
      cases same
      have continued := second.cut (before ++ front.flatten) rest inner need
        inBack later
      simp only [List.append_assoc, List.length_append] at continued
      rw [first.whole before rest]
      refine continued.trans ?_
      rw [Nat.add_assoc]

theorem expect [DecidableEq Value] {reader : Reader Error Value}
    {fields : List Bytes} {value : Value} (error : Value → Error)
    (consumes : Consumes truncated reader fields value) :
    Consumes truncated (do
        let found ← reader
        if found ≠ value then
          throw (error found)) fields () := by
  rw [← List.append_nil fields]
  refine consumes.bind ?_
  rw [if_neg (not_not_intro rfl)]
  exact .pure ()

theorem readMany {reader : Reader Error Value} {fields : Value → List Bytes}
    {values : List Value}
    (consumes : ∀ value ∈ values, Consumes truncated reader (fields value) value)
    (earlier : List Value) :
    Consumes truncated (readMany reader values.length earlier)
      (values.flatMap fields) (earlier ++ values) := by
  induction values generalizing earlier with
  | nil =>
      rw [List.append_nil]
      exact .pure earlier
  | cons value values induction =>
      obtain ⟨head, tail⟩ := List.forall_mem_cons.mp consumes
      have continued := induction tail (earlier ++ [value])
      rw [List.append_assoc] at continued
      exact head.bind continued

end Consumes

end ExLibp2p.Data
