import Mathlib.Data.List.Basic

namespace ExLibp2p.Data

universe u

/-! Counters as text, a line each, and how a scraper reads them back. -/

structure Sample where
  name : String
  label : String
  value : String
  count : Nat
  deriving DecidableEq

inductive Line
  | comment (text : String)
  | sample (entry : Sample)
  | blank
  deriving DecidableEq

def Sample.text (sample : Sample) : String :=
  sample.name ++ "\x7b" ++ sample.label ++ "=\"" ++ sample.value ++
    "\"\x7d " ++ toString sample.count

namespace Line

def text : Line → String
  | .comment text => "# " ++ text
  | .sample entry => entry.text
  | .blank => ""

def sample? : Line → Option Sample
  | .sample entry => some entry
  | _ => none

end Line

def document (lines : List Line) : String :=
  String.join (lines.map fun line => line.text ++ "\n")

theorem document_append (first second : List Line) :
    document (first ++ second) = document first ++ document second := by
  rw [document, List.map_append, String.join_append]
  rfl

theorem document_cons (line : Line) (lines : List Line) :
    document (line :: lines) = line.text ++ "\n" ++ document lines := by
  rw [document, List.map_cons, String.join_cons]
  rfl

section Cut

variable {Item : Type u} [DecidableEq Item] {mark : Item}

def cutAt (mark : Item) : List Item → Option (List Item × List Item)
  | [] => none
  | item :: rest =>
      if item = mark then some ([], rest)
      else (cutAt mark rest).map fun parts => (item :: parts.1, parts.2)

theorem cutAt_append {before : List Item} (unmarked : mark ∉ before)
    (after : List Item) :
    cutAt mark (before ++ mark :: after) = some (before, after) := by
  induction before with
  | nil => exact if_pos rfl
  | cons item before induction =>
      have different := List.ne_of_not_mem_cons unmarked
      rw [List.cons_append, cutAt, if_neg (Ne.symm different),
        induction (List.not_mem_of_not_mem_cons unmarked)]
      rfl

theorem cutAt_eq_none {text : List Item} (unmarked : mark ∉ text) :
    cutAt mark text = none := by
  induction text with
  | nil => rfl
  | cons item rest induction =>
      have different := List.ne_of_not_mem_cons unmarked
      rw [cutAt, if_neg (Ne.symm different),
        induction (List.not_mem_of_not_mem_cons unmarked)]
      rfl

end Cut

def readSample (line : List Char) : Option Sample := do
  let (name, rest) ← cutAt '{' line
  let (label, rest) ← cutAt '=' rest
  let (_, rest) ← cutAt '"' rest
  let (value, rest) ← cutAt '"' rest
  let (_, digits) ← cutAt ' ' rest
  some
    { name := String.ofList name
      label := String.ofList label
      value := String.ofList value
      count := Nat.ofDigitChars 10 digits 0 }

def readSamples (text : String) : List Sample :=
  (text.toList.splitOn '\n').filterMap readSample

def Avoids (chars : List Char) (text : String) : Prop :=
  ∀ char ∈ chars, char ∉ text.toList

instance (chars : List Char) : DecidablePred (Avoids chars) :=
  fun text => List.decidableBAll (fun char => char ∉ text.toList) chars

section Avoids

variable {chars : List Char} {first second : String}

theorem avoids_append (isFirst : Avoids chars first)
    (isSecond : Avoids chars second) : Avoids chars (first ++ second) := by
  intro char marked member
  rw [String.toList_append, List.mem_append] at member
  rcases member with member | member
  · exact isFirst char marked member
  · exact isSecond char marked member

theorem avoids_intercalate {separator : String} {texts : List String}
    (between : Avoids chars separator) (each : ∀ text ∈ texts, Avoids chars text) :
    Avoids chars (separator.intercalate texts) := by
  induction texts with
  | nil =>
      intro char marked member
      rw [String.intercalate_nil] at member
      cases member
  | cons text texts induction =>
      obtain ⟨head, tail⟩ := List.forall_mem_cons.mp each
      by_cases last : texts = []
      · rw [last, String.intercalate_singleton]
        exact head
      · rw [String.intercalate_cons_of_ne_nil last]
        exact avoids_append (avoids_append head between) (induction tail)

end Avoids

structure Sample.Plain (sample : Sample) : Prop where
  name : Avoids ['{', '\n'] sample.name
  label : Avoids ['=', '\n'] sample.label
  value : Avoids ['"', '\n'] sample.value

def Line.Plain : Line → Prop
  | .comment text => Avoids ['{', '\n'] text
  | .sample entry => entry.Plain
  | .blank => True

theorem toList_toString (number : Nat) :
    (toString number).toList = Nat.toDigits 10 number :=
  Nat.toList_repr

theorem newline_notMem_digits (number : Nat) :
    '\n' ∉ (toString number).toList := by
  intro member
  rw [toList_toString] at member
  have digit := Nat.isDigit_of_mem_toDigits (by decide) (by decide) member
  revert digit
  decide

theorem Sample.toList_text (sample : Sample) :
    sample.text.toList = sample.name.toList ++ '{' ::
      (sample.label.toList ++ '=' :: ([] ++ '"' ::
        (sample.value.toList ++ '"' :: (['}'] ++ ' ' ::
          Nat.toDigits 10 sample.count)))) := by
  simp [text]

theorem readSample_text {sample : Sample} (plain : sample.Plain) :
    readSample sample.text.toList = some sample := by
  have name := plain.name '{' (by simp)
  have label := plain.label '=' (by simp)
  have value := plain.value '"' (by simp)
  rw [Sample.toList_text]
  simp only [readSample, cutAt_append name, cutAt_append label,
    cutAt_append value, cutAt_append List.not_mem_nil,
    cutAt_append (by decide : ' ' ∉ ['}']), Option.bind_eq_bind,
    Option.bind_some, String.ofList_toList, Nat.ofDigitChars_ten_toDigits]

theorem avoids_comment {text : String} (plain : (Line.comment text).Plain) :
    Avoids ['{', '\n'] (Line.comment text).text :=
  avoids_append (by decide) plain

theorem readSample_line {line : Line} (plain : line.Plain) :
    readSample line.text.toList = line.sample? := by
  cases line with
  | comment text =>
      rw [readSample, cutAt_eq_none (avoids_comment plain '{' (by simp))]
      rfl
  | sample entry => exact readSample_text plain
  | blank => rfl

theorem newline_notMem_line {line : Line} (plain : line.Plain) :
    '\n' ∉ line.text.toList := by
  cases line with
  | comment text => exact avoids_comment plain '\n' (by simp)
  | sample entry =>
      have name := plain.name '\n' (by simp)
      have label := plain.label '\n' (by simp)
      have value := plain.value '\n' (by simp)
      have digits := newline_notMem_digits entry.count
      rw [toList_toString] at digits
      rw [Line.text, Sample.toList_text]
      simp [name, label, value, digits]
  | blank => simp [Line.text]

theorem toList_document_cons (line : Line) (lines : List Line) :
    (document (line :: lines)).toList =
      line.text.toList ++ '\n' :: (document lines).toList := by
  simp [document_cons]

theorem readSamples_document {lines : List Line}
    (plain : ∀ line ∈ lines, line.Plain) :
    readSamples (document lines) = lines.filterMap Line.sample? := by
  induction lines with
  | nil => rfl
  | cons line lines induction =>
      obtain ⟨first, others⟩ := List.forall_mem_cons.mp plain
      have rest := induction others
      rw [readSamples] at rest ⊢
      rw [toList_document_cons,
        List.splitOn_append_cons_self_of_not_mem (newline_notMem_line first),
        List.filterMap_cons, List.filterMap_cons, readSample_line first, rest]

end ExLibp2p.Data
