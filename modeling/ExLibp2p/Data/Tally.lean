import ExLibp2p.Data.Machine
import Mathlib.Algebra.BigOperators.Group.List.Basic
import Mathlib.Data.List.DropRight

namespace ExLibp2p.Data

/-! Accounts over histories: what the entries of a history put into a quantity
of the state and take out of it, and how long the last streak of entries
is. -/

namespace Machine

variable {State Input Output Amount : Type*} [AddCommMonoid Amount]

/-- A quantity that every step changes by what its entry puts in and takes out
is balanced over every run. -/
theorem Run.balance {machine : Machine State Input Output}
    (held : State → Amount) (credit debit : Input × Output → Amount)
    (booked : ∀ {state input next output},
      machine.step state input = some (next, output) →
        held next + debit (input, output) =
          held state + credit (input, output))
    {trace : List (Input × Output)} {state : State}
    (run : Run machine trace state) :
    held state + (trace.map debit).sum =
      held machine.init + (trace.map credit).sum := by
  induction run with
  | nil => rfl
  | @snoc trace state next input output earlier taken induction =>
      simp only [List.map_append, List.map_singleton, List.sum_append,
        List.sum_singleton]
      calc
        _ = held next + debit (input, output) + (trace.map debit).sum := by
            rw [add_comm (trace.map debit).sum, add_assoc]
        _ = held state + (trace.map debit).sum + credit (input, output) := by
            rw [booked taken, add_right_comm]
        _ = _ := by
            rw [induction, add_assoc]

end Machine

section Streaks

variable {Entry : Type*} (counted passes : Entry → Bool)

def streak (entries : List Entry) : Nat :=
  ((entries.filter counted).rtakeWhile passes).length

variable {counted passes} {entries : List Entry} {entry : Entry}

theorem streak_ignored (ignored : counted entry = false) :
    streak counted passes (entries ++ [entry]) =
      streak counted passes entries := by
  rw [streak, List.filter_append, List.filter_singleton, ignored]
  exact congrArg (fun rest => (rest.rtakeWhile passes).length)
    (List.append_nil _)

theorem streak_grows (isCounted : counted entry = true)
    (isPassed : passes entry = true) :
    streak counted passes (entries ++ [entry]) =
      streak counted passes entries + 1 := by
  rw [streak, List.filter_append, List.filter_singleton, isCounted, cond_true,
    List.rtakeWhile_concat, if_pos isPassed, List.length_append]
  rfl

theorem streak_ends (isCounted : counted entry = true)
    (isFailed : passes entry = false) :
    streak counted passes (entries ++ [entry]) = 0 := by
  rw [streak, List.filter_append, List.filter_singleton, isCounted, cond_true,
    List.rtakeWhile_concat, if_neg (by rw [isFailed]; exact Bool.false_ne_true)]
  rfl

end Streaks

end ExLibp2p.Data
