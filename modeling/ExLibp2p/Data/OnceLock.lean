namespace ExLibp2p.Data

universe u

/-! Cells that are written at most once. A second write is given back. -/

structure OnceLock (Value : Type u) where
  value : Option Value

namespace OnceLock

variable {Value : Type u} {cell : OnceLock Value} {held value : Value}

def empty : OnceLock Value where
  value := none

def get (cell : OnceLock Value) : Option Value :=
  cell.value

def set (cell : OnceLock Value) (value : Value) :
    Except Value Unit × OnceLock Value :=
  match cell.value with
  | none => (.ok (), { value := some value })
  | some _ => (.error value, cell)

theorem set_of_empty (isEmpty : cell.get = none) :
    cell.set value = (.ok (), { value := some value }) := by
  rw [get] at isEmpty
  rw [set, isEmpty]

theorem set_of_full (isFull : cell.get = some held) :
    cell.set value = (.error value, cell) := by
  rw [get] at isFull
  rw [set, isFull]

end OnceLock

end ExLibp2p.Data
