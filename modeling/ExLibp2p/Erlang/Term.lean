import ExLibp2p.Data.Bytes

namespace ExLibp2p.Erlang

open ExLibp2p.Data

/-! Erlang terms. Lists are cons cells and may be improper. Kinds that the
modelled code never looks into carry an opaque number. -/

inductive Term
  | atom (name : String)
  | integer (value : Int)
  | float (bits : UInt64)
  | binary (bytes : Bytes)
  | bitstring (bytes : Bytes) (bits : Nat)
  | nil
  | cons (head tail : Term)
  | tuple (elements : List Term)
  | map (pairs : List (Term × Term))
  | pid (number : Nat)
  | port (number : Nat)
  | reference (number : Nat)
  | function (number : Nat)

def utf8 (text : String) : Bytes :=
  text.toUTF8.data.toList

/-- The text that valid UTF-8 bytes hold. -/
def utf8? (bytes : Bytes) : Option String :=
  String.fromUTF8? ⟨bytes.toArray⟩

theorem utf8?_eq_some {bytes : Bytes} {text : String} :
    utf8? bytes = some text ↔ bytes = utf8 text := by
  have roundTrip : (⟨(utf8 text).toArray⟩ : ByteArray) = text.toByteArray := by
    simp [utf8]
  constructor
  · intro valid
    simp only [utf8?, String.fromUTF8?, Option.dite_none_right_eq_some,
      Option.some.injEq] at valid
    obtain ⟨isValid, rfl⟩ := valid
    simp [utf8, String.fromUTF8]
  · intro same
    subst same
    rw [utf8?, roundTrip, String.fromUTF8?, dif_pos text.isValidUTF8]
    rfl

theorem utf8_injective {first second : String}
    (same : utf8 first = utf8 second) : first = second := by
  have readFirst : utf8? (utf8 first) = some first := utf8?_eq_some.mpr rfl
  have readSecond : utf8? (utf8 first) = some second := utf8?_eq_some.mpr same
  exact Option.some.inj (readFirst.symm.trans readSecond)

namespace Term

def text (content : String) : Term :=
  .binary (utf8 content)

def list : List Term → Term
  | [] => .nil
  | head :: tail => .cons head (list tail)

def option : Option Term → Term
  | none => .atom "nil"
  | some value => value

def isList : Term → Bool
  | .nil => true
  | .cons _ _ => true
  | _ => false

def ok (value : Term) : Term :=
  .tuple [.atom "ok", value]

def error (reason : Term) : Term :=
  .tuple [.atom "error", reason]

end Term

/-- What a process can raise. The texts of the messages hold inspected
terms, which stand beside them. -/
inductive Exception
  | argumentError (message : String) (inspected : Term)
  | functionClauseError (function : String) (argument : Term)
  | caseClauseError (value : Term)
  | protocolUndefined (protocol : String) (value : Term)
  | keyError (key : String)
  | runtimeError (message : String)

end ExLibp2p.Erlang
