import ExLibp2p.Native.Config

namespace ExLibp2p.Native

/-! The connection limits that `start_node_inner` installs. -/

/-- How `cargo` was asked to build. Only a debug build checks its sums: the
release profile of `Cargo.toml` leaves `overflow-checks` off. -/
inductive Profile
  | debug
  | release
  deriving DecidableEq

/-- The operator `+` on `u32`. -/
def Profile.add (profile : Profile) (first second : UInt32) :
    Except Panic UInt32 :=
  match profile with
  | .debug =>
      if first.toNat + second.toNat < UInt32.size then .ok (first + second)
      else .error .addOverflow
  | .release => .ok (first + second)

structure ConnectionLimits where
  maxPendingIncoming : Option UInt32
  maxPendingOutgoing : Option UInt32
  maxEstablishedIncoming : Option UInt32
  maxEstablishedOutgoing : Option UInt32
  maxEstablishedPerPeer : Option UInt32
  maxEstablished : Option UInt32
  deriving DecidableEq

def connectionLimits (profile : Profile) (config : NodeConfig) :
    Except Panic ConnectionLimits := do
  return {
    maxPendingIncoming := some config.maxPendingIncoming
    maxPendingOutgoing := some config.maxPendingOutgoing
    maxEstablishedIncoming := some config.maxEstablishedIncoming
    maxEstablishedOutgoing := some config.maxEstablishedOutgoing
    maxEstablishedPerPeer := some config.maxEstablishedPerPeer
    maxEstablished := some (← profile.add config.maxEstablishedIncoming
      config.maxEstablishedOutgoing) }

/-- The sum is exact in both builds, or in neither. -/
theorem Profile.add_exact_iff (profile : Profile) (first second : UInt32) :
    (∃ total, profile.add first second = .ok total ∧
      total.toNat = first.toNat + second.toNat) ↔
      first.toNat + second.toNat < UInt32.size := by
  have modular : (first + second).toNat =
      (first.toNat + second.toNat) % UInt32.size := UInt32.toNat_add first second
  constructor
  · intro exact
    obtain ⟨total, -, same⟩ := exact
    rw [← same]
    exact total.toNat_lt_size
  · intro small
    refine ⟨first + second, ?_, ?_⟩
    · cases profile with
      | debug => exact if_pos small
      | release => rfl
    · rw [modular, Nat.mod_eq_of_lt small]

end ExLibp2p.Native
