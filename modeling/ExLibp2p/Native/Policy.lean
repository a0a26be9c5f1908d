namespace ExLibp2p.Native.Policy

/-! The constants of `policy.rs` that the modelled functions read. -/

def maxPendingResponses : Nat := 1024

def maxDhtExportBytes : Nat := 4 * 1024 * 1024

namespace GossipsubDefaultScore

-- -53.0
def ipColocationFactorWeight : UInt64 := 0xc04a800000000000

-- 3.0
def ipColocationFactorThreshold : UInt64 := 0x4008000000000000

-- -15.92
def behaviourPenaltyWeight : UInt64 := 0xc02fd70a3d70a3d7

-- 0.986
def behaviourPenaltyDecay : UInt64 := 0x3fef8d4fdf3b645a

end GossipsubDefaultScore

namespace GossipsubDefaultThresholds

-- -4000.0
def gossip : UInt64 := 0xc0af400000000000

-- -8000.0
def publish : UInt64 := 0xc0bf400000000000

-- -16000.0
def graylist : UInt64 := 0xc0cf400000000000

-- 100.0
def acceptPx : UInt64 := 0x4059000000000000

-- 5.0
def opportunisticGraft : UInt64 := 0x4014000000000000

end GossipsubDefaultThresholds

end ExLibp2p.Native.Policy
