import ExLibp2p.Erlang.Term

namespace ExLibp2p.Native

open ExLibp2p.Data
open ExLibp2p.Erlang

inductive NifError
  | invalidMultiaddr (message : String)
  | invalidPeerId (message : String)
  | invalidKeypair (message : String)
  | inputTooLarge (got max : Nat)
  | nodeStopped
  | channelFull
  | queryTimeout
  | dhtNotEnabled
  | rendezvousNotEnabled
  | nifPanic (message : String)
  | internal (message : String)
  deriving DecidableEq

namespace NifError

def atom : NifError → String
  | .invalidMultiaddr _ => "invalid_multiaddr"
  | .invalidPeerId _ => "invalid_peer_id"
  | .invalidKeypair _ => "invalid_keypair"
  | .inputTooLarge _ _ => "input_too_large"
  | .nodeStopped => "node_stopped"
  | .channelFull => "channel_full"
  | .queryTimeout => "query_timeout"
  | .dhtNotEnabled => "dht_not_enabled"
  | .rendezvousNotEnabled => "rendezvous_not_enabled"
  | .nifPanic _ => "nif_panic"
  | .internal _ => "internal_error"

def toString : NifError → String
  | .invalidMultiaddr message => "invalid multiaddr: " ++ message
  | .invalidPeerId message => "invalid peer id: " ++ message
  | .invalidKeypair message => "invalid keypair: " ++ message
  | .inputTooLarge got max =>
      "input too large: got " ++ ToString.toString got ++ " bytes, max " ++
        ToString.toString max
  | .nodeStopped => "node stopped: swarm event loop has exited"
  | .channelFull => "channel full: swarm is overloaded"
  | .queryTimeout => "query timeout"
  | .dhtNotEnabled => "dht not enabled"
  | .rendezvousNotEnabled => "rendezvous client not enabled"
  | .nifPanic message => "nif panic: " ++ message
  | .internal message => "internal: " ++ message

def encode (error : NifError) : Term :=
  .tuple [.atom error.atom, .text error.toString]

end NifError

/-- The Rust types that the modelled functions return inside `NifResult`. Texts
are held as their bytes and floats as their bits. -/
inductive ReturnType
  | atom
  | strings
  | okStrings
  | okString
  | okFloat
  | okCounts

namespace ReturnType

def Value : ReturnType → Type
  | .atom => Unit
  | .strings => List Bytes
  | .okStrings => List Bytes
  | .okString => Bytes
  | .okFloat => UInt64
  | .okCounts => UInt64 × UInt64

def encode : (returnType : ReturnType) → returnType.Value → Term
  | .atom, () => .atom "ok"
  | .strings, texts => .list (texts.map .binary)
  | .okStrings, texts => .ok (.list (texts.map .binary))
  | .okString, text => .ok (.binary text)
  | .okFloat, bits => .ok (.float bits)
  | .okCounts, counts =>
      .tuple [.atom "ok", .integer counts.1.toNat, .integer counts.2.toNat]

/-- An error crosses as `Error::Term`, which is a tagged tuple and not an
exception. -/
def encodeResult (returnType : ReturnType) :
    Except NifError returnType.Value → Term
  | .ok value => returnType.encode value
  | .error error => .error error.encode

end ReturnType

end ExLibp2p.Native
