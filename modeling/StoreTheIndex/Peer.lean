import Mathlib.Data.List.Basic

/-!
# Peers and index values

The libp2p and indexer-core types that both the daemon and the find handler use: a peer's ID
and addresses, and a value of the index, which names the provider that holds the content.
Peer IDs and addresses are kept as their string forms; only their equality matters here.
-/

namespace StoreTheIndex

/-- A libp2p `peer.ID`. -/
abbrev PeerId := String

/-- A peer's `peer.AddrInfo`. -/
structure AddrInfo where
  id : PeerId
  addrs : List String
  deriving DecidableEq, Repr

/-- An `indexer.Value`: the provider of the content, the context it was advertised in, and its
metadata. -/
structure Value where
  providerID : PeerId
  contextID : List UInt8
  metadataBytes : List UInt8
  deriving DecidableEq, Repr

end StoreTheIndex
