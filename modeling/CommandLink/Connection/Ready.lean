import CommandLink.Connection.Status

/-!
# Peers whose bytes are ready

A peer that takes every write and has all that it will ever send ready to be read. A read of more
than there is fails, and what was left is gone. A connection to it has a prepared profile.
-/

namespace CommandLink

/-- What has been read from a peer and what is ready. -/
structure ReadyPeer where
  taken : Bytes
  ready : Bytes
  deriving DecidableEq, Repr

namespace ReadyPeer

/-- A peer of which nothing has been read. -/
def having (bytes : Bytes) : ReadyPeer := ⟨[], bytes⟩

/-- The failure of a read of more than there is. -/
def exhausted : TransportError := .plain .unexpectedEof "no more bytes"

/-- Meet a read. -/
def read (count : Nat) (peer : ReadyPeer) : Answer Bytes × ReadyPeer :=
  let answer : Outcome Bytes :=
    if count ≤ peer.ready.length then .done (peer.ready.take count) else .failed exhausted
  (⟨false, answer⟩, ⟨peer.taken ++ peer.ready.take count, peer.ready.drop count⟩)

/-- The transport that leads to a ready peer. -/
def transport : Transport ReadyPeer where
  create _ peer := (⟨false, .done ()⟩, peer)
  connect _ peer := (⟨false, .done ()⟩, peer)
  write _ _ peer := (⟨false, .done ()⟩, peer)
  read _ count peer := read count peer
  close peer := peer
  lendsSpares := false

/-- A connection to a ready peer whose server knows the same compressors. -/
def connection (compressors : CompressorSelection) : Connection ReadyPeer where
  server := .ofAddress ⟨"mock", 27017⟩
  transport := transport
  packing := .plain
  compressors
  initializer := .prepared false fun profile =>
    .ok { profile with compressors := compressors.names }
  listener := none

end ReadyPeer

end CommandLink
