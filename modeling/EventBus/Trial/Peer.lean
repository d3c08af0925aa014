import EventBus.Environment

/-!
# A scripted peer

A peer that answers as it is told, whatever it is sent. For each frame that it is to read there is a cue:
the bytes that it writes in return, and whether it closes the connection then. Without a cue it writes
nothing and waits. It reports each frame that it reads, and its reports are taken one by one.
-/

namespace EventBus.Trial

/-- What a peer does when it has read a frame. -/
structure Cue where
  bytes : Bytes
  /-- Whether it closes the connection then. -/
  closes : Bool

/-- A peer that answers as it is told. -/
structure Peer where
  listening : Bool
  /-- How many connections it has accepted; the last one is the current one. -/
  accepted : Nat := 0
  /-- What it wrote on the current connection and was not fetched yet. -/
  unfetched : Bytes := []
  /-- Whether it has closed the current connection. -/
  gone : Bool := true
  cue : Option Cue := none
  /-- The frames that it has read, each with the number of its connection, as far as nobody has asked for
  them, oldest first. -/
  reports : List (Nat × Bytes) := []

namespace Peer

def prompt (cue : Option Cue) (peer : Peer) : Peer :=
  { peer with cue }

def takeReport (peer : Peer) : Option (Nat × Bytes) × Peer :=
  (peer.reports.head?, { peer with reports := peer.reports.tail })

def accept (peer : Peer) : Except IoError Handle × Peer :=
  if peer.listening then
    (.ok (peer.accepted + 1), { peer with accepted := peer.accepted + 1, unfetched := [], gone := false })
  else (.error .noSuchFile, peer)

def hear (handle : Handle) (bytes : Bytes) (peer : Peer) : Except IoError Unit × Peer :=
  if peer.gone then (.error .brokenPipe, peer)
  else
    let heard := { peer with reports := peer.reports ++ [(handle, bytes)], cue := none }
    match peer.cue with
    | none => (.ok (), heard)
    | some cue => (.ok (), { heard with unfetched := peer.unfetched ++ cue.bytes, gone := cue.closes })

/-- What a client finds that waits for the peer. -/
def deliver (peer : Peer) : Frame.Reader × Peer :=
  let ending := if peer.gone then .closed else .fails .wouldBlock
  (⟨if peer.unfetched.isEmpty then [] else [.piece peer.unfetched], ending⟩, { peer with unfetched := [] })

/-- Surroundings in which a scripted peer is all there is. -/
def environment : Environment Peer where
  connect _ peer := peer.accept
  write := hear
  receive _ _ peer := peer.deliver
  close _ peer := { peer with gone := true }
  now _ := .zero

end Peer

end EventBus.Trial
