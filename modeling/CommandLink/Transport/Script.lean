import CommandLink.Message.Sighting
import CommandLink.Transport

/-!
# Scripted peers

A transport that follows a script, for rehearsing a connection without a
server. The script says how the stream comes to be, how each write is met and
what there is to read: bytes, interspersed with stalls, failures and the
connection being closed. The peer keeps what was written to it.
-/

namespace CommandLink

/-- A message that the script makes up: by default one that answers the last
request, of the present opcode, with its true length and in full. -/
structure ScriptedMessage where
  length : Option UInt32
  requestId : UInt32
  responseTo : Option UInt32
  delta : Int
  opcode : Int32
  body : Bytes
  sent : Option Nat

/-- What a script puts before a reader. -/
inductive ScriptItem where
  | raw (bytes : Bytes)
  | message (message : ScriptedMessage)
  | stall
  | fail (failure : TransportError)
  | closing

/-- How a script meets a write. -/
inductive WriteTurn where
  | stall
  | fail (failure : TransportError)
  | accept (replies : List ScriptItem) (closes : Bool)

/-- What there is to read. -/
inductive Inbound where
  | byte (byte : UInt8)
  | stall
  | fail (failure : TransportError)
  | closing

/-- A peer that follows a script. -/
structure ScriptedPeer where
  creation : Answer Unit
  connecting : Answer Unit
  turns : List WriteTurn
  inbound : List Inbound
  lastRequest : UInt32
  accepted : List Bytes
  isClosed : Bool
  closings : Nat

namespace ScriptedPeer

/-- A peer that has not been spoken to. -/
def follow (creation connecting : Answer Unit) : ScriptedPeer :=
  { creation, connecting, turns := [], inbound := [], lastRequest := 0, accepted := [],
    isClosed := false, closings := 0 }

/-- The bytes of a message when the last request had a given id. -/
def messageBytes (lastRequest : UInt32) (message : ScriptedMessage) : Bytes :=
  let header : Header :=
    { messageLength := message.length.getD (UInt32.ofNat (Header.size + message.body.length))
      requestId := message.requestId
      responseTo := message.responseTo.getD
        (UInt32.ofNat ((lastRequest.toNat + message.delta) % UInt32.size).toNat)
      opcode := message.opcode }
  let bytes := header.encode ++ message.body
  match message.sent with
  | some count => bytes.take count
  | none => bytes

/-- What an item puts before the reader. -/
def itemInbound (lastRequest : UInt32) : ScriptItem → List Inbound
  | .raw bytes => bytes.map .byte
  | .message message => (messageBytes lastRequest message).map .byte
  | .stall => [.stall]
  | .fail failure => [.fail failure]
  | .closing => [.closing]

/-- Have more to read. -/
def push (peer : ScriptedPeer) (items : List ScriptItem) : ScriptedPeer :=
  { peer with inbound := peer.inbound ++ items.flatMap (itemInbound peer.lastRequest) }

/-- Have more turns for writes. -/
def pushTurns (peer : ScriptedPeer) (turns : List WriteTurn) : ScriptedPeer :=
  { peer with turns := peer.turns ++ turns }

/-- An answer without the connection being closed. -/
def answer {α : Type} (outcome : Outcome α) : Answer α := ⟨false, outcome⟩

/-- A blocking call does not stall but fails. -/
def settle {α : Type} (mode : Mode) (answer : Answer α) : Answer α :=
  match mode, answer.outcome with
  | .blocking, .stalled => { answer with outcome := .failed (.plain .wouldBlock "stalled") }
  | _, _ => answer

/-- The failure of a call on a closed stream. -/
def closedFailure (kind : FailureKind) : TransportError := .plain kind "stream closed"

/-- Keep a message that was written. -/
def keep (peer : ScriptedPeer) (bytes : Bytes) : ScriptedPeer :=
  { peer with
    accepted := peer.accepted ++ [bytes]
    lastRequest := match Header.decodeAny? bytes with
      | some header => header.requestId
      | none => peer.lastRequest }

/-- Meet a write. Without a turn in the script it is simply accepted. -/
def write (bytes : Bytes) (peer : ScriptedPeer) : Answer Unit × ScriptedPeer :=
  if peer.isClosed then (answer (.failed (closedFailure .brokenPipe)), peer)
  else
    let rest := { peer with turns := peer.turns.tail }
    match peer.turns.head?.getD (.accept [] false) with
    | .stall => (answer .stalled, rest)
    | .fail failure => (answer (.failed failure), rest)
    | .accept replies closes => (⟨closes, .done ()⟩, (rest.keep bytes).push replies)

/-- The bytes at the front, at most so many. -/
def frontBytes : (count : Nat) → List Inbound → Bytes
  | count + 1, .byte byte :: rest => byte :: frontBytes count rest
  | _, _ => []

/-- Meet a read. -/
def read (count : Nat) (peer : ScriptedPeer) : Answer Bytes × ScriptedPeer :=
  if peer.isClosed then (answer (.failed (closedFailure .connectionAborted)), peer)
  else
    match peer.inbound with
    | [] => (answer (.failed (.plain .unexpectedEof "no more bytes")), peer)
    | .byte byte :: rest =>
      let bytes := frontBytes count (.byte byte :: rest)
      (answer (.done bytes), { peer with inbound := peer.inbound.drop bytes.length })
    | .stall :: rest => (answer .stalled, { peer with inbound := rest })
    | .fail failure :: rest => (answer (.failed failure), { peer with inbound := rest })
    | .closing :: rest =>
      (⟨true, .failed (closedFailure .connectionAborted)⟩, { peer with inbound := rest })

/-- The transport that leads to a scripted peer. -/
def transport (lendsSpares : Bool) : Transport ScriptedPeer where
  create _ peer := (settle .blocking peer.creation, peer)
  connect mode peer := (settle mode peer.connecting, peer)
  write mode bytes peer :=
    let (answer, peer) := write bytes peer
    (settle mode answer, peer)
  read mode count peer :=
    let (answer, peer) := read count peer
    (settle mode answer, peer)
  close peer := { peer with isClosed := true, closings := peer.closings + 1 }
  lendsSpares

end ScriptedPeer

end CommandLink
