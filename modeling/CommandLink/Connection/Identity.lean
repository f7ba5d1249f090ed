import CommandLink.Address
import CommandLink.Text.Decimal

/-!
# Who talks to whom

A server is an address within a cluster. A connection to it has a number of its
own, and one that the server has given it once the two have met. Numbers of
connections and of requests are handed out in order, from one.
-/

namespace CommandLink

/-- A server within a cluster. -/
structure Server where
  cluster : String
  address : Address
  deriving DecidableEq, Repr

/-- A server in the cluster that is meant when none is named. -/
def Server.ofAddress (address : Address) : Server := ⟨"default", address⟩

/-- One connection to a server. -/
structure ConnectionIdentity where
  server : Server
  ownNumber : UInt32
  serverNumber : Option Int64
  deriving DecidableEq, Repr

namespace ConnectionIdentity

/-- The same connection with the number that the server has given it. -/
def knownAs (id : ConnectionIdentity) (value : Int64) : ConnectionIdentity :=
  { id with serverNumber := some value }

/-- The text of a connection's id. -/
def text (id : ConnectionIdentity) : String :=
  let number := match id.serverNumber with
    | some value => s!"{id.ownNumber.toNat}/{value.toInt}"
    | none => s!"{id.ownNumber.toNat}"
  s!"connection {number} to {id.server.address}"

end ConnectionIdentity

/-- The next numbers to be handed out. -/
structure Counters where
  request : UInt32
  connection : UInt32
  deriving DecidableEq, Repr

namespace Counters

/-- Before anything has been numbered. -/
def initial : Counters := ⟨1, 1⟩

/-- Hand out the number of a request. -/
def takeRequest (counters : Counters) : UInt32 × Counters :=
  (counters.request, { counters with request := counters.request + 1 })

/-- Hand out the id of a connection. -/
def takeConnection (counters : Counters) (server : Server) : ConnectionIdentity × Counters :=
  (⟨server, counters.connection, none⟩, { counters with connection := counters.connection + 1 })

end Counters

end CommandLink
