import CommandLink.Connection.Profile
import CommandLink.Message.Command

/-!
# Setting a connection up

The opening command introduces the client and offers its compressors. It goes
out in the legacy form, which every server understands. Instead of asking the
server, a profile may also be prepared beforehand.
-/

namespace CommandLink

/-- What the client tells of itself. -/
structure Handshake where
  applicationName : Option String
  compressors : List String
  deriving DecidableEq, Repr

namespace Handshake

/-- The name of the driver. -/
def driverName : String := "docwire-connection"

/-- The version of the driver. -/
def driverVersion : String := "0.1.0"

/-- The system that the client runs on. -/
def system : Document := [("type", .string "linux"), ("architecture", .string "x86_64")]

/-- The part of the opening command that introduces the client. -/
def client (handshake : Handshake) : Document :=
  [ ("driver", .document [("name", .string driverName), ("version", .string driverVersion)]),
    ("os", .document system) ]
  ++ match handshake.applicationName with
    | some name => [("application", .document [("name", .string name)])]
    | none => []

/-- The opening command. -/
def command (handshake : Handshake) : Document :=
  [("isMaster", .int32 1), ("client", .document handshake.client)]
  ++ if handshake.compressors.isEmpty then []
    else [("compression", .array (handshake.compressors.map Bson.string))]

/-- The database that the opening command goes to. -/
def database : String := "admin"

/-- The opening command as a message. -/
def message (handshake : Handshake) (requestId : UInt32) : Command :=
  (Command.ofCommand requestId database handshake.command).legacy

end Handshake

/-- How a connection learns its profile once its stream is open: by asking
the server, or from the present one, the connection possibly being closed
meanwhile. -/
inductive Initializer where
  | handshake (handshake : Handshake)
  | prepared (closes : Bool)
      (describe : ConnectionProfile → Except LinkError ConnectionProfile)

end CommandLink
