import CommandLink.Text.Decimal
import CommandLink.Text.Lowercase

/-!
# Server addresses

A host in lower case and a port. The text form puts a colon between the two
and is read from its last colon, so a host may hold colons itself.
-/

namespace CommandLink

/-- Where a server listens. -/
structure Address where
  host : String
  port : UInt16
  deriving DecidableEq, Repr

namespace Address

/-- The port of an address that names none. -/
def defaultPort : UInt16 := 27017

/-- The address of a host, whatever the case of its letters. -/
def ofHost (host : String) (port : UInt16) : Address :=
  ⟨Text.lowercase host, port⟩

/-- The local server at the default port. -/
def localhost : Address := ofHost "127.0.0.1" defaultPort

instance : Inhabited Address := ⟨localhost⟩

/-- The text `host:port`. -/
def text (address : Address) : String :=
  address.host ++ ":" ++ toString address.port.toNat

instance : ToString Address := ⟨text⟩

/-- The parts before and after the last colon. -/
def splitLastColon (chars : List Char) : Option (List Char × List Char) :=
  match chars.reverse.dropWhile (· ≠ ':') with
  | [] => none
  | _ :: before => some (before.reverse, (chars.reverse.takeWhile (· ≠ ':')).reverse)

/-- Read `host:port`, or a host alone at the default port. An empty host or a
port that is no 16-bit number is refused. -/
def parse? (value : String) : Option Address :=
  match splitLastColon value.toList with
  | none => if value.isEmpty then none else some (ofHost value defaultPort)
  | some (host, port) =>
    if host = [] then none
    else (Text.decimalBelow? 65536 port).map fun n => ofHost (String.ofList host) (UInt16.ofNat n)

end Address

end CommandLink
