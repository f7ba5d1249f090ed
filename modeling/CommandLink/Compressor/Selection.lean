import CommandLink.Compressor

/-!
# The compressors of a connection

Fixed when the connection is built, in order of preference. Inbound messages
name theirs by number: of several with one number the last counts. The one for
sending is chosen from the names that the server advertises, in the server's
order: the first that is known here, and of several with one name the first.
-/

namespace CommandLink

/-- The compressors that a connection was built with. -/
structure CompressorSelection where
  ordered : List Compressor
  deriving DecidableEq, Repr

namespace CompressorSelection

/-- The compressors that configurations ask for, in their order. -/
def ofChoices (choices : List CompressorChoice) : CompressorSelection :=
  ⟨choices.map CompressorChoice.create⟩

/-- No compressors. -/
def empty : CompressorSelection := ⟨[]⟩

/-- The names, in order. -/
def names (selection : CompressorSelection) : List String := selection.ordered.map Compressor.name

/-- Whether there is no compressor. -/
def isEmpty (selection : CompressorSelection) : Bool := selection.ordered.isEmpty

/-- The compressor of a number. -/
def get? (selection : CompressorSelection) (id : UInt8) : Option Compressor :=
  selection.ordered.reverse.find? (·.id = id)

/-- The compressor of a number, which has to be there. -/
def require (selection : CompressorSelection) (id : UInt8) : Except LinkError Compressor :=
  match selection.get? id with
  | some compressor => .ok compressor
  | none => .error (.unsupportedCompressor (.unknownId id.toNat))

/-- The first compressor of a name. -/
def named? (selection : CompressorSelection) (name : String) : Option Compressor :=
  selection.ordered.find? (·.name = name)

/-- Choose the compressor for sending. A server that advertises nothing gets
messages as they are; one that advertises only unknown names is refused. -/
def select (selection : CompressorSelection) (advertised : List String) :
    Except LinkError (Option Compressor) :=
  if advertised.isEmpty then .ok none
  else
    match advertised.findSome? selection.named? with
    | some compressor => .ok (some compressor)
    | none => .error (.unsupportedCompressor (.nothingShared advertised))

end CompressorSelection

end CommandLink
