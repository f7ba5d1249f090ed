/-!
# What kind of failure a transport reports
-/

namespace CommandLink

/-- The kinds of failure that a transport or a codec tells apart. The last three
are met only where an operating system reports them. -/
inductive FailureKind where
  | notFound
  | permissionDenied
  | connectionRefused
  | connectionReset
  | hostUnreachable
  | networkUnreachable
  | connectionAborted
  | notConnected
  | addrInUse
  | addrNotAvailable
  | networkDown
  | brokenPipe
  | alreadyExists
  | wouldBlock
  | notADirectory
  | isADirectory
  | directoryNotEmpty
  | readOnlyFilesystem
  | staleNetworkFileHandle
  | invalidInput
  | invalidData
  | timedOut
  | writeZero
  | storageFull
  | notSeekable
  | quotaExceeded
  | fileTooLarge
  | resourceBusy
  | executableFileBusy
  | deadlock
  | crossesDevices
  | tooManyLinks
  | invalidFilename
  | argumentListTooLong
  | interrupted
  | unsupported
  | unexpectedEof
  | outOfMemory
  | other
  | filesystemLoop
  | inProgress
  | uncategorized
  deriving DecidableEq, Repr, Inhabited

namespace FailureKind

/-- The kinds that can be asked for, with their names. -/
def names : List (FailureKind × String) :=
  [ (notFound, "NotFound"), (permissionDenied, "PermissionDenied"),
    (connectionRefused, "ConnectionRefused"), (connectionReset, "ConnectionReset"),
    (hostUnreachable, "HostUnreachable"), (networkUnreachable, "NetworkUnreachable"),
    (connectionAborted, "ConnectionAborted"), (notConnected, "NotConnected"),
    (addrInUse, "AddrInUse"), (addrNotAvailable, "AddrNotAvailable"),
    (networkDown, "NetworkDown"), (brokenPipe, "BrokenPipe"),
    (alreadyExists, "AlreadyExists"), (wouldBlock, "WouldBlock"),
    (notADirectory, "NotADirectory"), (isADirectory, "IsADirectory"),
    (directoryNotEmpty, "DirectoryNotEmpty"), (readOnlyFilesystem, "ReadOnlyFilesystem"),
    (staleNetworkFileHandle, "StaleNetworkFileHandle"), (invalidInput, "InvalidInput"),
    (invalidData, "InvalidData"), (timedOut, "TimedOut"), (writeZero, "WriteZero"),
    (storageFull, "StorageFull"), (notSeekable, "NotSeekable"),
    (quotaExceeded, "QuotaExceeded"), (fileTooLarge, "FileTooLarge"),
    (resourceBusy, "ResourceBusy"), (executableFileBusy, "ExecutableFileBusy"),
    (deadlock, "Deadlock"), (crossesDevices, "CrossesDevices"),
    (tooManyLinks, "TooManyLinks"), (invalidFilename, "InvalidFilename"),
    (argumentListTooLong, "ArgumentListTooLong"), (interrupted, "Interrupted"),
    (unsupported, "Unsupported"), (unexpectedEof, "UnexpectedEof"),
    (outOfMemory, "OutOfMemory"), (other, "Other") ]

/-- The name of a kind. -/
def name (kind : FailureKind) : String :=
  match names.find? (·.1 = kind) with
  | some (_, name) => name
  | none =>
    match kind with
    | filesystemLoop => "FilesystemLoop"
    | inProgress => "InProgress"
    | _ => "Uncategorized"

/-- The kind that is asked for by a name. -/
def ofName? (name : String) : Option FailureKind :=
  (names.find? (·.2 = name)).map (·.1)

end FailureKind

end CommandLink
