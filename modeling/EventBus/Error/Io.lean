/-!
# Failures of the operating system

What a socket or a file operation reports. A failure that comes from the system carries the system's
error number and its wording. One that is found without the system has a wording of its own or, made
from a kind alone, is worded by the kind.
-/

namespace EventBus

/-- The kinds of failure that reading, writing and connecting can meet. -/
inductive IoKind where
  | notFound
  | permissionDenied
  | connectionRefused
  | connectionReset
  | hostUnreachable
  | networkUnreachable
  | connectionAborted
  | notConnected
  | addrInUse
  | addrNotAvailable
  | networkDown
  | brokenPipe
  | alreadyExists
  | wouldBlock
  | notADirectory
  | isADirectory
  | directoryNotEmpty
  | readOnlyFilesystem
  | staleNetworkFileHandle
  | invalidInput
  | invalidData
  | timedOut
  | writeZero
  | storageFull
  | notSeekable
  | quotaExceeded
  | fileTooLarge
  | resourceBusy
  | executableFileBusy
  | deadlock
  | crossesDevices
  | tooManyLinks
  | invalidFilename
  | argumentListTooLong
  | interrupted
  | unsupported
  | unexpectedEof
  | outOfMemory
  | other
  deriving DecidableEq, Repr

namespace IoKind

def all : List IoKind :=
  [notFound, permissionDenied, connectionRefused, connectionReset, hostUnreachable,
    networkUnreachable, connectionAborted, notConnected, addrInUse, addrNotAvailable,
    networkDown, brokenPipe, alreadyExists, wouldBlock, notADirectory, isADirectory,
    directoryNotEmpty, readOnlyFilesystem, staleNetworkFileHandle, invalidInput, invalidData,
    timedOut, writeZero, storageFull, notSeekable, quotaExceeded, fileTooLarge, resourceBusy,
    executableFileBusy, deadlock, crossesDevices, tooManyLinks, invalidFilename,
    argumentListTooLong, interrupted, unsupported, unexpectedEof, outOfMemory, other]

def name : IoKind → String
  | notFound => "NotFound"
  | permissionDenied => "PermissionDenied"
  | connectionRefused => "ConnectionRefused"
  | connectionReset => "ConnectionReset"
  | hostUnreachable => "HostUnreachable"
  | networkUnreachable => "NetworkUnreachable"
  | connectionAborted => "ConnectionAborted"
  | notConnected => "NotConnected"
  | addrInUse => "AddrInUse"
  | addrNotAvailable => "AddrNotAvailable"
  | networkDown => "NetworkDown"
  | brokenPipe => "BrokenPipe"
  | alreadyExists => "AlreadyExists"
  | wouldBlock => "WouldBlock"
  | notADirectory => "NotADirectory"
  | isADirectory => "IsADirectory"
  | directoryNotEmpty => "DirectoryNotEmpty"
  | readOnlyFilesystem => "ReadOnlyFilesystem"
  | staleNetworkFileHandle => "StaleNetworkFileHandle"
  | invalidInput => "InvalidInput"
  | invalidData => "InvalidData"
  | timedOut => "TimedOut"
  | writeZero => "WriteZero"
  | storageFull => "StorageFull"
  | notSeekable => "NotSeekable"
  | quotaExceeded => "QuotaExceeded"
  | fileTooLarge => "FileTooLarge"
  | resourceBusy => "ResourceBusy"
  | executableFileBusy => "ExecutableFileBusy"
  | deadlock => "Deadlock"
  | crossesDevices => "CrossesDevices"
  | tooManyLinks => "TooManyLinks"
  | invalidFilename => "InvalidFilename"
  | argumentListTooLong => "ArgumentListTooLong"
  | interrupted => "Interrupted"
  | unsupported => "Unsupported"
  | unexpectedEof => "UnexpectedEof"
  | outOfMemory => "OutOfMemory"
  | other => "Other"

def ofName? (name : String) : Option IoKind :=
  all.find? fun kind => kind.name == name

/-- The wording of a failure that is known by its kind alone. -/
def text : IoKind → String
  | notFound => "entity not found"
  | permissionDenied => "permission denied"
  | connectionRefused => "connection refused"
  | connectionReset => "connection reset"
  | hostUnreachable => "host unreachable"
  | networkUnreachable => "network unreachable"
  | connectionAborted => "connection aborted"
  | notConnected => "not connected"
  | addrInUse => "address in use"
  | addrNotAvailable => "address not available"
  | networkDown => "network down"
  | brokenPipe => "broken pipe"
  | alreadyExists => "entity already exists"
  | wouldBlock => "operation would block"
  | notADirectory => "not a directory"
  | isADirectory => "is a directory"
  | directoryNotEmpty => "directory not empty"
  | readOnlyFilesystem => "read-only filesystem or storage medium"
  | staleNetworkFileHandle => "stale network file handle"
  | invalidInput => "invalid input parameter"
  | invalidData => "invalid data"
  | timedOut => "timed out"
  | writeZero => "write zero"
  | storageFull => "no storage space"
  | notSeekable => "seek on unseekable file"
  | quotaExceeded => "quota exceeded"
  | fileTooLarge => "file too large"
  | resourceBusy => "resource busy"
  | executableFileBusy => "executable file busy"
  | deadlock => "deadlock"
  | crossesDevices => "cross-device link or rename"
  | tooManyLinks => "too many links"
  | invalidFilename => "invalid filename"
  | argumentListTooLong => "argument list too long"
  | interrupted => "operation interrupted"
  | unsupported => "unsupported"
  | unexpectedEof => "unexpected end of file"
  | outOfMemory => "out of memory"
  | other => "other error"

end IoKind

/-- How a failure is worded. -/
inductive IoWording where
  | byKind
  | own (words : String)
  /-- With the system's error number and its words. -/
  | system (number : Nat) (words : String)
  deriving DecidableEq, Repr

/-- A failure of the operating system. -/
structure IoError where
  kind : IoKind
  wording : IoWording := .byKind
  deriving DecidableEq, Repr

namespace IoError

def text (e : IoError) : String :=
  match e.wording with
  | .byKind => e.kind.text
  | .own words => words
  | .system number words => s!"{words} (os error {number})"

/-- Nothing is bound to the path of a socket, or there is no such file. -/
def noSuchFile : IoError := ⟨.notFound, .system 2 "No such file or directory"⟩

/-- The path of a socket goes on below something that is no directory. -/
def notDirectory : IoError := ⟨.notADirectory, .system 20 "Not a directory"⟩

/-- What stands at the path of a socket may never be written to. -/
def notPermitted : IoError := ⟨.permissionDenied, .system 1 "Operation not permitted"⟩

/-- What stands at the path of a socket is no socket. -/
def refused : IoError := ⟨.connectionRefused, .system 111 "Connection refused"⟩

def nulInPath : IoError := ⟨.invalidInput, .own "paths must not contain interior null bytes"⟩

def pathTooLong : IoError := ⟨.invalidInput, .own "path must be shorter than SUN_LEN"⟩

def isDirectory : IoError := ⟨.isADirectory, .system 21 "Is a directory"⟩

/-- The peer closed the connection that is written to. -/
def brokenPipe : IoError := ⟨.brokenPipe, .system 32 "Broken pipe"⟩

def noRoute : IoError := ⟨.networkUnreachable, .system 101 "Network is unreachable"⟩

/-- No local address fits the address that is to be reached. -/
def noLocalAddress : IoError := ⟨.addrNotAvailable, .system 99 "Cannot assign requested address"⟩

/-- The address can only be reached within a scope, and none is given. -/
def invalidArgument : IoError := ⟨.invalidInput, .system 22 "Invalid argument"⟩

/-- Nothing came in time on a blocking socket with a timeout. -/
def wouldBlock : IoError := ⟨.wouldBlock, .system 11 "Resource temporarily unavailable"⟩

end IoError

end EventBus
