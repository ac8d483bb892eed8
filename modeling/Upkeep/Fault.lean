/-
Upkeep.Fault — faults: what the remote host, a reader or the operating
system reports.

A fault has a kind and a text. The kind says what may handle the fault:
`isHostFault` holds of everything that a connection to a remote host may
report, `isTimeout` of its time limits, and `isValueFault` of values that
cannot be made sense of. The same fault can belong to several classes.
-/
import Upkeep.Encoding.Utf8
import Upkeep.Text.Quoted

namespace Upkeep

/-! ## 1. Captured streams -/

/-- What one output stream of a command was captured as. -/
inductive Capture
  | absent
  | text (s : String)
  | octets (bytes : List UInt8)
  deriving DecidableEq, Repr

/-- The captured stream as text; octets are read as UTF-8. -/
def Capture.asText : Capture → String
  | .absent => ""
  | .text s => s
  | .octets bytes => String.ofList (Encoding.Utf8.decodeLossy bytes)

/-! ## 2. Kinds of faults -/

/-- What kind of fault was reported. -/
inductive Fault.Kind
  /-- The operating system, with its error number if it gave one. -/
  | system (code : Option Int)
  | connectionRefused
  | timedOut
  /-- A command that ran into its time limit, with the output so far. -/
  | commandTimedOut (stdout stderr : Capture)
  | connectionLost
  | permissionDenied
  | fileTransfer
  | channelNotOpened
  | unreadableKey
  | value
  | malformedDocument
  | undecodableText
  | unencodableText
  | malformedBase64
  | unknownName
  | wrongType
  | missingAttribute
  | overflow
  | tooDeep
  | outOfMemory
  | runtime
  /-- A task that waits for a lock which only it could free. -/
  | deadlock
  /-- Any other kind, which nothing here tells apart, by its word. -/
  | other (word : String)
  deriving DecidableEq, Repr

namespace Fault.Kind

/-- The operating system's error number for a time limit. -/
def timeoutCode : Int := 110

/-- Reported by the operating system. -/
def isSystem : Kind → Bool
  | .system _ | .connectionRefused | .timedOut | .commandTimedOut _ _ => true
  | _ => false

/-- Reported by the protocol of the connection. -/
def isProtocol : Kind → Bool
  | .commandTimedOut _ _ | .connectionLost | .permissionDenied | .fileTransfer
  | .channelNotOpened => true
  | _ => false

/-- A time limit. -/
def isTimeout : Kind → Bool
  | .timedOut | .commandTimedOut _ _ => true
  | .system code => code == some timeoutCode
  | _ => false

/-- Anything that a connection to a remote host may report. -/
def isHostFault (k : Kind) : Bool := k.isSystem || k.isProtocol || k.isTimeout

/-- A value that cannot be made sense of. -/
def isValueFault : Kind → Bool
  | .value | .unreadableKey | .malformedDocument | .undecodableText | .unencodableText
  | .malformedBase64 => true
  | _ => false

/-- The word for an error number of the operating system. -/
def systemWord (code : Int) : String :=
  match code with
  | 1 | 13 => "PermissionError"
  | 2 => "FileNotFoundError"
  | 3 => "ProcessLookupError"
  | 4 => "InterruptedError"
  | 10 => "ChildProcessError"
  | 11 | 114 | 115 => "BlockingIOError"
  | 17 => "FileExistsError"
  | 20 => "NotADirectoryError"
  | 21 => "IsADirectoryError"
  | 32 | 108 => "BrokenPipeError"
  | 103 => "ConnectionAbortedError"
  | 104 => "ConnectionResetError"
  | 110 => "TimeoutError"
  | 111 => "ConnectionRefusedError"
  | _ => "OSError"

/-- The word under which faults of a kind are reported and counted. -/
def word : Kind → String
  | .system none => "OSError"
  | .system (some code) => systemWord code
  | .connectionRefused => "ConnectionRefusedError"
  | .timedOut => "TimeoutError"
  | .commandTimedOut _ _ => "TimeoutError"
  | .connectionLost => "ConnectionLost"
  | .permissionDenied => "PermissionDenied"
  | .fileTransfer => "SFTPFailure"
  | .channelNotOpened => "ChannelOpenError"
  | .unreadableKey => "KeyImportError"
  | .value => "ValueError"
  | .malformedDocument => "JSONDecodeError"
  | .undecodableText => "UnicodeDecodeError"
  | .unencodableText => "UnicodeEncodeError"
  | .malformedBase64 => "Error"
  | .unknownName => "KeyError"
  | .wrongType => "TypeError"
  | .missingAttribute => "AttributeError"
  | .overflow => "OverflowError"
  | .tooDeep => "RecursionError"
  | .outOfMemory => "MemoryError"
  | .runtime => "RuntimeError"
  | .deadlock => "Deadlock"
  | .other word => word

end Fault.Kind

/-! ## 3. Faults -/

/-- A fault: its kind and what it says. -/
structure Fault where
  kind : Fault.Kind
  text : String
  deriving DecidableEq, Repr

namespace Fault

/-- A fault of the operating system: its number, if given, comes first. -/
def system (code : Option Int) (message : String) : Fault :=
  match code with
  | none => ⟨.system none, message⟩
  | some n => ⟨.system (some n), s!"[Errno {n}] {message}"⟩

/-- A name that is not known; the fault says the name. -/
def unknownName (name : String) : Fault := ⟨.unknownName, Text.quote name⟩

/-- The lock of a name will not become free. -/
def deadlock (name : String) : Fault := ⟨.deadlock, Text.quote name⟩

/-- The fault as it is shown after a logged error: its word, and what it
says, if it says anything. -/
def report (f : Fault) : String :=
  if f.text.isEmpty then f.kind.word else s!"{f.kind.word}: {f.text}"

end Fault

end Upkeep
