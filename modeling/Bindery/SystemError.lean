/-!
# Errors of the operating system

The errors that file operations give, by number, and the ways in which a program ends, each with
its text.
-/

namespace Bindery

/-- Why an operation on files failed. -/
inductive SystemError where
  /-- An error number of the system. -/
  | os (code : Int)
  /-- A file that should be text is not UTF-8. -/
  | notText
  /-- A path with a NUL in it, which no system call takes. -/
  | nulByte
  /-- An argument of a program with a NUL in it. -/
  | nulArgument
  deriving DecidableEq, Repr

namespace SystemError

def notFound : SystemError := .os 2
def argumentsTooLong : SystemError := .os 7
def badDescriptor : SystemError := .os 9
def permissionDenied : SystemError := .os 13
def busy : SystemError := .os 16
def alreadyExists : SystemError := .os 17
def notDirectory : SystemError := .os 20
def isDirectory : SystemError := .os 21
def invalidArgument : SystemError := .os 22
def textBusy : SystemError := .os 26
def noSpace : SystemError := .os 28
def nameTooLong : SystemError := .os 36
def directoryNotEmpty : SystemError := .os 39
def tooManyLinks : SystemError := .os 40

/-- The texts of the error numbers from 1 on; two numbers have none. -/
def descriptions : List String :=
  ["Operation not permitted", "No such file or directory", "No such process",
    "Interrupted system call", "Input/output error", "No such device or address",
    "Argument list too long", "Exec format error", "Bad file descriptor", "No child processes",
    "Resource temporarily unavailable", "Cannot allocate memory", "Permission denied",
    "Bad address", "Block device required", "Device or resource busy", "File exists",
    "Invalid cross-device link", "No such device", "Not a directory", "Is a directory",
    "Invalid argument", "Too many open files in system", "Too many open files",
    "Inappropriate ioctl for device", "Text file busy", "File too large", "No space left on device",
    "Illegal seek", "Read-only file system", "Too many links", "Broken pipe",
    "Numerical argument out of domain", "Numerical result out of range",
    "Resource deadlock avoided", "File name too long", "No locks available",
    "Function not implemented", "Directory not empty", "Too many levels of symbolic links", "",
    "No message of desired type", "Identifier removed", "Channel number out of range",
    "Level 2 not synchronized", "Level 3 halted", "Level 3 reset", "Link number out of range",
    "Protocol driver not attached", "No CSI structure available", "Level 2 halted",
    "Invalid exchange", "Invalid request descriptor", "Exchange full", "No anode",
    "Invalid request code", "Invalid slot", "", "Bad font file format", "Device not a stream",
    "No data available", "Timer expired", "Out of streams resources",
    "Machine is not on the network", "Package not installed", "Object is remote",
    "Link has been severed", "Advertise error", "Srmount error", "Communication error on send",
    "Protocol error", "Multihop attempted", "RFS specific error", "Bad message",
    "Value too large for defined data type", "Name not unique on network",
    "File descriptor in bad state", "Remote address changed",
    "Can not access a needed shared library", "Accessing a corrupted shared library",
    ".lib section in a.out corrupted", "Attempting to link in too many shared libraries",
    "Cannot exec a shared library directly", "Invalid or incomplete multibyte or wide character",
    "Interrupted system call should be restarted", "Streams pipe error", "Too many users",
    "Socket operation on non-socket", "Destination address required", "Message too long",
    "Protocol wrong type for socket", "Protocol not available", "Protocol not supported",
    "Socket type not supported", "Operation not supported", "Protocol family not supported",
    "Address family not supported by protocol", "Address already in use",
    "Cannot assign requested address", "Network is down", "Network is unreachable",
    "Network dropped connection on reset", "Software caused connection abort",
    "Connection reset by peer", "No buffer space available",
    "Transport endpoint is already connected", "Transport endpoint is not connected",
    "Cannot send after transport endpoint shutdown", "Too many references: cannot splice",
    "Connection timed out", "Connection refused", "Host is down", "No route to host",
    "Operation already in progress", "Operation now in progress", "Stale file handle",
    "Structure needs cleaning", "Not a XENIX named type file", "No XENIX semaphores available",
    "Is a named type file", "Remote I/O error", "Disk quota exceeded", "No medium found",
    "Wrong medium type", "Operation canceled", "Required key not available", "Key has expired",
    "Key has been revoked", "Key was rejected by service", "Owner died", "State not recoverable",
    "Operation not possible due to RF-kill", "Memory page has hardware error"]

/-- The text of an error number. -/
def description (code : Int) : String :=
  match code with
  | .ofNat 0 => "Success"
  | .ofNat (n + 1) =>
    match descriptions[n]? with
    | some "" | none => s!"Unknown error {code}"
    | some text => text
  | .negSucc _ => s!"Unknown error {code}"

/-- The text of an error without its number. -/
def reason : SystemError → String
  | .os code => description code
  | .notText => "stream did not contain valid UTF-8"
  | .nulByte => "file name contained an unexpected NUL byte"
  | .nulArgument => "nul byte found in provided data"

/-- The text of an error. -/
def message : SystemError → String
  | .os code => s!"{description code} (os error {code})"
  | e => e.reason

end SystemError

/-- How a program ended. -/
inductive ExitStatus where
  | exited (code : Nat)
  | signalled (signal : Nat) (dumped : Bool)
  | stopped (signal : Nat)
  | continued
  /-- The number stands for none of these. -/
  | unrecognised (status : Int)
  deriving DecidableEq, Repr

namespace ExitStatus

/-- The 32 bits of a number, as a natural number. -/
def bits32 (n : Int) : Nat := (n % 4294967296).toNat

/-- The status that the number reported by the system stands for: the low seven bits are a signal,
all of them set for a program that has not ended; the next bit tells of a dump, and the eight after
it hold an exit code or the signal that stopped the program. -/
def ofWait (status : Int) : ExitStatus :=
  let bits := bits32 status
  if bits % 0x80 = 0 then .exited (bits / 0x100 % 0x100)
  else if bits % 0x80 ≠ 0x7f then .signalled (bits % 0x80) (bits / 0x80 % 2 = 1)
  else if bits % 0x100 = 0x7f then .stopped (bits / 0x100 % 0x100)
  else if bits = 0xffff then .continued
  else .unrecognised status

def isSuccess (status : ExitStatus) : Bool :=
  status = .exited 0

/-- The names of the signals from 1 on. -/
def signalNames : List String :=
  ["SIGHUP", "SIGINT", "SIGQUIT", "SIGILL", "SIGTRAP", "SIGABRT", "SIGBUS", "SIGFPE", "SIGKILL",
    "SIGUSR1", "SIGSEGV", "SIGUSR2", "SIGPIPE", "SIGALRM", "SIGTERM", "SIGSTKFLT", "SIGCHLD",
    "SIGCONT", "SIGSTOP", "SIGTSTP", "SIGTTIN", "SIGTTOU", "SIGURG", "SIGXCPU", "SIGXFSZ",
    "SIGVTALRM", "SIGPROF", "SIGWINCH", "SIGIO", "SIGPWR", "SIGSYS"]

/-- A signal with its name, if it has one. -/
def signalText (signal : Nat) : String :=
  match signal, signalNames[signal - 1]? with
  | 0, _ | _, none => toString signal
  | _, some name => s!"{signal} ({name})"

/-- What a signal means, in words, for the signals from 1 on. -/
def signalTitles : List String :=
  ["Hangup", "Interrupt", "Quit", "Illegal instruction", "Trace/breakpoint trap", "Aborted",
    "Bus error", "Floating point exception", "Killed", "User defined signal 1",
    "Segmentation fault", "User defined signal 2", "Broken pipe", "Alarm clock", "Terminated",
    "Stack fault", "Child exited", "Continued", "Stopped (signal)", "Stopped",
    "Stopped (tty input)", "Stopped (tty output)", "Urgent I/O condition",
    "CPU time limit exceeded", "File size limit exceeded", "Virtual timer expired",
    "Profiling timer expired", "Window changed", "I/O possible", "Power failure",
    "Bad system call"]

/-- What a signal means, in words. -/
def signalTitle (signal : Nat) : String :=
  match signal with
  | 0 => "Unknown signal 0"
  | n + 1 =>
    (signalTitles[n]?).getD
      (if 34 ≤ signal then s!"Real-time signal {signal - 34}" else s!"Unknown signal {signal}")

/-- The text of a status. -/
def message : ExitStatus → String
  | .exited code => s!"exit status: {code}"
  | .signalled signal dumped =>
    s!"signal: {signalText signal}" ++ if dumped then " (core dumped)" else ""
  | .stopped signal => s!"stopped (not terminated) by signal: {signalText signal}"
  | .continued => "continued (WIFCONTINUED)"
  | .unrecognised status =>
    s!"unrecognised wait status: {status} 0x" ++ String.ofList (Nat.toDigits 16 (bits32 status))

end ExitStatus

end Bindery
