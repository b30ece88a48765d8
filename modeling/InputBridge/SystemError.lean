/-!
# System errors

A call to the system that fails gives a number. Reports describe it in words and
show the number. The bus is driven in a way that names the number instead and
sometimes describes it in other words.
-/
namespace InputBridge

/-- The number of a failure, never nought. -/
structure SystemError where
  number : Nat
deriving DecidableEq, Repr

namespace SystemError

/-- The missing entry of a directory. -/
def noEntry : SystemError := ⟨2⟩

/-- An operation that is not permitted, or not possible for what it was tried
on. -/
def notPermitted : SystemError := ⟨1⟩

/-- A device that is not there, or not there any more. -/
def noDevice : SystemError := ⟨19⟩

/-- A path that goes on behind something that is no directory. -/
def notADirectory : SystemError := ⟨20⟩

/-- A directory where a file is needed. -/
def isADirectory : SystemError := ⟨21⟩

/-- A name or path that is too long. -/
def nameTooLong : SystemError := ⟨36⟩

/-- Links that lead in circles. -/
def tooManyLinks : SystemError := ⟨40⟩

/-- A bus without the addressed device on it. -/
def remote : SystemError := ⟨121⟩

/-- What a number means, in the words of reports. -/
def description (error : SystemError) : String :=
  match error.number with
  | 1 => "Operation not permitted"
  | 2 => "No such file or directory"
  | 5 => "Input/output error"
  | 6 => "No such device or address"
  | 13 => "Permission denied"
  | 16 => "Device or resource busy"
  | 19 => "No such device"
  | 20 => "Not a directory"
  | 21 => "Is a directory"
  | 25 => "Inappropriate ioctl for device"
  | 36 => "File name too long"
  | 40 => "Too many levels of symbolic links"
  | 110 => "Connection timed out"
  | 121 => "Remote I/O error"
  | number => s!"Unknown error {number}"

/-- The wording of a failed call. -/
def message (error : SystemError) : String :=
  s!"{error.description} (os error {error.number})"

/-- The wording of a failed call to the bus. -/
def busMessage (error : SystemError) : String :=
  match error.number with
  | 1 => "EPERM: Operation not permitted"
  | 2 => "ENOENT: No such file or directory"
  | 5 => "EIO: I/O error"
  | 6 => "ENXIO: No such device or address"
  | 13 => "EACCES: Permission denied"
  | 16 => "EBUSY: Device or resource busy"
  | 19 => "ENODEV: No such device"
  | 20 => "ENOTDIR: Not a directory"
  | 21 => "EISDIR: Is a directory"
  | 25 => "ENOTTY: Not a typewriter"
  | 36 => "ENAMETOOLONG: File name too long"
  | 40 => "ELOOP: Too many symbolic links encountered"
  | 110 => "ETIMEDOUT: Connection timed out"
  | 121 => "EREMOTEIO: Remote I/O error"
  | _ => "UnknownErrno: Unknown errno"

end SystemError

end InputBridge
