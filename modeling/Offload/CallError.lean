import Offload.NativeError
import Offload.Text.Written

/-! What a host-side operation reports when it fails: what a native status means,
or a refusal of the host layer itself. -/
namespace Offload

inductive CallError where
  /-- A listed native failure. -/
  | native (error : NativeError)
  /-- A native status without a listed meaning. -/
  | other (status : Int)
  /-- Success was reported, but no object came with it. -/
  | nullHandle
  /-- Compilation failed with this log. -/
  | build (log : String)
  /-- No candidate library could be opened. -/
  | libraryNotFound (detail : String)
  /-- A text to hand over holds a NUL character. -/
  | interiorNul
  /-- A context was asked for without any device. -/
  | noDevices
  deriving DecidableEq, Repr

namespace CallError

/-- The error that a status stands for; none for success. -/
def ofStatus? (status : Int) : Option CallError :=
  if status = 0 then none
  else match Listed.ofCode? status with
    | some error => some (.native error)
    | none => some (.other status)

/-- The status that an error stands for, if it has one. -/
def status? : CallError → Option Int
  | .native error => some error.code
  | .other status => some status
  | .build _ => some NativeError.buildProgramFailure.code
  | _ => none

def message : CallError → String
  | .native error => error.message
  | .other status => "OpenCL error " ++ Text.signedDecimal status
  | .nullHandle => "Unknown OpenCL error: success status with a null handle"
  | .build log => "Build error: " ++ log
  | .libraryNotFound detail => "OpenCL library not found: " ++ detail
  | .interiorNul => "String contains an interior NUL byte"
  | .noDevices => "A context needs at least one device"

/-- The name of the kind of error. -/
def name : CallError → String
  | .native error => error.name
  | .other _ => "Other"
  | .nullHandle => "Unknown"
  | .build _ => "Build"
  | .libraryNotFound _ => "LibraryNotFound"
  | .interiorNul => "InvalidString"
  | .noDevices => "EmptyDeviceList"

/-- The written form of an error, with what it carries. -/
def written : CallError → String
  | .other status => "Other(" ++ Text.signedDecimal status ++ ")"
  | .build log => Text.writtenRecord "Build" [("log", Text.quoted log)]
  | .libraryNotFound detail => "LibraryNotFound(" ++ Text.quoted detail ++ ")"
  | error => error.name

end CallError

/-- A native status as a result. -/
def check (status : Int) : Except CallError Unit :=
  match CallError.ofStatus? status with
  | none => .ok ()
  | some error => .error error

/-- The handle that came with a status: a failure becomes its error, a null handle is refused. -/
def checkHandle (status : Int) (handle : Nat) : Except CallError Nat :=
  match CallError.ofStatus? status with
  | some error => .error error
  | none => if handle = 0 then .error .nullHandle else .ok handle

end Offload
