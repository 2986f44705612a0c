import CallProfile.CommandLine
import CallProfile.Counter.Usage.Records

namespace CallProfile.CommandLine

def errorOfCode (code : UInt32) (reason : String) : FileError :=
  match (if code < 0x80000000 then code else 0 - code).toNat with
  | 2 => .missing
  | 20 => .notDirectory
  | 21 => .isDirectory
  | 36 => .nameTooLong
  | code => .other reason code

def errorOfSystem : IO.Error → FileError
  | .noFileOrDirectory _ code reason => errorOfCode code reason
  | .inappropriateType _ code reason => errorOfCode code reason
  | .invalidArgument _ code reason => errorOfCode code reason
  | .permissionDenied _ code reason => errorOfCode code reason
  | .resourceExhausted _ code reason => errorOfCode code reason
  | .resourceBusy code reason => errorOfCode code reason
  | .hardwareFault code reason => errorOfCode code reason
  | .otherError code reason => errorOfCode code reason
  | error => .other (toString error) 5

def answered {α : Type} (action : IO α) : IO (Except FileError α) := do
  match ← action.toBaseIO with
  | .ok value => return .ok value
  | .error error => return .error (errorOfSystem error)

def systemFiles : Files IO where
  read path := answered (IO.FS.readBinFile path)
  write path content := answered (IO.FS.writeBinFile path content)

def contentOf (path : String) : IO String := do
  match ← (IO.FS.readFile path).toBaseIO with
  | .ok content => return content
  | .error _ => return ""

def ownUsage : IO Usage := do
  return .ofRecords (← contentOf "/proc/thread-self/stat") (← contentOf "/proc/thread-self/status")
    (← contentOf "/proc/thread-self/io")

def stylesWanted : IO Bool := do
  if (← IO.getEnv "NO_COLOR").isSome then return false
  match ← IO.getEnv "CLICOLOR_FORCE" with
  | some value => if value ≠ "0" then return true
  | none => pure ()
  (← IO.getStdout).isTty

end CallProfile.CommandLine

open CallProfile.CommandLine in
def main (arguments : List String) : IO UInt32 := do
  let host : Host IO := ⟨systemFiles, ownUsage, ← stylesWanted⟩
  let outcome ← run host arguments
  (← IO.getStdout).putStr outcome.output
  (← IO.getStderr).putStr outcome.messages
  return .ofNat outcome.code
