import Stencil.Program

set_option autoImplicit false

namespace Stencil.Main

/-- The failure that a number of the operating system stands for. -/
def fileError : IO.Error → FileError
  | .noFileOrDirectory _ _ _ => .notFound
  | .permissionDenied _ _ _ => .denied
  | .inappropriateType _ code details => ofCode code details
  | .invalidArgument _ code details => ofCode code details
  | error => .other (toString error)
where
  /-- Some numbers come negated. -/
  ofCode (code : UInt32) (details : String) : FileError :=
    let code := if code < 0x80000000 then code else 0 - code
    if code = 20 then .notDirectory
    else if code = 21 then .isDirectory
    else if code = 36 then .nameTooLong
    else .other s!"{details} (os error {code})"

def read (path : Text) : IO (Text × Except FileError (List UInt8)) := do
  let bytes ← (IO.FS.readBinFile (String.ofList path)).toBaseIO
  return (path, match bytes with
    | .ok bytes => .ok bytes.toList
    | .error error => .error (fileError error))

/-- The files that a command line asks for, those first that the others follow from. -/
def gather (invocation : Invocation) : IO Files := do
  let sources ← invocation.sources.mapM read
  let included ← (invocation.requests (.ofReadings sources)).mapM read
  return .ofReadings (sources ++ included)

def coloured : IO Bool := do
  if ((← IO.getEnv "CLICOLOR_FORCE").getD "0") ≠ "0" then return true
  let terminal ← (← IO.getStderr).isTty
  return terminal && (← IO.getEnv "NO_COLOR").isNone &&
    ((← IO.getEnv "TERM").getD "dumb") ≠ "dumb" && ((← IO.getEnv "CLICOLOR").getD "1") ≠ "0"

/-- The least severe level that is shown, none if reports are not wanted. -/
def shownLevel : Option String → Option Level
  | some "off" => none
  | some "error" => none
  | some "debug" => some .debug
  | some "trace" => some .trace
  | _ => some .warn

end Stencil.Main

open Stencil in
def main (args : List String) : IO UInt32 := do
  let arguments := args.map String.toList
  let files ← match Invocation.ofArguments arguments with
    | .ok invocation => Main.gather invocation
    | .error _ => pure .none
  let outcome := Outcome.of arguments files (← Main.coloured)
  if let some least := Main.shownLevel (← IO.getEnv "CRUSH_LOG") then
    for event in outcome.log do
      if least.shownAt event.level then IO.eprintln event.line
  IO.print (String.ofList outcome.stdout)
  (← IO.getStdout).flush
  IO.eprint (String.ofList outcome.stderr)
  return outcome.code.toUInt32
