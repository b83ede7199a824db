import RecordFlow.Terminal.Run
import Std.Time.DateTime.Timestamp

/-!
# The program

Scripts are carried out on the real files, and the program is the script of its command line.

## Main definitions

* `Terminal.Script.runReal` — a script carried out on the real files.
* `main` — the program.
-/

namespace RecordFlow.Terminal

/-- The code and the words of a failure of the system. -/
def systemFailure : IO.Error → UInt32 × String
  | .alreadyExists _ code words | .permissionDenied _ code words
  | .resourceExhausted _ code words | .inappropriateType _ code words
  | .noSuchThing _ code words | .invalidArgument _ code words
  | .noFileOrDirectory _ code words | .interrupted _ code words
  | .otherError code words | .resourceBusy code words | .resourceVanished code words
  | .unsupportedOperation code words | .hardwareFault code words
  | .unsatisfiedConstraints code words | .illegalOperation code words
  | .protocolError code words | .timeExpired code words => (code, words)
  | .unexpectedEof => (0, "unexpected end of file")
  | .userError words => (0, words)

/-- The number of a failure; some parts of the system count downwards from zero. -/
def failureNumber (code : UInt32) : Nat :=
  if code < 0x80000000 then code.toNat else (0 - code).toNat

/-- A failure of the system in words. -/
def systemReason (e : IO.Error) : String :=
  let (code, words) := systemFailure e
  words ++ " (os error " ++ toString (failureNumber code) ++ ")"

/-- Whether the failure is that there is nothing at a path. -/
def isAbsence (e : IO.Error) : Bool :=
  let number := failureNumber (systemFailure e).1
  number == 2 || number == 20

/-- What stands at a path. -/
def realEntry (path : String) : IO Entry := do
  try
    let bytes ← IO.FS.withFile path .read fun handle => handle.readBinToEnd
    match String.fromUTF8? bytes with
    | some content => return .file content
    | none => return .unreadable "stream did not contain valid UTF-8"
  catch e => return if isAbsence e then .missing else .unreadable (systemReason e)

/-- A file written together with its directories. -/
def realSave (path content : String) : IO (Option SaveFailure) := do
  try
    match directoryOf? path with
    | some directory => IO.FS.createDirAll directory
    | none => pure ()
  catch e => return some (.directory (systemReason e))
  try
    IO.FS.writeFile path content
    return none
  catch e => return some (.file (systemReason e))

/-- **A script carried out on the real files.**  What the log is told goes where errors go, as
it is, unless the log is turned off. -/
def Script.runReal {α : Type} (showsLog : Bool) : Script α → IO α
  | done a => return a
  | read path next => do (next (← realEntry path)).runReal showsLog
  | save path content next => do (next (← realSave path content)).runReal showsLog
  | print channel text next => do
    if channel != .log || showsLog then
      let stream ← if channel == .output then IO.getStdout else IO.getStderr
      stream.putStr text
      stream.flush
    next.runReal showsLog

/-- What the program finds around it. -/
def realEnvironment : IO Environment := do
  let nanos := (← Std.Time.Timestamp.now).toNanosecondsSinceUnixEpoch.toInt
  return {
    settings := ← IO.getEnv "PIPEFORM_CONFIG"
    logLevel := ← IO.getEnv "RUST_LOG"
    logLayout := ← IO.getEnv "PIPEFORM_LOG_FORMAT"
    ownDirectory := ← IO.getEnv "XDG_CONFIG_HOME"
    home := ← IO.getEnv "HOME"
    now := ⟨nanos / 1000000000, (nanos % 1000000000).toNat⟩ }

end RecordFlow.Terminal

/-- **The program:** carries out its command line and returns the exit code. -/
def main (arguments : List String) : IO UInt32 := do
  let environment ← RecordFlow.Terminal.realEnvironment
  let showsLog := environment.logLevel != some "off"
  let code ← (RecordFlow.Terminal.run environment arguments).runReal showsLog
  return code.toUInt32
