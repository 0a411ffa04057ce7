import Holdout.Command.Run

/-!
# The command line

Commands run on a disk that holds what has been read so far. When one fails at a path that
has not been read yet, the path is read and the command runs again, until nothing is missing.
-/

namespace Holdout

/-- Read what a path leads to, if it can be opened. -/
def openPath? (path : List UInt8) : IO (Option Body) := do
  match String.fromUTF8? ⟨path.toArray⟩ with
  | none => return none
  | some name =>
    match ← (IO.FS.Handle.mk name .read).toBaseIO with
    | .error _ => return none
    | .ok handle =>
      match ← handle.readBinToEnd.toBaseIO with
      | .error _ => return some ⟨ByteArray.empty, true⟩
      | .ok bytes => return some (.ofBytes bytes)

/-- Run a command on what has been read, and read what it lacks. A command that does not end has
no result. -/
partial def runCommand (command : Command) (choose : List String → Option String)
    (known : List (List UInt8 × Body)) : IO (Option (Logged Command.Result)) := do
  match (command.run (Disk.ofContents known) choose).run? with
  | none => return none
  | some run =>
    match run.value.unreadPath? with
    | none => return run
    | some path =>
      if known.any fun entry => entry.1 = path then return run
      match ← openPath? path with
      | none => return run
      | some body => runCommand command choose ((path, body) :: known)

/-- Print the log lines that are worth a notice. -/
def printLog (output : IO.FS.Stream) (events : List Event) : IO Unit :=
  events.forM fun event =>
    match event.line? with
    | some (.info, line) => output.putStrLn (" INFO " ++ line)
    | some (.warn, line) => output.putStrLn (" WARN " ++ line)
    | _ => return ()

end Holdout

open Holdout

/-- Run the command of the arguments; two is the exit code for arguments that cannot be used. -/
def main (arguments : List String) : IO UInt32 := do
  let output ← IO.getStdout
  let errors ← IO.getStderr
  match Command.read arguments with
  | .error error =>
    (if error.isWish then output else errors).putStrLn error.message
    return if error.isWish then 0 else 2
  | .ok command =>
    let draw ← IO.rand 0 1000000000
    let start ← IO.monoNanosNow
    let some run ← runCommand command (fun images => images[draw % images.length]?) []
      | return 1
    printLog errors run.events
    let outcome := run.value.outcome (Duration.ofNanos ((← IO.monoNanosNow) - start))
    outcome.printed.forM output.putStrLn
    match outcome.error with
    | none => return 0
    | some error =>
      (Command.errorLines error).forM errors.putStrLn
      return 1
