/-
  File:      JobKeeper/Main.lean
  Subject:   The program: it reads the arguments, the environment, the clock and the one file that
             it is asked for, and prints what the command leaves. It has no network of its own.
-/
import JobKeeper.Command.Run
import JobKeeper.Remote.Unreachable
import Std.Time.DateTime.Timestamp

namespace JobKeeper.Main

/-- The text of a file. -/
def readFile (path : String) : IO (Except FileError String) := do
  try
    return .ok (← IO.FS.readFile path)
  catch
    | .noFileOrDirectory .. => return .error .absent
    | .inappropriateType none .. => return .error .directory
    | .inappropriateType .. => return .error .notDirectory
    | .invalidArgument .. => return .error .nameTooLong
    | error => return .error (.unreadable (toString error))

/-- The instant that the clock shows. -/
def now : IO Instant := do
  let t ← Std.Time.Timestamp.now
  let n := t.toNanosecondsSinceUnixEpoch.val
  return ⟨n / 1000000000, (n % 1000000000).toNat⟩

/-- What is around this run of the program. Only the file that was asked for is read. -/
def surroundings (arguments : List String) : IO (Surroundings Unit) := do
  let environment ← IO.getEnv "FLINK_MANAGER_CONFIG"
  let wanted := wantedFile? arguments environment
  let text ← wanted.mapM readFile
  let instant ← now
  let locale ← IO.getEnv "LANG"
  return {
    file := fun path => if wanted = some path then text.getD (.error .absent) else .error .absent
    configPath := environment
    terminal := .ofLocale (locale.getD "")
    now := fun _ => instant
    readScheme := Url.readScheme
    transport := .unreachable
    listen := fun _ state => (.ok (), state) }

end JobKeeper.Main

def main (arguments : List String) : IO UInt32 := do
  let s ← JobKeeper.Main.surroundings arguments
  let r := s.run arguments ()
  for line in r.logs do
    IO.println line.text
  IO.print r.output
  IO.eprint r.errorOutput
  return r.exitCode.toUInt32
