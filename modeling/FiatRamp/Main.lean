import FiatRamp.Json.Writer
import FiatRamp.Simulator.Report

/-!
# FiatRamp.Main

The simulator as a program.

It prints the report, or why there is none, and exits with 0, with 1 if the
run failed and with 2 if the arguments are no command.
-/

namespace FiatRamp.Simulator

/-- How the program is called. -/
def usageText : String :=
  "Usage: [-c FILE] deposit --amount A [--currency C] [--min A] [--max A] [--authorise-after N]\n" ++
  "       [-c FILE] withdraw --amount A [--currency C] [--min A] [--max A] [--balance A] [--fee A]"

/-- The bytes of a file, if it can be read. -/
def readFile? (path : String) : IO (Option (List Nat)) := do
  try
    return some ((← IO.FS.readBinFile path).toList.map UInt8.toNat)
  catch _ => return none

/-- A random id of 32 hexadecimal digits in five groups. -/
def randomId : IO String := do
  let digits (n : Nat) : IO String := do
    let cs ← (List.range n).mapM fun _ => return Nat.digitChar (← IO.rand 0 15)
    return String.ofList cs
  let groups ← [8, 4, 4, 4, 12].mapM digits
  return "-".intercalate groups

/-- Chance as the machine has it.  A run submits once, so one id is enough. -/
def machineChance : IO Chance := do
  let id ← randomId
  let seed ← IO.rand 0 (Nat.pow 2 30)
  return { ids := fun _ => id, draw := fun n => (stdNext (mkStdGen (seed + n))).1 }

end FiatRamp.Simulator

open FiatRamp FiatRamp.Simulator in
/-- Runs the simulator. -/
def main (args : List String) : IO UInt32 := do
  match Command.ofArgs args with
  | .error .help =>
    IO.println usageText
    return 0
  | .error .mistake =>
    IO.eprintln usageText
    return 2
  | .ok command =>
    let file ← match command.config with
      | some path => readFile? path
      | none => pure none
    let outcome := perform (← machineChance) file command
    match outcome with
    | .ok (report, time) =>
      IO.sleep (UInt32.ofNat (min time.toMillis (Nat.pow 2 31)))
      IO.println report.sortFields.toPrettyText
    | .error failure => IO.eprintln ("Error: " ++ failure.message)
    return exitCode outcome
