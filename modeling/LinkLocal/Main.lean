import LinkLocal.Daemon.Supervisor
import Std.Async.Signal

/-!
The daemon as a program: it takes its settings from the environment, lets the supervisor move in
real time, prints what it says, and ends at a signal to terminate or at an interruption.
-/
namespace LinkLocal.Daemon

def readEnvironment : IO Environment := do
  let values ← Variable.all.mapM fun v => return (v, ← IO.getEnv v.name)
  return fun v => (values.lookup v).join

/-- Prints the notices that the settings ask for, a line each, with their times in milliseconds. -/
def printNotices (s : Settings) (journal : List (Nat × Notice)) : IO Unit := do
  for (time, n) in journal do
    if s.reports n then IO.println s!"{time / 1000000} {n.level.title} {n.text}"
  (← IO.getStdout).flush

def awaitSignal (kind : Std.Async.Signal) (signal : Signal) : IO (Task (Option Signal)) := do
  let task ← (← Std.Async.Signal.Waiter.mk kind false).wait
  return Task.map (fun _ => some signal) task

def awaitDelay (nanoseconds : Nat) : IO (Task (Option Signal)) := do
  let task ← IO.asTask (IO.sleep (UInt32.ofNat ((nanoseconds + 999999) / 1000000)))
  return task.map fun _ => none

/-- Moves a supervisor's clock to the present, given the time at which it began. -/
def catchUp (begun : Nat) (s : Supervisor) : IO Supervisor := do
  return s.advanceTo ((← IO.monoNanosNow) - begun)

/-- Lets the supervisor move in real time until it ends. -/
partial def supervise (terminate interrupt : Task (Option Signal)) (begun : Nat)
    (s : Supervisor) : IO ExitCode := do
  let (journal, s) := (← catchUp begun s).takeNotices
  printNotices s.settings journal
  match s.stage, s.move? with
  | .ended code, _ => return code
  | _, some s => supervise terminate interrupt begun s
  | _, none =>
    let timers ← s.due?.toList.mapM fun due => awaitDelay (due - s.now)
    match ← IO.waitAny (terminate :: interrupt :: timers) with
    | some signal => supervise terminate interrupt begun ((← catchUp begun s).shutDown signal)
    | none => supervise terminate interrupt begun s

end LinkLocal.Daemon

open LinkLocal.Daemon in
def main : IO UInt32 := do
  match configure (← readEnvironment) with
  | .error line =>
    IO.eprintln line
    return ExitCode.configuration.number
  | .ok (settings, config) =>
    let terminate ← awaitSignal .sigterm .terminate
    let interrupt ← awaitSignal .sigint .interrupt
    let begun ← IO.monoNanosNow
    match launch settings config {} with
    | .error (code, net) =>
      printNotices settings net.journal.reverse
      return code.number
    | .ok s => return (← supervise terminate interrupt begun s).number
