import TokenTables.CommandLine.Messages
import TokenTables.Run
import TokenTables.Settings.Parse

/-!
A generator's command from its arguments to its result: the command line is read first, then the
settings, and then the generator runs.
-/

namespace TokenTables

/-- Why a command made nothing. -/
inductive Refusal where
  | commandLine (stop : CommandLine.Stop)
  | failure (e : Error)
deriving DecidableEq, Repr

namespace CommandLine.Request

def settings (r : Request) : Except Error Settings :=
  match r.config with
  | none => .ok {}
  | some json =>
    match Settings.ofText json with
    | .ok s => .ok s
    | .error e => .error (.argument e.message)

end CommandLine.Request

namespace Generator

def performIn {m : Type → Type} [Monad m] (around : Surroundings m) (g : Generator)
    (r : CommandLine.Request) : m (Except Error Nat) := do
  if let some json := r.config then
    around.tell (Journal.ofSettings json r.settings)
  match r.settings with
  | .error e => return .error e
  | .ok s => g.runIn around s r.infile r.outfile

def commandIn {m : Type → Type} [Monad m] (around : Surroundings m) (g : Generator)
    (args : List Text) : m (Except Refusal Nat) := do
  match CommandLine.read args with
  | .error stop => return .error (.commandLine stop)
  | .ok request => return (← g.performIn around request).mapError .failure

def perform (g : Generator) (r : CommandLine.Request) (d : Disk) (time : Instant) :
    Except Error Nat × Disk :=
  (g.performIn (Disk.surroundings time) r).run d

def command (g : Generator) (args : List Text) (d : Disk) (time : Instant) :
    Except Refusal Nat × Disk :=
  (g.commandIn (Disk.surroundings time) args).run d

theorem perform_eq (g : Generator) (r : CommandLine.Request) (d : Disk) (time : Instant) :
    g.perform r d time =
      match r.settings with
      | .error e => (.error e, d)
      | .ok s => g.run s d r.infile r.outfile time := by
  unfold perform performIn run
  cases r.config <;> cases r.settings <;> rfl

theorem command_eq (g : Generator) (args : List Text) (d : Disk) (time : Instant) :
    g.command args d time =
      match CommandLine.read args with
      | .error stop => (.error (.commandLine stop), d)
      | .ok request =>
        let (result, after) := g.perform request d time
        (result.mapError .failure, after) := by
  unfold command commandIn perform
  cases CommandLine.read args <;> rfl

def summary (count : Nat) : Text := "Finished: Processed " ++ Text.decimal count ++ " tokens\n"

def standardOutput (g : Generator) : Except Refusal Nat → Text
  | .ok count => summary count
  | .error (.commandLine stop) => if stop.isRefusal then [] else Text.streamed (stop.coloured g)
  | .error (.failure _) => []

def complaint (g : Generator) : Except Refusal Nat → Text
  | .ok _ => []
  | .error (.commandLine stop) =>
    if stop.isRefusal then Text.streamed (stop.coloured g) ++ ['\n'] else []
  | .error (.failure e) => "✗ " ++ e.message ++ "\n"

def exitCode : Except Refusal Nat → Nat
  | .ok _ => 0
  | .error (.commandLine stop) => stop.exitCode
  | .error (.failure _) => 1

end Generator

end TokenTables
