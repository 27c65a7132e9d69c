import ClassRecovery.Batch
import Mathlib.Logic.Relation

namespace ClassRecovery

/-!
# Scripts recovered side by side

The scripts of a batch may be given to workers that run at the same time.  A worker has
its statements, its report and its notices for itself.  Only the log is shared, and a
diagnostic gets into it whole.

A step of a crew is one attempt of one of its workers, whichever that is.  Nothing finer
could be told apart: an attempt adds at most one diagnostic to the log, and the rest of
what it does no other worker can see.
-/

/-- A script while its pass goes on. -/
structure Worker where
  name : String
  pass : Pass

namespace Worker

def start (script : Script) : Worker :=
  ⟨script.name, { statements := script.statements }⟩

/-- The diagnostic that the next attempt reports. -/
def report? (options : Options) (worker : Worker) : Option Diagnostic :=
  match worker.pass.attempt options with
  | .noMatch => none
  | .rejected cause => some (cause.diagnostic worker.name)
  | .recognised .. => none

/-- No attempt is left to be made. -/
def Finished (options : Options) (worker : Worker) : Prop :=
  worker.pass.step? options = none

def outcome (worker : Worker) : Outcome :=
  ⟨⟨worker.name, worker.pass.statements⟩, worker.pass.report, worker.pass.notices⟩

end Worker

/-- Workers, in the order of their scripts, and the log that they share. -/
structure Crew where
  workers : List Worker
  log : DiagnosticLog := {}

namespace Crew

def start (scripts : List Script) : Crew :=
  { workers := scripts.map .start }

/-- Some worker makes its next attempt, and the log takes what it reports. -/
inductive Step (options : Options) : Crew → Crew → Prop where
  | intro (front back : List Worker) (log : DiagnosticLog) (worker : Worker) {next : Pass}
      (step : worker.pass.step? options = some next) :
      Step options ⟨front ++ worker :: back, log⟩
        ⟨front ++ ⟨worker.name, next⟩ :: back, log.append (worker.report? options).toList⟩

/-- Some number of steps, by any workers in any order. -/
def Leads (options : Options) : Crew → Crew → Prop :=
  Relation.ReflTransGen (Step options)

def Finished (options : Options) (crew : Crew) : Prop :=
  ∀ worker ∈ crew.workers, worker.Finished options

/-- What has become of the scripts, in their order. -/
def outcomes (crew : Crew) : List Outcome :=
  crew.workers.map (·.outcome)

end Crew

/-- A list is put together from parts: it uses up all of them, and the elements of each
part keep their order. -/
inductive Interleaves {α : Type} : List (List α) → List α → Prop where
  | nil {parts : List (List α)} (used : ∀ part ∈ parts, part = []) : Interleaves parts []
  | cons {front back : List (List α)} {first : α} {rest whole : List α}
      (others : Interleaves (front ++ rest :: back) whole) :
      Interleaves (front ++ (first :: rest) :: back) (first :: whole)

end ClassRecovery
