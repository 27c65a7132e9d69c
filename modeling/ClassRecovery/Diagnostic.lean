import ClassRecovery.Rejection

namespace ClassRecovery

/-!
# Diagnostics

A rejected attempt is reported as a diagnostic of the script in which it was
made.  A log keeps the diagnostics of any number of scripts in the order in
which they arrived, and entries are never changed or removed.
-/

structure Diagnostic where
  script : String
  severity : Severity
  message : String
deriving DecidableEq, Inhabited, Repr

/-- The diagnostic that reports a rejection. -/
def Rejection.diagnostic (script : String) (cause : Rejection) : Diagnostic :=
  ⟨script, cause.severity, cause.report⟩

structure DiagnosticLog where
  entries : List Diagnostic := []
deriving DecidableEq, Inhabited, Repr

namespace DiagnosticLog

def push (log : DiagnosticLog) (diagnostic : Diagnostic) : DiagnosticLog :=
  ⟨log.entries ++ [diagnostic]⟩

def append (log : DiagnosticLog) (diagnostics : List Diagnostic) : DiagnosticLog :=
  ⟨log.entries ++ diagnostics⟩

def size (log : DiagnosticLog) : Nat :=
  log.entries.length

def isEmpty (log : DiagnosticLog) : Bool :=
  log.entries.isEmpty

/-- The diagnostics of all scripts of one name, in the order of their arrival. -/
def forScript (log : DiagnosticLog) (script : String) : List Diagnostic :=
  log.entries.filter (·.script == script)

end DiagnosticLog

end ClassRecovery
