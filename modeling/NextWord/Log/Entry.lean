/-!
# Log entries

What an operation reports besides its answer: messages with a severity, in the order in which they
arise.
-/

namespace NextWord

inductive Severity
  | debug
  | info
  | warning
  | error
  | critical
  deriving DecidableEq, Repr

namespace Severity

def text : Severity → String
  | .debug => "DEBUG"
  | .info => "INFO"
  | .warning => "WARNING"
  | .error => "ERROR"
  | .critical => "CRITICAL"

/-- The number of a severity; more serious entries have greater numbers. -/
def number : Severity → Nat
  | .debug => 10
  | .info => 20
  | .warning => 30
  | .error => 40
  | .critical => 50

end Severity

structure LogEntry where
  severity : Severity
  message : String
  deriving DecidableEq, Repr

namespace LogEntry

def warning (message : String) : LogEntry := ⟨.warning, message⟩

def error (message : String) : LogEntry := ⟨.error, message⟩

def info (message : String) : LogEntry := ⟨.info, message⟩

end LogEntry
end NextWord
