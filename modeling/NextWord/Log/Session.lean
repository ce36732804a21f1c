import NextWord.Log.Screen
import NextWord.Table

/-!
# Sessions of logging

Loggers are fetched by name. A fetched logger gets a level, keeps its records to itself, and takes
on the handler that is shared at that moment, besides those that it has. Starting anew replaces the
shared handler, whose form is settled once and for all by the state of the session at that moment.

A level of nought leaves the decision to the next logger up, names being nested by dots, and at the
top to warnings. Records that no handler is there for are shown by their bare messages, from
warnings on. No record of level nought or below is ever shown.
-/

namespace NextWord

structure LogHandler where
  number : Nat
  screen : Screen
  deriving DecidableEq, Repr

/-- A logger; one that was never fetched leaves all to those above it. -/
structure Logger where
  level : Int := 0
  propagates : Bool := true
  handlers : List LogHandler := []

/-- The loggers fetched so far, and what new ones get. -/
structure LogSession where
  debug : Bool := false
  coloured : Bool := false
  shared : List LogHandler := []
  /-- How many handlers were made. -/
  made : Nat := 0
  loggers : Table String Logger := []

namespace LogSession

/-- Turns debugging on or off for loggers fetched from now on. -/
def setDebug (session : LogSession) (debug : Bool) : LogSession :=
  { session with debug }

/-- Starts anew with a single shared handler; debugging may be forced on. -/
def start (session : LogSession) (forceDebug : Bool) : LogSession :=
  let debug := forceDebug || session.debug
  { session with
    debug
    shared := [⟨session.made, ⟨debug, session.coloured⟩⟩]
    made := session.made + 1 }

def logger (session : LogSession) (name : String) : Logger :=
  (session.loggers.find? name).getD {}

/-- The parts of a name that end before a dot, from the longest on, what stands before being given
in reverse. -/
def outerNames (before : List Char) : List Char → List String
  | [] => []
  | c :: rest =>
    outerNames (c :: before) rest ++
      (if c = '.' ∧ before ≠ [] then [String.ofList before.reverse] else [])

def lineage (session : LogSession) (name : String) : List Logger :=
  (name :: outerNames [] name.toList).map session.logger

/-- The level from which on records are shown, given a logger and those above it. -/
def threshold (lineage : List Logger) : Int :=
  ((lineage.map Logger.level).find? (· != 0)).getD Severity.warning.number

/-- The handlers in charge, given a logger and those above it. -/
def handlers : List Logger → List LogHandler
  | [] => []
  | logger :: above => logger.handlers ++ (if logger.propagates then handlers above else [])

def lines (session : LogSession) (record : LogRecord) : List String :=
  let lineage := session.lineage record.logger
  if record.level ≤ 0 ∨ record.level < threshold lineage then []
  else match handlers lineage with
    | [] => if (Severity.warning.number : Int) ≤ record.level then [record.message] else []
    | handlers => handlers.map fun handler => handler.screen.text record

def shown (session : LogSession) (record : LogRecord) : String :=
  String.join ((session.lines record).map (· ++ "\n"))

/-- The level of a logger that is fetched without one. -/
def usualLevel (session : LogSession) : Int :=
  if session.debug then Severity.debug.number else Severity.warning.number

def fetched (session : LogSession) (name : String) (level : Option Int) : Logger :=
  let known := (session.logger name).handlers
  { level := level.getD session.usualLevel
    propagates := false
    handlers := known ++ session.shared.filter fun handler => !known.contains handler }

def greeting (name : String) : LogRecord where
  level := Severity.debug.number
  logger := name
  message := "Logger \"" ++ name ++ "\" initialized"

/-- Fetches a logger; its report is shown. -/
def fetch (session : LogSession) (name : String) (level : Option Int) : LogSession × String :=
  let next :=
    { session with loggers := session.loggers.put name (session.fetched name level) }
  (next, next.shown (greeting name))

end LogSession
end NextWord
