import NextWord.Log.Entry
import NextWord.Log.Message

/-!
# Log records on the screen

A record is shown by its message, and in detail by the name of its logger, the message, and the
place that it comes from. Where colours are allowed, records of the three severe levels are
coloured; all others are plain, those of unusual levels included.
-/

namespace NextWord

structure SourceLine where
  file : String
  line : Int

/-- A record of a logger; its level need not be one of the usual ones. -/
structure LogRecord where
  level : Int
  logger : String
  message : String
  place : Option SourceLine := none

structure Screen where
  detailed : Bool := false
  coloured : Bool := false
  deriving DecidableEq, Repr

/-- Whether colours are allowed: a wish against them that is not empty counts first, a wish for them
second, and without either a terminal has them. -/
def coloursAllowed (against wanted : Option String) (terminal : Bool) : Bool :=
  if against.getD "" != "" then false
  else if wanted.getD "" != "" then true
  else terminal

namespace SourceLine

def fileName (p : SourceLine) : List Char :=
  ((p.file.toList.splitOn '/').getLast?).getD []

def text (p : SourceLine) : String :=
  " // " ++ String.ofList p.fileName ++ ":" ++ intText p.line

end SourceLine

namespace LogRecord

/-- The colour of a record, if its level has one, as the terminal is told. -/
def colour? (record : LogRecord) : Option String :=
  if record.level = Severity.warning.number then some "33;2"
  else if record.level = Severity.error.number then some "31;2"
  else if record.level = Severity.critical.number then some "31;1"
  else none

/-- The width that names of loggers fill at least. -/
def nameWidth : Nat := 20

def paddedName (record : LogRecord) : String :=
  String.ofList (record.logger.toList.leftpad nameWidth ' ')

def details (record : LogRecord) : String :=
  record.paddedName ++ " - " ++ record.message ++ (record.place.map SourceLine.text).getD ""

end LogRecord

namespace Screen

def plainText (screen : Screen) (record : LogRecord) : String :=
  if screen.detailed then record.details else record.message

def text (screen : Screen) (record : LogRecord) : String :=
  match if screen.coloured then record.colour? else none with
  | some colour => "\x1b[" ++ colour ++ "m" ++ screen.plainText record ++ "\x1b[0m"
  | none => screen.plainText record

end Screen
end NextWord
