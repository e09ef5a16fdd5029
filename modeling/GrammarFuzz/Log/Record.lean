/-!
# Log records

A record has a level, the name of the logger it comes from and a message.  The higher the
level, the more a record matters; five levels have names.
-/

namespace GrammarFuzz.Log

/-- How much a record matters. -/
abbrev Level := Int

namespace Level

/-- The level of details. -/
def debug : Level := 10

/-- The level of progress. -/
def info : Level := 20

/-- The level of what should not happen. -/
def warning : Level := 30

/-- The level of failures. -/
def error : Level := 40

/-- The level of the end of everything. -/
def critical : Level := 50

/-- The name of a level. -/
def name (level : Level) : String :=
  if level = debug then "DEBUG"
  else if level = info then "INFO"
  else if level = warning then "WARNING"
  else if level = error then "ERROR"
  else if level = critical then "CRITICAL"
  else if level = 0 then "NOTSET"
  else "Level " ++ toString level

end Level

/-- A message of a logger. -/
structure Record where
  level : Level
  logger : String
  message : String
  deriving DecidableEq, Repr

/-- The record on one line. -/
def Record.line (record : Record) : String :=
  Level.name record.level ++ " " ++ record.logger ++ ": " ++ record.message

end GrammarFuzz.Log
