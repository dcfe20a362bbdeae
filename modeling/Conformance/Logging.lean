import Conformance.Failure

/-!
# Log records

What the library says besides its answers: each violation of a check that is not fatal is a
warning, and each document that is loaded a debug message. A console shows a record as its
level, filled up to eight columns, and its message; further lines of a message stand below the
first. The messages of debug records are shown only if asked for.
-/

namespace Conformance

/-- How important a record is. -/
inductive LogLevel
  | debug
  | info
  | warning
  | error
  | critical
deriving DecidableEq, Repr

namespace LogLevel

/-- All levels, ascending. -/
def all : List LogLevel := [debug, info, warning, error, critical]

/-- The name of a level. -/
def name : LogLevel → String
  | debug => "DEBUG"
  | info => "INFO"
  | warning => "WARNING"
  | error => "ERROR"
  | critical => "CRITICAL"

/-- The level of a given name. -/
def ofName? (s : String) : Option LogLevel := all.find? (·.name == s)

/-- The rank of a level. -/
def rank : LogLevel → Nat
  | debug => 10
  | info => 20
  | warning => 30
  | error => 40
  | critical => 50

end LogLevel

/-- A message with the name of its source. -/
structure LogRecord where
  logger : String
  level : LogLevel
  message : Text
deriving DecidableEq, Repr

namespace LogRecord

/-- The source whose records and those of the sources below it are shown. -/
def rootLogger : String := "shapecheck"

/-- The record of a violation that is only reported. -/
def ofViolation (v : Violation) : LogRecord := ⟨rootLogger ++ ".validator", .warning, v.message⟩

/-- The record of a document that was loaded, with the class of its value. -/
def loaded (path cls : String) : LogRecord :=
  ⟨rootLogger ++ ".loader", .debug, s!"Loaded {path} ({cls})"⟩

end LogRecord

end Conformance
