import Conformance.Console.Layout
import Conformance.Logging

/-!
# Log records on a console

A console shows the records of the library's own sources. Debug messages are shown only if
asked for. A record is its level, filled up to eight columns, and the characters of its message,
whose further lines stand below the first. Of several consoles only the one set up last shows
anything.
-/

namespace Conformance

namespace LogLevel

/-- The columns of a level. -/
def columns : Nat := 8

/-- The least level shown. -/
def least (verbose : Bool) : LogLevel := if verbose then debug else info

end LogLevel

namespace LogRecord

/-- Whether a record comes from the source of the library or one below it. -/
def isOwn (r : LogRecord) : Bool :=
  r.logger == rootLogger || (rootLogger ++ ".").toList.isPrefixOf r.logger.toList

/-- Whether a record is shown. -/
def isShown (verbose : Bool) (r : LogRecord) : Bool :=
  r.isOwn && (LogLevel.least verbose).rank ≤ r.level.rank

/-- The lines of a record in a console of a width. -/
def lines (width : Nat) (r : LogRecord) : List String :=
  let label := String.ofList (r.level.name.toList.rightpad LogLevel.columns ' ') ++ " "
  let gap := String.ofList (List.replicate label.length ' ')
  match Layout.lines (width - label.length) .fold r.message.shown with
  | [] => []
  | first :: rest => (label ++ first) :: rest.map (gap ++ ·)

/-- The lines of the records that a console shows. -/
def shown (width : Nat) (verbose : Bool) (rs : List LogRecord) : List String :=
  (rs.filter (isShown verbose)).flatMap (lines width)

/-- The lines of consoles that are set up one after another, each verbose or not. -/
def shownOn (width : Nat) (rs : List LogRecord) : (consoles : List Bool) → List (List String)
  | [] => []
  | [verbose] => [shown width verbose rs]
  | _ :: later => [] :: shownOn width rs later

end LogRecord

end Conformance
