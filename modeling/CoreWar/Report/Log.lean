import CoreWar.Text.Basic

/-!
# Logs

A log takes messages and writes each of them as a line of its own. A message may hold line feeds
itself, and then it makes several lines.
-/

namespace CoreWar

namespace Log

/-- A message as it is written: it ends with a line feed, which is added if it is missing. -/
def entry (message : Text) : Text :=
  if message.getLast? = some '\n'.toUInt8 then message else message ++ "\n"

/-- All that is written for a sequence of messages. -/
def written (messages : List Text) : Text :=
  messages.flatMap entry

/-- The lines of a log, without their line feeds. -/
def lines (messages : List Text) : List Text :=
  ((written messages).splitOn '\n'.toUInt8).dropLast

end Log

end CoreWar
