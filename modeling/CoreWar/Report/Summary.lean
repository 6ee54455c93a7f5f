import CoreWar.Battle.Basic
import CoreWar.Text.Message

/-!
# The summary

How a match has ended, in a few lines. A loser is named only if a player has made the match stop.
-/

namespace CoreWar

namespace Snapshot

/-- The chunk that names the loser, if there is one. -/
def loserLine (s : Snapshot) : List Text :=
  if s.loser = .nobody then []
  else [Message.format "Loser: %s\n" [.text s.loser.letter]]

def summary (s : Snapshot) : List Text :=
  Message.format "Done: %s\n" [.text s.reason.message] :: s.loserLine ++
    [Message.format "IP: A@%s, B@%s\n"
        [.text (Text.ofInt s.ip.a.toInt), .text (Text.ofInt s.ip.b.toInt)],
      Message.format "Cycle: %s\n" [.text (Text.ofInt s.cycle.toInt)]]

/-- Every detail of a match, for someone who examines the simulator itself. -/
def dump (s : Snapshot) : Text :=
  "(emulator.GameState) \x7b\n" ++
    " Cycle: (int) " ++ Text.ofInt s.cycle.toInt ++ ",\n" ++
    " Ip: ([2]int) (len=2 cap=2) \x7b\n" ++
    "  (int) " ++ Text.ofInt s.ip.a.toInt ++ ",\n" ++
    "  (int) " ++ Text.ofInt s.ip.b.toInt ++ "\n" ++
    " \x7d,\n" ++
    " Status: (emulator.Status) " ++ s.status.render ++ ",\n" ++
    " Abort: (mars.AbortCode) " ++ s.reason.message ++ ",\n" ++
    " Player: (core.Player) " ++ s.blamed.letter ++ ",\n" ++
    " Last: ([2]core.Cell) (len=2 cap=2) \x7b\n" ++
    "  (core.Cell) " ++ s.last.a.render ++ ",\n" ++
    "  (core.Cell) " ++ s.last.b.render ++ "\n" ++
    " \x7d\n\x7d\n"

end Snapshot

end CoreWar
