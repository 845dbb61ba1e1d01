import BadgeLink.Serial.Bench
import BadgeLink.Session

/-!
# Scripted sessions

A workplace whose ports follow the script of a bench and whose files are a fixed set.  A session there
is a function of the script, the files and the command line.
-/

namespace BadgeLink
namespace Workplace

/-- The workplace with a test bench and some files. -/
def scripted (files : Files) : Workplace (StateM Serial.Bench) where
  toStation := Serial.Bench.station
  readFile path := pure (files.read path)

end Workplace
end BadgeLink
