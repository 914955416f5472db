import FirmwareSurvey.Command.Run
import FirmwareSurvey.Programs.Standard

/-!
# The program on the standard host

Where there is no script for a type of analysis, the program starts itself to make the results, so
that the host it runs on has the program among its programs. How often it can do so is bounded.
-/

namespace FirmwareSurvey.CommandLine

/-- What a run of the program is given from outside. -/
structure Setting where
  /-- Where the program lies. -/
  own : Path
  /-- The configuration file that the environment names. -/
  configVariable : Option Path := none
  /-- The current directory, as an absolute path. -/
  currentDirectory : Path
  /-- The time, as it is written. -/
  now : String

/-- The program on the standard host; it may start itself down to a depth. -/
def programWithin (setting : Setting) : Nat → Program
  | 0 => Program.ending 127
  | depth + 1 => program (.standard setting.own (programWithin setting depth)
      setting.configVariable setting.currentDirectory setting.now)

/-- The host that the program runs on. -/
def ownHost (setting : Setting) : Host :=
  .standard setting.own (programWithin setting Program.startingDepth) setting.configVariable
    setting.currentDirectory setting.now

/-- The program on the standard host. -/
def ownProgram (setting : Setting) : Program := program (ownHost setting)

end FirmwareSurvey.CommandLine
