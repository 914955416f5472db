import FirmwareSurvey.Config.Basic
import FirmwareSurvey.Offsets.Table
import FirmwareSurvey.Text.Lines

/-!
# Names and places

The name of a type of analysis, and the paths of a survey's files, among them that of its results.
-/

/-!
## Names of analysis types

The name of an analysis type is written with hyphens. Wherever one is asked for, underscores stand
for hyphens and blanks around the name do not count; inside a template, where a hyphen is a minus
sign, the name is written with underscores.
-/

namespace FirmwareSurvey.TypeName

/-- A character of a name with the underscore read as a hyphen. -/
def hyphenated (c : Char) : Char := if c = '_' then '-' else c

/-- A character of a name with the hyphen written as an underscore. -/
def underscored (c : Char) : Char := if c = '-' then '_' else c

/-- The name that a text stands for. -/
def normal (type : String) : String :=
  String.ofList ((Text.trimChars type.toList).map hyphenated)

/-- The name of a type inside a template. -/
def inTemplates (type : String) : String := String.ofList (type.toList.map underscored)

end FirmwareSurvey.TypeName

/-!
## Where files lie

The paths of a survey's files follow from its configuration and a base for relative paths.
-/

namespace FirmwareSurvey

/-- The paths of a survey's files. -/
structure Layout where
  /-- Where downloads go. -/
  workDir : Path
  /-- Where reports go. -/
  outputDir : Path
  /-- Where stored results go. -/
  resultsDir : Path
deriving DecidableEq

namespace Layout

/-- The name of the file that records what stored results were made from. -/
def manifestName : String := ".manifest.toml"

/-- The layout of a configuration. -/
def ofConfig (c : Config) (base : Path) : Layout :=
  ⟨base.join c.workDir, base.join c.outputDir, base.join c.resultsDir⟩

/-- Where what was unpacked goes. -/
def extractionsDir (l : Layout) : Path := l.workDir.child "extractions"

/-- The offsets file. -/
def offsetsPath (l : Layout) : Path := l.outputDir.child Offsets.fileName

/-- The file that records what stored results were made from. -/
def manifestPath (l : Layout) : Path := l.resultsDir.child manifestName

/-- The stored results of a type of analysis. -/
def resultsPath (l : Layout) (type : String) : Path := l.resultsDir.join ⟨type ++ ".toml"⟩

end Layout

end FirmwareSurvey
