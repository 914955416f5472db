import FirmwareSurvey.Host.Basic
import FirmwareSurvey.Json.Basic
import FirmwareSurvey.Storage.Path

/-!
# Firmware images

The image that a survey is about.
-/

namespace FirmwareSurvey.Firmware

/-- A firmware image. -/
structure Image where
  /-- Where it lies. -/
  path : Path
  /-- The name of its file. -/
  fileName : String
  /-- Its size in bytes. -/
  size : Nat
deriving DecidableEq

/-- The members that every report on an image starts with. -/
def Image.members (i : Image) : List (String × Json) :=
  [("firmware_file", .str i.fileName), ("firmware_size", .ofNat i.size)]

end FirmwareSurvey.Firmware

/-!
## Finding the image to survey

The image is the file given, or else one downloaded from the address of the configuration into the
work directory under the last name of that address. A file of that name that is already there is
used as it is.
-/

namespace FirmwareSurvey.Firmware

/-- Why there is no image. -/
inductive Error where
  /-- There is no such file. -/
  | notFound (path : Path)
  /-- No file and no address is given. -/
  | noSource
  /-- The address does not end in a name. -/
  | badUrl (url : String)
  /-- The work directory cannot be made. -/
  | workDir (path : Path) (cause : Storage.Fault)
  /-- The size of the file cannot be told. -/
  | size (path : Path) (cause : Storage.Fault)
  /-- The download failed. -/
  | download (cause : Tool.Error)
deriving DecidableEq

/-- The wording of an error. -/
def Error.message : Error → String
  | .notFound path => s!"Firmware file not found: {path}"
  | .noSource => "No firmware given and no firmware_url configured"
  | .badUrl url => s!"Firmware URL has no file name component: {url}"
  | .workDir path cause => s!"Failed to prepare work directory {path}: {cause.message}"
  | .size path cause => s!"Failed to read firmware metadata for {path}: {cause.message}"
  | .download cause => s!"Firmware download failed: {cause.message}"

/-- The image in a file. -/
def openImage (s : Storage) (path : Path) : Except Error Image :=
  if s.isFile path then
    match s.size? path with
    | .ok size => .ok ⟨path, path.fileName, size⟩
    | .error cause => .error (.size path cause)
  else .error (.notFound path)

/-- The last name of an address, what asks for more of it left out. -/
def urlFileName? (url : String) : Option String :=
  let address := url.toList.takeWhile fun c => c != '?' && c != '#'
  let name := (address.reverse.takeWhile (· != '/')).reverse
  if name.isEmpty || name.contains ':' then none else some (String.ofList name)

/-- The image given, or else the one of the configuration. -/
def resolve (config : Config) (workDir : Path) (given : Option Path) : OnHost Error Image := do
  match given with
  | some path => OnHost.tryLook (openImage · path) id
  | none =>
    match config.firmwareUrl with
    | none => throw .noSource
    | some url =>
      match urlFileName? url with
      | none => throw (.badUrl url)
      | some name =>
        let destination := workDir.child name
        if (← get).isFile destination then OnHost.tryLook (openImage · destination) id
        else do
          OnHost.tryChange (·.makeDirectories workDir) (.workDir workDir)
          OnHost.mapError .download (Tool.download config.tools url destination)
          OnHost.tryLook (openImage · destination) id

end FirmwareSurvey.Firmware
