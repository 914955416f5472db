import FirmwareSurvey.Gzip.Inflate
import FirmwareSurvey.Host.Basic
import FirmwareSurvey.Text.Octets

/-!
# Compressed payloads inside an image

A payload is a gzip stream in a range of an image. Unpacked strictly, the range has to be exactly one
member; unpacked by a row of programs, whatever came out counts, complaints about the rest or not. A
payload that cannot be had, or out of which nothing comes, is not there.
-/

namespace FirmwareSurvey.Extraction

variable {ε : Type}

/-- The arguments by which a range of an image is copied. -/
def copyArguments (image : Path) (start : Nat) (length : Option Nat) : List String :=
  [s!"if={image}", "bs=4096", s!"skip={start}", "status=none"] ++
    match length with
    | some n => ["iflag=skip_bytes,count_bytes", s!"count={n}"]
    | none => ["iflag=skip_bytes"]

/-- What a row of programs unpacks from a range of an image. -/
def pipedPayload (tools : Config.ToolPaths) (image : Path) (start : Nat) (length : Option Nat) :
    OnHost Tool.Error ByteArray := do
  let copied ← Tool.runLenient tools .dd (copyArguments image start length) .empty
  return (← Tool.runLenient tools .gunzip ["-c"] copied.output).output

/-- What a range of an image holds when it is exactly one member. -/
def strictPayload? (s : Storage) (image : Path) (start : Nat) (length : Option Nat) :
    Option ByteArray :=
  match s.readRange image start length with
  | .ok data => Gzip.exactly? data
  | .error _ => none

/-- The payload in a range of an image. -/
def payload? (tools : Config.ToolPaths) (strategy : Config.GzipStrategy) (image : Path)
    (start : Nat) (length : Option Nat) : OnHost ε (Option ByteArray) := do
  let data ← match strategy with
    | .strict => OnHost.look fun s => strictPayload? s image start length
    | .pipeline => pure (← OnHost.attempt (pipedPayload tools image start length)).toOption
  return data.filter fun d => d.size != 0

end FirmwareSurvey.Extraction
