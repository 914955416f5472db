import FirmwareSurvey.DeviceTree.Node

/-!
# Flattened image trees

A flattened image tree describes the images it holds and the configurations that combine them.
Images may carry hashes, configurations may carry signatures; the keys that signatures are checked
against lie in the tree of the boot loader.
-/

namespace FirmwareSurvey.DeviceTree

/-- A signature. -/
structure Signature where
  /-- The path of its node. -/
  path : String
  /-- The algorithm. -/
  algorithm : Option String
  /-- The name of the key. -/
  keyHint : Option String
  /-- The images it covers. -/
  images : List String
  /-- Whether it has a value, so that something was signed. -/
  hasValue : Bool
deriving DecidableEq

/-- An image. -/
structure Image where
  /-- The name. -/
  name : String
  /-- A description. -/
  description : Option String
  /-- The type. -/
  type : Option String
  /-- The architecture. -/
  architecture : Option String
  /-- The compression. -/
  compression : Option String
  /-- Where it is loaded, as written. -/
  load : Option String
  /-- The algorithms of its hashes. -/
  hashes : List String
deriving DecidableEq

/-- A configuration. -/
structure Configuration where
  /-- The name. -/
  name : String
  /-- A description. -/
  description : Option String
  /-- The kernel image. -/
  kernel : Option String
  /-- The firmware image. -/
  firmware : Option String
  /-- The device tree image. -/
  fdt : Option String
  /-- Further images. -/
  loadables : List String
  /-- The signatures. -/
  signatures : List Signature
deriving DecidableEq

/-- A public key. -/
structure Key where
  /-- The name. -/
  name : String
  /-- The algorithm. -/
  algorithm : Option String
  /-- What a signature by this key is required for. -/
  required : Option String
  /-- Whether the key has a modulus. -/
  hasModulus : Bool
deriving DecidableEq

/-- The signature of a node. -/
def Signature.ofNode (n : Node) : Signature :=
  { path := n.path, algorithm := n.text? "algo", keyHint := n.text? "key-name-hint"
    images := n.texts "sign-images", hasValue := n.has "value" }

/-- The signatures anywhere in a tree; the node that holds the keys is none. -/
def signatures (text : String) : List Signature :=
  ((nodes text).filter fun n => n.isNamed "signature" && n.path != "/signature").map
    Signature.ofNode

/-- The image of a node among all nodes. -/
def Image.ofNode (all : List Node) (n : Node) : Image :=
  { name := n.name, description := n.text? "description", type := n.text? "type"
    architecture := n.text? "arch", compression := n.text? "compression", load := n.raw? "load"
    hashes := (all.filter fun m => m.isBelow n.path && m.isNamed "hash").filterMap (·.text? "algo") }

/-- The images of a tree. -/
def images (text : String) : List Image :=
  let all := nodes text
  (children all "/images").map (Image.ofNode all)

/-- The configuration of a node among all nodes. -/
def Configuration.ofNode (all : List Node) (n : Node) : Configuration :=
  { name := n.name, description := n.text? "description", kernel := n.text? "kernel"
    firmware := n.text? "firmware", fdt := n.text? "fdt", loadables := n.texts "loadables"
    signatures := (all.filter fun m => m.isBelow n.path && m.isNamed "signature").map
      Signature.ofNode }

/-- The configurations of a tree. -/
def configurations (text : String) : List Configuration :=
  let all := nodes text
  (children all "/configurations").map (Configuration.ofNode all)

/-- The key of a node. -/
def Key.ofNode (n : Node) : Key :=
  { name := n.name, algorithm := n.text? "algo", required := n.text? "required"
    hasModulus := n.has "rsa,modulus" }

/-- The keys of a tree. -/
def keys (text : String) : List Key := (children (nodes text) "/signature").map Key.ofNode

end FirmwareSurvey.DeviceTree
