import FirmwareSurvey.Analysis.Context
import FirmwareSurvey.Members
import FirmwareSurvey.Rootfs.Account
import FirmwareSurvey.Rootfs.Port

/-!
# Surveying the network services

The scripts that start services, the servers that are installed, the ports that configuration files
set, and the accounts that may log in.
-/

namespace FirmwareSurvey.Rootfs

open Analysis Storage

/-! ### Services -/

/-- A script that starts a service. -/
structure Service where
  /-- The name of the script. -/
  name : String
  /-- Its path below the root file system. -/
  path : String
  /-- Whether it runs when the system starts. -/
  enabled : Bool
deriving DecidableEq

/-- Whether a script runs by its own name when the system starts. -/
def runsByName (name : String) : Bool := 3 < name.utf8ByteSize && name.toList.head? == some 'S'

/-- Whether a script is started under a name that gives it a place in the order of starting. -/
def isStarted (s : Storage) (root : Path) (name : String) : Bool :=
  !(({ wanted := ["S??" ++ name], depth := some 1 } : Query).find s (root.child "etc/rc.d")).isEmpty

/-- The scripts that start services. -/
def services (s : Storage) (root : Path) : List Service :=
  (({ kind := some .file, depth := some 1 } : Query).find s (root.child "etc/init.d")).map fun p =>
    ⟨p.fileName, (p.relativeTo root).text, runsByName p.fileName || isStarted s root p.fileName⟩

/-- The record of a service. -/
def Service.toJson (s : Service) : Json :=
  .obj [("name", .str s.name), ("path", .str s.path), ("enabled", .bool s.enabled)]

/-! ### Servers -/

/-- A server that is known by the name of its program. -/
structure KnownServer where
  /-- The name of its program. -/
  name : String
  /-- What it is. -/
  description : String
  /-- The ports it uses by default. -/
  ports : List Nat

/-- The servers looked for. -/
def knownServers : List KnownServer := [
  ⟨"dropbear", "Dropbear SSH server", [22]⟩,
  ⟨"sshd", "OpenSSH server", [22]⟩,
  ⟨"telnetd", "Telnet server", [23]⟩,
  ⟨"nginx", "nginx web server", [80, 443]⟩,
  ⟨"lighttpd", "lighttpd web server", [80, 443]⟩,
  ⟨"uhttpd", "OpenWrt uHTTPd web server", [80, 443]⟩,
  ⟨"dnsmasq", "DNS/DHCP server", [53, 67]⟩,
  ⟨"avahi-daemon", "mDNS/DNS-SD responder", [5353]⟩,
  ⟨"ttyd", "Web terminal", [7681]⟩,
  ⟨"mosquitto", "MQTT broker", [1883]⟩,
  ⟨"vsftpd", "FTP server", [21]⟩,
  ⟨"smbd", "Samba file server", [445]⟩,
  ⟨"tailscaled", "Tailscale VPN daemon", [41641]⟩,
  ⟨"zerotier-one", "ZeroTier VPN daemon", [9993]⟩,
  ⟨"frpc", "frp reverse proxy client", []⟩,
  ⟨"janus", "Janus WebRTC gateway", [8088]⟩]

/-- The directories that servers lie in. -/
def serverDirectories : List String := ["usr/sbin", "usr/bin", "sbin", "bin", "usr/local/bin"]

/-- Whether there is anything at a path, be it a link that leads nowhere. -/
def isAnything (s : Storage) (p : Path) : Bool := (s.node? false p).toOption.isSome

/-- Where a server lies below a root file system. -/
def KnownServer.path? (k : KnownServer) (s : Storage) (root : Path) : Option Path :=
  (serverDirectories.map fun d => (root.child d).child k.name).find? (isAnything s)

/-- The record of a server that is installed. -/
def KnownServer.record? (k : KnownServer) (s : Storage) (root : Path) : Option Json :=
  (k.path? s root).map fun p =>
    .obj [("name", .str k.name), ("path", .str (p.relativeTo root).text),
      ("description", .str k.description), ("default_ports", .arr (k.ports.map .ofNat))]

/-! ### Ports -/

/-- The greatest size of a configuration file that is read. -/
def configSizeLimit : Nat := 256 * 1024

/-- The ports that a configuration file sets; none when it is too great or no text. -/
def filePorts (s : Storage) (root file : Path) : List Port :=
  match s.size? file with
  | .error _ => []
  | .ok size =>
    if configSizeLimit < size then []
    else
      match s.readText file with
      | .ok text => ports text (file.relativeTo root).text
      | .error _ => []

/-- Whether a port does not come after another, by number and then by file. -/
def Port.le (a b : Port) : Bool :=
  a.number < b.number || (a.number == b.number && decide (a.file ≤ b.file))

/-- The ports that configuration files set, in order. -/
def configuredPorts (s : Storage) (root : Path) : List Port :=
  Sorting.sort Port.le
    ((({ kind := some .file } : Query).find s (root.child "etc")).flatMap (filePorts s root))

/-! ### The report -/

/-- The accounts of a root file system; none when there is no password file. -/
def accountsOf? (s : Storage) (root : Path) (weakLength : Nat) : Option (List Account) :=
  (s.readText (root.child "etc/passwd")).toOption.map fun passwd =>
    accounts passwd (s.readText (root.child "etc/shadow")).toOption weakLength

/-- The origins of the report's fields. -/
def networkOrigins (hasAccounts : Bool) : List (String × String × String) :=
  [("services", "squashfs-root/etc/init.d", "Init scripts; rc.d links"),
    ("daemons", "squashfs-root/\x7busr/,\x7d\x7bs,\x7dbin",
      "Known daemon binary names present in the rootfs"),
    ("listening_ports", "squashfs-root/etc",
      "listen/Port/server.port/option port directives in config files")] ++
  if hasAccounts then
    [("accounts", "squashfs-root/etc/passwd + etc/shadow",
        "passwd fields; hash from shadow when passwd has x"),
      ("root_hash_type", "squashfs-root/etc/shadow",
        "Prefix classification of the root password hash")]
  else []

/-- The report on the network services of a root file system. -/
def networkReport (s : Storage) (root : Path) (image : Firmware.Image) (weakLength : Nat) :
    Report :=
  let services := services s root
  let servers := knownServers.filterMap (·.record? s root)
  let accounts? := accountsOf? s root weakLength
  let accounts := accounts?.getD []
  let rootHash := (accounts.find? (·.name == "root")).map (·.hash.name)
  { title := "Network Services Analysis"
    value := .obj (image.members ++ [("init_script_count", .ofNat services.length),
      ("daemon_count", .ofNat servers.length), ("account_count", .ofNat accounts.length),
      ("root_hash_type", .ofOption? rootHash), ("services", .arr (services.map Service.toJson)),
      ("daemons", .arr servers),
      ("listening_ports", .arr ((configuredPorts s root).map Port.toJson)),
      ("accounts", .arr (accounts.map Account.toJson))])
    provenance := .ofList (networkOrigins accounts?.isSome) }

/-- Surveys the network services. -/
def analyzeNetwork (c : Context) : Context.Step Analysis := do
  let storage ← get
  let root ← c.needRoot Topic.networkServices.name storage
  return ⟨networkReport storage root c.image c.config.weakHashLength, []⟩

end FirmwareSurvey.Rootfs
