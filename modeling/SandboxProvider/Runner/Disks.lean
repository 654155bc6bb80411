import SandboxProvider.Lib.FilePath
import SandboxProvider.Lib.Sha256
import SandboxProvider.Plugin.CreateInstance
import SandboxProvider.Runner.Options

/-!
# The disks, the network and the command line of a PodVM

`cmd/runner/main.go`: the files and commands of `prepareDisks` and `prepareNetwork`, what they are made
of (`randomMAC`, `nameservers`, `renderNetworkConfig`), and `cloudHypervisorArgs`.
-/

namespace SandboxProvider.Runner

open Lib FilePath

def primaryLink : String := "eth0"
def bridgeName : String := "podvm-br0"
def tapName : String := "podvm-tap0"
def managementCIDR : String := "192.0.2.0/30"
def hostAddress : String := "192.0.2.1/30"
def guestAddress : String := "192.0.2.2/30"
def guestIP : String := "192.0.2.2"
def vxlanPort : String := "4789"
def directKernelParams : String :=
  "reboot=k panic=1 systemd.unit=podvm.target quiet " ++
    "root=/dev/vda1 rootflags=data=ordered,errors=remount-ro rw rootfstype=ext4 " ++
    "no_timer_check noreplace-smp console=ttyS0 systemd.log_target=console " ++
    "cgroup_no_v1=all systemd.unified_cgroup_hierarchy=1"

/-- `strings.SplitN(hostAddress, "/", 2)[0]`. -/
def gateway : String := String.ofList (hostAddress.toList.takeWhile (· ≠ '/'))

/-- `net.JoinHostPort`, for a host without a colon. -/
def joinHostPort (host port : String) : String := host ++ ":" ++ port

structure NetworkState where
  address : String
  gateway : String
  dns : List String
  mac : String
  deriving DecidableEq, Repr

/-! ## Addresses -/

/-- `net.HardwareAddr.String`. -/
def hardwareAddr (mac : List UInt8) : String :=
  String.ofList ([':'].intercalate (mac.map fun b => hexEncode [b]))

/-- The two bits that `randomMAC` sets and clears in the first byte. -/
def markLocal : List UInt8 → List UInt8
  | [] => []
  | b :: rest => ((b ||| 2) &&& 0xfe) :: rest

/-- `randomMAC` once the random bytes are there. -/
def randomMAC (bytes : List UInt8) : String := hardwareAddr (markLocal bytes)

/-- `strings.Fields`. -/
def fields (line : List Char) : List String :=
  ((line.splitOnP Plugin.isSpace).filter (· ≠ [])).map String.ofList

/-- The servers in the content of `/etc/resolv.conf`; `parseIP` says what `net.ParseIP` accepts. -/
def nameserversOf (parseIP : String → Bool) (content : String) : List String :=
  (content.toList.splitOn '\n').filterMap fun line =>
    match fields line with
    | [keyword, address] => if keyword = "nameserver" ∧ parseIP address then some address else none
    | _ => none

def resolvConf : String := "/etc/resolv.conf"

/-! ## The seed -/

/-- `%q` of a text without characters to escape. -/
def quoted (s : String) : String := "\"" ++ s ++ "\""

def renderNetworkConfig (network : NetworkState) (mtu : Int) : String :=
  let dns :=
    if network.dns ≠ [] then
      "    nameservers:\n      addresses: [" ++ String.intercalate ", " network.dns ++ "]\n"
    else ""
  "version: 2\nethernets:\n  primary:\n    match:\n      macaddress: " ++ quoted network.mac ++
    "\n    set-name: eth0\n    addresses: [" ++ network.address ++
    "]\n    routes:\n      - to: 0.0.0.0/0\n        via: " ++ network.gateway ++ "\n" ++ dns ++
    "    mtu: " ++ toString mtu ++ "\n"

/-- `strings.ReplaceAll(guestMAC, ":", "")`. -/
def withoutColons (mac : String) : String := String.ofList (mac.toList.filter (· ≠ ':'))

def metaData (guestMAC : String) : String :=
  "instance-id: pod-sandbox-" ++ withoutColons guestMAC ++ "\nlocal-hostname: peerpod\n"

namespace Options

variable (opts : Options)

def rootDisk : String := join opts.stateDir "root.qcow2"
def seedDir : String := join opts.stateDir "cidata"
def seedDisk : String := join opts.stateDir "cidata.img"
def socket : String := join opts.stateDir "cloud-hypervisor.sock"
def userDataPath : String := join opts.configDir "userdata"
def seedFile (name : String) : String := join opts.seedDir name

/-- The command of the root overlay, which direct-kernel boot does not have. -/
def overlayCommand : List String :=
  ["qemu-img", "create", "-f", "qcow2", "-F", "qcow2", "-b", join opts.imageDir "disk.qcow2", opts.rootDisk]

/-- The command of the seed, with the text before its error. -/
def seedCommand : List String × String :=
  if opts.kernelPath ≠ "" then
    (["mke2fs", "-q", "-t", "ext4", "-L", "cidata", "-d", opts.seedDir, opts.seedDisk, "4M"],
      "create direct-kernel config disk: ")
  else
    (["genisoimage", "-quiet", "-output", opts.seedDisk, "-volid", "cidata", "-joliet", "-rock",
      opts.seedDir], "create NoCloud seed: ")

end Options

/-! ## Commands -/

/-- The commands of `prepareNetwork`. -/
def networkCommands (linkName bridge tap : String) (mtu : Int) : List (List String) :=
  [["ip", "link", "add", bridge, "type", "bridge"],
    ["ip", "tuntap", "add", "dev", tap, "mode", "tap"],
    ["ip", "link", "set", "dev", bridge, "mtu", toString mtu],
    ["ip", "link", "set", "dev", tap, "mtu", toString mtu],
    ["ip", "link", "set", "dev", tap, "master", bridge],
    ["ip", "address", "add", hostAddress, "dev", bridge],
    ["ip", "link", "set", "dev", tap, "up"],
    ["ip", "link", "set", "dev", bridge, "up"],
    ["sysctl", "-w", "net.ipv4.ip_forward=1"],
    ["iptables", "-t", "nat", "-A", "POSTROUTING", "-s", managementCIDR, "-o", linkName, "-j", "MASQUERADE"],
    ["iptables", "-t", "nat", "-A", "PREROUTING", "-i", linkName, "-p", "udp", "--dport", vxlanPort,
      "-j", "DNAT", "--to-destination", joinHostPort guestIP vxlanPort],
    ["iptables", "-A", "FORWARD", "-i", linkName, "-o", bridge, "-p", "udp", "-d", guestIP,
      "--dport", vxlanPort, "-j", "ACCEPT"],
    ["iptables", "-A", "FORWARD", "-i", bridge, "-o", linkName, "-j", "ACCEPT"],
    ["iptables", "-A", "FORWARD", "-i", linkName, "-o", bridge, "-m", "conntrack",
      "--ctstate", "ESTABLISHED,RELATED", "-j", "ACCEPT"]]

def cloudHypervisorArgs (opts : Options) (socket rootDisk seedDisk guestMAC : String) : List String :=
  let args := ["--api-socket", socket, "--cpus", "boot=" ++ toString opts.cpus,
    "--memory", "size=" ++ toString opts.memoryMiB ++ "M"]
  let seed := "path=" ++ seedDisk ++ ",readonly=on,image_type=raw"
  let boot :=
    if opts.kernelPath = "" then
      ["--firmware", opts.firmware, "--disk",
        "path=" ++ rootDisk ++ ",image_type=qcow2,backing_files=on", seed]
    else
      let params := Plugin.trimSpace opts.kernelParams.toList
      ["--kernel", opts.kernelPath] ++
        (if opts.initramfsPath ≠ "" then ["--initramfs", opts.initramfsPath] else []) ++
        ["--cmdline", if params = "" then directKernelParams else params] ++ ["--disk"] ++
        (if opts.rootfsPath ≠ "" then ["path=" ++ opts.rootfsPath ++ ",image_type=raw"] else []) ++ [seed]
  args ++ boot ++
    ["--net", "tap=" ++ tapName ++ ",mac=" ++ guestMAC, "--serial", "tty", "--console", "off"]

/-- The command of the hypervisor, with its arguments. -/
def Options.hypervisor (opts : Options) (guestMAC : String) : List String :=
  join (join opts.runtimeAssetsDir "bin") "cloud-hypervisor" ::
    cloudHypervisorArgs opts opts.socket opts.rootDisk opts.seedDisk guestMAC

end SandboxProvider.Runner
