import SandboxProvider.Lib.FilePath
import SandboxProvider.Lib.Sha256
import SandboxProvider.Node.StartCAA
import SandboxProvider.Plugin.CreateInstance

/-!
# What a node starts its processes with

`cmd/peer-pod-node/main.go`: the environment variables that `run` reads, the kubelet configuration of
`prepareKubeletConfig`, the command lines of containerd and the kubelet, and the environment of the
adaptor with the hash of the provider plugin.
-/

namespace SandboxProvider.Node

open Lib FilePath

def defaultStateDir : String := "/var/lib/peer-pod-node"
def defaultContainerdSock : String := "/run/containerd/containerd.sock"
def netnsDir : String := "/run/netns"
def pluginPath : String := "/cloud-providers/kubernetes.so"
def journalSocket : String := "/run/systemd/journal/dev-log"

/-- What `run` reads of its surroundings: `os.Getenv`, `os.Hostname` (which may fail) and what
`net.ParseIP` accepts. -/
structure Environment where
  getenv : String → String
  osHostname : Option String
  parseIP : String → Bool

namespace Environment

variable (e : Environment)

/-- `strings.TrimSpace(os.Getenv(name))`. -/
def trimmed (name : String) : String := Plugin.trimSpace (e.getenv name).toList

def env (name fallback : String) : String :=
  if e.trimmed name ≠ "" then e.trimmed name else fallback

def hostname : String :=
  match e.osHostname with
  | some value => if value = "" then "peer-pod-node" else value
  | none => "peer-pod-node"

def bootstrap : String :=
  e.env "PEER_POD_NODE_BOOTSTRAP_KUBECONFIG" "/etc/peer-pod-node/bootstrap-kubeconfig"

def nodeName : String := e.env "PEER_POD_NODE_NAME" e.hostname

def stateDir : String := e.env "PEER_POD_NODE_STATE_DIR" defaultStateDir

def directories : List String :=
  [e.stateDir, "/run/containerd", "/run/peerpod", netnsDir, "/var/lib/containerd", "/var/lib/kubelet"]

/-! ## The kubelet -/

/-- The file of `PEER_POD_NODE_KUBELET_CONFIG`. -/
def configured : String := e.trimmed "PEER_POD_NODE_KUBELET_CONFIG"

def clusterDNS : String := e.trimmed "PEER_POD_NODE_CLUSTER_DNS"

def clusterDomain : String := e.env "PEER_POD_NODE_CLUSTER_DOMAIN" "cluster.local"

def clientCA : String := e.env "PEER_POD_NODE_CLIENT_CA_FILE" "/etc/peer-pod-node/cluster-ca.crt"

/-- The file that `prepareKubeletConfig` writes. -/
def kubeletYAML : String := join e.stateDir "kubelet.yaml"

def kubeletContents : String :=
  "apiVersion: kubelet.config.k8s.io/v1beta1\nkind: KubeletConfiguration\nauthentication:\n" ++
    "  anonymous:\n    enabled: false\n  webhook:\n    enabled: true\n  x509:\n    clientCAFile: " ++
    e.clientCA ++ "\nauthorization:\n  mode: Webhook\ncgroupDriver: cgroupfs\nclusterDomain: " ++
    e.clusterDomain ++ "\nclusterDNS:\n  - " ++ e.clusterDNS ++
    "\nfailSwapOn: false\nregisterNode: true\nrotateCertificates: true\nserverTLSBootstrap: true\n" ++
    "staticPodPath: /etc/peer-pod-node/manifests\n"

def kubeletCommand (kubeletConfig : String) : List String :=
  ["/usr/local/bin/kubelet",
    "--bootstrap-kubeconfig=" ++ e.bootstrap,
    "--kubeconfig=" ++ join e.stateDir "kubeconfig",
    "--cert-dir=" ++ join e.stateDir "pki",
    "--config=" ++ kubeletConfig,
    "--container-runtime-endpoint=unix://" ++ defaultContainerdSock,
    "--hostname-override=" ++ e.nodeName,
    "--node-labels=kata.peerpods.io/node=true," ++
      e.env "PEER_POD_NODE_LABELS" "node.kubernetes.io/worker=",
    "--register-with-taints=" ++ e.env "PEER_POD_NODE_TAINTS" "kata.peerpods.io/node=true:NoSchedule",
    "--root-dir=" ++ join e.stateDir "kubelet"]

/-! ## The others -/

/-- What `startCAA` adds to the environment of the adaptor. -/
def adaptorEnv (pluginHash : String) : List String :=
  ["ENABLE_CLOUD_PROVIDER_EXTERNAL_PLUGIN=true",
    "CLOUD_PROVIDER_EXTERNAL_PLUGIN_PATH=" ++ pluginPath,
    "CLOUD_PROVIDER_EXTERNAL_PLUGIN_HASH=" ++ pluginHash,
    "CRI_RUNTIME_ENDPOINT=" ++ defaultContainerdSock,
    "NODE_NAME=" ++ e.nodeName]

end Environment

def containerdProcess : Process := { name := "containerd" }

def containerdCommand : List String :=
  ["/usr/local/bin/containerd", "--config", "/etc/containerd/config.toml"]

def adaptorCommand : List String := ["/usr/local/bin/cloud-api-adaptor", "kubernetes"]

/-- `fileSHA256`, once the file is read. -/
def fileSHA256 (content : List UInt8) : String := String.ofList (hexEncode (sha256 content))

end SandboxProvider.Node
