import SandboxProvider.Lib.ServeMux
import SandboxProvider.Server.Handlers

/-!
# The routes of the API server

`internal/server/server.go`: the patterns that `New` registers, and the handler that a request line leads
to. The server may stand behind a path: `dispatch` strips the path of an endpoint first.
-/

namespace SandboxProvider.Server

open Lib NetUrl ServeMux

/-- The handlers that `New` registers. -/
inductive Registered
  | getConfig | createSandbox | deleteSandbox | healthz
  deriving DecidableEq

def patterns : List (Pattern Registered) :=
  [⟨.get, [.literal (ascii "v1"), .literal (ascii "config")], .getConfig⟩,
    ⟨.post, [.literal (ascii "v1"), .literal (ascii "sandboxes")], .createSandbox⟩,
    ⟨.delete, [.literal (ascii "v1"), .literal (ascii "sandboxes"), .wildcard], .deleteSandbox⟩,
    ⟨.get, [.literal (ascii "healthz")], .healthz⟩]

/-- `PathValue("id")`: no pattern has a second wildcard. -/
def pathValue (values : List Bytes) : Bytes := values.headD []

/-- What a request line leads to; an error is a 400. -/
def dispatch (parseAuthority : Bytes → Bytes → Except String (Option Userinfo × Bytes)) (pre : Bytes)
    (method : Method) (target : Bytes) : Except ParseError (Served Registered) :=
  match parseRequestURI parseAuthority target with
  | .error err => .error err
  | .ok url =>
    match stripPrefix pre url with
    | none => .ok .notFound
    | some url => .ok (serve patterns method url)

/-- The bytes of a text. -/
def utf8 (s : String) : Bytes := s.toUTF8.data.toList

/-- The route behind a handler. -/
def Registered.route (body : Except String CreateSandboxRequest) (values : List Bytes) :
    Registered → Option Route
  | .getConfig => some .getConfig
  | .createSandbox => some (.createSandbox body)
  | .deleteSandbox => (String.fromUTF8? (pathValue values).toByteArray).map .deleteSandbox
  | .healthz => none

theorem fromUTF8?_utf8 (s : String) : String.fromUTF8? (utf8 s).toByteArray = some s := by
  have hbytes : (utf8 s).toByteArray = s.toByteArray := by
    apply ByteArray.ext
    rw [List.data_toByteArray]
    exact Array.toArray_toList
  rw [hbytes, String.fromUTF8?, dif_pos s.isValidUTF8]
  rfl

theorem utf8_ofList {cs : List Char} (h : ∀ ch ∈ cs, ch.toNat < 128) :
    utf8 (String.ofList cs) = cs.map byte := by
  have hbytes : utf8 (String.ofList cs) = cs.flatMap String.utf8EncodeChar := by
    unfold utf8
    rw [String.toUTF8, String.toByteArray_ofList, List.utf8Encode, List.data_toByteArray]
  rw [hbytes, List.map_eq_flatMap]
  refine List.flatMap_congr fun ch hch => ?_
  have hval : ch.val ≤ 127 := by
    rw [UInt32.le_iff_toNat_le]
    exact Nat.le_of_lt_succ (h ch hch)
  rw [String.utf8EncodeChar_eq_singleton (Char.utf8Size_eq_one_iff.mpr hval)]
  rfl

theorem route_deleteSandbox (body : Except String CreateSandboxRequest) {values : List Bytes}
    {id : String} (h : pathValue values = utf8 id) :
    Registered.route body values .deleteSandbox = some (.deleteSandbox id) := by
  rw [Registered.route, h, fromUTF8?_utf8]
  rfl

/-! ## Matches -/

theorem matchPath_getConfig :
    matchPath (methodNode patterns .get) [] [ascii "v1", ascii "config"] = some (.getConfig, []) := by
  decide +kernel

theorem matchPath_createSandbox :
    matchPath (methodNode patterns .post) [] [ascii "v1", ascii "sandboxes"] =
      some (.createSandbox, []) := by
  decide +kernel

theorem matchPath_deleteSandbox {id : Bytes} (hid : id ≠ ascii "/") :
    matchPath (methodNode patterns .delete) [] [ascii "v1", ascii "sandboxes", id] =
      some (.deleteSandbox, [id]) := by
  have hv1 : children (.literal (ascii "v1")) (methodNode patterns .delete) =
      [([.literal (ascii "sandboxes"), .wildcard], .deleteSandbox)] := by
    decide +kernel
  have hsandboxes : children (.literal (ascii "sandboxes"))
      [([.literal (ascii "sandboxes"), .wildcard], Registered.deleteSandbox)] =
        [([.wildcard], .deleteSandbox)] := by
    decide +kernel
  have hwildcard : matchPath [([.wildcard], Registered.deleteSandbox)] [] [id] =
      some (.deleteSandbox, [id]) := by
    rw [matchPath, if_pos hid]
    rfl
  rw [matchPath, hv1, matchPath, hsandboxes, hwildcard]
  rfl

/-- A path of clean segments behind the path of an endpoint. -/
theorem dispatch_rooted
    (parseAuthority : Bytes → Bytes → Except String (Option Userinfo × Bytes)) {pre : Bytes}
    (hpre : pre = [] ∨ pre.head? = some (byte '/')) {method : Method} {segs values : List Bytes}
    {handler : Registered} (hne : segs ≠ []) (h : ∀ s ∈ segs, IsSegment s)
    (hmatch : matchPath (methodNode patterns method) [] segs = some (handler, values)) (u : Url)
    (hcontrol : u.query.any isControl = false) :
    dispatch parseAuthority pre method (escape .path (pre ++ rooted segs) ++ u.query) =
      .ok (.handler handler values) := by
  have hhead : (pre ++ rooted segs).head? = some (byte '/') := by
    rcases hpre with rfl | hpre
    · rfl
    · rw [List.head?_append, hpre]
      rfl
  unfold dispatch
  rw [parseRequestURI_target parseAuthority hhead u hcontrol]
  dsimp only
  rw [stripPrefix_append _ rfl rfl]
  exact congrArg Except.ok (serve_rooted rfl rfl hne h hmatch)

end SandboxProvider.Server
