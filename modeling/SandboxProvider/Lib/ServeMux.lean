import SandboxProvider.Lib.NetUrl

/-!
# A request multiplexer

Go's `http.ServeMux` for patterns of a method, literal segments and single wildcards, and the handler of
`http.StripPrefix` in front of it. A node of the routing tree is the list of the patterns below it. The
multiplexer matches the segments of the escaped path, once it is clean, and unescapes each of them: a
request for a path of clean segments is matched by these segments (`serve_rooted`).
-/

namespace SandboxProvider.Lib.ServeMux

open NetUrl

/-- The methods other than `CONNECT`. -/
inductive Method
  | get | head | post | delete
  | other (name : String)
  deriving DecidableEq

inductive Segment
  | literal (s : Bytes)
  | wildcard
  deriving DecidableEq

structure Pattern (α : Type) where
  method : Method
  segments : List Segment
  handler : α

/-! ## Paths -/

/-- The segments that are left of a path, with those already kept in reverse. -/
def cleanSegments (kept : List Bytes) : List Bytes → List Bytes
  | [] => kept.reverse
  | seg :: rest =>
    if seg = [] ∨ seg = ascii "." then cleanSegments kept rest
    else if seg = ascii ".." then cleanSegments kept.tail rest
    else cleanSegments (seg :: kept) rest

/-- The path of these segments. -/
def rooted (segs : List Bytes) : Bytes := byte '/' :: [byte '/'].intercalate segs

/-- `path.Clean` of a rooted path. -/
def clean (path : Bytes) : Bytes := rooted (cleanSegments [] (path.splitOn (byte '/')))

def cleanPath (path : Bytes) : Bytes :=
  if path = [] then ascii "/"
  else
    let path := if path.head? ≠ some (byte '/') then byte '/' :: path else path
    if path.getLast? = some (byte '/') ∧ clean path ≠ ascii "/" then clean path ++ ascii "/"
    else clean path

def pathUnescape (s : Bytes) : Bytes := (unescapeBytes s).getD s

/-- The loop over `firstSegment`: a slash at the end is a segment of its own. -/
def unescapeSegments : List Bytes → List Bytes
  | [] => []
  | [last] => [if last = [] then ascii "/" else pathUnescape last]
  | seg :: rest => pathUnescape seg :: unescapeSegments rest

/-- The segments that a path is matched by. -/
def segmentsOf (path : Bytes) : List Bytes := unescapeSegments ((path.drop 1).splitOn (byte '/'))

/-! ## Routing -/

section Routing

variable {α : Type}

def children (segment : Segment) (node : List (List Segment × α)) : List (List Segment × α) :=
  node.filterMap fun
    | ([], _) => none
    | (first :: rest, handler) => if first = segment then some (rest, handler) else none

/-- `matchPath`: a literal segment comes before a wildcard, which does not match a slash at the end. -/
def matchPath (node : List (List Segment × α)) (values : List Bytes) :
    List Bytes → Option (α × List Bytes)
  | [] => (node.find? (·.1 = [])).map fun pattern => (pattern.2, values)
  | seg :: rest =>
    (matchPath (children (.literal seg) node) values rest).or
      (if seg ≠ ascii "/" then matchPath (children .wildcard node) (values ++ [seg]) rest else none)

/-- The patterns of a method. -/
def methodNode (patterns : List (Pattern α)) (method : Method) : List (List Segment × α) :=
  (patterns.filter (·.method = method)).map fun pattern => (pattern.segments, pattern.handler)

/-- The handler of a method and a path, with the values of the wildcards. -/
def lookup (patterns : List (Pattern α)) (method : Method) (path : Bytes) : Option (α × List Bytes) :=
  (matchPath (methodNode patterns method) [] (segmentsOf path)).or
    (if method = .head then matchPath (methodNode patterns .get) [] (segmentsOf path) else none)

/-- Some pattern matches the path with its own method. -/
def matchesOther (patterns : List (Pattern α)) (path : Bytes) : Bool :=
  patterns.any fun pattern => (lookup patterns pattern.method path).isSome

/-- What a request is answered by. -/
inductive Served (α : Type)
  | handler (handler : α) (values : List Bytes)
  | movedPermanently (location : Bytes)
  | methodNotAllowed
  | notFound
  deriving DecidableEq

/-- `findHandler`. -/
def serve (patterns : List (Pattern α)) (method : Method) (url : Url) : Served α :=
  let path := cleanPath url.escapedPath
  let found := lookup patterns method path
  let slash := path.getLast? = some (byte '/')
  if found.isNone ∧ ¬ slash ∧ (lookup patterns method (path ++ ascii "/")).isSome then
    .movedPermanently
      (Url.render { path := cleanPath url.path ++ ascii "/", rawQuery := url.rawQuery })
  else if path ≠ url.escapedPath then
    .movedPermanently (Url.render { path, rawQuery := url.rawQuery })
  else
    match found with
    | some (handler, values) => .handler handler values
    | none =>
      if matchesOther patterns path ∨ ¬ slash ∧ matchesOther patterns (path ++ ascii "/") then
        .methodNotAllowed
      else .notFound

end Routing

/-! ## The prefix of an endpoint -/

/-- `strings.TrimPrefix`. -/
def trimPrefix (pre s : Bytes) : Bytes := if pre <+: s then s.drop pre.length else s

/-- `http.StripPrefix`: the URL that its handler sees, or nothing for a 404. -/
def stripPrefix (pre : Bytes) (url : Url) : Option Url :=
  if pre = [] then some url
  else
    let path := trimPrefix pre url.path
    let rawPath := trimPrefix pre url.rawPath
    if path.length < url.path.length ∧
        (url.rawPath = [] ∨ rawPath.length < url.rawPath.length) then
      some { url with path, rawPath }
    else none

theorem stripPrefix_append {pre path : Bytes} (url : Url) (hpath : url.path = pre ++ path)
    (hraw : url.rawPath = []) : stripPrefix pre url = some { url with path } := by
  unfold stripPrefix
  split
  · rename_i hpre
    rw [hpre, List.nil_append] at hpath
    rw [← hpath]
  · rename_i hpre
    have htrim : trimPrefix pre url.path = path := by
      rw [trimPrefix, hpath, if_pos (List.prefix_append pre path), List.drop_left]
    have htrimRaw : trimPrefix pre url.rawPath = url.rawPath := by
      rw [trimPrefix, hraw, if_neg (by simpa using hpre)]
    have hlength : path.length < url.path.length := by
      rw [hpath, List.length_append]
      have hpos : 0 < pre.length := List.length_pos_iff.mpr hpre
      omega
    dsimp only
    rw [htrim, htrimRaw, if_pos ⟨hlength, .inl hraw⟩]

/-! ## Clean segments -/

structure IsSegment (s : Bytes) : Prop where
  ne_nil : s ≠ []
  ne_dot : s ≠ ascii "."
  ne_dots : s ≠ ascii ".."
  slash : byte '/' ∉ s

theorem eq_of_escape_eq {mode : Encoding} {s t : Bytes} (h : escape mode s = t)
    (ht : unescapeBytes t = some t) : s = t := by
  have hs := unescape_escape mode s
  rw [h, ht] at hs
  exact (Option.some.inj hs).symm

theorem IsSegment.of_ne {mode : Encoding} {s : Bytes} (hne : s ≠ []) (hdot : s ≠ ascii ".")
    (hdots : s ≠ ascii "..") (hslash : byte '/' ∉ escape mode s) : IsSegment (escape mode s) where
  ne_nil h := hne (eq_of_escape_eq h rfl)
  ne_dot h := hdot (eq_of_escape_eq h rfl)
  ne_dots h := hdots (eq_of_escape_eq h rfl)
  slash := hslash

theorem IsSegment.escape {s : Bytes} (h : IsSegment s) : IsSegment (escape .path s) := by
  refine .of_ne h.ne_nil h.ne_dot h.ne_dots fun hmem => ?_
  rcases mem_escape hmem with ⟨hs, -⟩ | hhex
  · exact h.slash hs
  · revert hhex
    decide

theorem cleanSegments_eq {segs : List Bytes} (h : ∀ s ∈ segs, IsSegment s) :
    ∀ kept : List Bytes, cleanSegments kept segs = kept.reverse ++ segs := by
  induction segs with
  | nil =>
    intro kept
    rw [cleanSegments, List.append_nil]
  | cons s segs ih =>
    intro kept
    have hs := h s List.mem_cons_self
    rw [cleanSegments, if_neg (not_or.mpr ⟨hs.ne_nil, hs.ne_dot⟩), if_neg hs.ne_dots,
      ih fun t ht => h t (List.mem_cons_of_mem _ ht)]
    simp

theorem getLast?_intercalate {segs : List Bytes} (hne : segs ≠ []) (h : ∀ s ∈ segs, IsSegment s) :
    ∃ c, ([byte '/'].intercalate segs).getLast? = some c ∧ c ≠ byte '/' := by
  induction segs with
  | nil => exact absurd rfl hne
  | cons s segs ih =>
    have hs := h s List.mem_cons_self
    cases segs with
    | nil =>
      obtain ⟨c, hc⟩ := Option.ne_none_iff_exists'.mp (mt List.getLast?_eq_none_iff.mp hs.ne_nil)
      rw [List.intercalate_singleton]
      exact ⟨c, hc, ne_of_mem_of_not_mem (List.mem_of_getLast? hc) hs.slash⟩
    | cons t segs =>
      obtain ⟨c, hc, hslash⟩ := ih (List.cons_ne_nil t segs) fun u hu => h u (List.mem_cons_of_mem _ hu)
      refine ⟨c, ?_, hslash⟩
      rw [List.intercalate_cons_cons, List.getLast?_append, hc]
      rfl

theorem splitOn_rooted {segs : List Bytes} (hne : segs ≠ []) (h : ∀ s ∈ segs, IsSegment s) :
    (rooted segs).splitOn (byte '/') = [] :: segs := by
  have hrooted : rooted segs = [byte '/'].intercalate ([] :: segs) := by
    rw [List.intercalate_cons_of_ne_nil hne]
    rfl
  have hslash : ∀ s ∈ [] :: segs, byte '/' ∉ s := by
    intro s hs
    rcases List.mem_cons.mp hs with rfl | hs
    · exact List.not_mem_nil
    · exact (h s hs).slash
  rw [hrooted, List.splitOn_intercalate (byte '/') hslash (List.cons_ne_nil [] segs)]

/-- A path of clean segments is clean. -/
theorem cleanPath_rooted {segs : List Bytes} (hne : segs ≠ []) (h : ∀ s ∈ segs, IsSegment s) :
    cleanPath (rooted segs) = rooted segs := by
  have hclean : clean (rooted segs) = rooted segs := by
    rw [clean, splitOn_rooted hne h, cleanSegments, if_pos (.inl rfl), cleanSegments_eq h]
    rfl
  have hhead : (rooted segs).head? = some (byte '/') := rfl
  have hlast : ¬ ((rooted segs).getLast? = some (byte '/') ∧ clean (rooted segs) ≠ ascii "/") := by
    rintro ⟨hlast, -⟩
    obtain ⟨c, hc, hslash⟩ := getLast?_intercalate hne h
    rw [rooted, List.getLast?_cons, hc] at hlast
    exact hslash (Option.some.inj hlast)
  have hcons : rooted segs ≠ [] := List.cons_ne_nil _ _
  rw [cleanPath, if_neg hcons]
  dsimp only
  rw [if_neg (not_not_intro hhead), if_neg hlast, hclean]

theorem escape_intercalate (segs : List Bytes) :
    escape .path ([byte '/'].intercalate segs) = [byte '/'].intercalate (segs.map (escape .path)) := by
  induction segs with
  | nil => rfl
  | cons s segs ih =>
    cases segs with
    | nil => rw [List.intercalate_singleton, List.map_singleton, List.intercalate_singleton]
    | cons t segs =>
      have hslash : escape .path [byte '/'] = [byte '/'] := rfl
      rw [List.intercalate_cons_cons, escape_append, escape_append, ih, hslash]
      simp only [List.map_cons, List.intercalate_cons_cons]

theorem escape_rooted (segs : List Bytes) :
    escape .path (rooted segs) = rooted (segs.map (escape .path)) := by
  have hcons : escape .path (rooted segs) =
      byte '/' :: escape .path ([byte '/'].intercalate segs) := rfl
  rw [hcons, escape_intercalate]
  rfl

theorem unescapeSegments_escape {segs : List Bytes} (h : ∀ s ∈ segs, s ≠ []) :
    unescapeSegments (segs.map (escape .path)) = segs := by
  have hunescape (s : Bytes) : pathUnescape (escape .path s) = s := by
    rw [pathUnescape, unescape_escape]
    rfl
  induction segs with
  | nil => rfl
  | cons s segs ih =>
    cases segs with
    | nil =>
      have hs : escape .path s ≠ [] := fun hs => h s List.mem_cons_self (eq_of_escape_eq hs rfl)
      simp only [List.map_cons, List.map_nil, unescapeSegments, if_neg hs, hunescape]
    | cons t segs =>
      have hrest := ih fun u hu => h u (List.mem_cons_of_mem _ hu)
      simp only [List.map_cons] at hrest
      simp only [List.map_cons, unescapeSegments, hunescape, hrest]

/-- The multiplexer matches an escaped path by the segments that were escaped. -/
theorem segmentsOf_rooted {segs : List Bytes} (hne : segs ≠ []) (h : ∀ s ∈ segs, IsSegment s) :
    segmentsOf (rooted (segs.map (escape .path))) = segs := by
  have hslash : ∀ s ∈ segs.map (escape .path), byte '/' ∉ s := by
    intro t ht
    obtain ⟨s, hs, rfl⟩ := List.mem_map.mp ht
    exact (h s hs).escape.slash
  have hdrop : (rooted (segs.map (escape .path))).drop 1 =
      [byte '/'].intercalate (segs.map (escape .path)) := rfl
  rw [segmentsOf, hdrop, List.splitOn_intercalate (byte '/') hslash (mt List.map_eq_nil_iff.mp hne)]
  exact unescapeSegments_escape fun s hs => (h s hs).ne_nil

/-- **Serving a path of clean segments.** -/
theorem serve_rooted {α : Type} {patterns : List (Pattern α)} {method : Method} {url : Url}
    {segs values : List Bytes} {handler : α} (hpath : url.path = rooted segs) (hraw : url.rawPath = [])
    (hne : segs ≠ []) (h : ∀ s ∈ segs, IsSegment s)
    (hmatch : matchPath (methodNode patterns method) [] segs = some (handler, values)) :
    serve patterns method url = .handler handler values := by
  have hescaped : url.escapedPath = rooted (segs.map (escape .path)) := by
    rw [url.escapedPath_rooted hraw (by rw [hpath]; rfl), hpath, escape_rooted]
  have hclean : cleanPath url.escapedPath = url.escapedPath := by
    rw [hescaped]
    refine cleanPath_rooted (mt List.map_eq_nil_iff.mp hne) fun t ht => ?_
    obtain ⟨s, hs, rfl⟩ := List.mem_map.mp ht
    exact (h s hs).escape
  have hlookup : lookup patterns method url.escapedPath = some (handler, values) := by
    rw [lookup, hescaped, segmentsOf_rooted hne h, hmatch]
    rfl
  unfold serve
  simp only [hclean, hlookup]
  simp

end SandboxProvider.Lib.ServeMux
