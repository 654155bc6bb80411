import Mathlib.Data.List.TakeWhile
import Mathlib.Data.List.Infix

/-!
# URLs

Go's `net/url` on bytes: the escapes of each part of a URL, `Parse`, `ParseRequestURI`, `String` and
`RequestURI`. What an authority means is left to a function that parses it for a scheme; how a user and a
host are written is not. Unescaping inverts escaping (`unescape_escape`). A rendered URL that is read back
leads to a request for the path and the query that it was rendered from
(`Url.Absolute.parseReference_render`), and the target of that request is read as this path
(`parseRequestURI_target`).
-/

namespace SandboxProvider.Lib.NetUrl

abbrev Bytes := List UInt8

def byte (c : Char) : UInt8 := UInt8.ofNat c.toNat

/-- The bytes of an ASCII text. -/
def ascii (s : String) : Bytes := s.toList.map byte

/-! ## Escapes -/

/-- The parts of a URL. -/
inductive Encoding
  | path | pathSegment | host | userPassword | fragment
  deriving DecidableEq

def isLetter (c : UInt8) : Bool :=
  (byte 'a' ≤ c && c ≤ byte 'z') || (byte 'A' ≤ c && c ≤ byte 'Z')

def isDigit (c : UInt8) : Bool := byte '0' ≤ c && c ≤ byte '9'

def shouldEscape (mode : Encoding) (c : UInt8) : Bool :=
  if isLetter c || isDigit c then false
  else if mode = .host ∧ c ∈ ascii "!$&'()*+,;=:[]<>\"" then false
  else if c ∈ ascii "-_.~" then false
  else if c ∈ ascii "$&+,/:;=?@" then
    match mode with
    | .path => c = byte '?'
    | .pathSegment => c ∈ ascii "/;,?"
    | .userPassword => c ∈ ascii "@/?:"
    | .host => true
    | .fragment => false
  else if mode = .fragment ∧ c ∈ ascii "!()*" then false
  else true

def upperHex (n : Nat) : UInt8 := UInt8.ofNat (if n < 10 then 48 + n else 55 + n)

def escapeByte (mode : Encoding) (c : UInt8) : Bytes :=
  if shouldEscape mode c then [byte '%', upperHex (c.toNat / 16), upperHex (c.toNat % 16)] else [c]

def escape (mode : Encoding) (s : Bytes) : Bytes := s.flatMap (escapeByte mode)

def unhex (c : UInt8) : Option Nat :=
  if byte '0' ≤ c ∧ c ≤ byte '9' then some (c.toNat - 48)
  else if byte 'a' ≤ c ∧ c ≤ byte 'f' then some (c.toNat - 87)
  else if byte 'A' ≤ c ∧ c ≤ byte 'F' then some (c.toNat - 55)
  else none

/-- `unescape` for a path, a segment of one or a fragment. -/
def unescapeBytes : Bytes → Option Bytes
  | [] => some []
  | c :: rest =>
    if c = byte '%' then
      match rest with
      | a :: b :: rest =>
        match unhex a, unhex b with
        | some x, some y => (unescapeBytes rest).map (UInt8.ofNat (16 * x + y) :: ·)
        | _, _ => none
      | _ => none
    else (unescapeBytes rest).map (c :: ·)

/-- The text is one that `escape` could have left or that a user may have escaped differently. -/
def validEncoded (mode : Encoding) (s : Bytes) : Bool :=
  s.all fun c => c ∈ ascii "!$&'()*+,;=:@[]%" || !shouldEscape mode c

/-- `url.PathEscape`. -/
def pathEscape (s : Bytes) : Bytes := escape .pathSegment s

/-! ## URLs -/

structure Userinfo where
  username : Bytes
  password : Option Bytes
  deriving DecidableEq

structure Url where
  scheme : Bytes := []
  /-- `Opaque`: what follows a scheme without a slash. -/
  rootless : Bytes := []
  user : Option Userinfo := none
  host : Bytes := []
  path : Bytes := []
  rawPath : Bytes := []
  omitHost : Bool := false
  forceQuery : Bool := false
  rawQuery : Bytes := []
  fragment : Bytes := []
  rawFragment : Bytes := []
  deriving DecidableEq

inductive ParseError
  | controlCharacter | empty | missingScheme | invalidURI | colonInFirstSegment
  | escape (text : Bytes)
  | authority (message : String)
  deriving DecidableEq

/-- `strings.Cut`. -/
def cut (sep : UInt8) (s : Bytes) : Bytes × Bytes :=
  (s.takeWhile (· ≠ sep), (s.dropWhile (· ≠ sep)).drop 1)

def isControl (c : UInt8) : Bool := c < 0x20 || c = 0x7f

/-- The scheme in front of a colon and the rest of the text. -/
def getScheme (rawURL seen : Bytes) : Bytes → Except ParseError (Bytes × Bytes)
  | [] => .ok ([], rawURL)
  | c :: rest =>
    if isLetter c then getScheme rawURL (seen ++ [c]) rest
    else if isDigit c ∨ c ∈ ascii "+-." then
      if seen = [] then .ok ([], rawURL) else getScheme rawURL (seen ++ [c]) rest
    else if c = byte ':' then
      if seen = [] then .error .missingScheme else .ok (seen, rest)
    else .ok ([], rawURL)

def toLower (c : UInt8) : UInt8 := if byte 'A' ≤ c ∧ c ≤ byte 'Z' then c + 32 else c

/-- What stands in front of the query, whether there is an empty query, and the query. -/
def splitQuery (rest : Bytes) : Bytes × Bool × Bytes :=
  if rest.getLast? = some (byte '?') ∧ rest.count (byte '?') = 1 then (rest.dropLast, true, [])
  else ((cut (byte '?') rest).1, false, (cut (byte '?') rest).2)

def Url.setPath (u : Url) (p : Bytes) : Except ParseError Url :=
  match unescapeBytes p with
  | none => .error (.escape p)
  | some path => .ok { u with path, rawPath := if p = escape .path path then [] else p }

def Url.setFragment (u : Url) (f : Bytes) : Except ParseError Url :=
  match unescapeBytes f with
  | none => .error (.escape f)
  | some fragment =>
    .ok { u with fragment, rawFragment := if f = escape .fragment fragment then [] else f }

section Parse

variable (parseAuthority : Bytes → Bytes → Except String (Option Userinfo × Bytes))

/-- `parse`, for a URL without a fragment. -/
def parse (viaRequest : Bool) (rawURL : Bytes) : Except ParseError Url :=
  if rawURL.any isControl then .error .controlCharacter
  else if rawURL = [] ∧ viaRequest then .error .empty
  else if rawURL = ascii "*" then .ok { path := ascii "*" }
  else
    match getScheme rawURL [] rawURL with
    | .error err => .error err
    | .ok (scheme, rest) =>
      let (rest, forceQuery, rawQuery) := splitQuery rest
      let u : Url := { scheme := scheme.map toLower, forceQuery, rawQuery }
      if ¬ ascii "/" <+: rest then
        if scheme ≠ [] then .ok { u with rootless := rest }
        else if viaRequest then .error .invalidURI
        else if byte ':' ∈ (cut (byte '/') rest).1 then .error .colonInFirstSegment
        else u.setPath rest
      else if (scheme ≠ [] ∨ ¬ viaRequest ∧ ¬ ascii "///" <+: rest) ∧ ascii "//" <+: rest then
        let authority := (rest.drop 2).takeWhile (· ≠ byte '/')
        match parseAuthority u.scheme authority with
        | .error message => .error (.authority message)
        | .ok (user, host) =>
          Url.setPath { u with user, host } ((rest.drop 2).dropWhile (· ≠ byte '/'))
      else Url.setPath { u with omitHost := scheme ≠ [] } rest

/-- `url.Parse`. -/
def parseReference (rawURL : Bytes) : Except ParseError Url :=
  match parse parseAuthority false (cut (byte '#') rawURL).1 with
  | .error err => .error err
  | .ok u =>
    if (cut (byte '#') rawURL).2 = [] then .ok u else u.setFragment (cut (byte '#') rawURL).2

/-- `url.ParseRequestURI`. -/
def parseRequestURI (rawURL : Bytes) : Except ParseError Url := parse parseAuthority true rawURL

end Parse

/-! ## Rendering -/

def Userinfo.render (ui : Userinfo) : Bytes :=
  escape .userPassword ui.username ++
    match ui.password with
    | none => []
    | some password => byte ':' :: escape .userPassword password

namespace Url

def escapedPath (u : Url) : Bytes :=
  if u.rawPath ≠ [] ∧ validEncoded .path u.rawPath ∧ unescapeBytes u.rawPath = some u.path then u.rawPath
  else if u.path = ascii "*" then ascii "*"
  else escape .path u.path

def escapedFragment (u : Url) : Bytes :=
  if u.rawFragment ≠ [] ∧ validEncoded .fragment u.rawFragment ∧
      unescapeBytes u.rawFragment = some u.fragment then u.rawFragment
  else escape .fragment u.fragment

def authority (u : Url) : Bytes :=
  (match u.user with
    | none => []
    | some ui => ui.render ++ [byte '@']) ++ escape .host u.host

/-- The scheme and the authority in front of a path. -/
def beforePath (u : Url) : Bytes :=
  (if u.scheme ≠ [] then u.scheme ++ [byte ':'] else []) ++
    if u.scheme ≠ [] ∨ u.host ≠ [] ∨ u.user ≠ none then
      if u.omitHost ∧ u.host = [] ∧ u.user = none then []
      else (if u.host ≠ [] ∨ u.path ≠ [] ∨ u.user ≠ none then ascii "//" else []) ++ u.authority
    else []

def query (u : Url) : Bytes :=
  if u.forceQuery ∨ u.rawQuery ≠ [] then byte '?' :: u.rawQuery else []

/-- `String`. -/
def render (u : Url) : Bytes :=
  (if u.rootless ≠ [] then (if u.scheme ≠ [] then u.scheme ++ [byte ':'] else []) ++ u.rootless
    else
      u.beforePath ++
        (if u.escapedPath ≠ [] ∧ ¬ ascii "/" <+: u.escapedPath ∧ u.host ≠ [] then ascii "/" else []) ++
        -- a colon in the first segment would make a scheme of it
        (if u.beforePath = [] ∧ byte ':' ∈ (cut (byte '/') u.escapedPath).1 then ascii "./" else []) ++
        u.escapedPath) ++
    u.query ++ (if u.fragment ≠ [] then byte '#' :: u.escapedFragment else [])

/-- `RequestURI`. -/
def requestURI (u : Url) : Bytes :=
  (if u.rootless = [] then if u.escapedPath = [] then ascii "/" else u.escapedPath
    else if ascii "//" <+: u.rootless then u.scheme ++ byte ':' :: u.rootless
    else u.rootless) ++ u.query

end Url

/-! ## Unescaping inverts escaping -/

theorem unhex_upperHex : ∀ n < 16, unhex (upperHex n) = some n := by decide

theorem shouldEscape_percent (mode : Encoding) : shouldEscape mode (byte '%') = true := by
  cases mode <;> decide

theorem unescape_cons {c : UInt8} (hne : c ≠ byte '%') (rest : Bytes) :
    unescapeBytes (c :: rest) = (unescapeBytes rest).map (c :: ·) := by
  rw [unescapeBytes.eq_def]
  exact if_neg hne

theorem unescape_escapeByte (mode : Encoding) (c : UInt8) (rest : Bytes) :
    unescapeBytes (escapeByte mode c ++ rest) = (unescapeBytes rest).map (c :: ·) := by
  unfold escapeByte
  split
  · have hlt : c.toNat < 256 := c.toNat_lt
    have hvalue : UInt8.ofNat (16 * (c.toNat / 16) + c.toNat % 16) = c := by
      rw [Nat.div_add_mod]
      exact UInt8.ofNat_toNat
    simp only [List.cons_append, List.nil_append, unescapeBytes, if_true,
      unhex_upperHex (c.toNat / 16) (by omega), unhex_upperHex (c.toNat % 16) (by omega), hvalue]
  · rename_i hplain
    have hne : c ≠ byte '%' := by
      rintro rfl
      exact hplain (shouldEscape_percent mode)
    exact unescape_cons hne rest

theorem escape_cons (mode : Encoding) (c : UInt8) (s : Bytes) :
    escape mode (c :: s) = escapeByte mode c ++ escape mode s := rfl

/-- **Round trip** of a text in any part of a URL. -/
theorem unescape_escape (mode : Encoding) (s : Bytes) : unescapeBytes (escape mode s) = some s := by
  induction s with
  | nil => rfl
  | cons c s ih =>
    rw [escape_cons, unescape_escapeByte, ih]
    rfl

theorem escape_append (mode : Encoding) (s t : Bytes) :
    escape mode (s ++ t) = escape mode s ++ escape mode t :=
  List.flatMap_append

/-! ## What an escaped text has in it -/

theorem upperHex_mem : ∀ n < 16, upperHex n ∈ ascii "0123456789ABCDEF" := by decide

theorem mem_escape {mode : Encoding} {s : Bytes} {c : UInt8} (h : c ∈ escape mode s) :
    (c ∈ s ∧ shouldEscape mode c = false) ∨ c ∈ ascii "%0123456789ABCDEF" := by
  obtain ⟨d, hd, hc⟩ := List.mem_flatMap.mp h
  unfold escapeByte at hc
  split at hc
  · right
    have hlt : d.toNat < 256 := d.toNat_lt
    have hhex (n : Nat) (hn : n < 16) : upperHex n ∈ ascii "%0123456789ABCDEF" :=
      List.mem_cons_of_mem _ (upperHex_mem n hn)
    simp only [List.mem_cons, List.not_mem_nil, or_false] at hc
    rcases hc with rfl | rfl | rfl
    · decide
    · exact hhex _ (by omega)
    · exact hhex _ (by omega)
  · rename_i hplain
    rw [List.mem_singleton] at hc
    subst hc
    exact .inl ⟨hd, Bool.eq_false_iff.mpr hplain⟩

/-- A byte that is escaped, and that is not part of an escape, is not in an escaped text. -/
theorem not_mem_escape {mode : Encoding} {c : UInt8} (hmode : shouldEscape mode c = true)
    (hhex : c ∉ ascii "%0123456789ABCDEF") (s : Bytes) : c ∉ escape mode s := by
  intro h
  rcases mem_escape h with ⟨-, hplain⟩ | hmem
  · rw [hmode] at hplain
    cases hplain
  · exact hhex hmem

theorem length_le_escape (mode : Encoding) (s : Bytes) : s.length ≤ (escape mode s).length := by
  induction s with
  | nil => exact Nat.le_refl 0
  | cons c s ih =>
    have hbyte : 1 ≤ (escapeByte mode c).length := by
      unfold escapeByte
      split <;> simp
    rw [escape_cons, List.length_append, List.length_cons]
    omega

/-- The texts that stay are those without bytes to escape. -/
theorem escape_eq_self_iff {mode : Encoding} {s : Bytes} :
    escape mode s = s ↔ ∀ c ∈ s, shouldEscape mode c = false := by
  induction s with
  | nil => simp [escape]
  | cons c s ih =>
    rw [escape_cons, escapeByte, List.forall_mem_cons, ← ih]
    cases hc : shouldEscape mode c with
    | false => simp
    | true =>
      have hlength := length_le_escape mode s
      constructor
      · intro h
        have hlong := congrArg List.length h
        simp at hlong
        omega
      · intro h
        cases h.1

theorem isControl_cases {c : UInt8} (h : isControl c = true) : c.toNat < 32 ∨ c.toNat = 127 := by
  simp only [isControl, Bool.or_eq_true, decide_eq_true_eq] at h
  rcases h with h | rfl
  · exact .inl (UInt8.lt_iff_toNat_lt.mp h)
  · exact .inr rfl

theorem alphanumeric_of_isControl {c : UInt8} (h : isControl c = true) :
    isLetter c = false ∧ isDigit c = false := by
  have hc := isControl_cases h
  have hlower : (byte 'a').toNat = 97 ∧ (byte 'z').toNat = 122 := ⟨rfl, rfl⟩
  have hupper : (byte 'A').toNat = 65 ∧ (byte 'Z').toNat = 90 := ⟨rfl, rfl⟩
  have hdigit : (byte '0').toNat = 48 ∧ (byte '9').toNat = 57 := ⟨rfl, rfl⟩
  constructor
  · rw [Bool.eq_false_iff]
    intro hletter
    simp only [isLetter, Bool.or_eq_true, Bool.and_eq_true, decide_eq_true_eq,
      UInt8.le_iff_toNat_le] at hletter
    omega
  · rw [Bool.eq_false_iff]
    intro hdigits
    simp only [isDigit, Bool.and_eq_true, decide_eq_true_eq, UInt8.le_iff_toNat_le] at hdigits
    omega

theorem not_mem_of_isControl {c : UInt8} (h : isControl c = true) {s : Bytes}
    (hs : s.any isControl = false) : c ∉ s := by
  intro hc
  exact List.any_eq_false.mp hs c hc h

/-- Control characters are escaped everywhere. -/
theorem shouldEscape_control {c : UInt8} (h : isControl c = true) (mode : Encoding) :
    shouldEscape mode c = true ∧ c ∉ ascii "%0123456789ABCDEF" := by
  have hletter : ¬ ((isLetter c || isDigit c) = true) := by
    rw [(alphanumeric_of_isControl h).1, (alphanumeric_of_isControl h).2]
    exact Bool.false_ne_true
  refine ⟨?_, not_mem_of_isControl h (by decide +kernel)⟩
  unfold shouldEscape
  rw [if_neg hletter, if_neg fun hc => not_mem_of_isControl h (by decide +kernel) hc.2,
    if_neg (not_mem_of_isControl h (by decide +kernel)),
    if_neg (not_mem_of_isControl h (by decide +kernel)),
    if_neg fun hc => not_mem_of_isControl h (by decide +kernel) hc.2]

theorem any_isControl_escape (mode : Encoding) (s : Bytes) : (escape mode s).any isControl = false := by
  rw [List.any_eq_false]
  intro c hc hcontrol
  obtain ⟨hmode, hhex⟩ := shouldEscape_control hcontrol mode
  exact not_mem_escape hmode hhex s hc

/-! ## The parts of a text -/

theorem takeWhile_append {sep : UInt8} {s : Bytes} (h : sep ∉ s) (rest : Bytes) :
    (s ++ rest).takeWhile (· ≠ sep) = s ++ rest.takeWhile (· ≠ sep) :=
  List.takeWhile_append_of_pos fun _ hc => decide_eq_true (ne_of_mem_of_not_mem hc h)

theorem dropWhile_append {sep : UInt8} {s : Bytes} (h : sep ∉ s) (rest : Bytes) :
    (s ++ rest).dropWhile (· ≠ sep) = rest.dropWhile (· ≠ sep) :=
  List.dropWhile_append_of_pos fun _ hc => decide_eq_true (ne_of_mem_of_not_mem hc h)

theorem cut_append {sep : UInt8} {s : Bytes} (h : sep ∉ s) (rest : Bytes) :
    cut sep (s ++ sep :: rest) = (s, rest) := by
  rw [cut, takeWhile_append h, dropWhile_append h]
  simp

theorem cut_of_not_mem {sep : UInt8} {s : Bytes} (h : sep ∉ s) : cut sep s = (s, []) := by
  have htake := takeWhile_append h []
  have hdrop := dropWhile_append h []
  rw [List.append_nil] at htake hdrop
  rw [cut, htake, hdrop]
  simp

theorem not_mem_cut (sep : UInt8) (s : Bytes) : sep ∉ (cut sep s).1 := by
  intro h
  have hne := List.mem_takeWhile_imp h
  simp at hne

theorem mem_of_mem_cut {sep c : UInt8} {s : Bytes} (h : c ∈ (cut sep s).1 ∨ c ∈ (cut sep s).2) :
    c ∈ s := by
  rcases h with h | h
  · exact List.takeWhile_subset _ h
  · exact List.dropWhile_subset _ (List.drop_subset 1 _ h)

/-- The query of a URL is split off a text without one. -/
theorem splitQuery_query (u : Url) {s : Bytes} (h : byte '?' ∉ s) :
    splitQuery (s ++ u.query) = (s, decide (u.forceQuery ∧ u.rawQuery = []), u.rawQuery) := by
  by_cases hraw : u.rawQuery = []
  · cases hforce : u.forceQuery with
    | false =>
      have hquery : u.query = [] := by simp [Url.query, hraw, hforce]
      have hlast : ¬ (s.getLast? = some (byte '?') ∧ s.count (byte '?') = 1) :=
        fun hlast => h (List.mem_of_getLast? hlast.1)
      rw [hquery, List.append_nil, splitQuery, if_neg hlast, cut_of_not_mem h, hraw]
      rfl
    | true =>
      have hquery : u.query = [byte '?'] := by simp [Url.query, hraw, hforce]
      have hcount : s.count (byte '?') = 0 := List.count_eq_zero.mpr h
      rw [hquery, splitQuery, if_pos (by simp [hcount]), hraw]
      simp
  · have hquery : u.query = byte '?' :: u.rawQuery := if_pos (.inr hraw)
    have hlast : ¬ ((s ++ byte '?' :: u.rawQuery).getLast? = some (byte '?') ∧
        (s ++ byte '?' :: u.rawQuery).count (byte '?') = 1) := by
      -- the last byte is one of the query, so the first question mark does not end it
      rintro ⟨hlast, hcount⟩
      obtain ⟨c, hc⟩ := Option.ne_none_iff_exists'.mp (mt List.getLast?_eq_none_iff.mp hraw)
      have hmem : c ∈ u.rawQuery := List.mem_of_getLast? hc
      rw [List.getLast?_append, List.getLast?_cons, hc] at hlast
      have hlast : c = byte '?' := by simpa using hlast
      rw [List.count_append, List.count_eq_zero.mpr h, List.count_cons_self, ← hlast] at hcount
      have hpos : 0 < u.rawQuery.count c := List.count_pos_iff.mpr hmem
      omega
    rw [hquery, splitQuery, if_neg hlast, cut_append h]
    simp [hraw]

theorem getScheme_append (rawURL rest : Bytes) {s : Bytes} (hs : ∀ c ∈ s, isLetter c = true) :
    ∀ seen : Bytes, seen ++ s ≠ [] →
      getScheme rawURL seen (s ++ byte ':' :: rest) = .ok (seen ++ s, rest) := by
  induction s with
  | nil =>
    intro seen hne
    rw [List.append_nil] at hne ⊢
    have hletter : isLetter (byte ':') = false := by decide
    have hdigit : ¬ (isDigit (byte ':') = true ∨ byte ':' ∈ ascii "+-.") := by decide
    rw [List.nil_append, getScheme, hletter, if_neg Bool.false_ne_true, if_neg hdigit, if_pos rfl,
      if_neg hne]
  | cons c s ih =>
    intro seen _
    have hrest := ih (fun d hd => hs d (List.mem_cons_of_mem _ hd)) (seen ++ [c]) (by simp)
    rw [List.append_assoc] at hrest
    rw [List.cons_append, getScheme, if_pos (hs c List.mem_cons_self), hrest]
    rfl

theorem getScheme_slash (rawURL rest : Bytes) :
    getScheme rawURL [] (byte '/' :: rest) = .ok ([], rawURL) := by
  have hletter : isLetter (byte '/') = false := by decide
  have hdigit : ¬ (isDigit (byte '/') = true ∨ byte '/' ∈ ascii "+-.") := by decide
  have hcolon : byte '/' ≠ byte ':' := by decide
  rw [getScheme, hletter, if_neg Bool.false_ne_true, if_neg hdigit, if_neg hcolon]

/-! ## Reading paths and fragments back -/

theorem Url.setPath_escape (u : Url) (path : Bytes) :
    u.setPath (escape .path path) = .ok { u with path, rawPath := [] } := by
  rw [Url.setPath, unescape_escape]
  dsimp only
  rw [if_pos rfl]

theorem Url.unescape_escapedFragment (u : Url) : unescapeBytes u.escapedFragment = some u.fragment := by
  unfold Url.escapedFragment
  split
  · rename_i h
    exact h.2.2
  · exact unescape_escape .fragment u.fragment

/-- The fragment of one URL, set in another. -/
theorem Url.setFragment_escapedFragment (v u : Url) :
    v.setFragment u.escapedFragment = .ok { v with
      fragment := u.fragment
      rawFragment :=
        if u.escapedFragment = escape .fragment u.fragment then [] else u.escapedFragment } := by
  rw [Url.setFragment, u.unescape_escapedFragment]

theorem escape_head {s : Bytes} (h : s.head? = some (byte '/')) :
    ∃ rest, escape .path s = byte '/' :: rest := by
  obtain ⟨rest, rfl⟩ := List.head?_eq_some_iff.mp h
  exact ⟨escape .path rest, rfl⟩

/-- A raw path that stands for another path is not used. -/
theorem Url.escapedPath_of_ne (u : Url) (hraw : unescapeBytes u.rawPath ≠ some u.path)
    (hpath : u.path.head? = some (byte '/')) : u.escapedPath = escape .path u.path := by
  have hstar : u.path ≠ ascii "*" := by
    intro h
    rw [h] at hpath
    revert hpath
    decide
  rw [Url.escapedPath, if_neg fun h => hraw h.2.2, if_neg hstar]

theorem Url.escapedPath_rooted (u : Url) (hraw : u.rawPath = [])
    (hpath : u.path.head? = some (byte '/')) : u.escapedPath = escape .path u.path := by
  refine u.escapedPath_of_ne ?_ hpath
  intro h
  rw [hraw] at h
  rw [← Option.some.inj h] at hpath
  cases hpath

theorem Url.requestURI_rooted (u : Url) (hrootless : u.rootless = []) (hraw : u.rawPath = [])
    (hpath : u.path.head? = some (byte '/')) : u.requestURI = escape .path u.path ++ u.query := by
  obtain ⟨rest, hrest⟩ := escape_head hpath
  rw [Url.requestURI, if_pos hrootless, u.escapedPath_rooted hraw hpath, if_neg (by simp [hrest])]

theorem Url.query_eq (u : Url) {v : Url} (hforce : v.forceQuery = decide (u.forceQuery ∧ u.rawQuery = []))
    (hraw : v.rawQuery = u.rawQuery) : v.query = u.query := by
  unfold Url.query
  rw [hforce, hraw]
  by_cases h : u.rawQuery = []
  · simp [h]
  · simp [h]

/-- **Reading a request target back.** -/
theorem parseRequestURI_target
    (parseAuthority : Bytes → Bytes → Except String (Option Userinfo × Bytes)) {path : Bytes}
    (hpath : path.head? = some (byte '/')) (u : Url) (hcontrol : u.query.any isControl = false) :
    parseRequestURI parseAuthority (escape .path path ++ u.query) = .ok {
      path, forceQuery := decide (u.forceQuery ∧ u.rawQuery = []), rawQuery := u.rawQuery } := by
  obtain ⟨rest, hrest⟩ := escape_head hpath
  have hplain : (escape .path path ++ u.query).any isControl = false := by
    rw [List.any_append, any_isControl_escape, hcontrol]
    rfl
  have hstar : escape .path path ++ u.query ≠ ascii "*" := by
    intro h
    rw [hrest] at h
    have hhead : some (byte '/') = some (byte '*') := congrArg List.head? h
    revert hhead
    decide
  have hquestion : byte '?' ∉ escape .path path := not_mem_escape (by decide) (by decide) _
  have hscheme : getScheme (escape .path path ++ u.query) [] (escape .path path ++ u.query) =
      .ok ([], escape .path path ++ u.query) := by
    rw [hrest]
    exact getScheme_slash _ _
  unfold parseRequestURI parse
  rw [if_neg (Bool.eq_false_iff.mp hplain), if_neg (by simp [hrest]), if_neg hstar, hscheme]
  simp only [splitQuery_query u hquestion]
  rw [if_neg (not_not_intro ⟨rest, hrest.symm⟩), if_neg (by simp), Url.setPath_escape]
  rfl

/-! ## What an authority has in it -/

theorem mem_render {ui : Userinfo} {c : UInt8} (h : c ∈ ui.render) :
    (∃ s, c ∈ escape .userPassword s) ∨ c = byte ':' := by
  rcases List.mem_append.mp h with h | h
  · exact .inl ⟨_, h⟩
  · cases hpassword : ui.password with
    | none =>
      rw [hpassword] at h
      cases h
    | some password =>
      rw [hpassword] at h
      rcases List.mem_cons.mp h with h | h
      · exact .inr h
      · exact .inl ⟨_, h⟩

theorem mem_authority {u : Url} {c : UInt8} (h : c ∈ u.authority) :
    (∃ mode s, (mode = .userPassword ∨ mode = .host) ∧ c ∈ escape mode s) ∨
      c = byte ':' ∨ c = byte '@' := by
  rcases List.mem_append.mp h with h | h
  · cases huser : u.user with
    | none =>
      rw [huser] at h
      cases h
    | some ui =>
      rw [huser] at h
      rcases List.mem_append.mp h with h | h
      · rcases mem_render h with ⟨s, h⟩ | h
        · exact .inl ⟨_, s, .inl rfl, h⟩
        · exact .inr (.inl h)
      · exact .inr (.inr (List.mem_singleton.mp h))
  · exact .inl ⟨_, _, .inr rfl, h⟩

/-- What separates an authority from the rest of a URL is not in it. -/
theorem not_mem_authority (u : Url) {c : UInt8} (hc : c ∈ ascii "/?#") : c ∉ u.authority := by
  intro h
  have hseparator : ∀ c ∈ ascii "/?#", shouldEscape .userPassword c = true ∧
      shouldEscape .host c = true ∧ c ∉ ascii "%0123456789ABCDEF" ∧ c ≠ byte ':' ∧ c ≠ byte '@' := by
    decide +kernel
  obtain ⟨huser, hhost, hhex, hcolon, hat⟩ := hseparator c hc
  rcases mem_authority h with ⟨mode, s, rfl | rfl, h⟩ | h | h
  · exact not_mem_escape huser hhex s h
  · exact not_mem_escape hhost hhex s h
  · exact hcolon h
  · exact hat h

theorem any_isControl_authority (u : Url) : u.authority.any isControl = false := by
  rw [List.any_eq_false]
  intro c hc
  rcases mem_authority hc with ⟨mode, s, -, h⟩ | rfl | rfl
  · exact List.any_eq_false.mp (any_isControl_escape mode s) c h
  · decide
  · decide

theorem isControl_of_isLetter {c : UInt8} (h : isLetter c = true) : isControl c = false := by
  rw [Bool.eq_false_iff]
  intro hcontrol
  rw [(alphanumeric_of_isControl hcontrol).1] at h
  cases h

/-! ## Absolute URLs -/

/-- A URL with a scheme, a host and a rooted path, as `Parse` gives it. -/
structure Url.Absolute (u : Url) : Prop where
  scheme_ne : u.scheme ≠ []
  scheme : ∀ c ∈ u.scheme, isLetter c = true
  rootless : u.rootless = []
  host_ne : u.host ≠ []
  path : u.path.head? = some (byte '/')
  rawPath : u.escapedPath = escape .path u.path
  hash : byte '#' ∉ u.rawQuery
  control : u.rawQuery.any isControl = false

namespace Url.Absolute

variable {u : Url} (hu : u.Absolute)
include hu

theorem render_eq :
    u.render = u.scheme ++ byte ':' :: (ascii "//" ++ u.authority ++ escape .path u.path ++ u.query) ++
      (if u.fragment ≠ [] then byte '#' :: u.escapedFragment else []) := by
  obtain ⟨rest, hrest⟩ := escape_head hu.path
  have hslash : ascii "/" <+: u.escapedPath := by
    rw [hu.rawPath, hrest]
    exact ⟨rest, rfl⟩
  have hbefore : u.beforePath = u.scheme ++ byte ':' :: (ascii "//" ++ u.authority) := by
    simp [beforePath, hu.scheme_ne, hu.host_ne]
  have hne : u.beforePath ≠ [] := by simp [hbefore]
  unfold render
  rw [if_neg (by simp [hu.rootless]), if_neg (by simp [hslash]), if_neg (by simp [hne]), hbefore,
    hu.rawPath]
  simp

theorem query_hash : byte '#' ∉ u.query := by
  unfold query
  split
  · rw [List.mem_cons]
    rintro (h | h)
    · revert h
      decide
    · exact hu.hash h
  · exact List.not_mem_nil

theorem any_isControl_query : u.query.any isControl = false := by
  unfold query
  split
  · rw [List.any_cons, hu.control]
    decide
  · rfl

theorem any_isControl_text :
    (u.scheme ++ byte ':' :: (ascii "//" ++ u.authority ++ escape .path u.path ++ u.query)).any
      isControl = false := by
  have hscheme : u.scheme.any isControl = false := by
    rw [List.any_eq_false]
    intro c hc
    rw [isControl_of_isLetter (hu.scheme c hc)]
    exact Bool.false_ne_true
  simp only [List.any_append, List.any_cons, hscheme, any_isControl_authority, any_isControl_escape,
    hu.any_isControl_query]
  decide

/-- The text in front of the fragment. -/
theorem parse_eq (parseAuthority : Bytes → Bytes → Except String (Option Userinfo × Bytes))
    (viaRequest : Bool) :
    parse parseAuthority viaRequest
        (u.scheme ++ byte ':' :: (ascii "//" ++ u.authority ++ escape .path u.path ++ u.query)) =
      match parseAuthority (u.scheme.map toLower) u.authority with
      | .error message => .error (.authority message)
      | .ok (user, host) => .ok {
          scheme := u.scheme.map toLower, user, host, path := u.path
          forceQuery := decide (u.forceQuery ∧ u.rawQuery = []), rawQuery := u.rawQuery } := by
  obtain ⟨rest, hrest⟩ := escape_head hu.path
  have hstar : u.scheme ++ byte ':' :: (ascii "//" ++ u.authority ++ escape .path u.path ++ u.query) ≠
      ascii "*" := by
    intro h
    have hlength := congrArg List.length h
    simp [ascii] at hlength
    omega
  have hquestion : byte '?' ∉ ascii "//" ++ u.authority ++ escape .path u.path := by
    simp only [List.mem_append, not_or]
    exact ⟨⟨by decide, not_mem_authority u (by decide)⟩, not_mem_escape (by decide) (by decide) _⟩
  have hslash : byte '/' ∉ u.authority := not_mem_authority u (by decide)
  have hdrop : (ascii "//" ++ u.authority ++ escape .path u.path).drop 2 =
      u.authority ++ escape .path u.path := by
    rw [List.append_assoc]
    rfl
  unfold parse
  rw [if_neg (Bool.eq_false_iff.mp hu.any_isControl_text), if_neg (by simp), if_neg hstar,
    getScheme_append _ _ hu.scheme [] (by simpa using hu.scheme_ne)]
  simp only [List.nil_append, splitQuery_query u hquestion]
  rw [if_neg (not_not_intro ⟨byte '/' :: (u.authority ++ escape .path u.path), by rfl⟩),
    if_pos ⟨.inl hu.scheme_ne, ⟨u.authority ++ escape .path u.path, by rw [List.append_assoc]⟩⟩,
    hdrop, takeWhile_append hslash, dropWhile_append hslash, hrest]
  simp only [List.takeWhile_cons, List.dropWhile_cons, ne_eq, not_true_eq_false, decide_false,
    Bool.false_eq_true, if_false, List.append_nil]
  split
  · rfl
  · rw [← hrest, Url.setPath_escape]

/-- **Reading a rendered URL back**: the parser of authorities refuses it, or the request for it has the
escaped path and the query as its target. -/
theorem parseReference_render
    (parseAuthority : Bytes → Bytes → Except String (Option Userinfo × Bytes)) :
    (∃ message, parseAuthority (u.scheme.map toLower) u.authority = .error message ∧
        parseReference parseAuthority u.render = .error (.authority message)) ∨
      ∃ v, parseReference parseAuthority u.render = .ok v ∧
        v.requestURI = escape .path u.path ++ u.query := by
  have hscheme : byte '#' ∉ u.scheme := fun h => absurd (hu.scheme _ h) (by decide)
  have hhash : byte '#' ∉
      u.scheme ++ byte ':' :: (ascii "//" ++ u.authority ++ escape .path u.path ++ u.query) := by
    simp only [List.mem_append, List.mem_cons, not_or]
    exact ⟨hscheme, by decide, ⟨⟨by decide, not_mem_authority u (by decide)⟩,
      not_mem_escape (by decide) (by decide) _⟩, hu.query_hash⟩
  have hcut : cut (byte '#') u.render =
      (u.scheme ++ byte ':' :: (ascii "//" ++ u.authority ++ escape .path u.path ++ u.query),
        if u.fragment ≠ [] then u.escapedFragment else []) := by
    rw [hu.render_eq]
    split
    · exact cut_append hhash _
    · rw [List.append_nil]
      exact cut_of_not_mem hhash
  unfold parseReference
  rw [hcut, hu.parse_eq parseAuthority false]
  cases hauthority : parseAuthority (u.scheme.map toLower) u.authority with
  | error message => exact .inl ⟨message, rfl, rfl⟩
  | ok result =>
    obtain ⟨user, host⟩ := result
    right
    dsimp only
    generalize hv : (Url.mk (u.scheme.map toLower) [] user host u.path [] false
      (decide (u.forceQuery ∧ u.rawQuery = [])) u.rawQuery [] []) = v
    have htarget : v.requestURI = escape .path u.path ++ u.query := by
      have hpath : v.path = u.path := by rw [← hv]
      have hquery : v.query = u.query := u.query_eq (by rw [← hv]) (by rw [← hv])
      rw [v.requestURI_rooted (by rw [← hv]) (by rw [← hv]) (hpath ▸ hu.path), hpath, hquery]
    by_cases hfragment : u.fragment = []
    · refine ⟨v, ?_, htarget⟩
      simp [hfragment]
    · simp only [hfragment, ne_eq, not_false_eq_true, if_true]
      split
      · exact ⟨v, rfl, htarget⟩
      · refine ⟨_, v.setFragment_escapedFragment u, ?_⟩
        exact htarget

end Url.Absolute

/-! ## What was parsed -/

/-- What a parsed URL keeps of its text. -/
structure Url.Parsed (u : Url) : Prop where
  rootless : u.host ≠ [] → u.rootless = []
  path : u.host ≠ [] → u.path = [] ∨ u.path.head? = some (byte '/')
  rawPath : u.rawPath = [] ∨ unescapeBytes u.rawPath = some u.path
  hash : byte '#' ∉ u.rawQuery
  control : u.rawQuery.any isControl = false

theorem getScheme_subset {rawURL text scheme rest : Bytes} (hsub : text ⊆ rawURL) :
    ∀ {seen : Bytes}, getScheme rawURL seen text = .ok (scheme, rest) → rest ⊆ rawURL := by
  induction text with
  | nil =>
    intro seen h
    cases h
    exact List.Subset.refl _
  | cons c text ih =>
    intro seen h
    have htext : text ⊆ rawURL := List.Subset.trans (List.subset_cons_self c text) hsub
    unfold getScheme at h
    split at h
    · exact ih htext h
    · split at h
      · split at h
        · cases h
          exact List.Subset.refl _
        · exact ih htext h
      · split at h
        · split at h
          · cases h
          · cases h
            exact htext
        · cases h
          exact List.Subset.refl _

theorem splitQuery_subset (rest : Bytes) : (splitQuery rest).2.2 ⊆ rest := by
  intro c hc
  unfold splitQuery at hc
  split at hc
  · cases hc
  · exact mem_of_mem_cut (.inr hc)

theorem unescape_slash {p path : Bytes} (h : unescapeBytes (byte '/' :: p) = some path) :
    path.head? = some (byte '/') := by
  rw [unescape_cons (by decide), Option.map_eq_some_iff] at h
  obtain ⟨rest, -, rfl⟩ := h
  rfl

/-- What follows an authority is empty or starts at a slash. -/
theorem unescape_dropWhile {s path : Bytes}
    (h : unescapeBytes (s.dropWhile (· ≠ byte '/')) = some path) :
    path = [] ∨ path.head? = some (byte '/') := by
  cases hdrop : s.dropWhile (· ≠ byte '/') with
  | nil =>
    rw [hdrop] at h
    cases h
    exact .inl rfl
  | cons c p =>
    have hc : c = byte '/' := by
      have hhead := List.head?_dropWhile_not (· ≠ byte '/') s
      rw [hdrop] at hhead
      simpa using hhead
    rw [hdrop, hc] at h
    exact .inr (unescape_slash h)

theorem Url.setPath_ok {u v : Url} {p : Bytes} (h : u.setPath p = .ok v) :
    ∃ path rawPath, v = { u with path, rawPath } ∧ unescapeBytes p = some path ∧
      (rawPath = [] ∨ unescapeBytes rawPath = some path) := by
  unfold Url.setPath at h
  split at h
  · cases h
  · rename_i path hpath
    cases h
    refine ⟨path, _, rfl, hpath, ?_⟩
    split
    · exact .inl rfl
    · exact .inr hpath

/-- A URL without a host, once its path is set. -/
theorem Url.Parsed.of_setPath {u v : Url} {p : Bytes} (h : u.setPath p = .ok v) (hhost : u.host = [])
    (hhash : byte '#' ∉ u.rawQuery) (hcontrol : u.rawQuery.any isControl = false) : v.Parsed := by
  obtain ⟨path, rawPath, rfl, -, hraw⟩ := Url.setPath_ok h
  exact ⟨fun hne => absurd hhost hne, fun hne => absurd hhost hne, hraw, hhash, hcontrol⟩

variable {parseAuthority : Bytes → Bytes → Except String (Option Userinfo × Bytes)}

theorem parsed_of_parse {viaRequest : Bool} {rawURL : Bytes} {u : Url}
    (h : parse parseAuthority viaRequest rawURL = .ok u) (hhash : byte '#' ∉ rawURL) : u.Parsed := by
  unfold parse at h
  split at h
  · cases h
  rename_i hcontrol
  split at h
  · cases h
  split at h
  · cases h
    exact ⟨fun hne => absurd rfl hne, fun hne => absurd rfl hne, .inl rfl, List.not_mem_nil, rfl⟩
  split at h
  · cases h
  rename_i scheme rest hscheme
  have hsub : (splitQuery rest).2.2 ⊆ rawURL :=
    List.Subset.trans (splitQuery_subset rest) (getScheme_subset (List.Subset.refl _) hscheme)
  have hqueryHash : byte '#' ∉ (splitQuery rest).2.2 := fun hmem => hhash (hsub hmem)
  have hqueryControl : (splitQuery rest).2.2.any isControl = false := by
    rw [List.any_eq_false]
    intro c hc hc'
    exact hcontrol (List.any_eq_true.mpr ⟨c, hsub hc, hc'⟩)
  dsimp only at h
  split at h
  · split at h
    · cases h
      exact ⟨fun hne => absurd rfl hne, fun hne => absurd rfl hne, .inl rfl, hqueryHash, hqueryControl⟩
    · split at h
      · cases h
      · split at h
        · cases h
        · exact .of_setPath h rfl hqueryHash hqueryControl
  · split at h
    · split at h
      · cases h
      · obtain ⟨path, rawPath, rfl, hpath, hraw⟩ := Url.setPath_ok h
        exact ⟨fun _ => rfl, fun _ => unescape_dropWhile hpath, hraw, hqueryHash, hqueryControl⟩
    · exact .of_setPath h rfl hqueryHash hqueryControl

theorem parsed_of_parseReference {rawURL : Bytes} {u : Url}
    (h : parseReference parseAuthority rawURL = .ok u) : u.Parsed := by
  unfold parseReference at h
  split at h
  · cases h
  rename_i v hv
  have hparsed : v.Parsed := parsed_of_parse hv (not_mem_cut _ _)
  split at h
  · cases h
    exact hparsed
  · unfold Url.setFragment at h
    split at h
    · cases h
    · cases h
      exact ⟨hparsed.rootless, hparsed.path, hparsed.rawPath, hparsed.hash, hparsed.control⟩

end SandboxProvider.Lib.NetUrl
