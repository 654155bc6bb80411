import SandboxProvider.Lib.JsonNumber
import SandboxProvider.Lib.JsonRoundTrip

/-!
# JSON documents in Go

`encoding/json` on an `any`: `Unmarshal` makes maps of objects, the last of several equal keys counting,
and floats of numbers; `MarshalIndent` writes maps by increasing key. A document is read back with its
numbers rounded to floats (`JsonCodec.unmarshal_marshalIndent`). How a number is written is left open:
Go takes the shortest literal that is read back as the same float.
-/

namespace SandboxProvider.Lib

/-! ## Decoding -/

/-- `convertNumber`. -/
def decodeFloat (literal : List Char) : Except String ℚ :=
  match float64 (literalValue literal) with
  | some value => .ok value
  | none => .error ("json: cannot unmarshal number " ++ String.ofList literal ++
      " into Go value of type float64")

mutual

/-- `valueInterface`. -/
def decodeAny : JsonTree → Except String Json
  | .null => .ok .null
  | .bool value => .ok (.bool value)
  | .number literal => (decodeFloat literal).map .number
  | .string value => .ok (.string value)
  | .array items => (decodeArray items).map .array
  | .object members => (decodeObject members []).map .object

/-- `arrayInterface`. -/
def decodeArray : List JsonTree → Except String (List Json)
  | [] => .ok []
  | item :: items =>
    match decodeAny item with
    | .error err => .error err
    | .ok value => (decodeArray items).map (value :: ·)

/-- `objectInterface`: the members are assigned to a map in their order. -/
def decodeObject : List (String × JsonTree) → List (String × Json) →
    Except String (List (String × Json))
  | [], m => .ok m
  | (key, tree) :: members, m =>
    match decodeAny tree with
    | .error err => .error err
    | .ok value => decodeObject members (Json.set key value m)

end

/-! ## Encoding -/

section Encode

variable (format : ℚ → List Char)

mutual

def encodeAny : Json → JsonTree
  | .null => .null
  | .bool value => .bool value
  | .number value => .number (format value)
  | .string value => .string value
  | .array items => .array (encodeArray items)
  | .object members => .object (encodeObject members)

def encodeArray : List Json → List JsonTree
  | [] => []
  | item :: items => encodeAny item :: encodeArray items

def encodeObject : List (String × Json) → List (String × JsonTree)
  | [] => []
  | (key, value) :: members => (key, encodeAny value) :: encodeObject members

end

end Encode

/-- The writer of numbers, and the message for a text that the scanner refuses. -/
structure JsonCodec where
  format : ℚ → List Char
  syntaxError : String → String
  isNumber_format : ∀ {q}, IsGoNumber q → IsNumber (format q)
  float64_format : ∀ {q}, IsGoNumber q → float64 (literalValue (format q)) = float64 q

namespace JsonCodec

variable (codec : JsonCodec)

/-- `json.Unmarshal` into an `any`. -/
def unmarshal (text : String) : Except String Json :=
  match readWhole text.toList with
  | none => .error (codec.syntaxError text)
  | some tree => decodeAny tree

/-- `json.MarshalIndent` without a prefix and with four blanks: `appendIndent` scans the text that
`Marshal` has written. -/
def marshalIndent (document : Json) : Except String String :=
  let tree := encodeAny codec.format document
  match readWhole tree.write with
  | none => .error (codec.syntaxError (String.ofList tree.write))
  | some _ => .ok (String.ofList (tree.writeWith (.indented 4) 0))

/-- Numbers written in full. -/
def exact : JsonCodec where
  format := exactLiteral
  syntaxError _ := "invalid JSON"
  isNumber_format _ := isNumber_exactLiteral _
  float64_format h := by rw [h.literalValue_exactLiteral]

end JsonCodec

/-! ## The shape of documents -/

namespace Json

/-- Maps are sorted, numbers are as told, and at most `room` arrays and maps are inside each other. -/
inductive Shape (P : ℚ → Prop) : Nat → Json → Prop
  | null {room} : Shape P room .null
  | bool {room value} : Shape P room (.bool value)
  | number {room value} (h : P value) : Shape P room (.number value)
  | string {room value} : Shape P room (.string value)
  | array {room items} (h : ∀ item ∈ items, Shape P room item) : Shape P (room + 1) (.array items)
  | object {room members} (hsorted : Sorted members) (h : ∀ member ∈ members, Shape P room member.2) :
      Shape P (room + 1) (.object members)

namespace Shape

variable {P Q : ℚ → Prop} {room : Nat} {document : Json}

theorem mono (hPQ : ∀ {q}, P q → Q q) (h : Shape P room document) : Shape Q room document := by
  induction h with
  | null => exact .null
  | bool => exact .bool
  | number h => exact .number (hPQ h)
  | string => exact .string
  | array _ ih => exact .array ih
  | object hsorted _ ih => exact .object hsorted ih

theorem of_lookup {members : List (String × Json)} {key : String} {value : Json}
    (h : Shape P (room + 1) (.object members)) (hkey : members.lookup key = some value) :
    Shape P room value := by
  cases h with
  | object _ hvalues =>
    obtain ⟨front, back, rfl, -⟩ := List.lookup_eq_some_iff.mp hkey
    exact hvalues (key, value) (List.mem_append_right _ List.mem_cons_self)

theorem set {members : List (String × Json)} {value : Json}
    (h : Shape P (room + 1) (.object members)) (key : String) (hvalue : Shape P room value) :
    Shape P (room + 1) (.object (Json.set key value members)) := by
  cases h with
  | object hsorted hvalues =>
    refine .object (hsorted.set key value) fun member hmember => ?_
    rcases mem_set hmember with rfl | hmember
    · exact hvalue
    · exact hvalues member hmember

end Shape

end Json

/-! ## Decoded documents -/

section Decoded

variable {room : Nat}

theorem decodeFloat_eq_ok {literal : List Char} {value : ℚ} (h : decodeFloat literal = .ok value) :
    float64 (literalValue literal) = some value := by
  unfold decodeFloat at h
  split at h
  · rename_i hfloat
    cases h
    exact hfloat
  · cases h

theorem decodeFloat_of_isFloat64 {literal : List Char} {q : ℚ} (hvalue : literalValue literal = q)
    (hq : Json.IsFloat64 q) : decodeFloat literal = .ok q := by
  simp only [decodeFloat, hvalue, float64_of_isFloat64 hq]

theorem decodeFloat_of_le {literal : List Char} (h : 2 ^ (1024 : ℤ) ≤ |literalValue literal|) :
    decodeFloat literal = .error ("json: cannot unmarshal number " ++ String.ofList literal ++
      " into Go value of type float64") := by
  unfold decodeFloat
  rw [float64_eq_none h]

theorem map_eq_ok {ε α β : Type} {f : α → β} {x : Except ε α} {b : β} (h : x.map f = .ok b) :
    ∃ a, x = .ok a ∧ b = f a := by
  cases x with
  | error err => cases h
  | ok a =>
    cases h
    exact ⟨a, rfl, rfl⟩

/-- The tree is decoded to a document of floats, with the same room. -/
def DecodesShaped (room : Nat) (tree : JsonTree) : Prop :=
  ∀ {document}, decodeAny tree = .ok document → Json.Shape Json.IsFloat64 room document

theorem decodeArray_shape {items : List JsonTree} (hitems : ∀ item ∈ items, DecodesShaped room item)
    {values : List Json} (h : decodeArray items = .ok values) :
    ∀ value ∈ values, Json.Shape Json.IsFloat64 room value := by
  induction items generalizing values with
  | nil =>
    cases h
    exact List.forall_mem_nil _
  | cons item items ih =>
    rw [decodeArray] at h
    split at h
    · cases h
    rename_i value hvalue
    obtain ⟨rest, hrest, rfl⟩ := map_eq_ok h
    intro v hv
    rcases List.mem_cons.mp hv with rfl | hv
    · exact hitems item List.mem_cons_self hvalue
    · exact ih (fun x hx => hitems x (List.mem_cons_of_mem _ hx)) hrest v hv

theorem decodeObject_shape {members : List (String × JsonTree)}
    (hmembers : ∀ member ∈ members, DecodesShaped room member.2) {m m' : List (String × Json)}
    (hm : Json.Shape Json.IsFloat64 (room + 1) (.object m)) (h : decodeObject members m = .ok m') :
    Json.Shape Json.IsFloat64 (room + 1) (.object m') := by
  induction members generalizing m with
  | nil =>
    cases h
    exact hm
  | cons member members ih =>
    obtain ⟨key, tree⟩ := member
    rw [decodeObject] at h
    split at h
    · cases h
    rename_i value hvalue
    have hshape := hmembers (key, tree) List.mem_cons_self hvalue
    exact ih (fun x hx => hmembers x (List.mem_cons_of_mem _ hx)) (hm.set key hshape) h

theorem JsonTree.Writable.decodesShaped {tree : JsonTree} (h : tree.Writable room) :
    DecodesShaped room tree := by
  induction h with
  | null =>
    intro document h
    cases h
    exact .null
  | bool =>
    intro document h
    cases h
    exact .bool
  | number =>
    intro document h
    obtain ⟨value, hvalue, rfl⟩ := map_eq_ok h
    exact .number (isFloat64_of_float64 (decodeFloat_eq_ok hvalue))
  | string =>
    intro document h
    cases h
    exact .string
  | array _ ih =>
    intro document h
    obtain ⟨values, hvalues, rfl⟩ := map_eq_ok h
    exact .array (decodeArray_shape ih hvalues)
  | object _ ih =>
    intro document h
    obtain ⟨m, hm, rfl⟩ := map_eq_ok h
    exact decodeObject_shape ih (.object .nil (List.forall_mem_nil _)) hm

end Decoded

namespace Json

/-! ## Documents with their numbers rounded -/

/-- The float that a number is read back as. -/
def roundNumber (q : ℚ) : ℚ := (float64 q).getD 0

mutual

def round : Json → Json
  | .null => .null
  | .bool value => .bool value
  | .number value => .number (roundNumber value)
  | .string value => .string value
  | .array items => .array (roundItems items)
  | .object members => .object (roundMembers members)

def roundItems : List Json → List Json
  | [] => []
  | item :: items => round item :: roundItems items

def roundMembers : List (String × Json) → List (String × Json)
  | [] => []
  | (key, value) :: members => (key, round value) :: roundMembers members

end

theorem roundNumber_of_isFloat64 {q : ℚ} (h : IsFloat64 q) : roundNumber q = q := by
  rw [roundNumber, float64_of_isFloat64 h]
  rfl

theorem roundNumber_eq_self_iff {q : ℚ} (hq : q ≠ 0) : roundNumber q = q ↔ IsFloat64 q := by
  refine ⟨fun h => ?_, roundNumber_of_isFloat64⟩
  cases hfloat : float64 q with
  | none =>
    rw [roundNumber, hfloat] at h
    exact absurd h.symm hq
  | some r =>
    rw [roundNumber, hfloat, Option.getD_some] at h
    subst h
    exact isFloat64_of_float64 hfloat

theorem roundNumber_nonneg {q : ℚ} (hq : 0 ≤ q) : 0 ≤ roundNumber q := by
  unfold roundNumber
  cases hfloat : float64 q with
  | none => exact le_rfl
  | some r => exact float64_nonneg hq hfloat

theorem roundItems_eq_self {items : List Json} (h : ∀ item ∈ items, item.round = item) :
    roundItems items = items := by
  induction items with
  | nil => rfl
  | cons item items ih =>
    rw [roundItems, h item List.mem_cons_self, ih fun x hx => h x (List.mem_cons_of_mem _ hx)]

theorem roundMembers_eq_self {members : List (String × Json)}
    (h : ∀ member ∈ members, member.2.round = member.2) : roundMembers members = members := by
  induction members with
  | nil => rfl
  | cons member members ih =>
    obtain ⟨key, value⟩ := member
    have hvalue : value.round = value := h (key, value) List.mem_cons_self
    rw [roundMembers, hvalue, ih fun x hx => h x (List.mem_cons_of_mem _ hx)]

/-- Floats stay what they are. -/
theorem Shape.round_eq_self {room : Nat} {document : Json} (h : Shape IsFloat64 room document) :
    document.round = document := by
  induction h with
  | null => rfl
  | bool => rfl
  | number h => rw [Json.round, roundNumber_of_isFloat64 h]
  | string => rfl
  | array _ ih => rw [Json.round, roundItems_eq_self ih]
  | object _ _ ih => rw [Json.round, roundMembers_eq_self ih]

theorem roundMembers_set (key : String) (value : Json) (members : List (String × Json)) :
    roundMembers (set key value members) = set key value.round (roundMembers members) := by
  induction members with
  | nil => rfl
  | cons member members ih =>
    obtain ⟨key', value'⟩ := member
    simp only [set, roundMembers]
    split
    · rfl
    · split
      · rfl
      · rw [roundMembers, ih]

theorem Sorted.of_keys {m m' : List (String × Json)} (h : Sorted m)
    (hkeys : m'.map (·.1) = m.map (·.1)) : Sorted m' := by
  unfold Sorted at h ⊢
  rw [← List.pairwise_map (f := Prod.fst) (R := (· < ·))] at h ⊢
  rw [hkeys]
  exact h

/-- A key after all others is assigned at the end. -/
theorem set_append {key : String} {value : Json} {members : List (String × Json)}
    (h : ∀ member ∈ members, member.1 < key) : set key value members = members ++ [(key, value)] := by
  induction members with
  | nil => rfl
  | cons member members ih =>
    obtain ⟨key', value'⟩ := member
    have hlt : key' < key := h (key', value') List.mem_cons_self
    rw [set, if_neg hlt.ne', if_neg (lt_asymm hlt), ih fun x hx => h x (List.mem_cons_of_mem _ hx)]
    rfl

end Json

/-! ## Round trip -/

section RoundTrip

variable {room : Nat}

theorem mem_encodeArray {format : ℚ → List Char} {items : List Json} {tree : JsonTree}
    (h : tree ∈ encodeArray format items) : ∃ item ∈ items, tree = encodeAny format item := by
  induction items with
  | nil => cases h
  | cons item items ih =>
    rcases List.mem_cons.mp h with rfl | h
    · exact ⟨item, List.mem_cons_self, rfl⟩
    · obtain ⟨x, hx, rfl⟩ := ih h
      exact ⟨x, List.mem_cons_of_mem _ hx, rfl⟩

theorem mem_encodeObject {format : ℚ → List Char} {members : List (String × Json)}
    {member : String × JsonTree} (h : member ∈ encodeObject format members) :
    ∃ x ∈ members, member = (x.1, encodeAny format x.2) := by
  induction members with
  | nil => cases h
  | cons x members ih =>
    rcases List.mem_cons.mp h with rfl | h
    · exact ⟨x, List.mem_cons_self, rfl⟩
    · obtain ⟨y, hy, rfl⟩ := ih h
      exact ⟨y, List.mem_cons_of_mem _ hy, rfl⟩

variable {codec : JsonCodec}

theorem Json.Shape.writable {document : Json} (h : Json.Shape IsGoNumber room document) :
    (encodeAny codec.format document).Writable room := by
  induction h with
  | null => exact .null
  | bool => exact .bool
  | number h => exact .number (codec.isNumber_format h)
  | string => exact .string
  | array _ ih =>
    refine .array fun tree htree => ?_
    obtain ⟨item, hitem, rfl⟩ := mem_encodeArray htree
    exact ih item hitem
  | object _ _ ih =>
    refine .object fun member hmember => ?_
    obtain ⟨x, hx, rfl⟩ := mem_encodeObject hmember
    exact ih x hx

theorem decodeFloat_format {q : ℚ} (h : IsGoNumber q) :
    decodeFloat (codec.format q) = .ok (Json.roundNumber q) := by
  obtain ⟨r, hr⟩ := h.exists_float64
  simp only [decodeFloat, codec.float64_format h, hr, Json.roundNumber, Option.getD_some]

theorem decodeArray_encodeArray {items : List Json}
    (h : ∀ item ∈ items, decodeAny (encodeAny codec.format item) = .ok item.round) :
    decodeArray (encodeArray codec.format items) = .ok (Json.roundItems items) := by
  induction items with
  | nil => rfl
  | cons item items ih =>
    rw [encodeArray, decodeArray, h item List.mem_cons_self]
    dsimp only
    rw [ih fun x hx => h x (List.mem_cons_of_mem _ hx)]
    rfl

/-- The members of a sorted map are assigned one after the other. -/
theorem decodeObject_encodeObject {members m : List (String × Json)}
    (hsorted : Json.Sorted (m ++ members))
    (h : ∀ member ∈ members, decodeAny (encodeAny codec.format member.2) = .ok member.2.round) :
    decodeObject (encodeObject codec.format members) m = .ok (m ++ Json.roundMembers members) := by
  induction members generalizing m with
  | nil =>
    rw [Json.roundMembers, List.append_nil]
    rfl
  | cons member members ih =>
    obtain ⟨key, value⟩ := member
    have hvalue : decodeAny (encodeAny codec.format value) = .ok value.round :=
      h (key, value) List.mem_cons_self
    have hlt : ∀ e ∈ m, e.1 < key := fun e he =>
      (List.pairwise_append.mp hsorted).2.2 e he (key, value) List.mem_cons_self
    rw [encodeObject, decodeObject, hvalue]
    dsimp only
    rw [Json.set_append hlt, ih ?_ fun x hx => h x (List.mem_cons_of_mem _ hx)]
    · rw [List.append_assoc]
      rfl
    · -- only the keys matter
      refine Json.Sorted.of_keys hsorted ?_
      simp

theorem Json.Shape.decodeAny_encodeAny {document : Json} (h : Json.Shape IsGoNumber room document) :
    decodeAny (encodeAny codec.format document) = .ok document.round := by
  induction h with
  | null => rfl
  | bool => rfl
  | number h =>
    rw [encodeAny, decodeAny, decodeFloat_format h]
    rfl
  | string => rfl
  | array _ ih =>
    rw [encodeAny, decodeAny, decodeArray_encodeArray ih]
    rfl
  | @object _ members hsorted _ ih =>
    rw [encodeAny, decodeAny, decodeObject_encodeObject (m := []) hsorted ih]
    rfl

end RoundTrip

namespace JsonCodec

variable {codec : JsonCodec}

theorem unmarshal_shape {text : String} {document : Json} (h : codec.unmarshal text = .ok document) :
    Json.Shape Json.IsFloat64 maxNestingDepth document := by
  unfold unmarshal at h
  split at h
  · cases h
  · rename_i tree htree
    exact (JsonTree.writable_of_readWhole htree).decodesShaped h

/-- **Round trip**: a document is written, and read back with its numbers as floats. -/
theorem unmarshal_marshalIndent (codec : JsonCodec) {document : Json}
    (h : Json.Shape IsGoNumber maxNestingDepth document) :
    ∃ text, codec.marshalIndent document = .ok text ∧ text ≠ "" ∧
      codec.unmarshal text = .ok document.round := by
  have hwritable : (encodeAny codec.format document).Writable maxNestingDepth := h.writable
  have hscan : readWhole (encodeAny codec.format document).write =
      some (encodeAny codec.format document) := by
    rw [← JsonTree.writeWith_compact 0]
    exact JsonTree.readWhole_writeWith hwritable .compact 0
  have hread := JsonTree.readWhole_writeWith hwritable (.indented 4) 0
  obtain ⟨c, rest, hwrite, -, -⟩ := hwritable.head (.indented 4) 0
  refine ⟨String.ofList ((encodeAny codec.format document).writeWith (.indented 4) 0), ?_, ?_, ?_⟩
  · simp only [marshalIndent, hscan]
  · rw [hwrite]
    intro hempty
    have hlist := congrArg String.toList hempty
    rw [String.toList_ofList] at hlist
    cases hlist
  · simp only [unmarshal, String.toList_ofList, hread]
    exact h.decodeAny_encodeAny

end JsonCodec

end SandboxProvider.Lib
