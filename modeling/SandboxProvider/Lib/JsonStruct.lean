import Mathlib.Data.String.Basic
import SandboxProvider.Lib.JsonRoundTrip

/-!
# Go values as JSON

The rules by which Go's `encoding/json` writes and decodes strings, 64-bit integers, slices and structs:
tag names, `omitempty`, and the match of a key with a field, exact or else up to case. Decoding goes
into a variable that has a value already: what the text does not mention, or gives as null, keeps it.
Only the first error is kept, as in `decodeState.saveError`.
-/

namespace SandboxProvider.Lib

/-- A slice; `none` is nil. -/
abbrev Slice (α : Type) := Option (List α)

inductive DecodeError
  /-- The text has no complete value. -/
  | malformed
  /-- `UnmarshalTypeError`: what was found, and the Go type it does not fit. -/
  | mismatch (value type : String)
  deriving DecidableEq, Repr

/-! ## Decoding -/

/-- Decodes a tree into a variable with some old value. -/
abbrev Decoder (σ : Type) := JsonTree → σ → Except DecodeError σ

def JsonTree.kind : JsonTree → String
  | .null => "null"
  | .bool _ => "bool"
  | .number _ => "number"
  | .string _ => "string"
  | .array _ => "array"
  | .object _ => "object"

section Decoders

variable {σ α : Type}

def decodeString (type : String) : Decoder String
  | .null, old => .ok old
  | .string value, _ => .ok value
  | tree, _ => .error (.mismatch tree.kind type)

/-- For `int64`, and `int` where it has 64 bits. -/
def decodeInt (type : String) : Decoder Int
  | .null, old => .ok old
  | .number literal, _ =>
    match parseInt10 literal with
    | .ok n => .ok n
    | .error _ => .error (.mismatch ("number " ++ String.ofList literal) type)
  | tree, _ => .error (.mismatch tree.kind type)

/-- The items are decoded into new variables. -/
def decodeSlice (type : String) (decode : Decoder α) (zero : α) : Decoder (Slice α)
  | .null, _ => .ok none
  | .array items, _ => (items.mapM fun item => decode item zero).map some
  | tree, _ => .error (.mismatch tree.kind type)

/-- A field of a struct, under the name in its tag. -/
structure JsonField (σ : Type) where
  name : String
  decode : Decoder σ

def JsonField.of (name : String) (get : σ → α) (set : σ → α → σ) (decode : Decoder α) :
    JsonField σ where
  name := name
  decode tree s := (decode tree (get s)).map (set s)

/-- `foldRune` for what folds to an ASCII letter: besides the two cases of the letter, the long s and
the Kelvin sign. -/
def foldChar (c : Char) : Char :=
  if c.toNat = 0x17f then 'S' else if c.toNat = 0x212a then 'K' else c.toUpper

/-- The field of a key: one with this name, or else the first one with this name up to case. -/
def findField (fields : List (JsonField σ)) (key : String) : Option (JsonField σ) :=
  (fields.find? (·.name = key)).or
    (fields.find? fun field => field.name.toList.map foldChar = key.toList.map foldChar)

/-- The members are decoded in their order; one without a field is skipped. -/
def decodeMembers (fields : List (JsonField σ)) : List (String × JsonTree) → σ → Except DecodeError σ
  | [], s => .ok s
  | (key, value) :: members, s =>
    match findField fields key with
    | none => decodeMembers fields members s
    | some field =>
      match field.decode value s with
      | .error err => .error err
      | .ok s => decodeMembers fields members s

def decodeStruct (type : String) (fields : List (JsonField σ)) : Decoder σ
  | .null, old => .ok old
  | .object members, old => decodeMembers fields members old
  | tree, _ => .error (.mismatch tree.kind type)

/-- `Decode` of a `json.Decoder` on a new stream: the first value of the text. -/
def decodeText (decode : Decoder σ) (zero : σ) (text : List Char) : Except DecodeError σ :=
  match readText text with
  | none => .error .malformed
  | some tree => decode tree zero

end Decoders

/-- What a reader limited to `n` bytes passes on: the characters of the first `n` bytes. -/
def limitBytes : Nat → List Char → List Char
  | _, [] => []
  | n, ch :: rest => if ch.utf8Size ≤ n then ch :: limitBytes (n - ch.utf8Size) rest else []

theorem limitBytes_of_le {n : Nat} {text : List Char}
    (h : (String.ofList text).utf8ByteSize ≤ n) : limitBytes n text = text := by
  rw [String.utf8ByteSize_ofList] at h
  induction text generalizing n with
  | nil => rfl
  | cons c text ih =>
    simp only [String.utf8Len_cons] at h
    rw [limitBytes, if_pos (by omega), ih (by omega)]

/-! ## Encoding -/

def encodeInt (n : Int) : JsonTree := .number (toString n).toList

def encodeSlice {α : Type} (encode : α → JsonTree) : Slice α → JsonTree
  | none => .null
  | some items => .array (items.map encode)

/-- A field of a struct; `empty` says that it has the option `omitempty` and an empty value. -/
def member (empty : Bool) (name : String) (tree : JsonTree) : List (String × JsonTree) :=
  if empty then [] else [(name, tree)]

theorem forall_member {P : String × JsonTree → Prop} {name : String} {tree : JsonTree}
    (h : P (name, tree)) (empty : Bool) : ∀ e ∈ member empty name tree, P e := by
  intro e he
  cases empty with
  | false =>
    rw [List.mem_singleton.mp he]
    exact h
  | true => exact absurd he List.not_mem_nil

theorem writable_encodeInt (room : Nat) (n : Int) : (encodeInt n).Writable room :=
  .number (isNumber_toString n)

theorem writable_encodeSlice {α : Type} {encode : α → JsonTree} {room : Nat}
    (h : ∀ item, (encode item).Writable room) (items : Slice α) :
    (encodeSlice encode items).Writable (room + 1) := by
  cases items with
  | none => exact .null
  | some items =>
    refine .array fun tree htree => ?_
    obtain ⟨item, -, rfl⟩ := List.mem_map.mp htree
    exact h item

/-! ## Round trips -/

theorem decodeInt_encodeInt (type : String) {n : Int} (hlow : -2 ^ 63 ≤ n) (hhigh : n < 2 ^ 63)
    (old : Int) : decodeInt type (encodeInt n) old = .ok n := by
  simp only [encodeInt, decodeInt, parseInt10_toString hlow hhigh]

theorem decodeSlice_encodeSlice {α : Type} (type : String) (encode : α → JsonTree)
    (decode : Decoder α) (zero : α) (h : ∀ item, decode (encode item) zero = .ok item)
    (items old : Slice α) : decodeSlice type decode zero (encodeSlice encode items) old = .ok items := by
  cases items with
  | none => rfl
  | some items =>
    have hitems : (items.map encode).mapM (fun item => decode item zero) = .ok items := by
      induction items with
      | nil => rfl
      | cons item items ih =>
        simp only [List.map_cons, List.mapM_cons, h item, ih]
        rfl
    simp only [encodeSlice, decodeSlice, hitems]
    rfl

section Members

variable {σ α : Type} {fields : List (JsonField σ)} {name : String} {tree : JsonTree}
  {rest : List (String × JsonTree)} {get : σ → α} {set : σ → α → σ} {decode : Decoder α} {s : σ}
  {value : α}

/-- Decoding goes on behind a member of a known field. -/
theorem decodeMembers_member (hfield : findField fields name = some (.of name get set decode))
    (hdecode : decode tree (get s) = .ok value) :
    decodeMembers fields (member false name tree ++ rest) s =
      decodeMembers fields rest (set s value) := by
  simp only [member, Bool.false_eq_true, if_false, List.cons_append, List.nil_append,
    decodeMembers, hfield, JsonField.of, hdecode, Except.map]

/-- An omitted member leaves the variable alone, which has to be what its value would do. -/
theorem decodeMembers_omitempty {empty : Bool}
    (hfield : findField fields name = some (.of name get set decode))
    (hdecode : decode tree (get s) = .ok value) (hempty : empty = true → set s value = s) :
    decodeMembers fields (member empty name tree ++ rest) s =
      decodeMembers fields rest (set s value) := by
  cases empty with
  | false => exact decodeMembers_member hfield hdecode
  | true =>
    rw [hempty rfl]
    rfl

end Members

/-- What was written is decoded as its tree. -/
theorem decodeText_write {σ : Type} (decode : Decoder σ) (zero : σ) {tree : JsonTree}
    (h : tree.Writable maxNestingDepth) {rest : List Char} (hrest : EndsNumber rest) :
    decodeText decode zero (tree.write ++ rest) = decode tree zero := by
  simp only [decodeText, JsonTree.readText_write h hrest]

end SandboxProvider.Lib
