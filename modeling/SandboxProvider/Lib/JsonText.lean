import SandboxProvider.Lib.Decimal

/-!
# JSON texts

`JsonTree.write` is what Go's `encoding/json` writes for a tree (`appendString` with its HTML escapes),
`JsonTree.writeWith` what is written with line breaks and indentation, as by `MarshalIndent`, and
`readValue` is what its scanner and `unquote` make of a text: the first value of the text and what is
left behind it. Here strings and numbers are read back; trees are in `Lib.JsonRoundTrip`.

A text is a list of characters. Numbers stay literals in a tree: what a literal means is up to the Go
type that it is decoded to.
-/

namespace SandboxProvider.Lib

inductive JsonTree
  | null
  | bool (value : Bool)
  | number (literal : List Char)
  | string (value : String)
  | array (items : List JsonTree)
  | object (members : List (String × JsonTree))

/-! ## Writing -/

/-- A character inside a string literal. -/
def escapeChar (c : Char) : List Char :=
  if c = '"' ∨ c = '\\' then ['\\', c]
  else if c = '\x08' then ['\\', 'b']
  else if c = '\x0c' then ['\\', 'f']
  else if c = '\n' then ['\\', 'n']
  else if c = '\r' then ['\\', 'r']
  else if c = '\t' then ['\\', 't']
  else if c.toNat < 0x20 ∨ c = '<' ∨ c = '>' ∨ c = '&' then
    ['\\', 'u', '0', '0', (c.toNat / 16).digitChar, (c.toNat % 16).digitChar]
  else if c.toNat = 0x2028 ∨ c.toNat = 0x2029 then
    ['\\', 'u', '2', '0', '2', (c.toNat % 16).digitChar]
  else [c]

def quote (s : String) : List Char := '"' :: (s.toList.flatMap escapeChar ++ ['"'])

namespace JsonTree

mutual

def write : JsonTree → List Char
  | .null => ['n', 'u', 'l', 'l']
  | .bool true => ['t', 'r', 'u', 'e']
  | .bool false => ['f', 'a', 'l', 's', 'e']
  | .number literal => literal
  | .string value => quote value
  | .array [] => ['[', ']']
  | .array (item :: items) => '[' :: (write item ++ writeItems items)
  | .object [] => ['\x7b', '\x7d']
  | .object ((key, value) :: members) =>
    '\x7b' :: (quote key ++ ':' :: (write value ++ writeMembers members))

/-- The rest of an array after an item. -/
def writeItems : List JsonTree → List Char
  | [] => [']']
  | item :: items => ',' :: (write item ++ writeItems items)

/-- The rest of an object after a member. -/
def writeMembers : List (String × JsonTree) → List Char
  | [] => ['\x7d']
  | (key, value) :: members =>
    ',' :: (quote key ++ ':' :: (write value ++ writeMembers members))

end

end JsonTree

/-! ## Reading strings -/

def hexVal (c : Char) : Option Nat :=
  if '0' ≤ c ∧ c ≤ '9' then some (c.toNat - '0'.toNat)
  else if 'a' ≤ c ∧ c ≤ 'f' then some (c.toNat - 'a'.toNat + 10)
  else if 'A' ≤ c ∧ c ≤ 'F' then some (c.toNat - 'A'.toNat + 10)
  else none

/-- The character of an escape other than `\u`. -/
def unescape : Char → Option Char
  | '"' => some '"'
  | '\\' => some '\\'
  | '/' => some '/'
  | 'b' => some '\x08'
  | 'f' => some '\x0c'
  | 'n' => some '\n'
  | 'r' => some '\r'
  | 't' => some '\t'
  | _ => none

/-- `unicode.ReplacementChar`. -/
def replacementChar : Char := Char.ofNat 0xfffd

/-- What stands for half a surrogate pair without its other half. -/
def loneSurrogate (high : Option Nat) : List Char := (high.map fun _ => replacementChar).toList

/-- The value of an `\u` escape, after an escape with the first half of a surrogate pair or not. -/
def decodeUnit (high : Option Nat) (unit : Nat) : List Char × Option Nat :=
  if 0xdc00 ≤ unit ∧ unit < 0xe000 then
    match high with
    | some first => ([Char.ofNat ((first - 0xd800) * 0x400 + (unit - 0xdc00) + 0x10000)], none)
    | none => ([replacementChar], none)
  else if 0xd800 ≤ unit ∧ unit < 0xdc00 then (loneSurrogate high, some unit)
  else (loneSurrogate high ++ [Char.ofNat unit], none)

/-- Where the scanner is in a string literal. The first half of a surrogate pair waits for the second
one. -/
inductive LiteralState
  | inString (high : Option Nat)
  | escape (high : Option Nat)
  /-- In an `\u` escape with so many digits to come after the next one. -/
  | hex (high : Option Nat) (more value : Nat)

/-- A string literal after its opening quote: the string and the text behind the literal. -/
def readChars : LiteralState → List Char → Option (List Char × List Char)
  | _, [] => none
  | .inString high, c :: rest =>
    if c = '"' then some (loneSurrogate high, rest)
    else if c = '\\' then readChars (.escape high) rest
    else if c.toNat < 0x20 then none
    else (readChars (.inString none) rest).map fun p => (loneSurrogate high ++ c :: p.1, p.2)
  | .escape high, c :: rest =>
    if c = 'u' then readChars (.hex high 3 0) rest
    else
      match unescape c with
      | none => none
      | some d =>
        (readChars (.inString none) rest).map fun p => (loneSurrogate high ++ d :: p.1, p.2)
  | .hex high more value, c :: rest =>
    match hexVal c, more with
    | none, _ => none
    | some digit, 0 =>
      let unit := decodeUnit high (16 * value + digit)
      (readChars (.inString unit.2) rest).map fun p => (unit.1 ++ p.1, p.2)
    | some digit, more + 1 => readChars (.hex high more (16 * value + digit)) rest

/-! ## Reading numbers -/

/-- Where the scanner is in a number. -/
inductive NumberState
  | start | neg | zero | int | dot | frac | exp | expSign | expInt
  deriving DecidableEq

/-- The next state, if the character belongs to the number. -/
def NumberState.next (state : NumberState) (c : Char) : Option NumberState :=
  match state with
  | .start =>
    if c = '-' then some .neg
    else if c = '0' then some .zero
    else if c.isDigit then some .int
    else none
  | .neg => if c = '0' then some .zero else if c.isDigit then some .int else none
  | .int =>
    if c.isDigit then some .int
    else if c = '.' then some .dot
    else if c = 'e' ∨ c = 'E' then some .exp
    else none
  | .zero => if c = '.' then some .dot else if c = 'e' ∨ c = 'E' then some .exp else none
  | .dot => if c.isDigit then some .frac else none
  | .frac =>
    if c.isDigit then some .frac
    else if c = 'e' ∨ c = 'E' then some .exp
    else none
  | .exp =>
    if c = '+' ∨ c = '-' then some .expSign else if c.isDigit then some .expInt else none
  | .expSign | .expInt => if c.isDigit then some .expInt else none

/-- The number may end here. -/
def NumberState.isEnd : NumberState → Bool
  | .zero | .int | .frac | .expInt => true
  | _ => false

/-- The longest number at the start of a text and the text behind it. -/
def readNumber : NumberState → List Char → Option (List Char × List Char)
  | state, [] => if state.isEnd then some ([], []) else none
  | state, c :: rest =>
    match state.next c with
    | some state => (readNumber state rest).map fun p => (c :: p.1, p.2)
    | none => if state.isEnd then some ([], c :: rest) else none

/-! ## Reading values -/

def isJsonSpace (c : Char) : Bool := c = ' ' ∨ c = '\t' ∨ c = '\r' ∨ c = '\n'

def skipSpace (text : List Char) : List Char := text.dropWhile isJsonSpace

/-- A keyword after its first character. -/
def readWord (word : List Char) (tree : JsonTree) (text : List Char) :
    Option (JsonTree × List Char) :=
  if text.take word.length = word then some (tree, text.drop word.length) else none

/-- A key with its colon. -/
def readKey (text : List Char) : Option (String × List Char) :=
  match skipSpace text with
  | '"' :: rest =>
    match readChars (.inString none) rest with
    | none => none
    | some (key, rest) =>
      match skipSpace rest with
      | ':' :: rest => some (String.ofList key, rest)
      | _ => none
  | _ => none

mutual

/-- The first value of a text. At most `room` arrays and objects are open inside each other; every
call, value or rest of a list, takes a character, so `fuel` is enough when the text is no longer. -/
def readValue : Nat → Nat → List Char → Option (JsonTree × List Char)
  | 0, _, _ => none
  | fuel + 1, room, text =>
    match skipSpace text with
    | [] => none
    | c :: rest =>
      if c = '"' then
        (readChars (.inString none) rest).map fun p => (.string (String.ofList p.1), p.2)
      else if c = '[' then
        match room with
        | 0 => none
        | room + 1 =>
          match skipSpace rest with
          | ']' :: rest => some (.array [], rest)
          | rest =>
            (readValue fuel room rest).bind fun p =>
              (readItems fuel room p.2).map fun q => (.array (p.1 :: q.1), q.2)
      else if c = '\x7b' then
        match room with
        | 0 => none
        | room + 1 =>
          match skipSpace rest with
          | '\x7d' :: rest => some (.object [], rest)
          | rest =>
            (readKey rest).bind fun k =>
              (readValue fuel room k.2).bind fun p =>
                (readMembers fuel room p.2).map fun q => (.object ((k.1, p.1) :: q.1), q.2)
      else if c = 'n' then readWord ['u', 'l', 'l'] .null rest
      else if c = 't' then readWord ['r', 'u', 'e'] (.bool true) rest
      else if c = 'f' then readWord ['a', 'l', 's', 'e'] (.bool false) rest
      else (readNumber .start (c :: rest)).map fun p => (.number p.1, p.2)

/-- The rest of an array after an item. -/
def readItems : Nat → Nat → List Char → Option (List JsonTree × List Char)
  | 0, _, _ => none
  | fuel + 1, room, text =>
    match skipSpace text with
    | ']' :: rest => some ([], rest)
    | ',' :: rest =>
      (readValue fuel room rest).bind fun p =>
        (readItems fuel room p.2).map fun q => (p.1 :: q.1, q.2)
    | _ => none

/-- The rest of an object after a member. -/
def readMembers : Nat → Nat → List Char → Option (List (String × JsonTree) × List Char)
  | 0, _, _ => none
  | fuel + 1, room, text =>
    match skipSpace text with
    | '\x7d' :: rest => some ([], rest)
    | ',' :: rest =>
      (readKey rest).bind fun k =>
        (readValue fuel room k.2).bind fun p =>
          (readMembers fuel room p.2).map fun q => ((k.1, p.1) :: q.1, q.2)
    | _ => none

end

/-- `maxNestingDepth`. -/
def maxNestingDepth : Nat := 10000

/-- The first value of a text. -/
def readText (text : List Char) : Option JsonTree :=
  (readValue text.length maxNestingDepth text).map (·.1)

/-- The value of a text that has one value and blanks around it. -/
def readWhole (text : List Char) : Option JsonTree :=
  match readValue text.length maxNestingDepth text with
  | none => none
  | some (tree, rest) => if skipSpace rest = [] then some tree else none

/-! ## Writing with a layout -/

/-- The blanks between the parts of a text. -/
structure Layout where
  /-- In front of an item, a key or a closing bracket at a depth. -/
  line : Nat → List Char
  /-- In front of the value of a key. -/
  blank : List Char
  line_space : ∀ depth, ∀ c ∈ line depth, isJsonSpace c = true
  blank_space : ∀ c ∈ blank, isJsonSpace c = true

/-- No blanks at all, as in `Marshal`. -/
def Layout.compact : Layout where
  line _ := []
  blank := []
  line_space _ _ h := nomatch h
  blank_space _ h := nomatch h

/-- Lines indented with `width` blanks for each level, as in `MarshalIndent`. -/
def Layout.indented (width : Nat) : Layout where
  line depth := '\n' :: List.replicate (width * depth) ' '
  blank := [' ']
  line_space depth c h := by
    rcases List.mem_cons.mp h with rfl | h
    · rfl
    · rw [List.eq_of_mem_replicate h]
      rfl
  blank_space c h := by
    rw [List.mem_singleton.mp h]
    rfl

namespace JsonTree

mutual

def writeWith (layout : Layout) : Nat → JsonTree → List Char
  | _, .null => ['n', 'u', 'l', 'l']
  | _, .bool true => ['t', 'r', 'u', 'e']
  | _, .bool false => ['f', 'a', 'l', 's', 'e']
  | _, .number literal => literal
  | _, .string value => quote value
  | _, .array [] => ['[', ']']
  | depth, .array (item :: items) =>
    '[' :: (layout.line (depth + 1) ++
      (writeWith layout (depth + 1) item ++ writeItemsWith layout depth items))
  | _, .object [] => ['\x7b', '\x7d']
  | depth, .object ((key, value) :: members) =>
    '\x7b' :: (layout.line (depth + 1) ++ (quote key ++ ':' :: (layout.blank ++
      (writeWith layout (depth + 1) value ++ writeMembersWith layout depth members))))

/-- The rest of an array after an item. -/
def writeItemsWith (layout : Layout) : Nat → List JsonTree → List Char
  | depth, [] => layout.line depth ++ [']']
  | depth, item :: items =>
    ',' :: (layout.line (depth + 1) ++
      (writeWith layout (depth + 1) item ++ writeItemsWith layout depth items))

/-- The rest of an object after a member. -/
def writeMembersWith (layout : Layout) : Nat → List (String × JsonTree) → List Char
  | depth, [] => layout.line depth ++ ['\x7d']
  | depth, (key, value) :: members =>
    ',' :: (layout.line (depth + 1) ++ (quote key ++ ':' :: (layout.blank ++
      (writeWith layout (depth + 1) value ++ writeMembersWith layout depth members))))

end

mutual

theorem writeWith_compact (depth : Nat) : ∀ tree : JsonTree, tree.writeWith .compact depth = tree.write
  | .null => rfl
  | .bool true => rfl
  | .bool false => rfl
  | .number _ => rfl
  | .string _ => rfl
  | .array [] => rfl
  | .array (item :: items) => by
    simp only [writeWith, write, writeWith_compact _ item, writeItemsWith_compact depth items]
    rfl
  | .object [] => rfl
  | .object ((key, value) :: members) => by
    simp only [writeWith, write, writeWith_compact _ value, writeMembersWith_compact depth members]
    rfl

theorem writeItemsWith_compact (depth : Nat) :
    ∀ items : List JsonTree, writeItemsWith .compact depth items = writeItems items
  | [] => rfl
  | item :: items => by
    simp only [writeItemsWith, writeItems, writeWith_compact _ item,
      writeItemsWith_compact depth items]
    rfl

theorem writeMembersWith_compact (depth : Nat) :
    ∀ members : List (String × JsonTree), writeMembersWith .compact depth members = writeMembers members
  | [] => rfl
  | (key, value) :: members => by
    simp only [writeMembersWith, writeMembers, writeWith_compact _ value,
      writeMembersWith_compact depth members]
    rfl

end

end JsonTree

/-! ## Reading back strings -/

theorem hexVal_digitChar : ∀ digit < 16, hexVal digit.digitChar = some digit := by decide

theorem decodeUnit_of_lt {unit : Nat} (h : unit < 0xd800) :
    decodeUnit none unit = ([Char.ofNat unit], none) := by
  unfold decodeUnit
  rw [if_neg (by omega), if_neg (by omega)]
  rfl

/-- An escape with four digits that is not half a surrogate pair. -/
theorem readChars_unit (a b c d : Nat) (rest : List Char) (ha : a < 16) (hb : b < 16) (hc : c < 16)
    (hd : d < 16) (hunit : 16 * (16 * (16 * a + b) + c) + d < 0xd800) :
    readChars (.inString none)
        ('\\' :: 'u' :: a.digitChar :: b.digitChar :: c.digitChar :: d.digitChar :: rest) =
      (readChars (.inString none) rest).map fun p =>
        (Char.ofNat (16 * (16 * (16 * a + b) + c) + d) :: p.1, p.2) := by
  simp only [readChars, Char.reduceEq, if_false, if_true, hexVal_digitChar a ha,
    hexVal_digitChar b hb, hexVal_digitChar c hc, hexVal_digitChar d hd, Nat.mul_zero, Nat.zero_add,
    decodeUnit_of_lt hunit, List.cons_append, List.nil_append]

theorem readChars_escapeChar (c : Char) (rest : List Char) :
    readChars (.inString none) (escapeChar c ++ rest) =
      (readChars (.inString none) rest).map fun p => (c :: p.1, p.2) := by
  unfold escapeChar
  split
  · rename_i hc
    rcases hc with rfl | rfl <;> rfl
  split
  · subst_vars
    rfl
  split
  · subst_vars
    rfl
  split
  · subst_vars
    rfl
  split
  · subst_vars
    rfl
  split
  · subst_vars
    rfl
  split
  · rename_i hc
    have hlt : c.toNat < 0x80 := by
      rcases hc with hc | rfl | rfl | rfl
      · omega
      · decide
      · decide
      · decide
    have hvalue : 16 * (16 * (16 * 0 + 0) + c.toNat / 16) + c.toNat % 16 = c.toNat := by omega
    have hunit := readChars_unit 0 0 (c.toNat / 16) (c.toNat % 16) rest (by omega) (by omega)
      (by omega) (by omega) (by omega)
    rw [hvalue, Char.ofNat_toNat] at hunit
    exact hunit
  split
  · rename_i hc
    have hvalue : 16 * (16 * (16 * 2 + 0) + 2) + c.toNat % 16 = c.toNat := by omega
    have hunit := readChars_unit 2 0 2 (c.toNat % 16) rest (by omega) (by omega) (by omega)
      (by omega) (by omega)
    rw [hvalue, Char.ofNat_toNat] at hunit
    exact hunit
  · rename_i hquote _ _ _ _ _ hcontrol _
    have hplain : ¬ c.toNat < 0x20 := fun h => hcontrol (.inl h)
    rw [not_or] at hquote
    simp only [List.cons_append, List.nil_append, readChars, hquote.1, hquote.2, hplain, if_false]
    rfl

theorem readChars_escaped (s rest : List Char) :
    readChars (.inString none) (s.flatMap escapeChar ++ '"' :: rest) = some (s, rest) := by
  induction s with
  | nil => rfl
  | cons c s ih =>
    rw [List.flatMap_cons, List.append_assoc, readChars_escapeChar, ih]
    rfl

/-! ## Reading back numbers -/

/-- A literal of the JSON grammar. -/
def IsNumber (literal : List Char) : Prop := readNumber .start literal = some (literal, [])

/-- The text does not go on with a character of a number. -/
def EndsNumber (text : List Char) : Prop :=
  ∀ c rest, text = c :: rest → ∀ state : NumberState, state.next c = none

theorem endsNumber_nil : EndsNumber [] := by
  intro c rest h
  cases h

theorem endsNumber_cons {c : Char} (h : ∀ state : NumberState, state.next c = none)
    (rest : List Char) : EndsNumber (c :: rest) := by
  intro c' rest' heq
  cases heq
  exact h

theorem readNumber_append {state : NumberState} {literal rest : List Char}
    (h : readNumber state literal = some (literal, [])) (hrest : EndsNumber rest) :
    readNumber state (literal ++ rest) = some (literal, rest) := by
  induction literal generalizing state with
  | nil =>
    have hend : state.isEnd = true := by
      by_contra hend
      simp [readNumber, hend] at h
    cases rest with
    | nil => exact h
    | cons c rest => simp [readNumber, hrest c rest rfl state, hend]
  | cons c literal ih =>
    cases hnext : state.next c with
    | none =>
      simp only [readNumber, hnext] at h
      split at h <;> cases h
    | some state' =>
      simp only [readNumber, hnext, Option.map_eq_some_iff, Prod.mk.injEq, List.cons.injEq,
        true_and, Prod.exists] at h
      obtain ⟨literal', rest', hread, rfl, rfl⟩ := h
      simp [readNumber, hnext, ih hread]

/-- The scanner goes on behind the characters that it has taken. -/
theorem readNumber_append_of_next {state state' : NumberState} {literal : List Char}
    (h : literal.foldlM NumberState.next state = some state') (rest : List Char) :
    readNumber state (literal ++ rest) =
      (readNumber state' rest).map fun p => (literal ++ p.1, p.2) := by
  induction literal generalizing state with
  | nil =>
    cases h
    simp
  | cons c literal ih =>
    obtain ⟨mid, hnext, hrest⟩ := Option.bind_eq_some_iff.mp h
    simp [readNumber, hnext, ih hrest]
    rfl

/-- The scanner stays in a state that takes every digit. -/
theorem next_digits {state : NumberState}
    (hstate : ∀ {c : Char}, c.isDigit = true → state.next c = some state) {digits : List Char}
    (h : ∀ c ∈ digits, c.isDigit = true) : digits.foldlM NumberState.next state = some state := by
  induction digits with
  | nil => rfl
  | cons c digits ih =>
    rw [List.foldlM_cons, hstate (h c List.mem_cons_self)]
    exact ih fun d hd => h d (List.mem_cons_of_mem _ hd)

theorem isDigit_of_mem_toDigits {n : Nat} {c : Char} (h : c ∈ Nat.toDigits 10 n) :
    c.isDigit = true :=
  Nat.isDigit_of_mem_toDigits (by decide) (by decide) h

/-- The scanner takes decimal digits, at the start and after a minus sign. -/
theorem next_toDigits (n : Nat) {state : NumberState} (hstate : state = .start ∨ state = .neg) :
    ∃ state', (Nat.toDigits 10 n).foldlM NumberState.next state = some state' ∧
      (state' = .zero ∨ state' = .int) := by
  by_cases hzero : n = 0
  · subst hzero
    refine ⟨.zero, ?_, .inl rfl⟩
    rcases hstate with rfl | rfl <;> rfl
  · have hdigits : ∀ c ∈ Nat.toDigits 10 n, c.isDigit = true := fun c hc => isDigit_of_mem_toDigits hc
    have hhead := head_toDigits_ne n (Nat.pos_of_ne_zero hzero)
    cases htext : Nat.toDigits 10 n with
    | nil => exact absurd htext Nat.toDigits_ne_nil
    | cons c digits =>
      rw [htext] at hdigits hhead
      have hc : c.isDigit = true := hdigits c List.mem_cons_self
      have hne : c ≠ '0' := fun h => hhead (by rw [h]; rfl)
      have hminus : c ≠ '-' := by
        rintro rfl
        revert hc
        decide
      have hnext : state.next c = some .int := by
        rcases hstate with rfl | rfl <;> simp [NumberState.next, hc, hne, hminus]
      refine ⟨.int, ?_, .inr rfl⟩
      have hint {d : Char} (hd : d.isDigit = true) : NumberState.int.next d = some .int := if_pos hd
      rw [List.foldlM_cons, hnext]
      exact next_digits hint fun d hd => hdigits d (List.mem_cons_of_mem _ hd)

theorem readNumber_toDigits (n : Nat) {state : NumberState} (hstate : state = .start ∨ state = .neg) :
    readNumber state (Nat.toDigits 10 n) = some (Nat.toDigits 10 n, []) := by
  obtain ⟨state', hnext, hend⟩ := next_toDigits n hstate
  have hread := readNumber_append_of_next hnext []
  rw [List.append_nil] at hread
  rw [hread]
  rcases hend with rfl | rfl <;> simp [readNumber, NumberState.isEnd]

theorem isNumber_toString (n : Int) : IsNumber (toString n).toList := by
  cases n with
  | ofNat m =>
    have htext : (toString (Int.ofNat m)).toList = Nat.toDigits 10 m := toList_toString_natCast m
    rw [htext]
    exact readNumber_toDigits m (.inl rfl)
  | negSucc m =>
    have hread := readNumber_toDigits (m + 1) (.inr rfl)
    rw [toList_toString_negSucc]
    simp [IsNumber, readNumber, NumberState.next, hread]

/-- A number starts with a digit or a minus sign. -/
theorem IsNumber.head {literal : List Char} (h : IsNumber literal) :
    ∃ c rest, literal = c :: rest ∧ (c = '-' ∨ c.isDigit = true) := by
  cases literal with
  | nil => cases h
  | cons c rest =>
    refine ⟨c, rest, rfl, ?_⟩
    by_contra hc
    rw [not_or] at hc
    have hzero : c ≠ '0' := by
      rintro rfl
      exact hc.2 rfl
    simp [IsNumber, readNumber, NumberState.next, NumberState.isEnd, hc.1, hc.2, hzero] at h

/-- The first character of a number starts nothing else. -/
theorem numberHead_ne {c d : Char} (hc : c = '-' ∨ c.isDigit = true)
    (hd : d ≠ '-' ∧ d.isDigit = false) : c ≠ d := by
  rintro rfl
  rcases hc with hc | hc
  · exact hd.1 hc
  · rw [hd.2] at hc
    cases hc

end SandboxProvider.Lib
