import SandboxProvider.Lib.Decimal

/-!
# Command line flags

Go's `flag` package for flags with an integer or a string value: a flag set is a list of flags over a
record `σ` of values, and `parseFlags` is `FlagSet.Parse`. An argument is a flag with its value behind
`=`, a flag whose value is the next argument, or the end of the flags.
-/

namespace SandboxProvider.Lib

/-- Why a command line is refused. -/
inductive FlagError
  | badFlag (arg : String)
  | helpRequested
  | notDefined (name : String)
  | needsArgument (name : String)
  | invalidValue (name value : String) (err : NumError)
  deriving DecidableEq, Repr

/-- A flag and what it does with its value. -/
structure Flag (σ : Type) where
  name : String
  set : String → σ → Except NumError σ

section FlagSet

variable {σ : Type}

/-- `FlagSet.IntVar`. -/
def intVar (name : String) (put : Int → σ → σ) : Flag σ where
  name := name
  set value s := (parseInt value.toList).map (put · s)

/-- `FlagSet.StringVar`. -/
def stringVar (name : String) (put : String → σ → σ) : Flag σ where
  name := name
  set value s := .ok (put value s)

/-- What an argument is to `parseOne`. -/
inductive Arg
  | operand
  | terminator
  | malformed
  | named (name : String) (value : Option String)
  deriving DecidableEq, Repr

/-- The name of a flag and the value behind `=`. -/
def readName : List Char → Arg
  | [] | '-' :: _ | '=' :: _ => .malformed
  | name =>
    .named (String.ofList (name.takeWhile (· ≠ '=')))
      (match name.dropWhile (· ≠ '=') with
        | [] => none
        | _ :: value => some (String.ofList value))

def readArg (arg : String) : Arg :=
  match arg.toList with
  | ['-', '-'] => .terminator
  | '-' :: '-' :: name => readName name
  | '-' :: c :: rest => readName (c :: rest)
  | _ => .operand

/-- Sets a flag. -/
def setFlag (flag : Flag σ) (value : String) (s : σ) : Except FlagError σ :=
  match flag.set value s with
  | .error err => .error (.invalidValue flag.name value err)
  | .ok s' => .ok s'

/-- `FlagSet.Parse`, up to the first argument that is not a flag. -/
def parseFlags (flags : List (Flag σ)) : List String → σ → Except FlagError σ
  | [], s => .ok s
  | arg :: rest, s =>
    match readArg arg with
    | .operand | .terminator => .ok s
    | .malformed => .error (.badFlag arg)
    | .named name value =>
      match flags.find? (·.name = name) with
      | none =>
        if name = "help" ∨ name = "h" then .error .helpRequested else .error (.notDefined name)
      | some flag =>
        match value, rest with
        | some value, rest =>
          match setFlag flag value s with
          | .error err => .error err
          | .ok s' => parseFlags flags rest s'
        | none, [] => .error (.needsArgument name)
        | none, value :: rest =>
          match setFlag flag value s with
          | .error err => .error err
          | .ok s' => parseFlags flags rest s'

/-! ## Arguments of the form `--name=value` -/

/-- A name that can be given as a flag. -/
structure FlagName (name : String) : Prop where
  notEmpty : name.toList ≠ []
  noDash : name.toList.head? ≠ some '-'
  noEquals : '=' ∉ name.toList

theorem readArg_equals {name : String} (h : FlagName name) (value : String) :
    readArg ("--" ++ name ++ "=" ++ value) = .named name (some value) := by
  have htext : ("--" ++ name ++ "=" ++ value).toList =
      '-' :: '-' :: (name.toList ++ '=' :: value.toList) := by
    simp [String.toList_append]
  have hall : ∀ c ∈ name.toList, (decide (c ≠ '=')) = true := by
    intro c hc
    refine decide_eq_true fun heq => h.noEquals ?_
    rw [← heq]
    exact hc
  have htake : (name.toList ++ '=' :: value.toList).takeWhile (· ≠ '=') = name.toList := by
    rw [List.takeWhile_append_of_pos hall]
    simp
  have hdrop : (name.toList ++ '=' :: value.toList).dropWhile (· ≠ '=') = '=' :: value.toList := by
    rw [List.dropWhile_append_of_pos hall]
    simp
  have hread : readName (name.toList ++ '=' :: value.toList) = .named name (some value) := by
    unfold readName
    cases hname : name.toList with
    | nil => exact absurd hname h.notEmpty
    | cons c cs =>
      have hdash : c ≠ '-' := by
        intro heq
        exact h.noDash (by rw [hname, heq]; rfl)
      have hequals : c ≠ '=' := by
        intro heq
        exact h.noEquals (by rw [hname, heq]; exact List.mem_cons_self)
      rw [hname] at htake hdrop
      rw [List.cons_append] at htake hdrop ⊢
      split
      · rename_i heq
        cases heq
      · rename_i heq
        cases heq
        exact absurd rfl hdash
      · rename_i heq
        cases heq
        exact absurd rfl hequals
      · rw [htake, hdrop, ← hname]
        simp
  unfold readArg
  rw [htext]
  cases hname : name.toList with
  | nil => exact absurd hname h.notEmpty
  | cons c cs =>
    rw [hname] at hread
    exact hread

/-- A flag that is given with `=` sets its value, and the parser goes on. -/
theorem parseFlags_equals {flags : List (Flag σ)} (flag : Flag σ) {s s' : σ}
    (h : FlagName flag.name) (hfind : flags.find? (·.name = flag.name) = some flag) {value : String}
    (hset : flag.set value s = .ok s') (rest : List String) :
    parseFlags flags (("--" ++ flag.name ++ "=" ++ value) :: rest) s = parseFlags flags rest s' := by
  rw [parseFlags, readArg_equals h]
  simp only [hfind, setFlag, hset]

/-- A command line that is accepted has values that its flags accept. -/
theorem set_of_parseFlags_equals {flags : List (Flag σ)} (flag : Flag σ) {s t : σ}
    (h : FlagName flag.name) (hfind : flags.find? (·.name = flag.name) = some flag) {value : String}
    {rest : List String}
    (hparse : parseFlags flags (("--" ++ flag.name ++ "=" ++ value) :: rest) s = .ok t) :
    ∃ s', flag.set value s = .ok s' ∧ parseFlags flags rest s' = .ok t := by
  cases hset : flag.set value s with
  | error err =>
    rw [parseFlags, readArg_equals h] at hparse
    simp only [hfind, setFlag, hset] at hparse
    cases hparse
  | ok s' =>
    rw [parseFlags_equals flag h hfind hset] at hparse
    exact ⟨s', rfl, hparse⟩

theorem eq_of_set_intVar {name : String} {put : Int → σ → σ} {value : String} {s s' : σ}
    (h : (intVar name put).set value s = .ok s') : ∃ n, s' = put n s := by
  simp only [intVar] at h
  cases hparse : parseInt value.toList with
  | error err =>
    rw [hparse] at h
    cases h
  | ok n =>
    rw [hparse] at h
    cases h
    exact ⟨n, rfl⟩

theorem set_intVar (name : String) (put : Int → σ → σ) {n : Int} (hlow : -2 ^ 63 ≤ n)
    (hhigh : n < 2 ^ 63) (s : σ) : (intVar name put).set (toString n) s = .ok (put n s) := by
  simp only [intVar, parseInt_toString hlow hhigh]
  rfl

end FlagSet

end SandboxProvider.Lib
