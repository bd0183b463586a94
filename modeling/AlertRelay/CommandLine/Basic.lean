/-
AlertRelay/CommandLine/Basic.lean

Command lines.

A command line is described by its flags and by the arguments that stand without one.  A flag with
a value takes it from the same word (`--port=80`, `-p=80`, `-p80`) or from the next one; a next
word that looks like a flag is one and never a value.  Short flags without a value can share a
word.  After `--` no word is a flag.

A value that is a word of its own is looked at late: when the next flag has been recognised, or at
the end.  So of two faults in a line the later one can be the one that is reported, and the order
in which `Progress.resolve` is called decides which.
-/
import AlertRelay.KeyedMap

namespace AlertRelay

/-- Why a command line does not say what to do.  Two of them are questions and not faults, and with
one the program breaks off while it looks at the line. -/
inductive UsageFault where
  /-- A flag that is none, or a word too many. -/
  | unknownArgument
  /-- A flag without the value it needs. -/
  | invalidValue
  /-- A value that is not accepted. -/
  | valueValidation
  /-- A flag that is given twice. -/
  | argumentConflict
  /-- A value for a flag that takes none. -/
  | tooManyValues
  /-- An argument that is not there. -/
  | missingArgument
  | displayHelp
  | displayVersion
  /-- A number in a value outgrew its word. -/
  | overflow
deriving DecidableEq, Repr

/-- Whether somebody only asked for a text. -/
def UsageFault.isQuestion : UsageFault → Bool
  | .displayHelp => true
  | .displayVersion => true
  | _ => false

/-- What a flag does to the options gathered so far. -/
inductive FlagEffect (σ : Type) where
  | switch (set : σ → σ)
  | value (read : String → Except UsageFault (σ → σ))
  | question (asked : UsageFault)

/-- A flag. -/
structure Flag (σ : Type) where
  long : String
  short : Option Char := none
  /-- The variable of the environment that stands in for the flag. -/
  standIn : Option String := none
  effect : FlagEffect σ

/-- A command line. -/
structure CommandLine (σ : Type) where
  flags : List (Flag σ)
  /-- The arguments without a flag; all of them have to be there. -/
  arguments : List (String → σ → σ) := []

namespace CommandLine

variable {σ : Type}

/-- The flags that every command line has. -/
def questions : List (Flag σ) :=
  [{ long := "help", short := some 'h', effect := .question .displayHelp },
    { long := "version", short := some 'V', effect := .question .displayVersion }]

/-- The flag with a long name. -/
def long? (c : CommandLine σ) (name : String) : Option (Flag σ) :=
  (c.flags ++ questions).find? fun f => f.long == name

/-- The flag with a short name. -/
def short? (c : CommandLine σ) (name : Char) : Option (Flag σ) :=
  (c.flags ++ questions).find? fun f => f.short == some name

/-! ### Words -/

/-- A flag that waits for its value, or for the time at which the value is looked at. -/
structure Pending (σ : Type) where
  flag : Flag σ
  read : String → Except UsageFault (σ → σ)
  value : Option String

/-- What has been read of a command line. -/
structure Progress (σ : Type) where
  options : σ
  /-- The long names of the flags that have been given. -/
  given : List String := []
  pending : Option (Pending σ) := none
  /-- Whether no word is a flag any more. -/
  onlyArguments : Bool := false
  /-- The arguments that have not been given. -/
  missing : List (String → σ → σ)

namespace Progress

/-- Notes that a flag has been given. -/
def note (p : Progress σ) (f : Flag σ) : Except UsageFault (Progress σ) :=
  if p.given.contains f.long then .error .argumentConflict
  else .ok { p with given := f.long :: p.given }

/-- Applies a flag with its value. -/
def assign (p : Progress σ) (f : Flag σ) (read : String → Except UsageFault (σ → σ))
    (value : String) : Except UsageFault (Progress σ) := do
  let p ← p.note f
  let set ← read value
  pure { p with options := set p.options }

/-- Looks at the flag that waits. -/
def resolve (p : Progress σ) : Except UsageFault (Progress σ) :=
  match p.pending with
  | none => .ok p
  | some w =>
    match w.value with
    | none => .error .invalidValue
    | some v => { p with pending := none }.assign w.flag w.read v

/-- A flag without a value in its word. -/
def flag (p : Progress σ) (f : Flag σ) : Except UsageFault (Progress σ) := do
  let p ← p.resolve
  match f.effect with
  | .question asked => .error asked
  | .switch set =>
    let p ← p.note f
    pure { p with options := set p.options }
  | .value read => pure { p with pending := some ⟨f, read, none⟩ }

/-- A flag with a value in its word. -/
def flagWith (p : Progress σ) (f : Flag σ) (value : String) :
    Except UsageFault (Progress σ) :=
  match f.effect with
  | .value read => do
    let p ← p.resolve
    p.assign f read value
  | _ => .error .tooManyValues

/-- A word that is no flag. -/
def word (p : Progress σ) (w : String) : Except UsageFault (Progress σ) :=
  match p.missing with
  | [] => .error .unknownArgument
  | set :: missing => do
    let p ← p.resolve
    pure { p with options := set w p.options, missing := missing }

/-- A word that is no flag: the value of the flag that waits for one, or an argument. -/
def valueOrWord (p : Progress σ) (w : String) : Except UsageFault (Progress σ) :=
  match p.pending with
  | some ⟨f, read, none⟩ => .ok { p with pending := some ⟨f, read, some w⟩ }
  | _ => p.word w

end Progress

/-- A word after two dashes: a name and perhaps a value. -/
def longWord (c : CommandLine σ) (p : Progress σ) (cs : List Char) :
    Except UsageFault (Progress σ) :=
  let name := cs.takeWhile (· ≠ '=')
  match c.long? (String.ofList name) with
  | none => .error .unknownArgument
  | some f =>
    match cs.drop name.length with
    | [] => p.flag f
    | _ :: value => p.flagWith f (String.ofList value)

/-- A word after one dash: short names, the last one perhaps with a value. -/
def shortWord (c : CommandLine σ) : Progress σ → List Char → Except UsageFault (Progress σ)
  | p, [] => .ok p
  | p, n :: rest =>
    match c.short? n with
    | none => .error .unknownArgument
    | some f =>
      match f.effect with
      | .value _ =>
        match rest with
        | [] => p.flag f
        | '=' :: value => p.flagWith f (String.ofList value)
        | value => p.flagWith f (String.ofList value)
      | _ => do
        let p ← p.flag f
        shortWord c p rest

/-- The next word. -/
def step (c : CommandLine σ) (p : Progress σ) (w : String) : Except UsageFault (Progress σ) :=
  if p.onlyArguments then p.word w
  else
    match w.toList with
    | ['-', '-'] => .ok { p with onlyArguments := true }
    | '-' :: '-' :: cs => c.longWord p cs
    | '-' :: n :: cs => c.shortWord p (n :: cs)
    | _ => p.valueOrWord w

/-- Lets a variable of the environment stand in for a flag. -/
def fill (env : KeyedMap String) (p : Progress σ) (f : Flag σ) : Except UsageFault (Progress σ) :=
  match f.effect, f.standIn.bind env.get? with
  | .value read, some v => if p.given.contains f.long then .ok p else p.assign f read v
  | _, _ => .ok p

/-- The options that a command line gives. -/
def parse (c : CommandLine σ) (env : KeyedMap String) (dflt : σ) (words : List String) :
    Except UsageFault σ := do
  let p ← words.foldlM c.step { options := dflt, missing := c.arguments }
  let p ← p.resolve
  let p ← c.flags.foldlM (fill env) p
  if p.missing.isEmpty then pure p.options else .error .missingArgument

end CommandLine

end AlertRelay
