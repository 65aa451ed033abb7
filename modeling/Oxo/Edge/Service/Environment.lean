import Oxo.Edge.Cli
import Oxo.Foundation.FixedAnswers

/-!
Contract: how the service reads its own environment (`oxo-pingora-edge/src/service.rs`).

Owns: the operations on the environment, the typed readers with their error texts, what they come
to in a given environment, and which variables a program reads.

Does not own: what is read.
-/

namespace Oxo.Edge.Service

open Oxo.Foundation Oxo.Edge.Cli

/-- The errors of `ServiceError` that reading the environment ends in. -/
inductive ServiceError where
  | missingEnv (name : String)
  | invalidEnv (name message : String)
deriving DecidableEq

/-- `env::VarError`. -/
inductive VarError where
  | notPresent
  | notUnicode (value : OsString)
deriving DecidableEq

inductive EnvOp where
  | var (name : String)
  | varOs (name : String)
  | isFile (path : OsString)
deriving DecidableEq

def EnvAnswer : EnvOp → Type
  | .var _ => Except VarError String
  | .varOs _ => Option OsString
  | .isFile _ => Bool

/-- The variable that an operation reads. -/
def EnvOp.reads : EnvOp → Option String
  | .var name | .varOs name => some name
  | .isFile _ => none

abbrev Reading := Program EnvOp EnvAnswer

abbrev Fallible := ExceptT ServiceError Reading

def var (name : String) : Reading (Except VarError String) :=
  Program.perform (EnvOp.var name)

def varOs (name : String) : Reading (Option OsString) :=
  Program.perform (EnvOp.varOs name)

/-! ## The parent environment -/

/-- The environment of the service, and the files it can see. -/
structure Parent where
  vars : String → Option OsString
  isFile : OsString → Bool

/-- `env::var`. -/
def Parent.var (parent : Parent) (name : String) : Except VarError String :=
  match parent.vars name with
  | none => .error .notPresent
  | some value =>
      match fromUtf8 value with
      | some text => .ok text
      | none => .error (.notUnicode value)

def Parent.reply (parent : Parent) : (op : EnvOp) → EnvAnswer op
  | .var name => parent.var name
  | .varOs name => parent.vars name
  | .isFile path => parent.isFile path

/-- The program reads the variable in some environment. -/
def ReadsVar {α : Type} (program : Reading α) (name : String) : Prop :=
  ∃ parent : Parent, ∃ op ∈ program.performed parent.reply, op.reads = some name

/-! ## Readers -/

section Readers

variable {SocketAddr : Type} (library : Library SocketAddr)

/-- `VarError` as text. -/
def VarError.text : VarError → String
  | .notPresent => "environment variable not found"
  | .notUnicode value => "environment variable was not valid unicode: " ++ library.debugOsString value

/-- What a reader makes of a variable; blank text counts as absent. -/
def readOptional {α : Type} (name : String) (parse : String → Except String α) :
    Except VarError String → Except ServiceError (Option α)
  | .ok value =>
      if trim value = "" then .ok none
      else match parse value with
        | .ok result => .ok (some result)
        | .error message => .error (.invalidEnv name message)
  | .error .notPresent => .ok none
  | .error failure => .error (.invalidEnv name (failure.text library))

def optionalEnv {α : Type} (name : String) (parse : String → Except String α) :
    Fallible (Option α) := do
  let found ← var name
  ExceptT.mk (pure (readOptional library name parse found))

def optionalStringEnv (name : String) : Fallible (Option String) :=
  optionalEnv library name fun value => .ok value

def optionalBoolEnv (name : String) : Fallible (Option Bool) :=
  optionalEnv library name fun value =>
    if ["1", "true", "TRUE", "yes", "YES"].contains (trim value) then .ok true
    else if ["0", "false", "FALSE", "no", "NO"].contains (trim value) then .ok false
    else .error "expected 0/1 or true/false"

def optionalU16Env (name : String) : Fallible (Option UInt16) :=
  optionalEnv library name fun value =>
    match parseUnsigned (2 ^ 16) (trim value) with
    | some number => .ok (UInt16.ofNat number)
    | none => .error ("expected integer port: " ++ library.intError (trim value))

def optionalU64Env (name : String) : Fallible (Option UInt64) :=
  optionalEnv library name fun value =>
    match parseUnsigned (2 ^ 64) (trim value) with
    | some number => .ok (UInt64.ofNat number)
    | none => .error ("expected integer byte count: " ++ library.intError (trim value))

def optionalSocketAddrEnv (name : String) : Fallible (Option SocketAddr) :=
  optionalEnv library name fun value =>
    match library.parseSocketAddr (trim value) with
    | some addr => .ok addr
    | none => .error ("expected socket address: " ++ library.socketAddrError (trim value))

def envBool (name : String) (default : Bool) : Fallible Bool := do
  let found ← optionalBoolEnv library name
  return found.getD default

end Readers

/-- A value that is not empty. -/
def nonempty (value : Option OsString) : Option OsString :=
  value.filter fun value => !value.isEmpty

def optionalPath (name : String) : Reading (Option OsString) := do
  let value ← varOs name
  return nonempty value

/-! ## Evaluation -/

section Evaluation

variable {SocketAddr : Type} {library : Library SocketAddr} {parent : Parent} {α : Type}

@[simp] theorem eval_var (name : String) :
    (var name).eval parent.reply = some (parent.var name) :=
  rfl

@[simp] theorem eval_varOs (name : String) :
    (varOs name).eval parent.reply = some (parent.vars name) :=
  rfl

theorem eval_lift (program : Reading α) :
    Program.eval parent.reply (monadLift program : Fallible α).run =
      (program.eval parent.reply).map .ok := by
  refine (Program.eval_bind program _).trans ?_
  cases program.eval parent.reply with
  | none => rfl
  | some value => rfl

theorem eval_optionalEnv (name : String) (parse : String → Except String α) :
    Program.eval parent.reply (optionalEnv library name parse).run =
      some (readOptional library name parse (parent.var name)) :=
  rfl

end Evaluation

/-! ## Programs that read some variables only -/

/-- Only variables among the names, in whatever environment. -/
def ReadsOnly {α : Type} (names : List String) (program : Reading α) : Prop :=
  (Contract.only fun op => ∀ name, EnvOp.reads op = some name → name ∈ names).Meets program ()
    fun _ _ => True

section

variable {SocketAddr α β : Type} {library : Library SocketAddr} {names : List String}
  {name : String}

theorem ReadsOnly.mem {program : Reading α} (only : ReadsOnly names program)
    (reads : ReadsVar program name) : name ∈ names := by
  obtain ⟨parent, op, performed, isRead⟩ := reads
  exact Program.performed_of_only only op performed name isRead

theorem ReadsOnly.pure (value : α) : ReadsOnly names (Pure.pure value : Reading α) :=
  trivial

theorem ReadsOnly.bind {program : Reading α} {continuation : α → Reading β}
    (first : ReadsOnly names program) (rest : ∀ value, ReadsOnly names (continuation value)) :
    ReadsOnly names (program >>= continuation) :=
  Contract.Meets.bind (first.mono fun value _ _ => rest value)

theorem ReadsOnly.bindExcept {program : Fallible α} {continuation : α → Fallible β}
    (first : ReadsOnly names program.run) (rest : ∀ value, ReadsOnly names (continuation value).run) :
    ReadsOnly names (program >>= continuation).run :=
  Contract.Meets.onlyBind first rest

theorem ReadsOnly.lift {program : Reading α} (only : ReadsOnly names program) :
    ReadsOnly names (monadLift program : Fallible α).run :=
  Contract.Meets.bind (only.mono fun _ _ _ => trivial)

theorem ReadsOnly.optionalEnv (member : name ∈ names) (parse : String → Except String α) :
    ReadsOnly names (Service.optionalEnv library name parse).run := by
  refine ⟨?_, fun _ => trivial⟩
  intro other isRead
  cases isRead
  exact member

theorem ReadsOnly.envBool (member : name ∈ names) (default : Bool) :
    ReadsOnly names (Service.envBool library name default).run :=
  .bindExcept (.optionalEnv member _) fun _ => trivial

theorem ReadsOnly.var (member : name ∈ names) : ReadsOnly names (Service.var name) := by
  refine ⟨?_, fun _ => trivial⟩
  intro other isRead
  cases isRead
  exact member

theorem ReadsOnly.optionalPath (member : name ∈ names) :
    ReadsOnly names (Service.optionalPath name) := by
  refine ⟨?_, fun _ => trivial⟩
  intro other isRead
  cases isRead
  exact member

end

end Oxo.Edge.Service
