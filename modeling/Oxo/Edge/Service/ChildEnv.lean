import Oxo.Edge.Service.EdgeChild
import Oxo.Edge.Cli.Forwarding
import Oxo.Foundation.Utf8Lossy

/-!
Contract: the environments of the application's processes (`oxo-pingora-edge/src/service.rs`).

Owns: what is collected for the two kinds of workers, the cable and the gRPC child, the
allowlists of the operator, and which variables can get past them.

Does not own: the variables that are set for a slot when its worker is started.
-/

namespace Oxo.Edge.Service

open Oxo.Foundation Oxo.Edge.Cli

/-! ## Collecting variables -/

def isFile (path : OsString) : Reading Bool :=
  Program.perform (EnvOp.isFile path)

def pushRequiredEnv (envs : Envs) (name : String) : Fallible Envs := do
  match nonempty (← varOs name) with
  | some value => return envs ++ [(name, value)]
  | none => throw (.missingEnv name)

def pushOptionalEnv (envs : Envs) (name : String) : Reading Envs := do
  match nonempty (← varOs name) with
  | some value => return envs ++ [(name, value)]
  | none => return envs

/-- `push_optional_env` of each name. -/
def pushOptionalEnvs (envs : Envs) : List String → Reading Envs
  | [] => return envs
  | name :: rest => do
      let envs ← pushOptionalEnv envs name
      pushOptionalEnvs envs rest

def pushEnvValue (envs : Envs) (name : String) (value : OsString) : Envs :=
  envs ++ [(name, value)]

def isEnvNameSafe (name : String) : Bool :=
  !name.isEmpty && (utf8 name).all fun byte =>
    (0x41 ≤ byte && byte ≤ 0x5a) || (0x30 ≤ byte && byte ≤ 0x39) || byte == 0x5f

/-- The table of `is_edge_only_env_name`. -/
def edgeOnlyEnvNames : List String :=
  ["OXO_EDGE_BIND", "OXO_EDGE_WORKER_SOCKET", "OXO_EDGE_WORKER_SOCKETS", "OXO_EDGE_MAX_BODY",
    "OXO_EDGE_SERVER_NAME", "OXO_EDGE_PUBLIC_ORIGIN_PORT", "OXO_EDGE_TLS", "OXO_EDGE_TLS_CERT",
    "OXO_EDGE_TLS_KEY", "OXO_EDGE_TLS_H2", "OXO_EDGE_ACME_STATE_PATH",
    "OXO_EDGE_ACME_ISSUE_ONCE", "OXO_EDGE_ACME_RENEW_ONCE", "OXO_EDGE_ACME_DIRECTORY_URL",
    "OXO_EDGE_ACME_CONTACTS", "OXO_EDGE_ACME_ACCEPT_TERMS",
    "OXO_EDGE_ACME_ALLOW_PRODUCTION_DIRECTORY", "OXO_EDGE_PUBLIC_MODE",
    "OXO_EDGE_PUBLIC_IDENTITY", "OXO_EDGE_ADMIN_BIND", "OXO_EDGE_ACTION_CABLE_BIND",
    "OXO_EDGE_GRPC_BIND", "OXO_EDGE_DRAIN_GRACE_MS", "OXO_EDGE_MAX_IN_FLIGHT_REQUESTS",
    "OXO_EDGE_HEADER_READ_TIMEOUT_MS", "OXO_EDGE_KEEPALIVE_IDLE_TIMEOUT_MS",
    "OXO_EDGE_MAX_CONNECTION_SECS", "OXO_EDGE_SSE", "OXO_EDGE_KEEPALIVE",
    "OXO_EDGE_MAX_REQUESTS_PER_CONNECTION", "OXO_EDGE_H2_MAX_CONCURRENT_STREAMS",
    "OXO_EDGE_H2_MAX_RESET_STREAMS", "OXO_EDGE_THREADS", "OXO_EDGE_LISTENER_TASKS",
    "OXO_EDGE_REQUEST_LOG", "OXO_EDGE_STATIC_MOUNTS", "OXO_EDGE_STATIC_RAILS_PRESET",
    "OXO_EDGE_SERVE_RAILS", "OXO_EDGE_PROD", "LISTEN_FDS", "LISTEN_PID", "LISTEN_FDNAMES"]

def isEdgeOnlyEnvName (name : String) : Bool :=
  edgeOnlyEnvNames.contains name

def defaultCablePassthroughEnv : List String :=
  ["PATH", "LD_LIBRARY_PATH", "DYLD_LIBRARY_PATH", "BUNDLE_GEMFILE", "RAILS_ENV", "RACK_ENV",
    "SECRET_KEY_BASE", "RAILS_MASTER_KEY", "REDIS_URL"]

def defaultGrpcPassthroughEnv : List String :=
  ["PATH", "LD_LIBRARY_PATH", "DYLD_LIBRARY_PATH", "BUNDLE_GEMFILE", "RAILS_ENV", "RACK_ENV",
    "SECRET_KEY_BASE", "RAILS_MASTER_KEY", "DATABASE_URL", "REDIS_URL",
    "GRPC_DEFAULT_SSL_ROOTS_FILE_PATH"]

def defaultWorkerPassthroughEnv : List String :=
  ["PATH", "LD_LIBRARY_PATH", "DYLD_LIBRARY_PATH", "BUNDLE_GEMFILE", "RAILS_ENV", "RACK_ENV",
    "SECRET_KEY_BASE", "RAILS_MASTER_KEY", "DATABASE_URL", "REDIS_URL", "MEMCACHE_SERVERS"]

/-- `Path::join` of a relative path. -/
def joinPath (base path : OsString) : OsString :=
  if base = [] ∨ base.getLast? = some 0x2f then base ++ path else base ++ 0x2f :: path

/-! ## The children -/

section Children

variable {SocketAddr : Type} (library : Library SocketAddr) (debugStr : String → String)

/-- The loop over the names of an allowlist. -/
def pushAllowed (allowVar : String) (envs : Envs) : List String → Fallible Envs
  | [] => return envs
  | name :: rest =>
      if !isEnvNameSafe name then
        throw (.invalidEnv allowVar ("invalid env name " ++ debugStr name))
      else if isEdgeOnlyEnvName name then
        throw (.invalidEnv allowVar ("edge-only env name " ++ debugStr name ++ " is not allowed"))
      else do
        let envs ← pushOptionalEnv envs name
        pushAllowed allowVar envs rest

def applyEnvAllowlist (envs : Envs) (allowVar : String) : Fallible Envs := do
  match ← var allowVar with
  | .ok extra => pushAllowed debugStr allowVar envs (pieces ',' extra)
  | .error _ => return envs

def collectWorkerEnv (workerSocket : OsString) : Fallible Envs := do
  let envs ← pushRequiredEnv [] "OXO_WORKER_APP"
  let envs := pushEnvValue envs "OXO_WORKER_SOCKET" workerSocket
  let envs ← pushOptionalEnvs envs ["OXO_WORKER_THREADS", "OXO_WORKER_MAX_BODY",
    "OXO_WORKER_RACK_LINT", "OXO_WORKER_STREAMING"]
  let envs ← pushOptionalEnvs envs defaultWorkerPassthroughEnv
  applyEnvAllowlist debugStr envs "OXO_APP_ENV_ALLOW"

/-- `if let Some(dir) = optional_string_env(name)?`. -/
def pushTextEnv (envs : Envs) (name : String) : Fallible Envs := do
  match ← optionalStringEnv library name with
  | some value => return pushEnvValue envs name (utf8 value)
  | none => return envs

def collectAsyncWorkerEnv (workerSocket appRoot : OsString) : Fallible Envs := do
  let envs ← pushRequiredEnv [] "OXO_WORKER_APP"
  let envs := pushEnvValue envs "OXO_WORKER_SOCKET" workerSocket
  let envs := pushEnvValue envs "OXO_ASYNC" (utf8 "1")
  let envs ← pushTextEnv library envs "OXO_WORKER_TIMING_DIR"
  let envs ← pushOptionalEnvs envs ["OXO_WORKER_TAIL_NS", "OXO_WORKER_SCHED_SAMPLE_N"]
  let envs ← pushTextEnv library envs "OXO_WORKER_ORDER_DIR"
  let envs ← pushOptionalEnvs envs ["OXO_WORKER_FAIR_READ", "OXO_WORKER_SCHED"]
  let explicit ← optionalStringEnv library "BUNDLE_GEMFILE"
  let gemfile := (explicit.map utf8).getD (joinPath appRoot (utf8 "Gemfile"))
  let found ← isFile gemfile
  if !found then
    throw (.invalidEnv "BUNDLE_GEMFILE" ("gemfile not found at " ++ fromUtf8Lossy gemfile ++
      " (operator value or <app_root>/Gemfile)"))
  else do
    let envs := pushEnvValue envs "BUNDLE_GEMFILE" gemfile
    let envs ← pushOptionalEnvs envs ["OXO_WORKER_MAX_BODY", "OXO_WORKER_RACK_LINT",
      "OXO_WORKER_DRAIN_DEADLINE_MS"]
    let envs ← pushOptionalEnvs envs ["OXO_DB", "OXO_DB_POOL_SIZE", "OXO_DB_HOST", "OXO_DB_PORT",
      "OXO_DB_NAME", "OXO_DB_USER", "OXO_DB_PASSWORD", "OXO_DB_SSLMODE"]
    let envs ← pushOptionalEnvs envs defaultWorkerPassthroughEnv
    applyEnvAllowlist debugStr envs "OXO_APP_ENV_ALLOW"

def collectCableEnv (bind : SocketAddr) : Fallible Envs := do
  let envs := pushEnvValue [] "OXO_CABLE_BIND" (socketText library bind)
  let envs ← pushOptionalEnvs envs ["OXO_CABLE_APP", "OXO_CABLE_RACKUP",
    "OXO_CABLE_ALLOWED_ORIGINS", "OXO_CABLE_MAX_CONNECTIONS", "OXO_CABLE_IDLE_TIMEOUT_MS"]
  let envs ← pushOptionalEnvs envs defaultCablePassthroughEnv
  applyEnvAllowlist debugStr envs "OXO_CABLE_ENV_ALLOW"

def collectGrpcEnv (bind : SocketAddr) : Fallible Envs := do
  let envs := pushEnvValue [] "OXO_GRPC_BIND" (socketText library bind)
  let envs ← pushOptionalEnvs envs ["OXO_GRPC_APP", "OXO_GRPC_CONFIG",
    "OXO_GRPC_MAX_MESSAGE_BYTES", "OXO_GRPC_DEADLINE_MS"]
  let envs ← pushOptionalEnvs envs defaultGrpcPassthroughEnv
  applyEnvAllowlist debugStr envs "OXO_GRPC_ENV_ALLOW"

/-- A process of the application. -/
inductive AppChild (SocketAddr : Type) where
  | worker (workerSocket : OsString)
  | asyncWorker (workerSocket appRoot : OsString)
  | cable (bind : SocketAddr)
  | grpc (bind : SocketAddr)

/-- Its allowlist. -/
def AppChild.allowVar : AppChild SocketAddr → String
  | .worker _ | .asyncWorker _ _ => "OXO_APP_ENV_ALLOW"
  | .cable _ => "OXO_CABLE_ENV_ALLOW"
  | .grpc _ => "OXO_GRPC_ENV_ALLOW"

def AppChild.collect : AppChild SocketAddr → Fallible Envs
  | .worker workerSocket => collectWorkerEnv debugStr workerSocket
  | .asyncWorker workerSocket appRoot =>
      collectAsyncWorkerEnv library debugStr workerSocket appRoot
  | .cable bind => collectCableEnv library debugStr bind
  | .grpc bind => collectGrpcEnv library debugStr bind

/-- What is collected in an environment. -/
def AppChild.collected (child : AppChild SocketAddr) (parent : Parent) :
    Option (Except ServiceError Envs) :=
  Program.eval parent.reply (child.collect library debugStr).run

end Children

/-! ## Allowlists -/

/-- The names of an allowlist. -/
def Parent.allowed (parent : Parent) (allowVar : String) : List String :=
  match parent.var allowVar with
  | .ok extra => pieces ',' extra
  | .error _ => []

/-- A name that an allowlist may hold. -/
def nameAllowed (name : String) : Bool :=
  isEnvNameSafe name && !isEdgeOnlyEnvName name

/-- A variable that is set, with its value. -/
def Parent.entry (parent : Parent) (name : String) : Envs :=
  ((nonempty (parent.vars name)).map fun value => (name, value)).toList

section

variable {SocketAddr : Type} {library : Library SocketAddr} {debugStr : String → String}
  {parent : Parent} {envs : Envs}

theorem eval_pushOptionalEnv (name : String) :
    (pushOptionalEnv envs name).eval parent.reply = some (envs ++ parent.entry name) := by
  refine (Program.eval_bind (varOs name) _).trans ?_
  rw [eval_varOs, Option.bind_some, Parent.entry]
  cases nonempty (parent.vars name) with
  | none => exact congrArg some (List.append_nil _).symm
  | some value => rfl

theorem eval_pushOptionalEnvs (names : List String) :
    (pushOptionalEnvs envs names).eval parent.reply =
      some (envs ++ names.flatMap parent.entry) := by
  induction names generalizing envs with
  | nil => exact congrArg some (List.append_nil _).symm
  | cons name rest inductionHypothesis =>
      refine (Program.eval_bind (pushOptionalEnv envs name) _).trans ?_
      rw [eval_pushOptionalEnv, Option.bind_some, inductionHypothesis, List.flatMap_cons,
        List.append_assoc]

/-- A program without failures in front of one with them. -/
theorem eval_liftBind {α β : Type} {program : Reading α} {value : α}
    (evaluated : program.eval parent.reply = some value) (continuation : α → Fallible β) :
    Program.eval parent.reply ((liftM program : Fallible α) >>= continuation).run =
      Program.eval parent.reply (continuation value).run := by
  rw [Program.eval_bindExcept]
  have lifted : Program.eval parent.reply (liftM program : Fallible α).run =
      (program.eval parent.reply).map .ok := eval_lift program
  rw [lifted, evaluated]
  rfl

/-- Names that are all allowed. -/
theorem eval_pushAllowed {allowVar : String} {names : List String}
    (allowed : ∀ name ∈ names, nameAllowed name = true) :
    Program.eval parent.reply (pushAllowed debugStr allowVar envs names).run =
      some (.ok (envs ++ names.flatMap parent.entry)) := by
  induction names generalizing envs with
  | nil => exact congrArg (fun envs => some (Except.ok envs)) (List.append_nil _).symm
  | cons name rest inductionHypothesis =>
      obtain ⟨isAllowed, restAllowed⟩ := List.forall_mem_cons.mp allowed
      obtain ⟨safe, notEdgeOnly⟩ := Bool.and_eq_true_iff.mp isAllowed
      rw [pushAllowed, safe, if_neg (by decide), if_neg (by simpa using notEdgeOnly),
        eval_liftBind (eval_pushOptionalEnv name), inductionHypothesis restAllowed,
        List.flatMap_cons, List.append_assoc]

/-- The first name that is not allowed is refused. -/
theorem eval_pushAllowed_refused (debugStr : String → String) (parent : Parent) (envs : Envs)
    (allowVar : String) {names : List String} {name : String}
    (member : name ∈ names) (notAllowed : nameAllowed name = false) :
    ∃ message, Program.eval parent.reply (pushAllowed debugStr allowVar envs names).run =
      some (.error (.invalidEnv allowVar message)) := by
  induction names generalizing envs with
  | nil => cases member
  | cons first rest inductionHypothesis =>
      rw [pushAllowed]
      split
      · exact ⟨_, rfl⟩
      · split
        · exact ⟨_, rfl⟩
        · rename_i safe notEdgeOnly
          rcases List.mem_cons.mp member with rfl | later
          · rw [nameAllowed] at notAllowed
            simp only [Bool.not_eq_true', Bool.not_eq_false, Bool.not_eq_true] at safe notEdgeOnly
            rw [safe, notEdgeOnly] at notAllowed
            cases notAllowed
          · rw [eval_liftBind (eval_pushOptionalEnv first)]
            exact inductionHypothesis _ later

theorem eval_applyEnvAllowlist (allowVar : String) :
    Program.eval parent.reply (applyEnvAllowlist debugStr envs allowVar).run =
      Program.eval parent.reply
        (pushAllowed debugStr allowVar envs (parent.allowed allowVar)).run := by
  rw [applyEnvAllowlist, eval_liftBind (eval_var allowVar), Parent.allowed]
  cases parent.var allowVar with
  | ok extra => rfl
  | error failure => rfl

/-! ## The part in front of the allowlist -/

/-- The variable is set to something. -/
def Parent.Given (parent : Parent) (name : String) : Prop :=
  (nonempty (parent.vars name)).isSome = true

/-- The variable can be read as text. -/
def Parent.Textual (parent : Parent) (name : String) : Prop :=
  ∀ value, parent.vars name = some value → (fromUtf8 value).isSome = true

/-- The text of a variable that is not blank. -/
def Parent.text (parent : Parent) (name : String) : Option String :=
  match parent.var name with
  | .ok value => if trim value = "" then none else some value
  | .error _ => none

/-- What the environment of the child needs is there. -/
def Complete (parent : Parent) : AppChild SocketAddr → Prop
  | .worker _ => parent.Given "OXO_WORKER_APP"
  | .asyncWorker _ appRoot =>
      parent.Given "OXO_WORKER_APP" ∧ parent.Textual "OXO_WORKER_TIMING_DIR" ∧
        parent.Textual "OXO_WORKER_ORDER_DIR" ∧ parent.Textual "BUNDLE_GEMFILE" ∧
        parent.isFile (((parent.text "BUNDLE_GEMFILE").map utf8).getD
          (joinPath appRoot (utf8 "Gemfile"))) = true
  | .cable _ | .grpc _ => True

/-- A name outside the edge's configuration, whatever the build reads. -/
private def plainName (name : String) : Bool :=
  !startsWith name "LISTEN_" && !startsWith name "OXO_EDGE_"

/-- The variables that are set for a child by name. -/
private def givenNames : { names : List String // names.all plainName = true } :=
  ⟨["OXO_WORKER_APP", "OXO_WORKER_SOCKET", "OXO_ASYNC", "OXO_WORKER_TIMING_DIR",
    "OXO_WORKER_ORDER_DIR", "BUNDLE_GEMFILE", "OXO_CABLE_BIND", "OXO_GRPC_BIND"],
    by decide +kernel⟩

private theorem plain_given {name : String} (given : name ∈ givenNames.val) :
    plainName name = true :=
  List.all_eq_true.mp givenNames.property name given

private def Plain (envs : Envs) : Prop :=
  ∀ entry ∈ envs, plainName entry.1 = true

private theorem Plain.append {more : Envs} (plain : Plain envs) (morePlain : Plain more) :
    Plain (envs ++ more) := by
  intro entry member
  rcases List.mem_append.mp member with inFront | behind
  · exact plain entry inFront
  · exact morePlain entry behind

private theorem Plain.push (plain : Plain envs) (name : String) (isPlain : plainName name = true)
    (value : OsString) : Plain (pushEnvValue envs name value) := by
  refine plain.append fun entry member => ?_
  rw [List.mem_singleton.mp member]
  exact isPlain

theorem mem_entries {names : List String} {entry : String × OsString}
    (member : entry ∈ names.flatMap parent.entry) : entry.1 ∈ names := by
  obtain ⟨name, isName, found⟩ := List.mem_flatMap.mp member
  obtain ⟨value, _, rfl⟩ := Option.map_eq_some_iff.mp (Option.mem_toList.mp found)
  exact isName

private theorem Plain.entries (plain : Plain envs) {names : List String}
    (arePlain : names.all plainName = true) : Plain (envs ++ names.flatMap parent.entry) :=
  plain.append fun _ member => List.all_eq_true.mp arePlain _ (mem_entries member)

variable (library debugStr parent) in
/-- Without what it needs the program is refused; with it, it comes to the allowlist with plain
variables. -/
private def Collects (allowVar : String) (needs : Prop) (program : Fallible Envs) : Prop :=
  (¬ needs ∧ ∃ error, Program.eval parent.reply program.run = some (.error error)) ∨
    (needs ∧ ∃ envs, Plain envs ∧ Program.eval parent.reply program.run =
      Program.eval parent.reply
        (pushAllowed debugStr allowVar envs (parent.allowed allowVar)).run)

variable {allowVar name : String} {needs : Prop} {α : Type}

private theorem Collects.last (plain : Plain envs) :
    Collects debugStr parent allowVar True (applyEnvAllowlist debugStr envs allowVar) :=
  .inr ⟨trivial, envs, plain, eval_applyEnvAllowlist allowVar⟩

private theorem Collects.restate {program : Fallible Envs} {other : Prop}
    (collects : Collects debugStr parent allowVar needs program) (same : other ↔ needs) :
    Collects debugStr parent allowVar other program := by
  rw [Collects, same]
  exact collects

/-- A program that always comes to the same value. -/
private theorem Collects.known {program : Fallible α} {value : α}
    {continuation : α → Fallible Envs}
    (evaluated : Program.eval parent.reply program.run = some (.ok value))
    (rest : Collects debugStr parent allowVar needs (continuation value)) :
    Collects debugStr parent allowVar needs (program >>= continuation) := by
  unfold Collects at rest ⊢
  rw [Program.eval_bindExcept, evaluated]
  exact rest

private theorem Collects.lifted {program : Reading α} (value : α)
    {continuation : α → Fallible Envs} (evaluated : program.eval parent.reply = some value)
    (rest : Collects debugStr parent allowVar needs (continuation value)) :
    Collects debugStr parent allowVar needs ((liftM program : Fallible α) >>= continuation) := by
  unfold Collects at rest ⊢
  rw [eval_liftBind evaluated]
  exact rest

private theorem Collects.optional {continuation : Envs → Fallible Envs} {names : List String}
    (plain : Plain envs) (arePlain : names.all plainName = true)
    (rest : ∀ envs, Plain envs → Collects debugStr parent allowVar needs (continuation envs)) :
    Collects debugStr parent allowVar needs
      ((liftM (pushOptionalEnvs envs names) : Fallible Envs) >>= continuation) :=
  .lifted _ (eval_pushOptionalEnvs names) (rest _ (plain.entries arePlain))

/-- A program that fails where a need is not met. -/
private theorem Collects.checked {program : Fallible α} (value : α) {need : Prop}
    {continuation : α → Fallible Envs}
    (evaluated : (need ∧ Program.eval parent.reply program.run = some (.ok value)) ∨
      (¬ need ∧ ∃ error, Program.eval parent.reply program.run = some (.error error)))
    (rest : Collects debugStr parent allowVar needs (continuation value)) :
    Collects debugStr parent allowVar (need ∧ needs) (program >>= continuation) := by
  rcases evaluated with ⟨isMet, reaches⟩ | ⟨notMet, error, fails⟩
  · exact (Collects.known reaches rest).restate (and_iff_right isMet)
  · refine .inl ⟨fun all => notMet all.1, error, ?_⟩
    rw [Program.eval_bindExcept, fails]

variable (parent envs) in
private theorem eval_pushRequiredEnv (name : String) :
    Program.eval parent.reply (pushRequiredEnv envs name).run =
      match nonempty (parent.vars name) with
      | some value => some (.ok (pushEnvValue envs name value))
      | none => some (.error (.missingEnv name)) := by
  rw [pushRequiredEnv, eval_liftBind (eval_varOs name)]
  cases nonempty (parent.vars name) with
  | none => rfl
  | some value => rfl

variable (library parent) in
private theorem eval_optionalStringEnv (name : String) :
    (parent.Textual name ∧ Program.eval parent.reply (optionalStringEnv library name).run =
        some (.ok (parent.text name))) ∨
      (¬ parent.Textual name ∧ ∃ error,
        Program.eval parent.reply (optionalStringEnv library name).run = some (.error error)) := by
  rw [optionalStringEnv, eval_optionalEnv, Parent.text, Parent.Textual]
  cases found : parent.vars name with
  | none =>
      have absent : parent.var name = .error .notPresent := by rw [Parent.var, found]
      rw [absent]
      exact .inl ⟨(fun _ isValue => nomatch isValue), rfl⟩
  | some value =>
      cases decoded : fromUtf8 value with
      | none =>
          have unreadable : parent.var name = .error (.notUnicode value) := by
            rw [Parent.var, found]
            simp only [decoded]
          rw [unreadable]
          refine .inr ⟨fun textual => ?_, _, rfl⟩
          have isText := textual value rfl
          rw [decoded] at isText
          cases isText
      | some text =>
          have readable : parent.var name = .ok text := by
            rw [Parent.var, found]
            simp only [decoded]
          rw [readable]
          refine .inl ⟨fun other isValue => ?_, ?_⟩
          · rw [← Option.some.inj isValue, decoded]
            rfl
          · simp only [readOptional]
            split
            · rfl
            · rfl

private theorem Collects.text {continuation : Option String → Fallible Envs}
    (rest : Collects debugStr parent allowVar needs (continuation (parent.text name))) :
    Collects debugStr parent allowVar (parent.Textual name ∧ needs)
      (optionalStringEnv library name >>= continuation) :=
  .checked _ (eval_optionalStringEnv library parent name) rest

private theorem Collects.textEnv {continuation : Envs → Fallible Envs} (plain : Plain envs)
    (isPlain : plainName name = true)
    (rest : ∀ envs, Plain envs → Collects debugStr parent allowVar needs (continuation envs)) :
    Collects debugStr parent allowVar (parent.Textual name ∧ needs)
      (pushTextEnv library envs name >>= continuation) := by
  have evaluated := eval_optionalStringEnv library parent name
  refine .checked ((parent.text name).elim envs fun value =>
    pushEnvValue envs name (utf8 value)) ?_ ?_
  · rcases evaluated with ⟨textual, reads⟩ | ⟨notTextual, error, fails⟩
    · refine .inl ⟨textual, ?_⟩
      rw [pushTextEnv, Program.eval_bindExcept, reads]
      cases parent.text name with
      | none => rfl
      | some value => rfl
    · refine .inr ⟨notTextual, error, ?_⟩
      rw [pushTextEnv, Program.eval_bindExcept, fails]
  · cases parent.text name with
    | none => exact rest envs plain
    | some value => exact rest _ (plain.push _ isPlain _)

private theorem Collects.required {continuation : Envs → Fallible Envs} (plain : Plain envs)
    (isPlain : plainName name = true)
    (rest : ∀ envs, Plain envs → Collects debugStr parent allowVar needs (continuation envs)) :
    Collects debugStr parent allowVar (parent.Given name ∧ needs)
      (pushRequiredEnv envs name >>= continuation) := by
  have evaluated := eval_pushRequiredEnv parent envs name
  unfold Parent.Given
  cases found : nonempty (parent.vars name) with
  | none =>
      rw [found] at evaluated
      refine .inl ⟨(fun all => nomatch all.1), .missingEnv name, ?_⟩
      rw [Program.eval_bindExcept, evaluated]
  | some value =>
      rw [found] at evaluated
      exact .checked _ (.inl ⟨rfl, evaluated⟩) (rest _ (plain.push _ isPlain value))

private theorem plain_nil : Plain [] :=
  fun _ member => nomatch member

private theorem collects_worker (workerSocket : OsString) :
    Collects debugStr parent "OXO_APP_ENV_ALLOW" (parent.Given "OXO_WORKER_APP" ∧ True)
      (collectWorkerEnv debugStr workerSocket) := by
  refine .required plain_nil (plain_given (by decide)) fun envs plain => ?_
  refine .optional (plain.push _ (plain_given (by decide)) _) (by decide) fun envs plain => ?_
  exact .optional plain (by decide) fun envs plain => .last plain

private theorem collects_asyncWorker (workerSocket appRoot : OsString) :
    Collects debugStr parent "OXO_APP_ENV_ALLOW"
      (parent.Given "OXO_WORKER_APP" ∧ parent.Textual "OXO_WORKER_TIMING_DIR" ∧
        parent.Textual "OXO_WORKER_ORDER_DIR" ∧ parent.Textual "BUNDLE_GEMFILE" ∧
        parent.isFile (((parent.text "BUNDLE_GEMFILE").map utf8).getD
          (joinPath appRoot (utf8 "Gemfile"))) = true)
      (collectAsyncWorkerEnv library debugStr workerSocket appRoot) := by
  refine .required plain_nil (plain_given (by decide)) fun envs plain => ?_
  have started := (plain.push "OXO_WORKER_SOCKET" (plain_given (by decide)) workerSocket).push
    "OXO_ASYNC" (plain_given (by decide)) (utf8 "1")
  refine .textEnv started (plain_given (by decide)) fun envs plain => ?_
  refine .optional plain (by decide) fun envs plain => ?_
  refine .textEnv plain (plain_given (by decide)) fun envs plain => ?_
  refine .optional plain (by decide) fun envs plain => ?_
  refine .text ?_
  generalize ((parent.text "BUNDLE_GEMFILE").map utf8).getD
    (joinPath appRoot (utf8 "Gemfile")) = path
  refine .lifted (parent.isFile path) rfl ?_
  cases parent.isFile path with
  | false => exact .inl ⟨Bool.false_ne_true, _, rfl⟩
  | true =>
    refine Collects.restate ?_ (iff_true_intro rfl)
    refine .optional (plain.push _ (plain_given (by decide)) _) (by decide) fun envs plain => ?_
    refine .optional plain (by decide) fun envs plain => ?_
    exact .optional plain (by decide) fun envs plain => .last plain

private theorem collects_cable (bind : SocketAddr) :
    Collects debugStr parent "OXO_CABLE_ENV_ALLOW" True (collectCableEnv library debugStr bind) := by
  refine .optional (plain_nil.push _ (plain_given (by decide)) _) (by decide) fun envs plain => ?_
  exact .optional plain (by decide) fun envs plain => .last plain

private theorem collects_grpc (bind : SocketAddr) :
    Collects debugStr parent "OXO_GRPC_ENV_ALLOW" True (collectGrpcEnv library debugStr bind) := by
  refine .optional (plain_nil.push _ (plain_given (by decide)) _) (by decide) fun envs plain => ?_
  exact .optional plain (by decide) fun envs plain => .last plain

variable (library debugStr parent) in
private theorem collects_child (child : AppChild SocketAddr) :
    Collects debugStr parent child.allowVar (Complete parent child)
      (child.collect library debugStr) := by
  cases child with
  | worker workerSocket => exact (collects_worker workerSocket).restate (iff_of_eq (and_true _)).symm
  | asyncWorker workerSocket appRoot => exact collects_asyncWorker workerSocket appRoot
  | cable bind => exact collects_cable bind
  | grpc bind => exact collects_grpc bind

/-- What a child can be given. -/
private theorem collected_ok {child : AppChild SocketAddr}
    (collected : child.collected library debugStr parent = some (.ok envs)) :
    Complete parent child ∧ (∀ name ∈ parent.allowed child.allowVar, nameAllowed name = true) ∧
      ∃ given, Plain given ∧
        envs = given ++ (parent.allowed child.allowVar).flatMap parent.entry := by
  rw [AppChild.collected] at collected
  rcases collects_child library debugStr parent child with
    ⟨_, error, refused⟩ | ⟨complete, given, plain, reaches⟩
  · rw [refused] at collected
    cases collected
  · rw [reaches] at collected
    have allAllowed : ∀ name ∈ parent.allowed child.allowVar, nameAllowed name = true := by
      intro name member
      cases isAllowed : nameAllowed name with
      | true => rfl
      | false =>
          obtain ⟨message, refused⟩ := eval_pushAllowed_refused debugStr parent given
            child.allowVar member isAllowed
          rw [refused] at collected
          cases collected
    rw [eval_pushAllowed allAllowed] at collected
    cases collected
    exact ⟨complete, allAllowed, given, plain, rfl⟩

/-- Everything that can be refused. -/
private theorem collected_refused {child : AppChild SocketAddr}
    (spoiled : ¬ (Complete parent child ∧
      ∀ name ∈ parent.allowed child.allowVar, nameAllowed name = true)) :
    ∃ error, child.collected library debugStr parent = some (.error error) := by
  rcases collects_child library debugStr parent child with
    ⟨_, error, refused⟩ | ⟨complete, given, _, reaches⟩
  · exact ⟨error, refused⟩
  · have someRefused : ∃ name ∈ parent.allowed child.allowVar, nameAllowed name = false := by
      simpa using fun allAllowed => spoiled ⟨complete, allAllowed⟩
    obtain ⟨name, member, notAllowed⟩ := someRefused
    obtain ⟨message, refused⟩ := eval_pushAllowed_refused debugStr parent given child.allowVar
      member notAllowed
    exact ⟨_, reaches.trans refused⟩

variable (library debugStr) in
private theorem collected_accepted {child : AppChild SocketAddr}
    (complete : Complete parent child)
    (allAllowed : ∀ name ∈ parent.allowed child.allowVar, nameAllowed name = true) :
    ∃ envs, child.collected library debugStr parent = some (.ok envs) := by
  rcases collects_child library debugStr parent child with
    ⟨incomplete, _⟩ | ⟨_, given, _, reaches⟩
  · exact absurd complete incomplete
  · exact ⟨_, reaches.trans (eval_pushAllowed allAllowed)⟩

end

/-! ## The edge's configuration -/

section Configuration

variable {SocketAddr : Type} (library : Library SocketAddr) (debugStr : String → String)
  (features : Features)

/-- The variables that only the edge is configured by. -/
def EdgeConfig (name : String) : Prop :=
  startsWith name "LISTEN_" = true ∨ EdgeSetting library features name

/-- No configuration of the edge is collected, and an allowlist with some is refused. -/
structure StaysOut (parent : Parent) (child : AppChild SocketAddr) : Prop where
  absent : ∀ envs, child.collected library debugStr parent = some (.ok envs) →
    ∀ entry ∈ envs, ¬ EdgeConfig library features entry.1
  refused : (∃ name ∈ parent.allowed child.allowVar, EdgeConfig library features name) →
    ∃ error, child.collected library debugStr parent = some (.error error)

/-- The edge settings that the table leaves out. -/
def missedSettings : List String :=
  ["OXO_EDGE_WORKER_HOP", "OXO_EDGE_TRUSTED_PROXY_CIDRS", "OXO_EDGE_MAX_IN_FLIGHT_PER_IDENTITY",
    "OXO_EDGE_LONG_LIVED_MAX_CONNECTIONS", "OXO_EDGE_LONG_LIVED_MAX_BUFFERED_BYTES",
    "OXO_EDGE_LONG_LIVED_DOWNSTREAM_WRITE_TIMEOUT_MS", "OXO_EDGE_WORKER_CAP",
    "OXO_EDGE_FRAME_POOL_IDLE"] ++
    if features.edgeBench then ["OXO_EDGE_NATIVE_BENCH", "OXO_EDGE_INJECT_SPIN_US"] else []

variable {library debugStr features} {parent : Parent} {child : AppChild SocketAddr}

private theorem missed_of_args : ∀ name ∈ edgeArgsNames, isEdgeOnlyEnvName name = false →
    startsWith name "OXO_EDGE_" = true → name ∈ missedSettings ⟨false, false⟩ := by
  decide +kernel

private theorem missed_of_env : ∀ name ∈ edgeEnvNames features,
    startsWith name "OXO_EDGE_" = true → name ∈ missedSettings features := by
  obtain ⟨edgeBench, hopTiming⟩ := features
  cases edgeBench <;> cases hopTiming <;> decide +kernel

private theorem missed_listed : ∀ name ∈ missedSettings features,
    name ∈ edgeSettings features ∧ isEdgeOnlyEnvName name = false := by
  have prefixed : ∀ name ∈ missedSettings ⟨true, false⟩,
      startsWith name "OXO_EDGE_" = true ∧ isEdgeOnlyEnvName name = false := by
    decide +kernel
  have listed : ∀ name ∈ missedSettings features, name ∈ missedSettings ⟨true, false⟩ ∧
      name ∈ edgeArgsNames ++ edgeEnvNames features := by
    obtain ⟨edgeBench, hopTiming⟩ := features
    cases edgeBench <;> cases hopTiming <;> simp [missedSettings, edgeArgsNames, edgeEnvNames]
  intro name member
  obtain ⟨known, isRead⟩ := listed name member
  exact ⟨List.mem_filter.mpr ⟨isRead, (prefixed name known).1⟩, (prefixed name known).2⟩

theorem mem_missedSettings {name : String} :
    name ∈ missedSettings features ↔
      name ∈ edgeSettings features ∧ isEdgeOnlyEnvName name = false := by
  refine ⟨missed_listed name, fun ⟨setting, notEdgeOnly⟩ => ?_⟩
  obtain ⟨isRead, isPrefixed⟩ := List.mem_filter.mp setting
  rcases List.mem_append.mp isRead with inArgs | inEnv
  · have missed := missed_of_args name inArgs notEdgeOnly isPrefixed
    exact List.mem_append_left _ (by simpa [missedSettings] using missed)
  · exact missed_of_env name inEnv isPrefixed

/-- Configuration of the edge among names that may be allowed. -/
theorem edgeConfig_iff_of_allowed [Inhabited SocketAddr] {name : String}
    (allowed : nameAllowed name = true) :
    EdgeConfig library features name ↔
      startsWith name "LISTEN_" = true ∨ name ∈ missedSettings features := by
  obtain ⟨_, notEdgeOnly⟩ := Bool.and_eq_true_iff.mp allowed
  rw [EdgeConfig, edgeSetting_iff, mem_missedSettings]
  exact or_congr_right (and_iff_left (by simpa using notEdgeOnly)).symm

private theorem not_edgeConfig_of_plain {name : String} (isPlain : plainName name = true) :
    ¬ EdgeConfig library features name := by
  obtain ⟨notListen, notEdge⟩ := Bool.and_eq_true_iff.mp isPlain
  rintro (listen | setting)
  · rw [listen] at notListen
    cases notListen
  · rw [setting.1] at notEdge
    cases notEdge

/-- The edge's configuration stays out of a child just when none of what its allowlist lets
through is of the two kinds that the table leaves out. -/
theorem edge_config_stays_out_iff [Inhabited SocketAddr] (parent : Parent)
    (child : AppChild SocketAddr) :
    StaysOut library debugStr features parent child ↔
      (Complete parent child →
        (∀ name ∈ parent.allowed child.allowVar, nameAllowed name = true) →
        ∀ name ∈ parent.allowed child.allowVar,
          startsWith name "LISTEN_" = false ∧ name ∉ missedSettings features) := by
  constructor
  · intro staysOut complete allAllowed name member
    have notConfig : ¬ EdgeConfig library features name := by
      intro config
      obtain ⟨error, refused⟩ := staysOut.refused ⟨name, member, config⟩
      obtain ⟨envs, accepted⟩ := collected_accepted library debugStr complete allAllowed
      rw [refused] at accepted
      cases accepted
    rw [edgeConfig_iff_of_allowed (allAllowed name member), not_or] at notConfig
    exact ⟨Bool.eq_false_iff.mpr notConfig.1, notConfig.2⟩
  · intro clean
    have stays : Complete parent child →
        (∀ name ∈ parent.allowed child.allowVar, nameAllowed name = true) →
        ∀ name ∈ parent.allowed child.allowVar, ¬ EdgeConfig library features name := by
      intro complete allAllowed name member
      obtain ⟨notListen, notMissed⟩ := clean complete allAllowed name member
      rw [edgeConfig_iff_of_allowed (allAllowed name member), notListen]
      exact fun either => either.elim Bool.false_ne_true notMissed
    refine ⟨fun envs collected entry member => ?_, fun ⟨name, member, config⟩ => ?_⟩
    · obtain ⟨complete, allAllowed, given, plain, rfl⟩ := collected_ok collected
      rcases List.mem_append.mp member with inFront | behind
      · exact not_edgeConfig_of_plain (plain entry inFront)
      · exact stays complete allAllowed _ (mem_entries behind)
    · refine collected_refused fun both => ?_
      exact stays both.1 both.2 name member config

end Configuration

/-- A cable whose allowlist names one variable, which is set. -/
private def cableParent (name : String) (value : OsString) : Parent where
  vars
    | "OXO_CABLE_ENV_ALLOW" => some (utf8 name)
    | other => if other = name then some value else none
  isFile _ := false

/-- The addresses of trusted proxies pass the table on their way to the cable. -/
theorem trusted_proxies_reach_cable :
    ∃ parent : Parent,
      parent.allowed "OXO_CABLE_ENV_ALLOW" = ["OXO_EDGE_TRUSTED_PROXY_CIDRS"] ∧
      AppChild.collected loopbackLibrary id (.cable 28081) parent =
        some (.ok [("OXO_CABLE_BIND", utf8 "127.0.0.1:28081"),
          ("OXO_EDGE_TRUSTED_PROXY_CIDRS", utf8 "10.0.0.0/8")]) ∧
      ¬ StaysOut loopbackLibrary id ⟨false, false⟩ parent (.cable 28081) := by
  have collected : AppChild.collected loopbackLibrary id (.cable 28081)
      (cableParent "OXO_EDGE_TRUSTED_PROXY_CIDRS" (utf8 "10.0.0.0/8")) =
        some (.ok [("OXO_CABLE_BIND", utf8 "127.0.0.1:28081"),
          ("OXO_EDGE_TRUSTED_PROXY_CIDRS", utf8 "10.0.0.0/8")]) := by
    decide +kernel
  refine ⟨cableParent "OXO_EDGE_TRUSTED_PROXY_CIDRS" (utf8 "10.0.0.0/8"), by decide +kernel,
    collected, fun staysOut => ?_⟩
  refine staysOut.absent _ collected _ (List.mem_cons_of_mem _ (List.mem_singleton_self _)) ?_
  refine .inr (edgeSetting_iff.mpr (mem_missedSettings.mp ?_).1)
  exact List.mem_append_left _ (by decide +kernel)

end Oxo.Edge.Service
