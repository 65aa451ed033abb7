import Oxo.Edge.Cli

/-!
Contract: forwarding a configuration through an argument vector loses nothing
(`oxo-pingora-edge/src/lib.rs`, `parse_flags` and `to_edge_args`).

Owns: what a run of arguments does to the parser whatever follows it, one forwarding law
per kind of setting, the settings in forwarding order, and the round trip.

Does not own: the parser or the emitter.
-/

namespace Oxo.Edge.Cli

open Oxo.Foundation

variable {SocketAddr : Type} (library : Library SocketAddr)

/-! ## Configurations the parser returns -/

/-- No text of the configuration is blank. -/
structure Sound (config : EdgeCliConfig SocketAddr) : Prop where
  fqdn : ∀ text ∈ config.fqdn, trim text ≠ ""
  acmeDirectoryUrl : ∀ text ∈ config.acmeDirectoryUrl, trim text ≠ ""
  acmeContacts : ∀ text ∈ config.acmeContacts, trim text ≠ ""
  publicMode : ∀ text ∈ config.publicMode, trim text ≠ ""
  publicIdentity : ∀ text ∈ config.publicIdentity, trim text ≠ ""
  trustedProxyCidrs : ∀ text ∈ config.trustedProxyCidrs, trim text ≠ ""
  requestLog : ∀ text ∈ config.requestLog, trim text ≠ ""
  workerHop : ∀ text ∈ config.workerHop, trim text ≠ ""
  workerDispatch : ∀ text ∈ config.workerDispatch, trim text ≠ ""
  staticMounts : ∀ text ∈ config.staticMounts, trim text ≠ ""

private theorem switch_eq_ok {flag : String} {inline : Option OsString} {args : List OsString}
    {next result : EdgeCliConfig SocketAddr} {rest : Rest args}
    (done : switch flag inline args next = .ok (result, rest)) : result = next := by
  obtain ⟨_, _, returned⟩ := bind_eq_ok.mp done
  cases returned
  rfl

private theorem valued_eq_ok {α : Type} {read : String → OsString → Except ConfigError α}
    {flag : String} {inline : Option OsString} {args : List OsString}
    {store : α → EdgeCliConfig SocketAddr} {result : EdgeCliConfig SocketAddr}
    {rest : Rest args} (done : valued read flag inline args store = .ok (result, rest)) :
    ∃ raw value, read flag raw = .ok value ∧ result = store value := by
  obtain ⟨taken, _, behind⟩ := bind_eq_ok.mp done
  obtain ⟨value, found, returned⟩ := bind_eq_ok.mp behind
  cases returned
  exact ⟨taken.1, value, found, rfl⟩

variable {library} in
private theorem cliStringValue_nonblank {flag text : String} {raw : OsString}
    (found : cliStringValue library flag raw = .ok text) : trim text ≠ "" := by
  obtain ⟨value, _, checked⟩ := bind_eq_ok.mp found
  split at checked
  · cases checked
  · rename_i nonblank
    rw [← Except.ok.inj checked]
    exact nonblank

private theorem nonblank_some {text : String} (nonblank : trim text ≠ "") :
    ∀ other ∈ some text, trim other ≠ "" := by
  intro other member
  rw [← Option.mem_some.mp member]
  exact nonblank

private theorem nonblank_concat {texts : List String} {text : String}
    (all : ∀ other ∈ texts, trim other ≠ "") (nonblank : trim text ≠ "") :
    ∀ other ∈ texts ++ [text], trim other ≠ "" := by
  intro other member
  rcases List.mem_append.mp member with old | new
  · exact all other old
  · rw [List.mem_singleton.mp new]
    exact nonblank

variable {library} in
/-- One flag keeps the texts of the configuration from being blank. -/
theorem Sound.applyFlag {flag : Flag} {text : String} {inline : Option OsString}
    {args : List OsString} {config next : EdgeCliConfig SocketAddr} {rest : Rest args}
    (sound : Sound config)
    (done : Cli.applyFlag library flag text inline args config = .ok (next, rest)) :
    Sound next := by
  cases flag with
  | checkConfig | sse | noSse | keepalive | noKeepalive | prod | noProd | tlsH2 | noTlsH2 |
     acmeIssueOnce | acmeRenewOnce | acmeAcceptTerms | acmeAllowProductionDirectory =>
      rw [switch_eq_ok done]
      exact { sound with }
  | serveRails | maxRequestsPerConnection | h2MaxConcurrentStreams | h2MaxResetStreams |
     edgeThreads | listenerTasks | workerCap | workerSocket | staticRailsPreset | maxBody |
     httpBind | httpsBind | publicOriginPort | tlsCert | tlsKey | acmeStatePath |
     maxInFlightPerIdentity | maxInFlightRequests | headerReadTimeoutMs | keepaliveIdleTimeoutMs |
     maxConnectionSecs | longLivedMaxConnections | longLivedMaxBufferedBytes |
     longLivedDownstreamWriteTimeoutMs | drainGraceMs | adminBind | actionCableBind | grpcBind =>
      obtain ⟨_, _, _, nextEq⟩ := valued_eq_ok done
      rw [nextEq]
      exact { sound with }
  | requestLog =>
      obtain ⟨_, _, found, nextEq⟩ := valued_eq_ok done
      rw [nextEq]
      exact { sound with
        requestLog := nonblank_some (cliStringValue_nonblank found) }
  | workerHop =>
      obtain ⟨_, _, found, nextEq⟩ := valued_eq_ok done
      rw [nextEq]
      exact { sound with
        workerHop := nonblank_some (cliStringValue_nonblank found) }
  | workerDispatch =>
      obtain ⟨_, _, found, nextEq⟩ := valued_eq_ok done
      rw [nextEq]
      exact { sound with
        workerDispatch := nonblank_some (cliStringValue_nonblank found) }
  | staticMount =>
      obtain ⟨_, _, found, nextEq⟩ := valued_eq_ok done
      rw [nextEq]
      exact { sound with
        staticMounts := nonblank_concat sound.staticMounts (cliStringValue_nonblank found) }
  | fqdn =>
      obtain ⟨_, _, found, nextEq⟩ := valued_eq_ok done
      rw [nextEq]
      exact { sound with
        fqdn := nonblank_some (cliStringValue_nonblank found) }
  | acmeDirectoryUrl =>
      obtain ⟨_, _, found, nextEq⟩ := valued_eq_ok done
      rw [nextEq]
      exact { sound with
        acmeDirectoryUrl := nonblank_some (cliStringValue_nonblank found) }
  | acmeContact =>
      obtain ⟨_, _, found, nextEq⟩ := valued_eq_ok done
      rw [nextEq]
      exact { sound with
        acmeContacts := nonblank_concat sound.acmeContacts (cliStringValue_nonblank found) }
  | publicMode =>
      obtain ⟨_, _, found, nextEq⟩ := valued_eq_ok done
      rw [nextEq]
      exact { sound with
        publicMode := nonblank_some (cliStringValue_nonblank found) }
  | publicIdentity =>
      obtain ⟨_, _, found, nextEq⟩ := valued_eq_ok done
      rw [nextEq]
      exact { sound with
        publicIdentity := nonblank_some (cliStringValue_nonblank found) }
  | trustedProxyCidr =>
      obtain ⟨_, _, found, nextEq⟩ := valued_eq_ok done
      rw [nextEq]
      exact { sound with
        trustedProxyCidrs :=
          nonblank_concat sound.trustedProxyCidrs (cliStringValue_nonblank found) }

variable {library} in
private theorem sound_of_parseLoop {args : List OsString} {config result : EdgeCliConfig SocketAddr}
    (sound : Sound config) (parsed : parseLoop library args config = .ok result) :
    Sound result := by
  induction args, config using parseLoop.induct with
  | case1 config =>
      rw [parseLoop] at parsed
      rw [← Except.ok.inj parsed]
      exact sound
  | case2 arg args config inductionHypothesis =>
      rw [parseLoop] at parsed
      obtain ⟨raw, _, split⟩ := bind_eq_ok.mp parsed
      cases known : Flag.ofText (splitInline raw).1 with
      | none =>
          simp only [known] at split
          cases split
      | some flag =>
          simp only [known] at split
          obtain ⟨⟨next, rest⟩, done, behind⟩ := bind_eq_ok.mp split
          exact inductionHypothesis next rest.val rest.property (sound.applyFlag done) behind

theorem sound_default : Sound (EdgeCliConfig.default SocketAddr) := by
  constructor <;> exact fun _ member => nomatch member

/-! ## Reading one flag -/

/-- The arguments take the parser from one configuration to another, whatever follows. -/
def Reads (args : List OsString) (before after : EdgeCliConfig SocketAddr) : Prop :=
  ∀ rest, parseLoop library (args ++ rest) before = parseLoop library rest after

private theorem ofText_text (flag : Flag) : Flag.ofText flag.text = some flag := by
  have all : ∀ flag ∈ Flag.all, Flag.ofText flag.text = some flag := by decide +kernel
  have listed : flag ∈ Flag.all := by cases flag <;> decide
  exact all flag listed

private theorem splitInline_text (flag : Flag) : splitInline flag.text = (flag.text, none) := by
  have all : ∀ flag ∈ Flag.all, splitInline flag.text = (flag.text, none) := by decide +kernel
  have listed : flag ∈ Flag.all := by cases flag <;> decide
  exact all flag listed

/-- A flag as the emitter writes it selects its own arm, without an inline value. -/
private theorem parseLoop_flag (flag : Flag) (args : List OsString)
    (config : EdgeCliConfig SocketAddr) :
    parseLoop library (utf8 flag.text :: args) config =
      applyFlag library flag flag.text none args config >>= fun step =>
        parseLoop library step.2.val step.1 := by
  rw [parseLoop, cliUtf8, fromUtf8_utf8]
  simp only [ok_bind, splitInline_text, ofText_text]

theorem Reads.nil (config : EdgeCliConfig SocketAddr) : Reads library [] config config :=
  fun _ => rfl

variable {library} in
theorem Reads.append {first second : List OsString}
    {before between after : EdgeCliConfig SocketAddr} (left : Reads library first before between)
    (right : Reads library second between after) :
    Reads library (first ++ second) before after := by
  intro rest
  rw [List.append_assoc, left, right]

variable {library} in
private theorem Reads.switch {flag : Flag} {before after : EdgeCliConfig SocketAddr}
    (arm : ∀ args, applyFlag library flag flag.text none args before =
      switch flag.text none args after) : Reads library [utf8 flag.text] before after := by
  intro rest
  rw [List.singleton_append, parseLoop_flag, arm]
  rfl

variable {library} in
private theorem Reads.valued {α : Type} {flag : Flag}
    {read : String → OsString → Except ConfigError α} {store : α → EdgeCliConfig SocketAddr}
    {before : EdgeCliConfig SocketAddr} {raw : OsString} {value : α}
    (arm : ∀ args, applyFlag library flag flag.text none args before =
      valued read flag.text none args store) (readable : read flag.text raw = .ok value) :
    Reads library [utf8 flag.text, raw] before (store value) := by
  intro rest
  rw [List.cons_append, List.singleton_append, parseLoop_flag, arm]
  simp only [Cli.valued, takeCliValue, ok_bind, readable]
  rfl

/-! ## Printed values -/

private theorem numeral_nonblank (value : Nat) : trim (numeral 10 value) ≠ "" := by
  obtain ⟨char, member⟩ := List.exists_mem_of_ne_nil (Nat.toDigits 10 value) Nat.toDigits_ne_nil
  have inText : char ∈ (numeral 10 value).toList := by
    rw [numeral, String.toList_ofList]
    exact member
  have black := isWhitespace_of_isDigit (numeral_digits inText)
  intro blank
  have kept := mem_trimMatches inText black
  rw [show trimMatches isWhitespace (numeral 10 value) = "" from blank] at kept
  cases kept

theorem cliStringValue_utf8 (flag : String) {text : String} (nonblank : trim text ≠ "") :
    cliStringValue library flag (utf8 text) = .ok text := by
  rw [cliStringValue, cliUtf8, fromUtf8_utf8]
  exact if_neg nonblank

theorem parseU64Arg_u64Text (flag : String) (value : UInt64) :
    parseU64Arg library flag (u64Text value) = .ok value := by
  rw [parseU64Arg, u64Text, cliStringValue_utf8 library flag (numeral_nonblank _), ok_bind,
    parseUnsigned_numeral value.toNat_lt]
  simp

theorem parseU16Arg_u16Text (flag : String) (value : UInt16) :
    parseU16Arg library flag (u16Text value) = .ok value := by
  rw [parseU16Arg, u16Text, cliStringValue_utf8 library flag (numeral_nonblank _), ok_bind,
    parseUnsigned_numeral value.toNat_lt]
  simp

theorem parseSocketArg_socketText (flag : String) (addr : SocketAddr) :
    parseSocketArg library flag (socketText library addr) = .ok addr := by
  have nonblank : trim (library.socketAddrText addr) ≠ "" := by
    intro blank
    have refused := library.blank_refused _ blank
    rw [library.reads_back] at refused
    cases refused
  rw [parseSocketArg, socketText, cliStringValue_utf8 library flag nonblank, ok_bind,
    library.reads_back]

/-! ## Forwarding one setting -/

/-- A field of the configuration. -/
structure Setting (SocketAddr α : Type) where
  get : EdgeCliConfig SocketAddr → α
  set : α → EdgeCliConfig SocketAddr → EdgeCliConfig SocketAddr
  set_get : ∀ config, set (get config) config = config
  get_set : ∀ value config, get (set value config) = value
  set_set : ∀ value other config, set value (set other config) = set value config

/-- The laws of a record field hold by definition. -/
def field {α : Type} (get : EdgeCliConfig SocketAddr → α)
    (set : α → EdgeCliConfig SocketAddr → EdgeCliConfig SocketAddr)
    (set_get : ∀ config, set (get config) config = config := by exact fun _ => rfl)
    (get_set : ∀ value config, get (set value config) = value := by exact fun _ _ => rfl)
    (set_set : ∀ value other config, set value (set other config) = set value config := by
      exact fun _ _ _ => rfl) : Setting SocketAddr α :=
  ⟨get, set, set_get, get_set, set_set⟩

/-- A setting on its way through the argument vector: what is written for it behind other
arguments, and what reading that back does to the configuration that is being parsed. -/
structure Forwarded where
  push : EdgeCliConfig SocketAddr → List OsString → List OsString
  merge : EdgeCliConfig SocketAddr → EdgeCliConfig SocketAddr → EdgeCliConfig SocketAddr
  appends : ∀ config args, push config args = args ++ push config []
  reads : ∀ {config}, Sound config → ∀ target,
    Reads library (push config []) target (merge config target)

private theorem pushEach_eq (args : List OsString) (flag : Flag) (values : List OsString) :
    pushEach args flag values = args ++ values.flatMap fun value => [utf8 flag.text, value] := by
  induction values generalizing args with
  | nil => exact (List.append_nil args).symm
  | cons value rest inductionHypothesis =>
      show pushEach (pushArg args flag value) flag rest = _
      rw [inductionHypothesis, List.flatMap_cons, pushArg]
      simp only [List.append_assoc, List.cons_append, List.nil_append]

variable {library} in
private theorem Reads.each {α : Type} (setting : Setting SocketAddr (List α)) {flag : Flag}
    {read : String → OsString → Except ConfigError α} {shows : α → OsString}
    (arm : ∀ args config, applyFlag library flag flag.text none args config =
      Cli.valued read flag.text none args fun value =>
        setting.set (setting.get config ++ [value]) config)
    {values : List α} (readable : ∀ value ∈ values, read flag.text (shows value) = .ok value)
    (target : EdgeCliConfig SocketAddr) :
    Reads library ((values.map shows).flatMap fun value => [utf8 flag.text, value]) target
      (setting.set (setting.get target ++ values) target) := by
  induction values generalizing target with
  | nil =>
      rw [List.append_nil, setting.set_get]
      exact Reads.nil library target
  | cons value rest inductionHypothesis =>
      obtain ⟨valueReadable, restReadable⟩ := List.forall_mem_cons.mp readable
      have first := Reads.valued (fun args => arm args target) valueReadable
      have behind := inductionHypothesis restReadable
        (setting.set (setting.get target ++ [value]) target)
      rw [setting.get_set, setting.set_set, List.append_assoc, List.singleton_append] at behind
      exact first.append behind

namespace Forwarded

variable {library}

/-- A setting with one value: the last one given stands. -/
def given {α : Type} (flag : Flag) (setting : Setting SocketAddr (Option α))
    {read : String → OsString → Except ConfigError α} (shows : α → OsString)
    (arm : ∀ args config, applyFlag library flag flag.text none args config =
      valued read flag.text none args fun value => setting.set (some value) config)
    (readable : ∀ {config}, Sound config → ∀ value ∈ setting.get config,
      read flag.text (shows value) = .ok value) : Forwarded library where
  push config args := pushSome args flag ((setting.get config).map shows)
  merge config target := setting.set ((setting.get config).or (setting.get target)) target
  appends := by
    intro config args
    cases setting.get config with
    | none => exact (List.append_nil args).symm
    | some value => exact List.append_assoc ..
  reads := by
    intro config sound target
    cases found : setting.get config with
    | none =>
        rw [Option.none_or, setting.set_get]
        exact Reads.nil library target
    | some value =>
        have step := Reads.valued (fun args => arm args target) (readable sound value found)
        exact step

/-- A setting with a list of values: each one given is added. -/
def repeated {α : Type} (flag : Flag) (setting : Setting SocketAddr (List α))
    {read : String → OsString → Except ConfigError α} (shows : α → OsString)
    (arm : ∀ args config, applyFlag library flag flag.text none args config =
      valued read flag.text none args fun value =>
        setting.set (setting.get config ++ [value]) config)
    (readable : ∀ {config}, Sound config → ∀ value ∈ setting.get config,
      read flag.text (shows value) = .ok value) : Forwarded library where
  push config args := pushEach args flag ((setting.get config).map shows)
  merge config target := setting.set (setting.get target ++ setting.get config) target
  appends := by
    intro config args
    rw [pushEach_eq, pushEach_eq [], List.nil_append]
  reads := by
    intro config sound target
    rw [pushEach_eq, List.nil_append]
    exact Reads.each setting arm (readable sound) target

def number (flag : Flag) (setting : Setting SocketAddr (Option UInt64))
    (arm : ∀ args config, applyFlag library flag flag.text none args config =
      valued (parseU64Arg library) flag.text none args fun value =>
        setting.set (some value) config) : Forwarded library :=
  given flag setting u64Text arm fun _ value _ => parseU64Arg_u64Text library flag.text value

def port (flag : Flag) (setting : Setting SocketAddr (Option UInt16))
    (arm : ∀ args config, applyFlag library flag flag.text none args config =
      valued (parseU16Arg library) flag.text none args fun value =>
        setting.set (some value) config) : Forwarded library :=
  given flag setting u16Text arm fun _ value _ => parseU16Arg_u16Text library flag.text value

def socket (flag : Flag) (setting : Setting SocketAddr (Option SocketAddr))
    (arm : ∀ args config, applyFlag library flag flag.text none args config =
      valued (parseSocketArg library) flag.text none args fun value =>
        setting.set (some value) config) : Forwarded library :=
  given flag setting (socketText library) arm fun _ addr _ =>
    parseSocketArg_socketText library flag.text addr

def path (flag : Flag) (setting : Setting SocketAddr (Option OsString))
    (arm : ∀ args config, applyFlag library flag flag.text none args config =
      valued pathValue flag.text none args fun value =>
        setting.set (some value) config) : Forwarded library :=
  given flag setting id arm fun _ _ _ => rfl

def paths (flag : Flag) (setting : Setting SocketAddr (List OsString))
    (arm : ∀ args config, applyFlag library flag flag.text none args config =
      valued pathValue flag.text none args fun value =>
        setting.set (setting.get config ++ [value]) config) : Forwarded library :=
  repeated flag setting id arm fun _ _ _ => rfl

def text (flag : Flag) (setting : Setting SocketAddr (Option String))
    (nonblank : ∀ {config}, Sound config → ∀ text ∈ setting.get config, trim text ≠ "")
    (arm : ∀ args config, applyFlag library flag flag.text none args config =
      valued (cliStringValue library) flag.text none args fun value =>
        setting.set (some value) config) : Forwarded library :=
  given flag setting utf8 arm fun sound value member =>
    cliStringValue_utf8 library flag.text (nonblank sound value member)

def texts (flag : Flag) (setting : Setting SocketAddr (List String))
    (nonblank : ∀ {config}, Sound config → ∀ text ∈ setting.get config, trim text ≠ "")
    (arm : ∀ args config, applyFlag library flag flag.text none args config =
      valued (cliStringValue library) flag.text none args fun value =>
        setting.set (setting.get config ++ [value]) config) : Forwarded library :=
  repeated flag setting utf8 arm fun sound value member =>
    cliStringValue_utf8 library flag.text (nonblank sound value member)

/-- A setting that one flag turns on. -/
def toggled (flag : Flag) (setting : Setting SocketAddr Bool)
    (arm : ∀ args config, applyFlag library flag flag.text none args config =
      switch flag.text none args (setting.set true config)) : Forwarded library where
  push config args := pushSet args flag (setting.get config)
  merge config target := setting.set (setting.get config || setting.get target) target
  appends := by
    intro config args
    cases setting.get config with
    | false => exact (List.append_nil args).symm
    | true => rfl
  reads := by
    intro config _ target
    cases setting.get config with
    | false =>
        rw [Bool.false_or, setting.set_get]
        exact Reads.nil library target
    | true => exact Reads.switch fun args => arm args target

/-- A setting that one flag turns on and another off. -/
def chosen (on off : Flag) (setting : Setting SocketAddr (Option Bool))
    (onArm : ∀ args config, applyFlag library on on.text none args config =
      switch on.text none args (setting.set (some true) config))
    (offArm : ∀ args config, applyFlag library off off.text none args config =
      switch off.text none args (setting.set (some false) config)) : Forwarded library where
  push config args := pushChoice args on off (setting.get config)
  merge config target := setting.set ((setting.get config).or (setting.get target)) target
  appends := by
    intro config args
    match setting.get config with
    | none => exact (List.append_nil args).symm
    | some true => rfl
    | some false => rfl
  reads := by
    intro config _ target
    match setting.get config with
    | none =>
        rw [Option.none_or, setting.set_get]
        exact Reads.nil library target
    | some true => exact Reads.switch fun args => onArm args target
    | some false => exact Reads.switch fun args => offArm args target

end Forwarded

/-! ## Round trip -/

/-- The settings in the order they are forwarded. -/
def settings : List (Forwarded library) :=
  [ .paths .workerSocket
      (field (·.workerSockets) fun value config => { config with workerSockets := value })
      (fun _ _ => rfl),
    .number .maxBody
      (field (·.maxBodyBytes) fun value config => { config with maxBodyBytes := value })
      (fun _ _ => rfl),
    .socket .httpBind
      (field (·.httpBind) fun value config => { config with httpBind := value })
      (fun _ _ => rfl),
    .socket .httpsBind
      (field (·.httpsBind) fun value config => { config with httpsBind := value })
      (fun _ _ => rfl),
    .text .fqdn
      (field (·.fqdn) fun value config => { config with fqdn := value })
      (·.fqdn) (fun _ _ => rfl),
    .port .publicOriginPort
      (field (·.publicOriginPort) fun value config => { config with publicOriginPort := value })
      (fun _ _ => rfl),
    .path .tlsCert
      (field (·.tlsCert) fun value config => { config with tlsCert := value })
      (fun _ _ => rfl),
    .path .tlsKey
      (field (·.tlsKey) fun value config => { config with tlsKey := value })
      (fun _ _ => rfl),
    .chosen .tlsH2 .noTlsH2
      (field (·.tlsH2) fun value config => { config with tlsH2 := value })
      (fun _ _ => rfl) (fun _ _ => rfl),
    .path .acmeStatePath
      (field (·.acmeStatePath) fun value config => { config with acmeStatePath := value })
      (fun _ _ => rfl),
    .toggled .acmeIssueOnce
      (field (·.acmeIssueOnce) fun value config => { config with acmeIssueOnce := value })
      (fun _ _ => rfl),
    .toggled .acmeRenewOnce
      (field (·.acmeRenewOnce) fun value config => { config with acmeRenewOnce := value })
      (fun _ _ => rfl),
    .text .acmeDirectoryUrl
      (field (·.acmeDirectoryUrl) fun value config => { config with acmeDirectoryUrl := value })
      (·.acmeDirectoryUrl) (fun _ _ => rfl),
    .texts .acmeContact
      (field (·.acmeContacts) fun value config => { config with acmeContacts := value })
      (·.acmeContacts) (fun _ _ => rfl),
    .toggled .acmeAcceptTerms
      (field (·.acmeAcceptTerms) fun value config => { config with acmeAcceptTerms := value })
      (fun _ _ => rfl),
    .toggled .acmeAllowProductionDirectory
      (field (·.acmeAllowProductionDirectory) fun value config =>
        { config with acmeAllowProductionDirectory := value })
      (fun _ _ => rfl),
    .text .publicMode
      (field (·.publicMode) fun value config => { config with publicMode := value })
      (·.publicMode) (fun _ _ => rfl),
    .text .publicIdentity
      (field (·.publicIdentity) fun value config => { config with publicIdentity := value })
      (·.publicIdentity) (fun _ _ => rfl),
    .texts .trustedProxyCidr
      (field (·.trustedProxyCidrs) fun value config => { config with trustedProxyCidrs := value })
      (·.trustedProxyCidrs) (fun _ _ => rfl),
    .number .maxInFlightPerIdentity
      (field (·.maxInFlightPerIdentity) fun value config =>
        { config with maxInFlightPerIdentity := value })
      (fun _ _ => rfl),
    .number .maxInFlightRequests
      (field (·.maxInFlightRequests) fun value config =>
        { config with maxInFlightRequests := value })
      (fun _ _ => rfl),
    .number .headerReadTimeoutMs
      (field (·.headerReadTimeoutMs) fun value config =>
        { config with headerReadTimeoutMs := value })
      (fun _ _ => rfl),
    .number .keepaliveIdleTimeoutMs
      (field (·.keepaliveIdleTimeoutMs) fun value config =>
        { config with keepaliveIdleTimeoutMs := value })
      (fun _ _ => rfl),
    .number .maxConnectionSecs
      (field (·.maxConnectionSecs) fun value config => { config with maxConnectionSecs := value })
      (fun _ _ => rfl),
    .number .longLivedMaxConnections
      (field (·.longLivedMaxConnections) fun value config =>
        { config with longLivedMaxConnections := value })
      (fun _ _ => rfl),
    .number .longLivedMaxBufferedBytes
      (field (·.longLivedMaxBufferedBytes) fun value config =>
        { config with longLivedMaxBufferedBytes := value })
      (fun _ _ => rfl),
    .number .longLivedDownstreamWriteTimeoutMs
      (field (·.longLivedDownstreamWriteTimeoutMs) fun value config =>
        { config with longLivedDownstreamWriteTimeoutMs := value })
      (fun _ _ => rfl),
    .number .drainGraceMs
      (field (·.drainGraceMs) fun value config => { config with drainGraceMs := value })
      (fun _ _ => rfl),
    .socket .adminBind
      (field (·.adminBind) fun value config => { config with adminBind := value })
      (fun _ _ => rfl),
    .socket .actionCableBind
      (field (·.actionCableBind) fun value config => { config with actionCableBind := value })
      (fun _ _ => rfl),
    .socket .grpcBind
      (field (·.grpcBind) fun value config => { config with grpcBind := value })
      (fun _ _ => rfl),
    .chosen .sse .noSse
      (field (·.sseEnabled) fun value config => { config with sseEnabled := value })
      (fun _ _ => rfl) (fun _ _ => rfl),
    .chosen .keepalive .noKeepalive
      (field (·.keepaliveEnabled) fun value config => { config with keepaliveEnabled := value })
      (fun _ _ => rfl) (fun _ _ => rfl),
    .chosen .prod .noProd
      (field (·.prodEnabled) fun value config => { config with prodEnabled := value })
      (fun _ _ => rfl) (fun _ _ => rfl),
    .number .maxRequestsPerConnection
      (field (·.maxRequestsPerConnection) fun value config =>
        { config with maxRequestsPerConnection := value })
      (fun _ _ => rfl),
    .number .h2MaxConcurrentStreams
      (field (·.h2MaxConcurrentStreams) fun value config =>
        { config with h2MaxConcurrentStreams := value })
      (fun _ _ => rfl),
    .number .h2MaxResetStreams
      (field (·.h2MaxResetStreams) fun value config => { config with h2MaxResetStreams := value })
      (fun _ _ => rfl),
    .number .edgeThreads
      (field (·.edgeThreads) fun value config => { config with edgeThreads := value })
      (fun _ _ => rfl),
    .number .listenerTasks
      (field (·.listenerTasks) fun value config => { config with listenerTasks := value })
      (fun _ _ => rfl),
    .text .requestLog
      (field (·.requestLog) fun value config => { config with requestLog := value })
      (·.requestLog) (fun _ _ => rfl),
    .text .workerHop
      (field (·.workerHop) fun value config => { config with workerHop := value })
      (·.workerHop) (fun _ _ => rfl),
    .text .workerDispatch
      (field (·.workerDispatch) fun value config => { config with workerDispatch := value })
      (·.workerDispatch) (fun _ _ => rfl),
    .number .workerCap
      (field (·.workerCap) fun value config => { config with workerCap := value })
      (fun _ _ => rfl),
    .texts .staticMount
      (field (·.staticMounts) fun value config => { config with staticMounts := value })
      (·.staticMounts) (fun _ _ => rfl),
    .path .staticRailsPreset
      (field (·.staticRailsPreset) fun value config => { config with staticRailsPreset := value })
      (fun _ _ => rfl),
    .path .serveRails
      (field (·.serveRails) fun value config => { config with serveRails := value })
      (fun _ _ => rfl),
    .toggled .checkConfig
      (field (·.checkConfig) fun value config => { config with checkConfig := value })
      (fun _ _ => rfl) ]

private theorem toEdgeArgs_eq (config : EdgeCliConfig SocketAddr) :
    toEdgeArgs library config =
      (settings library).foldl (fun args setting => setting.push config args) [] := by
  simp only [toEdgeArgs, settings, List.foldl_cons, List.foldl_nil, Forwarded.number,
    Forwarded.port, Forwarded.socket, Forwarded.path, Forwarded.paths, Forwarded.text,
    Forwarded.texts, Forwarded.given, Forwarded.repeated, Forwarded.toggled, Forwarded.chosen,
    field, Option.map_id_apply, List.map_id]

variable {library} in
/-- Settings written one behind the other are read back one after the other. -/
private theorem reads_pushed {config : EdgeCliConfig SocketAddr} (sound : Sound config)
    (list : List (Forwarded library)) {args : List OsString}
    {before target : EdgeCliConfig SocketAddr} (read : Reads library args before target) :
    Reads library (list.foldl (fun args setting => setting.push config args) args) before
      (list.foldl (fun target setting => setting.merge config target) target) := by
  induction list generalizing args target with
  | nil => exact read
  | cons setting rest inductionHypothesis =>
      apply inductionHypothesis
      show Reads library (setting.push config args) _ _
      rw [setting.appends]
      exact read.append (setting.reads sound target)

/-- Merged into nothing, the settings of a configuration are all of it. -/
private theorem merged_default (config : EdgeCliConfig SocketAddr) :
    (settings library).foldl (fun target setting => setting.merge config target)
      (EdgeCliConfig.default SocketAddr) = config := by
  simp only [settings, List.foldl_cons, List.foldl_nil, Forwarded.number, Forwarded.port,
    Forwarded.socket, Forwarded.path, Forwarded.paths, Forwarded.text, Forwarded.texts,
    Forwarded.given, Forwarded.repeated, Forwarded.toggled, Forwarded.chosen, field,
    EdgeCliConfig.default, Option.or_none, List.nil_append, Bool.or_false]

variable {library} in
/-- What the parser accepted, it accepts again from the forwarded arguments. -/
theorem cli_forwarding_round_trip {args : List OsString} {config : EdgeCliConfig SocketAddr}
    (accepted : parseFlags library args = .ok config) :
    parseFlags library (toEdgeArgs library config) = .ok config := by
  have sound : Sound config := sound_of_parseLoop sound_default accepted
  have read := reads_pushed sound (settings library)
    (Reads.nil library (EdgeCliConfig.default SocketAddr)) []
  rw [List.append_nil, ← toEdgeArgs_eq, merged_default, parseLoop] at read
  exact read

/-! A run: inline and separate values, values that open with a dash or hold an equals sign. -/

/-- The socket addresses on the IPv4 loopback, by port. -/
def loopbackLibrary : Library UInt16 where
  parseSocketAddr text :=
    if startsWith text "127.0.0.1:" then
      (parseUnsigned (2 ^ 16) (String.ofList (text.toList.drop 10))).map UInt16.ofNat
    else none
  socketAddrText port := "127.0.0.1:" ++ numeral 10 port.toNat
  reads_back port := by
    have chars : ("127.0.0.1:" ++ numeral 10 port.toNat).toList =
        "127.0.0.1:".toList ++ (numeral 10 port.toNat).toList := String.toList_append
    have opens : startsWith ("127.0.0.1:" ++ numeral 10 port.toNat) "127.0.0.1:" = true := by
      rw [startsWith, chars, List.isPrefixOf_iff_prefix]
      exact List.prefix_append ..
    have behind : ("127.0.0.1:" ++ numeral 10 port.toNat).toList.drop 10 =
        (numeral 10 port.toNat).toList := by
      rw [chars]
      rfl
    rw [if_pos opens, behind, String.ofList_toList, parseUnsigned_numeral port.toNat_lt]
    simp
  blank_refused text blank := by
    rw [if_neg]
    intro opens
    have one : '1' ∈ text.toList := by
      rw [startsWith, List.isPrefixOf_iff_prefix] at opens
      exact opens.subset (by decide)
    have kept : '1' ∈ (trimMatches isWhitespace text).toList :=
      mem_trimMatches one (by decide)
    rw [show trimMatches isWhitespace text = "" from blank] at kept
    cases kept
  debugOsString _ := ".."
  socketAddrError _ := "invalid socket address syntax"
  intError _ := "invalid digit found in string"

def sampleArgs : List OsString :=
  ["--worker-socket", "/run/w.sock", "--http-bind=127.0.0.1:8080", "--max-body", "+2048",
    "--fqdn", "--sse", "--acme-contact=mailto:a=b", "--no-sse", "--check-config"].map utf8

def sampleConfig : EdgeCliConfig UInt16 :=
  { EdgeCliConfig.default UInt16 with
    workerSockets := [utf8 "/run/w.sock"]
    httpBind := some 8080
    maxBodyBytes := some 2048
    fqdn := some "--sse"
    acmeContacts := ["mailto:a=b"]
    sseEnabled := some false
    checkConfig := true }

theorem cli_forwarding_round_trip_sample :
    parseFlags loopbackLibrary sampleArgs = .ok sampleConfig ∧
      parseFlags loopbackLibrary (toEdgeArgs loopbackLibrary sampleConfig) = .ok sampleConfig := by
  have accepted : parseFlags loopbackLibrary sampleArgs = .ok sampleConfig := by decide +kernel
  exact ⟨accepted, cli_forwarding_round_trip accepted⟩

end Oxo.Edge.Cli
