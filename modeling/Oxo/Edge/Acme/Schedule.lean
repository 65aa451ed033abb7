import Oxo.Edge.Acme.Stages
import Oxo.Foundation.Machine

/-!
Contract: the renewal schedule that the state directory reports, over persists and
rollbacks that may fail or be cut anywhere.

Owns: the operations on the directory as steps of a machine, the bound of metadata by
its certificate, what an operation brings into each place, and the proof that reported
times stay within the certificate in use when certificates and metadata are replaced
together.

Does not own: who runs the operations, and when.
-/

namespace Oxo.Edge.Acme

open Oxo.Foundation

variable {libraries : Libraries} {policy : AcmeRenewalPolicy} {stateDir : String}

/-! ## Operations -/

/-- A certificate that states no expiry but its own. -/
structure Issuance (libraries : Libraries) where
  issued : IssuedCertificate
  own : ∀ value, issued.notAfterEpochSeconds = some value →
    certificateNotAfterEpochSeconds libraries issued.certificatePem = .ok (some value)

inductive Operation (libraries : Libraries) where
  | persist (issuance : Issuance libraries) (now : UInt64)
  | rollback (now : UInt64) (reason : String)

def Operation.program (policy : AcmeRenewalPolicy) (stateDir : String) :
    Operation libraries → ExceptT AcmeError Disk Unit
  | .persist issuance now => Acme.persist libraries issuance.issued policy now
  | .rollback now reason => rollbackToRetainedPair libraries stateDir now reason

/-- An operation, and how each of its file operations goes; it is cut where the script ends. -/
structure Attempt (libraries : Libraries) where
  operation : Operation libraries
  script : List Fault

def World.attempt (policy : AcmeRenewalPolicy) (stateDir : String) (world : World)
    (attempt : Attempt libraries) : World :=
  (Program.replay World.respond (attempt.operation.program policy stateDir).run world.fresh
    attempt.script).1

/-! ## Bounds -/

/-- What metadata states under a key. -/
def stated (libraries : Libraries) (key : String) (bytes : List UInt8) : Option UInt64 :=
  match libraries.fromSlice bytes with
  | .ok value => jsonU64 value key
  | .error _ => none

/-- Metadata that states no expiry and no renewal later than those of the certificate. -/
def NotLater (libraries : Libraries) (policy : AcmeRenewalPolicy)
    (issue certificate : Option (List UInt8)) : Prop :=
  ∀ expiry ∈ certificate.bind (certificateExpiry libraries),
    (∀ value ∈ issue.bind (stated libraries "not_after_epoch_seconds"), value ≤ expiry) ∧
    ∀ value ∈ issue.bind (stated libraries "next_renewal_epoch_seconds"),
      value ≤ U64.saturatingSub expiry policy.renewBeforeSeconds

instance (issue certificate : Option (List UInt8)) :
    Decidable (NotLater libraries policy issue certificate) :=
  @Option.decidableForallMem _ _
    (fun _ => @instDecidableAnd _ _ (Option.decidableForallMem _) (Option.decidableForallMem _)) _

/-- Times a status reports, none later than those of the certificate in `cert.pem`. -/
def Reported.Within (libraries : Libraries) (policy : AcmeRenewalPolicy) (contents : Contents)
    (status : CertificateLifecycleStatus) : Prop :=
  ∀ expiry ∈ (contents.file (.certificate .live)).bind (certificateExpiry libraries),
    (∀ value ∈ status.notAfterEpochSeconds, value ≤ expiry) ∧
    ∀ value ∈ status.nextRenewalEpochSeconds,
      value ≤ U64.saturatingSub expiry policy.renewBeforeSeconds

instance (contents : Contents) (status : CertificateLifecycleStatus) :
    Decidable (Reported.Within libraries policy contents status) :=
  @Option.decidableForallMem _ _
    (fun _ => @instDecidableAnd _ _ (Option.decidableForallMem _) (Option.decidableForallMem _)) _

/-- Every certificate bounds the metadata beside it, and no key is without a certificate. -/
structure Contents.Sound (libraries : Libraries) (policy : AcmeRenewalPolicy)
    (contents : Contents) : Prop where
  bounded : ∀ slot, NotLater libraries policy (contents.file (.issue slot))
    (contents.file (.certificate slot))
  keyed : contents.file (.certificate .live) = none → contents.file (.key .live) = none

theorem sound_empty (createdMode : Nat) :
    (World.empty createdMode).contents.Sound libraries policy where
  bounded slot expiry found := by cases found
  keyed _ := rfl

/-! ## What an operation brings -/

/-- The certificate an operation brings into a place, if it brings one. -/
def Operation.certificate (contents : Contents) : Operation libraries → Slot → Option (List UInt8)
  | .persist issuance _, .live => some (utf8 issuance.issued.certificatePem)
  | .persist _ _, .retained _ => contents.file (.certificate .live)
  | .rollback _ _, .live =>
      contents.newestRetained.bind fun epoch => contents.file (.certificate (.retained epoch))
  | .rollback _ _, .retained _ => none

/-- The metadata an operation brings with it. -/
def Operation.issue (policy : AcmeRenewalPolicy) (contents : Contents) :
    Operation libraries → Slot → Option (List UInt8)
  | .persist issuance now, .live =>
      match issuedNotAfter libraries issuance.issued with
      | .ok notAfter =>
          match libraries.toStringPretty
              (issueMetadata issuance.issued policy notAfter now) with
          | .ok text => some (utf8 text)
          | .error _ => none
      | .error _ => none
  | .persist _ _, .retained _ => contents.file (.issue .live)
  | .rollback _ _, .live =>
      contents.newestRetained.bind fun epoch => contents.file (.issue (.retained epoch))
  | .rollback _ _, .retained _ => none

/-- The places whose certificate was replaced. -/
def Contents.replaced (contents : Contents) : List Slot :=
  contents.changed.filterMap fun name =>
    match name with
    | .certificate slot => some slot
    | _ => none

/-- Where an attempt replaces a certificate, it also replaces or removes the metadata beside it,
unless that metadata is no later than the new certificate. -/
def Matched (policy : AcmeRenewalPolicy) (stateDir : String) (world : World)
    (attempt : Attempt libraries) : Prop :=
  ∀ slot ∈ (world.attempt policy stateDir attempt).contents.replaced,
    .issue slot ∈ (world.attempt policy stateDir attempt).contents.changed ∨
      NotLater libraries policy (world.contents.file (.issue slot))
        (attempt.operation.certificate world.contents slot)

instance (world : World) (attempt : Attempt libraries) :
    Decidable (Matched policy stateDir world attempt) :=
  inferInstanceAs (Decidable (∀ slot,
    slot ∈ (world.attempt policy stateDir attempt).contents.replaced →
      .issue slot ∈ (world.attempt policy stateDir attempt).contents.changed ∨
        NotLater libraries policy (world.contents.file (.issue slot))
          (attempt.operation.certificate world.contents slot)))

/-! ## During an operation -/

/-- Files that the bounds depend on. -/
def FileName.bearing : FileName → Bool
  | .certificate _ | .issue _ | .key .live => true
  | _ => false

/-- In the middle of an operation: what was not changed is as before, and what was changed
holds what the operation brings. -/
structure Underway (policy : AcmeRenewalPolicy) (operation : Operation libraries)
    (before contents : Contents) : Prop where
  untouched : ∀ name, name ∉ contents.changed → contents.file name = before.file name
  certificate : ∀ slot, .certificate slot ∈ contents.changed →
    contents.file (.certificate slot) = operation.certificate before slot
  issue : ∀ slot, .issue slot ∈ contents.changed → .certificate slot ∈ contents.changed ∧
    contents.file (.issue slot) = operation.issue policy before slot
  keyed : contents.file (.certificate .live) = none → contents.file (.key .live) = none

namespace Underway

variable {operation : Operation libraries} {before contents : Contents} {slot : Slot}
  {bytes : List UInt8}

theorem start (sound : before.Sound libraries policy) (fresh : before.changed = []) :
    Underway policy operation before before where
  untouched _ _ := rfl
  certificate slot changed := by rw [fresh] at changed; cases changed
  issue slot changed := by rw [fresh] at changed; cases changed
  keyed := sound.keyed

/-- One file changes. -/
private theorem change (underway : Underway policy operation before contents) {after : Contents}
    {name : FileName} (changed : after.changed = name :: contents.changed)
    (others : ∀ other, other ≠ name → after.file other = contents.file other)
    (certificate : ∀ slot, name = .certificate slot →
      after.file name = operation.certificate before slot)
    (issue : ∀ slot, name = .issue slot → .certificate slot ∈ contents.changed ∧
      after.file name = operation.issue policy before slot)
    (keyed : after.file (.certificate .live) = none → after.file (.key .live) = none) :
    Underway policy operation before after := by
  refine ⟨fun other absent => ?_, fun slot settled => ?_, fun slot settled => ?_, keyed⟩
  · rw [changed, List.mem_cons, not_or] at absent
    rw [others other absent.1, underway.untouched other absent.2]
  · by_cases same : name = .certificate slot
    · rw [← same]
      exact certificate slot same
    · rw [changed, List.mem_cons] at settled
      rw [others _ (Ne.symm same)]
      exact underway.certificate slot (settled.resolve_left (Ne.symm same))
  · rw [changed]
    by_cases same : name = .issue slot
    · rw [← same]
      exact ⟨List.mem_cons_of_mem _ (issue slot same).1, (issue slot same).2⟩
    · rw [changed, List.mem_cons] at settled
      have earlier := underway.issue slot (settled.resolve_left (Ne.symm same))
      rw [others _ (Ne.symm same)]
      exact ⟨List.mem_cons_of_mem _ earlier.1, earlier.2⟩

/-- A file that bears no bound. -/
theorem rename_other (underway : Underway policy operation before contents) {name : FileName}
    (other : name.bearing = false) :
    Underway policy operation before (contents.rename name bytes) := by
  refine underway.change rfl (fun _ ne => Contents.file_rename_ne ne) ?_ ?_ ?_
  · rintro slot rfl
    cases other
  · rintro slot rfl
    cases other
  · have certificateNe : FileName.certificate .live ≠ name := by
      rintro rfl
      cases other
    have keyNe : FileName.key .live ≠ name := by
      rintro rfl
      cases other
    rw [Contents.file_rename_ne certificateNe, Contents.file_rename_ne keyNe]
    exact underway.keyed

theorem rename_certificate (underway : Underway policy operation before contents)
    (brought : operation.certificate before slot = some bytes) :
    Underway policy operation before (contents.rename (.certificate slot) bytes) := by
  refine underway.change rfl (fun _ ne => Contents.file_rename_ne ne) ?_ ?_ ?_
  · rintro place ⟨⟩
    rw [Contents.file_rename, brought]
  · rintro place ⟨⟩
  · intro absent
    rw [Contents.file_rename_ne FileName.noConfusion]
    by_cases same : FileName.certificate .live = .certificate slot
    · rw [same, Contents.file_rename] at absent
      cases absent
    · rw [Contents.file_rename_ne same] at absent
      exact underway.keyed absent

theorem rename_key (underway : Underway policy operation before contents)
    (present : contents.file (.certificate .live) ≠ none) :
    Underway policy operation before (contents.rename (.key .live) bytes) := by
  refine underway.change rfl (fun _ ne => Contents.file_rename_ne ne) ?_ ?_ ?_
  · rintro place ⟨⟩
  · rintro place ⟨⟩
  · intro absent
    rw [Contents.file_rename_ne FileName.noConfusion] at absent
    exact absurd absent present

theorem rename_issue (underway : Underway policy operation before contents)
    (replaced : .certificate slot ∈ contents.changed)
    (brought : operation.issue policy before slot = some bytes) :
    Underway policy operation before (contents.rename (.issue slot) bytes) := by
  refine underway.change rfl (fun _ ne => Contents.file_rename_ne ne) ?_ ?_ ?_
  · rintro place ⟨⟩
  · rintro place ⟨⟩
    rw [Contents.file_rename, brought]
    exact ⟨replaced, rfl⟩
  · rw [Contents.file_rename_ne FileName.noConfusion, Contents.file_rename_ne FileName.noConfusion]
    exact underway.keyed

theorem remove_issue (underway : Underway policy operation before contents)
    (replaced : .certificate slot ∈ contents.changed)
    (brought : operation.issue policy before slot = none) :
    Underway policy operation before (contents.remove (.issue slot)) := by
  refine underway.change rfl (fun _ ne => Contents.file_remove_ne ne) ?_ ?_ ?_
  · rintro place ⟨⟩
  · rintro place ⟨⟩
    rw [Contents.file_remove, brought]
    exact ⟨replaced, rfl⟩
  · rw [Contents.file_remove_ne FileName.noConfusion, Contents.file_remove_ne FileName.noConfusion]
    exact underway.keyed

end Underway

section

variable {operation : Operation libraries} {before contents : Contents}

/-- Underway, with the pair in use and its metadata as they were. -/
private structure Retaining (policy : AcmeRenewalPolicy) (operation : Operation libraries)
    (before contents : Contents) : Prop where
  underway : Underway policy operation before contents
  certificate : .certificate .live ∉ contents.changed
  issue : .issue .live ∉ contents.changed

/-- Copies into the retained directory leave the pair in use. -/
private theorem Retaining.rename (retaining : Retaining policy operation before contents)
    {name : FileName} {bytes : List UInt8} (certificateNe : FileName.certificate .live ≠ name)
    (issueNe : FileName.issue .live ≠ name)
    (underway : Underway policy operation before (contents.rename name bytes)) :
    Retaining policy operation before (contents.rename name bytes) where
  underway := underway
  certificate := by
    rw [Contents.changed_rename, List.mem_cons, not_or]
    exact ⟨certificateNe, retaining.certificate⟩
  issue := by
    rw [Contents.changed_rename, List.mem_cons, not_or]
    exact ⟨issueNe, retaining.issue⟩

variable {issuance : Issuance libraries} {now : UInt64}

/-! ## Persist -/

/-- The metadata follows its certificate, into the retained directory and into use. -/
private def PersistedTo (policy : AcmeRenewalPolicy) (issuance : Issuance libraries) (now : UInt64)
    (before : Contents) : PersistStage → Contents → Prop
  | .begun, contents => contents = before
  | .marked, contents | .retained, contents =>
      Retaining policy (.persist issuance now) before contents
  | .certificateRetained, contents | .keyRetained, contents =>
      Retaining policy (.persist issuance now) before contents ∧
        .certificate (.retained now) ∈ contents.changed
  | .certificateReplaced, contents | .replaced, contents =>
      Underway policy (.persist issuance now) before contents ∧
        .certificate .live ∈ contents.changed
  | .described, contents => Underway policy (.persist issuance now) before contents

private theorem persistStages (sound : before.Sound libraries policy)
    (fresh : before.changed = []) :
    PersistStages libraries issuance.issued policy now
      (PersistedTo policy issuance now before) where
  marker contents bytes begun := by
    cases begun
    refine ⟨(Underway.start sound fresh).rename_other rfl, ?_, ?_⟩ <;>
      rw [Contents.changed_rename, fresh] <;> decide
  bare contents retaining _ _ := retaining
  retainCertificate contents retaining := by
    refine ⟨fun missing key => absurd (retaining.underway.keyed missing) key, fun bytes found => ?_⟩
    have brought : (Operation.persist issuance now).certificate before (.retained now) =
        some bytes := by
      rw [← found, retaining.underway.untouched _ retaining.certificate]
      rfl
    exact ⟨retaining.rename (by simp) FileName.noConfusion
      (retaining.underway.rename_certificate brought), List.mem_cons_self⟩
  retainKey contents certified := by
    refine ⟨fun _ => certified, fun bytes _ => ⟨?_, List.mem_cons_of_mem _ certified.2⟩⟩
    exact certified.1.rename FileName.noConfusion FileName.noConfusion
      (certified.1.underway.rename_other rfl)
  retainIssue contents keyed := by
    refine ⟨fun _ => keyed.1, fun bytes found => ?_⟩
    have brought : (Operation.persist issuance now).issue policy before (.retained now) =
        some bytes := by
      rw [← found, keyed.1.underway.untouched _ keyed.1.issue]
      rfl
    exact keyed.1.rename FileName.noConfusion (by simp)
      (keyed.1.underway.rename_issue keyed.2 brought)
  replaceCertificate contents retaining :=
    ⟨retaining.underway.rename_certificate rfl, List.mem_cons_self⟩
  replaceKey contents certified := by
    refine ⟨certified.1.rename_key ?_, List.mem_cons_of_mem _ certified.2⟩
    rw [certified.1.certificate .live certified.2]
    exact Option.some_ne_none _
  describe contents notAfter text replaced expiry encoded := by
    refine replaced.1.rename_issue replaced.2 ?_
    simp only [Operation.issue, expiry, encoded]

/-- Wherever a persist is cut or fails. -/
theorem persist_underway (sound : before.Sound libraries policy) (fresh : before.changed = []) :
    Keeps (Underway policy (.persist issuance now) before)
      (Acme.persist libraries issuance.issued policy now) before
      (Ends (Underway policy (.persist issuance now) before)
        fun _ => Underway policy (.persist issuance now) before) := by
  refine (persist_stages (persistStages sound fresh) rfl).within (fun stage contents here => ?_)
    fun _ contents here => here
  cases stage with
  | begun =>
      cases here
      exact Underway.start sound fresh
  | marked => exact here.underway
  | certificateRetained => exact here.1.underway
  | keyRetained => exact here.1.underway
  | retained => exact here.underway
  | certificateReplaced => exact here.1
  | replaced => exact here.1
  | described => exact here

/-! ## Rollback -/

variable {reason : String}

/-- The certificate in use is the retained one; the retained metadata is as it was. -/
private def RolledBackTo (policy : AcmeRenewalPolicy) (now : UInt64) (reason : String)
    (libraries : Libraries) (before : Contents) : RollbackStage → Contents → Prop
  | .begun, contents => contents = before
  | .certificateReplaced, contents =>
      Underway policy (.rollback now reason : Operation libraries) before contents
  | .replaced, contents =>
      Underway policy (.rollback now reason : Operation libraries) before contents ∧
        .certificate .live ∈ contents.changed ∧
        ∀ epoch, contents.file (.issue (.retained epoch)) = before.file (.issue (.retained epoch))

private theorem rollbackStages (sound : before.Sound libraries policy)
    (fresh : before.changed = []) :
    RollbackStages before (RolledBackTo policy now reason libraries before) := by
  have certificate {epoch : UInt64} {bytes : List UInt8}
      (newest : before.newestRetained = some epoch)
      (found : before.file (.certificate (.retained epoch)) = some bytes) :
      Underway policy (.rollback now reason : Operation libraries) before
        (before.rename (.certificate .live) bytes) := by
    refine (Underway.start sound fresh).rename_certificate ?_
    rw [← found, Operation.certificate, newest]
    rfl
  have issue {epoch : UInt64} {contents : Contents}
      (newest : before.newestRetained = some epoch)
      (intact : contents.file (.issue (.retained epoch)) = before.file (.issue (.retained epoch))) :
      (Operation.rollback now reason : Operation libraries).issue policy before .live =
        contents.file (.issue (.retained epoch)) := by
    rw [intact, Operation.issue, newest]
    rfl
  constructor
  case replaceCertificate => exact fun epoch bytes newest found => certificate newest found
  case replaceKey =>
    intro epoch bytes key newest found _
    refine ⟨(certificate newest found).rename_key ?_, List.mem_cons_of_mem _ List.mem_cons_self,
      fun other => ?_⟩
    · rw [Contents.file_rename]
      exact Option.some_ne_none _
    · rw [Contents.file_rename_ne FileName.noConfusion,
        Contents.file_rename_ne FileName.noConfusion]
  case restoreIssue =>
    rintro epoch contents newest ⟨underway, replaced, intact⟩
    have brought := issue newest (intact epoch)
    refine ⟨fun missing => ⟨?_, List.mem_cons_of_mem _ replaced, fun other => ?_⟩,
      fun bytes found => ⟨?_, List.mem_cons_of_mem _ replaced, fun other => ?_⟩⟩
    · exact underway.remove_issue replaced (brought.trans missing)
    · rw [Contents.file_remove_ne (by simp), intact]
    · exact underway.rename_issue replaced (brought.trans found)
    · rw [Contents.file_rename_ne (by simp), intact]
  case note =>
    rintro contents name bytes isNote ⟨underway, replaced, intact⟩
    refine ⟨underway.rename_other ?_, List.mem_cons_of_mem _ replaced, fun epoch => ?_⟩
    · obtain rfl | rfl := isNote <;> rfl
    · rw [Contents.file_rename_ne, intact]
      obtain rfl | rfl := isNote <;> exact FileName.noConfusion

/-- Wherever a rollback is cut or fails. -/
theorem rollback_underway (sound : before.Sound libraries policy) (fresh : before.changed = []) :
    Keeps (Underway policy (.rollback now reason : Operation libraries) before)
      (rollbackToRetainedPair libraries stateDir now reason) before
      (Ends (Underway policy (.rollback now reason : Operation libraries) before)
        fun _ => Underway policy (.rollback now reason : Operation libraries) before) := by
  refine (rollback_stages (rollbackStages sound fresh) rfl).within (fun stage contents here => ?_)
    fun _ contents here => here.1
  cases stage with
  | begun =>
      cases here
      exact Underway.start sound fresh
  | certificateReplaced => exact here
  | replaced => exact here.1

/-- Wherever an operation is cut or fails. -/
theorem attempt_underway (sound : before.Sound libraries policy) (fresh : before.changed = [])
    (operation : Operation libraries) :
    Keeps (Underway policy operation before) (operation.program policy stateDir) before
      (Ends (Underway policy operation before) fun _ => Underway policy operation before) := by
  cases operation with
  | persist issuance now => exact persist_underway sound fresh
  | rollback now reason => exact rollback_underway sound fresh

/-! ## Runs -/

private theorem certificateExpiry_utf8 {pem : String} {notAfter : Option UInt64}
    (parsed : certificateNotAfterEpochSeconds libraries pem = .ok notAfter) :
    certificateExpiry libraries (utf8 pem) = notAfter := by
  simp only [certificateExpiry, fromUtf8_utf8, parsed]

/-- What an encoded object states is what it was built from. -/
private theorem stated_encoded {value : Json} {text : String} (key : String)
    (encoded : libraries.toStringPretty value = .ok text) :
    stated libraries key (utf8 text) = jsonU64 value key := by
  obtain ⟨decoded, decodes, same⟩ := libraries.reads_back value text encoded
  simp only [stated, decodes, jsonU64, same]

/-- The metadata that a persist records is bounded by the certificate it writes. -/
private theorem persisted_notLater (issuance : Issuance libraries) (now : UInt64)
    (before : Contents) :
    NotLater libraries policy ((Operation.persist issuance now).issue policy before .live)
      ((Operation.persist issuance now).certificate before .live) := by
  intro expiry found
  have own : certificateNotAfterEpochSeconds libraries issuance.issued.certificatePem =
      .ok (some expiry) := by
    simp only [Operation.certificate, Option.bind_some, certificateExpiry, fromUtf8_utf8,
      Option.mem_def] at found
    cases parsed : certificateNotAfterEpochSeconds libraries issuance.issued.certificatePem with
    | ok notAfter =>
        rw [parsed] at found
        exact congrArg Except.ok found
    | error failure =>
        rw [parsed] at found
        cases found
  have recorded : issuedNotAfter libraries issuance.issued = .ok (some expiry) := by
    cases states : issuance.issued.notAfterEpochSeconds with
    | none => simp only [issuedNotAfter, states, own]
    | some value =>
        have same := issuance.own value states
        rw [own] at same
        simp only [issuedNotAfter, states, same]
  cases encoded : libraries.toStringPretty
      (issueMetadata issuance.issued policy (some expiry) now) with
  | error failure =>
      simp only [Operation.issue, recorded, encoded, Option.bind_none]
      refine ⟨fun value states => ?_, fun value states => ?_⟩
      · cases states
      · cases states
  | ok text =>
      simp only [Operation.issue, recorded, encoded, Option.bind_some, stated_encoded _ encoded]
      refine ⟨fun value states => ?_, fun value states => ?_⟩
      · cases states
        exact UInt64.le_refl _
      · cases states
        exact UInt64.le_refl _

/-- Whatever an operation brings is bounded. -/
private theorem brought_notLater (sound : before.Sound libraries policy)
    (operation : Operation libraries) (slot : Slot) :
    NotLater libraries policy (operation.issue policy before slot)
      (operation.certificate before slot) := by
  cases operation with
  | persist issuance now =>
      cases slot with
      | live => exact persisted_notLater issuance now before
      | retained epoch => exact sound.bounded .live
  | rollback now reason =>
      cases slot with
      | live =>
          simp only [Operation.issue, Operation.certificate]
          cases before.newestRetained with
          | none =>
              intro expiry found
              cases found
          | some epoch => exact sound.bounded (.retained epoch)
      | retained epoch =>
          intro expiry found
          cases found

/-- One attempt. -/
theorem sound_attempt {world : World} {attempt : Attempt libraries}
    (sound : world.contents.Sound libraries policy)
    (matched : Matched policy stateDir world attempt) :
    (world.attempt policy stateDir attempt).contents.Sound libraries policy := by
  have fresh : world.fresh.contents.Sound libraries policy := ⟨sound.bounded, sound.keyed⟩
  have keeps : Keeps (Underway policy attempt.operation world.fresh.contents)
      (attempt.operation.program policy stateDir) world.fresh.contents
      (Ends (Underway policy attempt.operation world.fresh.contents)
        fun _ => Underway policy attempt.operation world.fresh.contents) :=
    attempt_underway fresh rfl attempt.operation
  have outcome := keeps.replay attempt.script
  have underway : Underway policy attempt.operation world.fresh.contents
      (world.attempt policy stateDir attempt).contents := by
    rw [World.attempt]
    cases finished : (Program.replay World.respond
        (attempt.operation.program policy stateDir).run world.fresh attempt.script).2 with
    | none => exact outcome.2 finished
    | some result =>
        obtain ⟨result, rest⟩ := result
        have ended := outcome.1 result rest finished
        cases result with
        | ok done => exact ended
        | error failure => exact ended
  refine ⟨fun slot => ?_, underway.keyed⟩
  by_cases settled : .issue slot ∈ (world.attempt policy stateDir attempt).contents.changed
  · obtain ⟨replaced, issue⟩ := underway.issue slot settled
    rw [issue, underway.certificate slot replaced]
    exact brought_notLater fresh attempt.operation slot
  · rw [underway.untouched _ settled]
    by_cases replaced : .certificate slot ∈
        (world.attempt policy stateDir attempt).contents.changed
    · rw [underway.certificate slot replaced]
      have listed : slot ∈ (world.attempt policy stateDir attempt).contents.replaced :=
        List.mem_filterMap.mpr ⟨_, replaced, rfl⟩
      exact (matched slot listed).resolve_left settled
    · rw [underway.untouched _ replaced]
      exact sound.bounded slot

/-! ## Status -/

theorem decodes_stated {name : FileName} {value : Option Json} (key : String)
    (decodes : Decodes libraries contents name value) :
    (value.bind fun value => jsonU64 value key) =
      (contents.file name).bind (stated libraries key) := by
  unfold Decodes at decodes
  cases found : contents.file name with
  | none =>
      cases value with
      | none => rfl
      | some value => simp only [found] at decodes
  | some bytes =>
      cases value with
      | none => simp only [found] at decodes
      | some value =>
          simp only [found] at decodes
          simp only [Option.bind_some, stated, decodes]

/-- Reported times are those of the metadata, or of the certificate. -/
private theorem statusOf_within {issue failure reload : Option Json} {certPresent : Bool}
    {notAfter : Option UInt64} {now : UInt64} (sound : contents.Sound libraries policy)
    (decodes : Decodes libraries contents (.issue .live) issue)
    (within : ∀ expiry ∈ (contents.file (.certificate .live)).bind (certificateExpiry libraries),
      ∀ value ∈ notAfter, value ≤ expiry) :
    Reported.Within libraries policy contents
      (statusOf issue failure reload certPresent notAfter now policy) := by
  intro expiry found
  have next := (sound.bounded .live expiry found).2
  rw [← decodes_stated _ decodes] at next
  refine ⟨within expiry found, fun value reported => ?_⟩
  simp only [statusOf, Option.mem_def, Option.or_eq_some_iff] at reported
  rcases reported with states | ⟨-, computed⟩
  · exact next value states
  · obtain ⟨own, isOwn, rfl⟩ := Option.map_eq_some_iff.mp computed
    exact U64.saturatingSub_mono (within expiry found own isOwn) _

/-- Whichever file operations fail, a status that is reported is within the certificate. -/
theorem status_within (sound : contents.Sound libraries policy) (now : UInt64) :
    Keeps (fun _ => True) (status libraries now policy) contents
      (Ends (fun _ => True) fun status _ => Reported.Within libraries policy contents status) := by
  refine Keeps.andThen (fun issue after => after = contents ∧
    Decodes libraries contents (.issue .live) issue)
    ((readJsonIfPresent_keeps libraries (.issue .live) trivial).mono ?_) ?_
  · rintro (failure | issue) after ⟨rfl, decodes⟩
    · trivial
    · exact ⟨rfl, decodes issue rfl⟩
  rintro issue after ⟨rfl, decodes⟩
  have expiryStated := decodes_stated "not_after_epoch_seconds" decodes
  refine Keeps.unchanged ((readJsonIfPresent_keeps libraries .failure trivial).mono
    fun _ _ outcome => outcome.1) (fun _ => trivial) fun failure => ?_
  refine Keeps.unchanged ((readJsonIfPresent_keeps libraries .reloadRequired trivial).mono
    fun _ _ outcome => outcome.1) (fun _ => trivial) fun reload => ?_
  refine Keeps.known (bothPresent_keeps trivial) ?_
  cases states : issue.bind fun value => jsonU64 value "not_after_epoch_seconds" with
  | some notAfter =>
      refine Keeps.pure (statusOf_within sound decodes fun expiry found value isValue => ?_)
      refine (sound.bounded .live expiry found).1 value ?_
      rw [← expiryStated, states]
      exact isValue
  | none =>
      refine Keeps.bind (fun notAfter after' => after' = after ∧ ∀ value ∈ notAfter,
        value ∈ (after.file (.certificate .live)).bind (certificateExpiry libraries))
        ((presentExpiry_keeps libraries _ trivial).mono ?_) ?_
      · rintro (failure | notAfter) after' ⟨rfl, own⟩
        · trivial
        · exact ⟨rfl, own notAfter rfl⟩
      rintro notAfter after' ⟨rfl, own⟩
      refine Keeps.pure (statusOf_within sound decodes fun expiry found value isValue => ?_)
      have same : value = expiry := Option.some.inj ((own value isValue).symm.trans found)
      rw [same]
      exact UInt64.le_refl _

end

/-! ## Runs -/

/-- Every operation may be attempted at any time. -/
def World.step (policy : AcmeRenewalPolicy) (stateDir : String) (world : World)
    (attempt : Attempt libraries) : Option World :=
  some (world.attempt policy stateDir attempt)

/-- What `status` reports, if it succeeds. -/
def World.report (libraries : Libraries) (policy : AcmeRenewalPolicy) (now : UInt64)
    (script : List Fault) (world : World) : Option CertificateLifecycleStatus :=
  match (Program.replay World.respond (status libraries now policy).run world script).2 with
  | some (.ok report, _) => some report
  | _ => none

/-- After every run of attempts that replace certificates and metadata together, whatever
status is reported is within the certificate in `cert.pem`. -/
theorem schedule_within_certificate {createdMode : Nat} {attempts : List (Attempt libraries)}
    {world : World}
    (matched : Machine.Meets (World.step policy stateDir) (Matched policy stateDir)
      (World.empty createdMode) attempts)
    (ran : Machine.exec (World.step policy stateDir) (World.empty createdMode) attempts =
      some world)
    {now : UInt64} {script : List Fault} {report : CertificateLifecycleStatus}
    (reported : world.report libraries policy now script = some report) :
    Reported.Within libraries policy world.contents report := by
  have step : ∀ (state : World) (attempt : Attempt libraries) (next : World),
      state.contents.Sound libraries policy → Matched policy stateDir state attempt →
      World.step policy stateDir state attempt = some next →
      next.contents.Sound libraries policy := by
    rintro state attempt next before permitted ⟨⟩
    exact sound_attempt before permitted
  have sound := Machine.invariant_of_meets step (sound_empty createdMode) matched ran
  have outcome := (status_within sound now).replay script
  unfold World.report at reported
  split at reported
  · rename_i found rest returned
    cases reported
    exact outcome.1 _ rest returned
  · cases reported

namespace Sample

/-- The objects of a run of two persists. -/
def written : List Json :=
  [reloadMarker 1795000000, reloadMarker 1796000000,
    issueMetadata firstIssued .standard (some 1802779880) 1795000000,
    issueMetadata secondIssued .standard (some 1810555880) 1796000000]

def run : Libraries :=
  librariesOf written (by decide +kernel)

def persistFirst : Attempt run where
  operation := .persist ⟨firstIssued, fun _ states => nomatch states⟩ 1795000000
  script := List.replicate 64 .works

def persistSecond : Attempt run where
  operation := .persist ⟨secondIssued, fun _ states => nomatch states⟩ 1796000000
  script := List.replicate 64 .works

/-- A rollback whose first `count` file operations work, and no more. -/
def rollback (count : Nat) : Attempt run where
  operation := .rollback 1796000060 "edge failed to boot with the renewed certificate"
  script := List.replicate count .works

end Sample

/-- Two complete persists. -/
theorem schedule_within_certificate_renewed : ∃ world report,
    Machine.exec (World.step .standard "/acme") (World.empty 0o700)
      [Sample.persistFirst, Sample.persistSecond] = some world ∧
    world.report Sample.run .standard 1796000100 (List.replicate 9 .works) = some report ∧
    report.notAfterEpochSeconds = some 1810555880 ∧
    Reported.Within Sample.run .standard world.contents report := by
  have computed : ((Machine.exec (World.step .standard "/acme") (World.empty 0o700)
      [Sample.persistFirst, Sample.persistSecond]).bind fun world =>
        (world.report Sample.run .standard 1796000100 (List.replicate 9 .works)).map
          fun report => report.notAfterEpochSeconds) = some (some 1810555880) := by
    decide +kernel
  have matched : Machine.Meets (World.step .standard "/acme") (Matched .standard "/acme")
      (World.empty 0o700) [Sample.persistFirst, Sample.persistSecond] := by
    decide +kernel
  obtain ⟨world, ran, computed⟩ := Option.bind_eq_some_iff.mp computed
  obtain ⟨report, reported, expiry⟩ := Option.map_eq_some_iff.mp computed
  exact ⟨world, report, ran, reported, expiry,
    schedule_within_certificate matched ran reported⟩

/-- A rollback cut after it renamed the certificate: the report is that of the discarded one. -/
theorem rollback_cut_outlives_certificate : ∃ world report,
    Machine.exec (World.step .standard "/acme") (World.empty 0o700)
      [Sample.persistFirst, Sample.persistSecond, Sample.rollback 15] = some world ∧
    world.report Sample.run .standard 1796000100 (List.replicate 9 .works) = some report ∧
    ¬ Reported.Within Sample.run .standard world.contents report := by
  have computed : ((Machine.exec (World.step .standard "/acme") (World.empty 0o700)
      [Sample.persistFirst, Sample.persistSecond, Sample.rollback 15]).bind fun world =>
        (world.report Sample.run .standard 1796000100 (List.replicate 9 .works)).map
          fun report => (report.notAfterEpochSeconds, world.contents.file (.certificate .live))) =
      some (some 1810555880, some (utf8 Sample.firstPem)) := by
    decide +kernel
  have expiry : certificateExpiry Sample.run (utf8 Sample.firstPem) = some 1802779880 :=
    certificateExpiry_utf8 (by decide +kernel)
  obtain ⟨world, ran, computed⟩ := Option.bind_eq_some_iff.mp computed
  obtain ⟨report, reported, computed⟩ := Option.map_eq_some_iff.mp computed
  simp only [Prod.mk.injEq] at computed
  obtain ⟨states, inUse⟩ := computed
  have found : 1802779880 ∈ (world.contents.file (.certificate .live)).bind
      (certificateExpiry Sample.run) := by
    rw [inUse, Option.bind_some, expiry]
    exact Option.mem_some_self _
  refine ⟨world, report, ran, reported, fun within => ?_⟩
  have bounded := (within 1802779880 found).1 1810555880 states
  exact absurd bounded (by decide +kernel)

end Oxo.Edge.Acme
