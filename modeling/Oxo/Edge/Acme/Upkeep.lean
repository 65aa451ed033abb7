import Oxo.Edge.Acme.World

/-!
Contract: what the programs of the state directory keep true of it, and what they record.

Owns: the conditions that survive every write but that of the failure record, the programs that
keep them, and the exact effect of a failure record and of a successful rollback.

Does not own: what is asked of the certificate authority.
-/

namespace Oxo.Edge.Acme

open Oxo.Foundation

variable {libraries : Libraries} {policy : AcmeRenewalPolicy} {stateDir : String} {now : UInt64}

/-! ## Conditions -/

/-- The metadata files. -/
def FileName.isJson : FileName → Bool
  | .issue _ | .failure | .reloadRequired | .reloadFailure => true
  | .account | .certificate _ | .key _ => false

/-- A condition that the writes of the directory keep, the failure record apart: an encoded object, a
copy of metadata, any certificate or key, and a removal. -/
structure Upkeep (libraries : Libraries) (holds : Contents → Prop) : Prop where
  encoded : ∀ contents name value text, name ≠ .failure →
    libraries.toStringPretty value = .ok text → holds contents →
    holds (contents.rename name (utf8 text))
  copied : ∀ contents source name bytes, name ≠ .failure → source.isJson = true →
    contents.file source = some bytes → holds contents → holds (contents.rename name bytes)
  material : ∀ contents name bytes, name.isJson = false → holds contents →
    holds (contents.rename name bytes)
  removed : ∀ contents name, name ≠ .failure → holds contents → holds (contents.remove name)

/-- Every metadata file can be decoded. -/
def Legible (libraries : Libraries) (contents : Contents) : Prop :=
  ∀ name, name.isJson = true → ∀ bytes, contents.file name = some bytes →
    ∃ value, libraries.fromSlice bytes = .ok value

/-- The failure record is as it was. -/
def SameRecord (before contents : Contents) : Prop :=
  contents.file .failure = before.file .failure ∧ .failure ∉ contents.changed

theorem legible_encoded {contents : Contents} (legible : Legible libraries contents)
    (name : FileName) {value : Json} {text : String}
    (encoded : libraries.toStringPretty value = .ok text) :
    Legible libraries (contents.rename name (utf8 text)) := by
  intro other isJson bytes found
  by_cases same : other = name
  · rw [same, Contents.file_rename, Option.some.injEq] at found
    rw [← found]
    exact (libraries.reads_back value text encoded).imp fun _ decoded => decoded.1
  · rw [Contents.file_rename_ne same] at found
    exact legible other isJson bytes found

theorem legible_removed {contents : Contents} (legible : Legible libraries contents)
    (name : FileName) : Legible libraries (contents.remove name) := by
  intro other isJson bytes found
  by_cases same : other = name
  · rw [same, Contents.file_remove] at found
    cases found
  · rw [Contents.file_remove_ne same] at found
    exact legible other isJson bytes found

theorem upkeep_legible : Upkeep libraries (Legible libraries) where
  encoded contents name value text _ encoded legible := legible_encoded legible name encoded
  copied contents source name bytes _ isSource found legible := by
    intro other isJson copied present
    by_cases same : other = name
    · rw [same, Contents.file_rename, Option.some.injEq] at present
      rw [← present]
      exact legible source isSource bytes found
    · rw [Contents.file_rename_ne same] at present
      exact legible other isJson copied present
  material contents name bytes isMaterial legible := by
    intro other isJson copied present
    have same : other ≠ name := by
      rintro rfl
      rw [isMaterial] at isJson
      cases isJson
    rw [Contents.file_rename_ne same] at present
    exact legible other isJson copied present
  removed contents name _ legible := legible_removed legible name

private theorem sameRecord_rename {before contents : Contents} (same : SameRecord before contents)
    {name : FileName} (other : name ≠ .failure) (bytes : List UInt8) :
    SameRecord before (contents.rename name bytes) := by
  refine ⟨(Contents.file_rename_ne (Ne.symm other)).trans same.1, ?_⟩
  rw [Contents.changed_rename, List.mem_cons, not_or]
  exact ⟨Ne.symm other, same.2⟩

theorem upkeep_sameRecord (before : Contents) : Upkeep libraries (SameRecord before) where
  encoded contents name value text other _ same := sameRecord_rename same other _
  copied contents source name bytes other _ _ same := sameRecord_rename same other _
  material contents name bytes isMaterial same := by
    refine sameRecord_rename same ?_ _
    rintro rfl
    cases isMaterial
  removed contents name other same := by
    refine ⟨(Contents.file_remove_ne (Ne.symm other)).trans same.1, ?_⟩
    rw [Contents.changed_remove, List.mem_cons, not_or]
    exact ⟨Ne.symm other, same.2⟩

/-! ## Programs -/

section

variable {holds : Contents → Prop} {contents : Contents}

/-- No condition where a program is cut. -/
abbrev Anywhere : Contents → Prop := fun _ => True

private theorem retainFile_upkeep (upkeep : Upkeep libraries holds) (here : holds contents)
    {source target : FileName} (other : target ≠ .failure)
    (alike : source.isJson = true ∨ target.isJson = false) (mode : Nat) :
    Keeps Anywhere (retainFile source target mode) contents fun _ => holds := by
  refine (retainFile_keeps source target mode trivial).mono ?_
  rintro (failure | done) after outcome
  · cases outcome
    exact here
  · obtain ⟨-, rfl⟩ | ⟨bytes, found, rfl⟩ := outcome
    · exact here
    · rcases alike with isJson | isMaterial
      · exact upkeep.copied contents source target bytes other isJson found here
      · exact upkeep.material contents target bytes isMaterial here

/-- A program that keeps the condition, in front of another. -/
private theorem Keeps.upkeep {α β : Type} {program : ExceptT AcmeError Disk α}
    {continuation : α → ExceptT AcmeError Disk β} {post : Except AcmeError β → Contents → Prop}
    (first : Keeps Anywhere program contents fun _ => holds)
    (failed : ∀ failure after, holds after → post (.error failure) after)
    (continues : ∀ value after, holds after → Keeps Anywhere (continuation value) after post) :
    Keeps Anywhere (program >>= continuation) contents post := by
  refine Keeps.bind (fun _ => holds) (first.mono ?_) continues
  rintro (failure | value) after kept
  · exact failed failure after kept
  · exact kept

private theorem retainExisting_upkeep (upkeep : Upkeep libraries holds) (here : holds contents) :
    Keeps Anywhere (retainExisting now) contents fun _ => holds := by
  refine Keeps.known (somePresent_keeps trivial) ?_
  split
  · refine Keeps.quiet (createDirAll_quiet .retained) trivial fun created => ?_
    refine Keeps.settle (fun _ _ => here) fun _ _ => ?_
    refine Keeps.unchanged (setPathMode_keeps _ _ trivial) (fun _ => here) fun _ => ?_
    refine Keeps.upkeep (retainFile_upkeep upkeep here FileName.noConfusion (.inr rfl) _)
      (fun _ _ kept => kept) fun _ after kept => ?_
    refine Keeps.upkeep (retainFile_upkeep upkeep kept FileName.noConfusion (.inr rfl) _)
      (fun _ _ kept => kept) fun _ after kept => ?_
    exact retainFile_upkeep upkeep kept FileName.noConfusion (.inl rfl) _
  · exact Keeps.pure here

private theorem writeCertKeyPair_upkeep (upkeep : Upkeep libraries holds) (here : holds contents)
    (certBytes keyBytes : List UInt8) :
    Keeps Anywhere (writeCertKeyPair certBytes keyBytes) contents fun _ => holds := by
  have certificate := upkeep.material contents (.certificate .live) certBytes rfl here
  refine (writeCertKeyPair_keeps certBytes keyBytes trivial trivial).mono ?_
  rintro (failure | done) after outcome
  · obtain rfl | rfl := outcome
    · exact here
    · exact certificate
  · cases outcome
    exact upkeep.material _ (.key .live) keyBytes rfl certificate

private theorem writeJson_upkeep (upkeep : Upkeep libraries holds) (here : holds contents)
    (action : String) {name : FileName} (other : name ≠ .failure) (value : Json) :
    Keeps Anywhere (writeJson libraries action name value) contents fun _ => holds := by
  refine (writeJson_keeps libraries action name value trivial).mono ?_
  rintro (failure | done) after outcome
  · cases outcome
    exact here
  · obtain ⟨bytes, ⟨text, encoded, rfl⟩, rfl⟩ := outcome
    exact upkeep.encoded contents name value text other encoded here

theorem persist_upkeep (upkeep : Upkeep libraries holds) (here : holds contents)
    (issued : IssuedCertificate) :
    Keeps Anywhere (persist libraries issued policy now) contents fun _ => holds := by
  refine Keeps.settle (fun _ _ => here) fun notAfter _ => ?_
  refine Keeps.upkeep (writeJson_upkeep upkeep here _ FileName.noConfusion _)
    (fun _ _ kept => kept) fun _ after kept => ?_
  refine Keeps.upkeep (retainExisting_upkeep upkeep kept) (fun _ _ kept => kept)
    fun _ after kept => ?_
  refine Keeps.upkeep (writeCertKeyPair_upkeep upkeep kept _ _) (fun _ _ kept => kept)
    fun _ after kept => ?_
  exact writeJson_upkeep upkeep kept _ FileName.noConfusion _

theorem consumeReloadMarker_upkeep (upkeep : Upkeep libraries holds) (here : holds contents) :
    Keeps Anywhere (consumeReloadMarker stateDir) contents fun _ => holds := by
  refine Keeps.unchanged (prepare_keeps stateDir trivial) (fun _ => here) fun _ => ?_
  exact Keeps.remove trivial (Keeps.pure (upkeep.removed _ _ FileName.noConfusion here))
    (fun _ => Keeps.pure here) fun _ => Keeps.throw here

/-! ## Records -/

def recordedFailures (previous : Option Json) : UInt64 :=
  (previous.bind fun value => jsonU64 value "failure_count").getD 0

/-- The object of a failure record. -/
def failureObject (now : UInt64) (kind message : String) (count nextAttempt : UInt64) : Json :=
  [("kind", .string kind),
    ("message", .string message),
    ("failure_count", .u64 count),
    ("failed_at_epoch_seconds", .u64 now),
    ("next_attempt_epoch_seconds", .u64 nextAttempt),
    ("plaintext_fallback", .bool false)]

/-- The failure record is replaced by the next one. -/
def Recorded (libraries : Libraries) (now : UInt64) (policy : AcmeRenewalPolicy)
    (kind message : String) (before after : Contents) : Prop :=
  ∃ previous nextAttempt text,
    Decodes libraries before .failure previous ∧
    nextAttemptAfterFailure now (U64.saturatingAdd (recordedFailures previous) 1) policy kind none =
      some nextAttempt ∧
    libraries.toStringPretty (failureObject now kind message
      (U64.saturatingAdd (recordedFailures previous) 1) nextAttempt) = .ok text ∧
    after = before.rename .failure (utf8 text)

theorem recordFailure_keeps (kind message : String) :
    Keeps Anywhere (recordFailure libraries now policy kind message none) contents
      fun result after =>
        match result with
        | .ok () => Recorded libraries now policy kind message contents after
        | .error _ => after = contents := by
  refine Keeps.bind (fun previous after => after = contents ∧
    Decodes libraries contents .failure previous)
    ((readJsonIfPresent_keeps libraries .failure trivial).mono ?_) ?_
  · rintro (failure | previous) after ⟨rfl, decodes⟩
    · rfl
    · exact ⟨rfl, decodes previous rfl⟩
  rintro previous after ⟨rfl, decodes⟩
  dsimp only
  split
  · rintro world rfl
    trivial
  · next nextAttempt isNext =>
      refine Keeps.writtenLast (writeJson_keeps _ _ _ _ trivial) (fun _ => rfl) ?_
      rintro bytes ⟨text, encoded, rfl⟩
      exact ⟨previous, nextAttempt, text, decodes, isNext, encoded, rfl⟩

theorem clearFailure_keeps :
    Keeps Anywhere clearFailure contents fun result after =>
      match result with
      | .ok () => after = contents.remove .failure ∨
          contents.file .failure = none ∧ after = contents
      | .error _ => after = contents :=
  Keeps.remove trivial (Keeps.pure (.inl rfl)) (fun missing => Keeps.pure (.inr ⟨missing, rfl⟩))
    fun _ => Keeps.throw rfl

/-- The expiry that a status goes by: that of the metadata, else that of the certificate, which
may fail to be read. -/
def Expires (libraries : Libraries) (contents : Contents) (issue : Option Json)
    (notAfter : Option UInt64) : Prop :=
  match issue.bind fun value => jsonU64 value "not_after_epoch_seconds" with
  | some states => notAfter = some states
  | none => ∀ value ∈ notAfter,
      value ∈ (contents.file (.certificate .live)).bind (certificateExpiry libraries)

/-- A status of the directory. -/
def Shows (libraries : Libraries) (policy : AcmeRenewalPolicy) (now : UInt64)
    (contents : Contents) (status : CertificateLifecycleStatus) : Prop :=
  ∃ failure, Decodes libraries contents .failure failure ∧
    ∃ issue reload notAfter, Decodes libraries contents (.issue .live) issue ∧
      Expires libraries contents issue notAfter ∧
      status = statusOf issue failure reload
        ((contents.file (.certificate .live)).isSome && (contents.file (.key .live)).isSome)
        notAfter now policy

theorem status_keeps :
    Keeps Anywhere (status libraries now policy) contents fun result after =>
      after = contents ∧ ∀ report, result = .ok report →
        Shows libraries policy now contents report := by
  refine Keeps.bind (fun issue after => after = contents ∧
    Decodes libraries contents (.issue .live) issue)
    ((readJsonIfPresent_keeps libraries (.issue .live) trivial).mono ?_) ?_
  · rintro (failure | issue) after ⟨rfl, decodes⟩
    · exact ⟨rfl, fun _ wrong => nomatch wrong⟩
    · exact ⟨rfl, decodes issue rfl⟩
  rintro issue after ⟨rfl, issueDecodes⟩
  refine Keeps.bind (fun failure middle => middle = after ∧
    Decodes libraries after .failure failure)
    ((readJsonIfPresent_keeps libraries .failure trivial).mono ?_) ?_
  · rintro (failure | found) middle ⟨rfl, decodes⟩
    · exact ⟨rfl, fun _ wrong => nomatch wrong⟩
    · exact ⟨rfl, decodes found rfl⟩
  rintro failure after ⟨rfl, decodes⟩
  refine Keeps.unchanged ((readJsonIfPresent_keeps libraries .reloadRequired trivial).mono
    fun _ _ outcome => outcome.1) (fun _ => ⟨rfl, fun _ wrong => nomatch wrong⟩) fun reload => ?_
  refine Keeps.known (bothPresent_keeps trivial) ?_
  cases states : issue.bind fun value => jsonU64 value "not_after_epoch_seconds" with
  | some notAfter =>
      refine Keeps.pure ⟨rfl, ?_⟩
      rintro report ⟨⟩
      refine ⟨failure, decodes, issue, reload, some notAfter, issueDecodes, ?_, rfl⟩
      rw [Expires, states]
  | none =>
      refine Keeps.bind (fun notAfter middle => middle = after ∧ ∀ value ∈ notAfter,
        value ∈ (after.file (.certificate .live)).bind (certificateExpiry libraries))
        ((presentExpiry_keeps libraries _ trivial).mono ?_) ?_
      · rintro (failure | notAfter) middle ⟨rfl, own⟩
        · exact ⟨rfl, fun _ wrong => nomatch wrong⟩
        · exact ⟨rfl, own notAfter rfl⟩
      rintro notAfter middle ⟨rfl, own⟩
      refine Keeps.pure ⟨rfl, ?_⟩
      rintro report ⟨⟩
      refine ⟨failure, decodes, issue, reload, notAfter, issueDecodes, ?_, rfl⟩
      rw [Expires, states]
      exact own

/-! ## Rollback -/

/-- The metadata of a retained pair is back in place; without any, that of the pair that was in use
is gone, or stays where its removal fails. -/
def IssueRestored (epoch : UInt64) (before after : Contents) : Prop :=
  match before.file (.issue (.retained epoch)) with
  | some bytes => after = before.rename (.issue .live) bytes
  | none => after = before.remove (.issue .live) ∨ after = before

/-- What a rollback that succeeds comes to. -/
def RolledBack (libraries : Libraries) (now : UInt64) (reason : String)
    (before after : Contents) : Prop :=
  ∃ epoch certificate key restored note,
    before.newestRetained = some epoch ∧
    before.file (.certificate (.retained epoch)) = some certificate ∧
    before.file (.key (.retained epoch)) = some key ∧
    IssueRestored epoch ((before.rename (.certificate .live) certificate).rename (.key .live) key)
      restored ∧
    Recorded libraries now .standard "reload-rolled-back" reason
      (restored.rename .reloadFailure note) after

private theorem restoreIssue_keeps (epoch : UInt64) :
    Keeps Anywhere (restoreIssue epoch) contents fun result after =>
      match result with
      | .ok () => IssueRestored epoch contents after
      | .error _ => after = contents := by
  refine Keeps.read trivial (fun bytes found => ?_) (fun missing => ?_) fun _ => Keeps.throw rfl
  · refine Keeps.writtenLast (writeFilePrivate_keeps _ _ _ trivial) (fun _ => rfl) ?_
    rintro written rfl
    simp only [IssueRestored, found]
  · refine Keeps.remove trivial (Keeps.pure ?_) (fun _ => Keeps.pure ?_) fun _ => Keeps.pure ?_
    · simp only [IssueRestored, missing, true_or]
    · simp only [IssueRestored, missing, or_true]
    · simp only [IssueRestored, missing, or_true]

private theorem upkeep_issueRestored (upkeep : Upkeep libraries holds) (here : holds contents)
    {epoch : UInt64} {after : Contents} (restored : IssueRestored epoch contents after) :
    holds after := by
  unfold IssueRestored at restored
  split at restored
  · next bytes found =>
      rw [restored]
      exact upkeep.copied contents _ _ bytes FileName.noConfusion rfl found here
  · obtain rfl | rfl := restored
    · exact upkeep.removed contents _ FileName.noConfusion here
    · exact here

/-- A rollback that fails has kept the condition; one that succeeds has kept it until it recorded
its failure. -/
theorem rollback_upkeep (upkeep : Upkeep libraries holds) (here : holds contents)
    (reason : String) :
    Keeps Anywhere (rollbackToRetainedPair libraries stateDir now reason) contents
      fun result after =>
        match result with
        | .ok () => RolledBack libraries now reason contents after ∧
            ∃ noted, holds noted ∧
              Recorded libraries now .standard "reload-rolled-back" reason noted after
        | .error _ => holds after := by
  refine Keeps.unchanged (prepare_keeps stateDir trivial) (fun _ => here) fun _ => ?_
  refine Keeps.bind (fun found after => after = contents ∧
    ∀ epoch, found = some epoch → contents.newestRetained = some epoch)
    ((newestRetainedEpoch_keeps trivial).mono ?_) ?_
  · rintro (failure | found) after ⟨rfl, newest⟩
    · exact here
    · exact ⟨rfl, fun epoch isEpoch => newest epoch (congrArg Except.ok isEpoch)⟩
  rintro found after ⟨rfl, newest⟩
  cases found with
  | none => exact Keeps.throw here
  | some epoch =>
      refine Keeps.read trivial (fun certificate certFound => ?_)
        (fun _ => Keeps.settle (fun _ _ => here) fun _ wrong => by cases wrong)
        fun _ => Keeps.settle (fun _ _ => here) fun _ wrong => by cases wrong
      refine Keeps.settle (fun _ _ => here) fun _ same => ?_
      cases same
      refine Keeps.read trivial (fun key keyFound => ?_)
        (fun _ => Keeps.settle (fun _ _ => here) fun _ wrong => by cases wrong)
        fun _ => Keeps.settle (fun _ _ => here) fun _ wrong => by cases wrong
      refine Keeps.settle (fun _ _ => here) fun _ same => ?_
      cases same
      refine Keeps.unchanged ((readJsonIfPresent_keeps libraries _ trivial).mono
        fun _ _ outcome => outcome.1) (fun _ => here) fun issue => ?_
      refine Keeps.settle (fun _ _ => here) fun _ _ => ?_
      have certified := upkeep.material after (.certificate .live) certificate rfl here
      have replaced := upkeep.material _ (.key .live) key rfl certified
      refine Keeps.bind (fun _ middle =>
        middle = (after.rename (.certificate .live) certificate).rename (.key .live) key)
        ((writeCertKeyPair_keeps certificate key trivial trivial).mono ?_) ?_
      · rintro (failure | done) middle outcome
        · obtain rfl | rfl := outcome
          · exact here
          · exact certified
        · exact outcome
      rintro done middle rfl
      refine Keeps.bind (fun _ => IssueRestored epoch
        ((after.rename (.certificate .live) certificate).rename (.key .live) key))
        ((restoreIssue_keeps epoch).mono ?_) ?_
      · rintro (failure | done) middle outcome
        · cases outcome
          exact replaced
        · exact outcome
      rintro done restored isRestored
      have kept := upkeep_issueRestored upkeep replaced isRestored
      refine Keeps.written (writeJson_keeps _ _ _ _ trivial) (fun _ => kept) fun note encoded => ?_
      obtain ⟨text, isText, rfl⟩ := encoded
      have noted := upkeep.encoded restored .reloadFailure _ text FileName.noConfusion isText kept
      refine (recordFailure_keeps _ _).mono ?_
      rintro (failure | done) last outcome
      · cases outcome
        exact noted
      · exact ⟨⟨epoch, certificate, key, restored, _, newest epoch rfl, certFound, keyFound,
          isRestored, outcome⟩, _, noted, outcome⟩

end

end Oxo.Edge.Acme
