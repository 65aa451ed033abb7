import Oxo.Edge.Acme.World

/-!
Contract: a persist and a rollback as walks through stages of the state directory.

Owns: the stages, the steps between them that the two programs take, and the rule that
predicates on the stages which follow those steps hold wherever a program is cut or fails.

Does not own: any predicate on a stage.
-/

namespace Oxo.Edge.Acme

open Oxo.Foundation

/-! ## Persist -/

inductive PersistStage where
  | begun
  | marked
  | certificateRetained
  | keyRetained
  | retained
  | certificateReplaced
  | replaced
  | described

/-- Predicates on the stages that follow the changes of a persist. -/
structure PersistStages (libraries : Libraries) (issued : IssuedCertificate)
    (policy : AcmeRenewalPolicy) (now : UInt64) (holds : PersistStage → Contents → Prop) :
    Prop where
  marker : ∀ contents bytes, holds .begun contents →
    holds .marked (contents.rename .reloadRequired bytes)
  bare : ∀ contents, holds .marked contents → contents.file (.certificate .live) = none →
    contents.file (.key .live) = none → holds .retained contents
  retainCertificate : ∀ contents, holds .marked contents →
    (contents.file (.certificate .live) = none → contents.file (.key .live) ≠ none →
      holds .certificateRetained contents) ∧
    ∀ bytes, contents.file (.certificate .live) = some bytes →
      holds .certificateRetained (contents.rename (.certificate (.retained now)) bytes)
  retainKey : ∀ contents, holds .certificateRetained contents →
    (contents.file (.key .live) = none → holds .keyRetained contents) ∧
    ∀ bytes, contents.file (.key .live) = some bytes →
      holds .keyRetained (contents.rename (.key (.retained now)) bytes)
  retainIssue : ∀ contents, holds .keyRetained contents →
    (contents.file (.issue .live) = none → holds .retained contents) ∧
    ∀ bytes, contents.file (.issue .live) = some bytes →
      holds .retained (contents.rename (.issue (.retained now)) bytes)
  replaceCertificate : ∀ contents, holds .retained contents →
    holds .certificateReplaced
      (contents.rename (.certificate .live) (utf8 issued.certificatePem))
  replaceKey : ∀ contents, holds .certificateReplaced contents →
    holds .replaced (contents.rename (.key .live) (utf8 issued.privateKeyPem))
  describe : ∀ contents notAfter text, holds .replaced contents →
    issuedNotAfter libraries issued = .ok notAfter →
    libraries.toStringPretty (issueMetadata issued policy notAfter now) = .ok text →
    holds .described (contents.rename (.issue .live) (utf8 text))

section

variable {libraries : Libraries} {issued : IssuedCertificate} {policy : AcmeRenewalPolicy}
  {now : UInt64} {contents : Contents}

/-- The stages of a program that stands at one of them. -/
abbrev Somewhere {Stage : Type} (holds : Stage → Contents → Prop) (contents : Contents) : Prop :=
  ∃ stage, holds stage contents

/-- A copy into the retained directory is a step between two stages. -/
private theorem retainFile_stage {Stage : Type} {holds : Stage → Contents → Prop} {stage next : Stage}
    {source target : FileName} {mode : Nat} (here : holds stage contents)
    (step : (contents.file source = none → holds next contents) ∧
      ∀ bytes, contents.file source = some bytes → holds next (contents.rename target bytes)) :
    Keeps (Somewhere holds) (retainFile source target mode) contents
      (Ends (Somewhere holds) fun _ => holds next) := by
  refine (retainFile_keeps source target mode ⟨stage, here⟩).mono ?_
  rintro (failure | done) after outcome
  · cases outcome
    exact ⟨stage, here⟩
  · obtain ⟨missing, rfl⟩ | ⟨bytes, found, rfl⟩ := outcome
    · exact step.1 missing
    · exact step.2 bytes found

private theorem retainExisting_stage {holds : PersistStage → Contents → Prop}
    (stages : PersistStages libraries issued policy now holds) (here : holds .marked contents) :
    Keeps (Somewhere holds) (retainExisting now) contents
      (Ends (Somewhere holds) fun _ => holds .retained) := by
  have somewhere : Somewhere holds contents := ⟨.marked, here⟩
  refine Keeps.known (somePresent_keeps somewhere) ?_
  cases present : (contents.file (.certificate .live)).isSome ||
      (contents.file (.key .live)).isSome with
  | false =>
      simp only [Bool.or_eq_false_iff, Option.isSome_eq_false_iff, Option.isNone_iff_eq_none]
        at present
      exact Keeps.pure (stages.bare contents here present.1 present.2)
  | true =>
      refine Keeps.quiet (createDirAll_quiet .retained) somewhere fun created => ?_
      refine Keeps.settle (fun _ _ => somewhere) fun _ _ => ?_
      refine Keeps.unchanged (setPathMode_keeps _ _ somewhere) (fun _ => somewhere) fun _ => ?_
      have certificate : contents.file (.certificate .live) = none →
          holds .certificateRetained contents := by
        intro missing
        refine (stages.retainCertificate _ here).1 missing fun bare => ?_
        rw [missing, bare] at present
        cases present
      refine Keeps.andThen _ (retainFile_stage here
        ⟨certificate, (stages.retainCertificate _ here).2⟩) ?_
      intro _ after certified
      refine Keeps.andThen _ (retainFile_stage certified (stages.retainKey _ certified)) ?_
      intro _ after keyed
      exact retainFile_stage keyed (stages.retainIssue _ keyed)

/-- The two renames of a pair are steps between three stages. -/
private theorem writeCertKeyPair_stage {Stage : Type} {holds : Stage → Contents → Prop}
    {stage between next : Stage} {certBytes keyBytes : List UInt8} (here : holds stage contents)
    (certificate : holds between (contents.rename (.certificate .live) certBytes))
    (key : holds next
      ((contents.rename (.certificate .live) certBytes).rename (.key .live) keyBytes)) :
    Keeps (Somewhere holds) (writeCertKeyPair certBytes keyBytes) contents
      (Ends (Somewhere holds) fun _ => holds next) := by
  refine (writeCertKeyPair_keeps certBytes keyBytes ⟨stage, here⟩ ⟨between, certificate⟩).mono ?_
  rintro (failure | done) after outcome
  · obtain rfl | rfl := outcome
    · exact ⟨stage, here⟩
    · exact ⟨between, certificate⟩
  · cases outcome
    exact key

/-- Wherever a persist is cut or fails, it stands at a stage; where it succeeds, at the last. -/
theorem persist_stages {holds : PersistStage → Contents → Prop}
    (stages : PersistStages libraries issued policy now holds) (here : holds .begun contents) :
    Keeps (Somewhere holds) (persist libraries issued policy now) contents
      (Ends (Somewhere holds) fun _ => holds .described) := by
  have begun : Somewhere holds contents := ⟨.begun, here⟩
  refine Keeps.settle (fun _ _ => begun) fun notAfter expiry => ?_
  refine Keeps.written (writeJson_keeps _ _ _ _ begun) (fun _ => begun) fun marker _ => ?_
  refine Keeps.andThen _ (retainExisting_stage stages (stages.marker _ marker here)) ?_
  intro _ after retained
  have certificate := stages.replaceCertificate after retained
  refine Keeps.andThen _ (writeCertKeyPair_stage retained certificate
    (stages.replaceKey _ certificate)) ?_
  intro _ after replaced
  have somewhere : Somewhere holds after := ⟨.replaced, replaced⟩
  refine Keeps.writtenLast (writeJson_keeps _ _ _ _ somewhere) (fun _ => somewhere) ?_
  rintro bytes ⟨text, encoded, rfl⟩
  exact stages.describe after notAfter text replaced expiry encoded

/-! ## Rollback -/

end

inductive RollbackStage where
  | begun
  | certificateReplaced
  | replaced
deriving DecidableEq

/-- Predicates on the stages that follow the changes of a rollback from some contents. -/
structure RollbackStages (before : Contents) (holds : RollbackStage → Contents → Prop) :
    Prop where
  replaceCertificate : ∀ epoch certificate, before.newestRetained = some epoch →
    before.file (.certificate (.retained epoch)) = some certificate →
    holds .certificateReplaced (before.rename (.certificate .live) certificate)
  replaceKey : ∀ epoch certificate key, before.newestRetained = some epoch →
    before.file (.certificate (.retained epoch)) = some certificate →
    before.file (.key (.retained epoch)) = some key →
    holds .replaced ((before.rename (.certificate .live) certificate).rename (.key .live) key)
  restoreIssue : ∀ epoch contents, before.newestRetained = some epoch →
    holds .replaced contents →
    (contents.file (.issue (.retained epoch)) = none →
      holds .replaced (contents.remove (.issue .live))) ∧
    ∀ bytes, contents.file (.issue (.retained epoch)) = some bytes →
      holds .replaced (contents.rename (.issue .live) bytes)
  note : ∀ contents name bytes, name = .reloadFailure ∨ name = .failure →
    holds .replaced contents → holds .replaced (contents.rename name bytes)

section

variable {libraries : Libraries} {now : UInt64} {contents : Contents}
  {holds : RollbackStage → Contents → Prop}

private theorem restoreIssue_stage {before : Contents} {epoch : UInt64}
    (stages : RollbackStages before holds) (newest : before.newestRetained = some epoch)
    (here : holds .replaced contents) :
    Keeps (Somewhere holds) (restoreIssue epoch) contents
      (Ends (Somewhere holds) fun _ => holds .replaced) := by
  have somewhere : Somewhere holds contents := ⟨.replaced, here⟩
  have restore := stages.restoreIssue epoch contents newest here
  refine Keeps.read somewhere (fun bytes found => ?_) (fun missing => ?_)
    fun detail => Keeps.throw somewhere
  · refine Keeps.writtenLast (writeFilePrivate_keeps _ _ _ somewhere) (fun _ => somewhere) ?_
    rintro written rfl
    exact restore.2 _ found
  · exact Keeps.remove somewhere (Keeps.pure (restore.1 missing)) (fun _ => Keeps.pure here)
      fun detail => Keeps.pure here

private theorem recordFailure_stage {kind message : String} {retryAfter : Option UInt64}
    {policy : AcmeRenewalPolicy} (here : holds .replaced contents)
    (note : ∀ bytes, holds .replaced (contents.rename .failure bytes)) :
    Keeps (Somewhere holds) (recordFailure libraries now policy kind message retryAfter) contents
      (Ends (Somewhere holds) fun _ => holds .replaced) := by
  have somewhere : Somewhere holds contents := ⟨.replaced, here⟩
  refine Keeps.unchanged ((readJsonIfPresent_keeps libraries .failure somewhere).mono
    fun _ _ outcome => outcome.1) (fun _ => somewhere) fun previous => ?_
  dsimp only
  split
  · rintro world rfl
    exact somewhere
  · exact Keeps.writtenLast (writeJson_keeps _ _ _ _ somewhere) (fun _ => somewhere)
      fun bytes _ => note bytes

/-- Wherever a rollback is cut or fails, it stands at a stage; where it succeeds, at the last. -/
theorem rollback_stages {stateDir reason : String} (stages : RollbackStages contents holds)
    (here : holds .begun contents) :
    Keeps (Somewhere holds) (rollbackToRetainedPair libraries stateDir now reason) contents
      (Ends (Somewhere holds) fun _ => holds .replaced) := by
  have begun : Somewhere holds contents := ⟨.begun, here⟩
  refine Keeps.unchanged (prepare_keeps stateDir begun) (fun _ => begun) fun _ => ?_
  refine Keeps.andThen (fun found after => after = contents ∧
    ∀ epoch, found = some epoch → contents.newestRetained = some epoch)
    ((newestRetainedEpoch_keeps begun).mono ?_) ?_
  · rintro (failure | found) after ⟨rfl, newest⟩
    · exact begun
    · exact ⟨rfl, fun epoch isEpoch => newest epoch (congrArg Except.ok isEpoch)⟩
  rintro found after ⟨rfl, newest⟩
  cases found with
  | none => exact Keeps.throw begun
  | some epoch =>
      have newest := newest epoch rfl
      refine Keeps.read begun (fun certBytes certFound => ?_)
        (fun _ => Keeps.settle (fun _ _ => begun) fun _ wrong => by cases wrong)
        fun _ => Keeps.settle (fun _ _ => begun) fun _ wrong => by cases wrong
      refine Keeps.settle (fun _ _ => begun) fun _ same => ?_
      cases same
      refine Keeps.read begun (fun keyBytes keyFound => ?_)
        (fun _ => Keeps.settle (fun _ _ => begun) fun _ wrong => by cases wrong)
        fun _ => Keeps.settle (fun _ _ => begun) fun _ wrong => by cases wrong
      refine Keeps.settle (fun _ _ => begun) fun _ same => ?_
      cases same
      refine Keeps.unchanged ((readJsonIfPresent_keeps libraries _ begun).mono
        fun _ _ outcome => outcome.1) (fun _ => begun) fun issue => ?_
      refine Keeps.settle (fun _ _ => begun) fun _ _ => ?_
      refine Keeps.andThen _ (writeCertKeyPair_stage here
        (stages.replaceCertificate epoch certBytes newest certFound)
        (stages.replaceKey epoch certBytes keyBytes newest certFound keyFound)) ?_
      intro _ after replaced
      refine Keeps.andThen _ (restoreIssue_stage stages newest replaced) fun _ after restored => ?_
      have somewhere : Somewhere holds after := ⟨.replaced, restored⟩
      refine Keeps.written (writeJson_keeps _ _ _ _ somewhere) (fun _ => somewhere)
        fun bytes _ => ?_
      have noted := stages.note after .reloadFailure bytes (.inl rfl) restored
      exact recordFailure_stage noted fun bytes => stages.note _ .failure bytes (.inr rfl) noted

end

end Oxo.Edge.Acme
