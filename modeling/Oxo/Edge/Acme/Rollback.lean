import Oxo.Edge.Acme.Stages
import Oxo.Foundation.Machine

/-!
Contract: what a rollback restores (`rollback_to_retained_pair`), over runs of issuances, edge
boots and rollbacks.

Owns: the machine of these operations with the pair that the edge loaded last, the newest
retained pair as a maximum, and the proof that a rollback restores the pair the edge loaded
last when every retention copied that pair, under a new second, since the edge loaded it.

Does not own: why an edge fails to boot. Operations follow one another; each may fail or be
cut anywhere.
-/

namespace Oxo.Edge.Acme

open Oxo.Foundation

variable {libraries : Libraries} {stateDir : String}

/-! ## The machine -/

/-- The directory, the clock, the pair that the edge loaded when it last booted, and whether a
persist retained a pair since. -/
structure Past where
  world : World
  clock : UInt64
  booted : Option (List UInt8 × List UInt8)
  retained : Bool

inductive PastAction where
  /-- A manual or scheduled issuance comes to its persist. -/
  | persist (issued : IssuedCertificate) (policy : AcmeRenewalPolicy) (now : UInt64)
      (script : List Fault)
  /-- An edge boots on the pair on disk, and the marker is consumed. -/
  | boot (script : List Fault)
  /-- A reload failed. -/
  | rollback (now : UInt64) (reason : String) (script : List Fault)

/-- A program on the directory, cut where the script ends. -/
def World.after (world : World) (program : ExceptT AcmeError Disk Unit) (script : List Fault) :
    World × Option (Except AcmeError Unit) :=
  let ran := Program.replay World.respond program.run world.fresh script
  (ran.1, ran.2.map Prod.fst)

/-- The pair in use. -/
def Contents.pair (contents : Contents) : Option (List UInt8 × List UInt8) := do
  let certificate ← contents.file (.certificate .live)
  let key ← contents.file (.key .live)
  return (certificate, key)

namespace Past

def initial (world : World) (clock : UInt64) : Past where
  world := world
  clock := clock
  booted := none
  retained := false

def persisted (libraries : Libraries) (past : Past) (issued : IssuedCertificate)
    (policy : AcmeRenewalPolicy) (now : UInt64) (script : List Fault) : World :=
  (past.world.after (persist libraries issued policy now) script).1

/-- A rollback, and its result where it was not cut. -/
def rolledBack (libraries : Libraries) (stateDir : String) (past : Past) (now : UInt64)
    (reason : String) (script : List Fault) : World × Option (Except AcmeError Unit) :=
  past.world.after (rollbackToRetainedPair libraries stateDir now reason) script

/-- The clock does not go back, and an edge has booted before a reload can fail. -/
def step (libraries : Libraries) (stateDir : String) (past : Past) : PastAction → Option Past
  | .persist issued policy now script =>
      let world := past.persisted libraries issued policy now script
      if past.clock ≤ now then
        some { past with
          world
          clock := now
          retained := past.retained ||
            (past.booted.isSome && decide (.key (.retained now) ∈ world.contents.changed)) }
      else none
  | .boot script =>
      match past.world.contents.pair with
      | some pair =>
          some { past with
            world := (past.world.after (consumeReloadMarker stateDir) script).1
            booted := some pair
            retained := past.retained && decide (past.booted = some pair) }
      | none => none
  | .rollback now reason script =>
      if past.clock ≤ now ∧ past.booted.isSome = true then
        some { past with
          world := (past.rolledBack libraries stateDir now reason script).1
          clock := now }
      else none

end Past

/-- The second a file is retained under. -/
def FileName.retainedSecond : FileName → Option UInt64
  | .certificate (.retained epoch) | .key (.retained epoch) => some epoch
  | _ => none

/-- What a persist retains is the pair that the edge loaded last, under a new second; and a rollback
comes after such a persist. -/
def RetainsBooted (libraries : Libraries) (past : Past) : PastAction → Prop
  | .persist issued policy now script =>
      past.booted.isSome = true →
      (∃ name ∈ (past.persisted libraries issued policy now script).contents.changed,
        name.retainedSecond.isSome = true) →
      past.world.contents.pair = past.booted ∧
        ∀ name ∈ past.world.contents.files.keys, ∀ epoch ∈ name.retainedSecond, epoch < now
  | .boot _ => True
  | .rollback _ _ _ => past.retained = true

instance (past : Past) : (action : PastAction) → Decidable (RetainsBooted libraries past action)
  | .persist issued policy now script =>
      have (name : FileName) : Decidable (∀ epoch ∈ name.retainedSecond, epoch < now) :=
        Option.decidableForallMem _
      inferInstanceAs (Decidable (past.booted.isSome = true →
        (∃ name, name ∈ (past.persisted libraries issued policy now script).contents.changed ∧
          name.retainedSecond.isSome = true) →
        past.world.contents.pair = past.booted ∧
          ∀ name ∈ past.world.contents.files.keys, ∀ epoch, epoch ∈ name.retainedSecond →
            epoch < now))
  | .boot _ => .isTrue trivial
  | .rollback _ _ _ => inferInstanceAs (Decidable (_ = _))

/-! ## The newest retained pair -/

namespace Contents

/-- Both files of a pair are retained under a second. -/
def Complete (contents : Contents) (epoch : UInt64) : Prop :=
  (contents.file (.certificate (.retained epoch))).isSome = true ∧
    (contents.file (.key (.retained epoch))).isSome = true

private theorem retainedCert_eq_some {name : FileName} {epoch : UInt64}
    (found : name.retainedCert = some epoch) : name = .certificate (.retained epoch) := by
  cases name with
  | certificate slot =>
      cases slot with
      | live => cases found
      | retained second =>
          cases found
          rfl
  | _ => cases found

/-- A second that the search may come to: the one it holds, or one with a certificate still
ahead and a key. -/
private def Candidate (contents : Contents) (newest : Option UInt64) (names : List FileName)
    (epoch : UInt64) : Prop :=
  newest = some epoch ∨ .certificate (.retained epoch) ∈ names ∧
    (contents.file (.key (.retained epoch))).isSome = true

/-- What one name does to the second that is held. -/
private theorem newerRetained_cases (contents : Contents) (newest : Option UInt64)
    (name : FileName) :
    (contents.newerRetained newest name = newest ∧
      ∀ epoch, name = .certificate (.retained epoch) →
        (contents.file (.key (.retained epoch))).isSome = true →
        ∃ current, newest = some current ∧ epoch ≤ current) ∨
    ∃ epoch, name = .certificate (.retained epoch) ∧
      (contents.file (.key (.retained epoch))).isSome = true ∧
      contents.newerRetained newest name = some epoch ∧
      ∀ current, newest = some current → current < epoch := by
  cases cert : name.retainedCert with
  | none =>
      refine .inl ⟨by rw [newerRetained, cert], ?_⟩
      rintro epoch rfl
      cases cert
  | some epoch =>
      obtain rfl := retainedCert_eq_some cert
      simp only [newerRetained, cert]
      split
      · rename_i newer
        rw [Bool.and_eq_true] at newer
        refine .inr ⟨epoch, rfl, newer.1, rfl, ?_⟩
        rintro current rfl
        simpa using newer.2
      · rename_i older
        refine .inl ⟨rfl, ?_⟩
        rintro second ⟨⟩ keyed
        rw [keyed, Bool.true_and] at older
        cases newest with
        | none => exact absurd rfl older
        | some current =>
            refine ⟨current, rfl, ?_⟩
            simpa using older

/-- The search comes to a candidate that no other exceeds. -/
private theorem newerRetained_spec (contents : Contents) (names : List FileName)
    (newest : Option UInt64) :
    (∀ epoch, names.foldl contents.newerRetained newest = some epoch →
      contents.Candidate newest names epoch) ∧
    ∀ other, contents.Candidate newest names other →
      ∃ epoch, names.foldl contents.newerRetained newest = some epoch ∧ other ≤ epoch := by
  induction names generalizing newest with
  | nil =>
      refine ⟨fun epoch found => .inl found, ?_⟩
      rintro other (held | ⟨⟨⟩, -⟩)
      exact ⟨other, held, UInt64.le_refl _⟩
  | cons name rest inductionHypothesis =>
      obtain ⟨sound, maximal⟩ := inductionHypothesis (contents.newerRetained newest name)
      rw [List.foldl_cons]
      obtain ⟨same, passed⟩ | ⟨second, rfl, keyed, taken, newer⟩ :=
        contents.newerRetained_cases newest name
      · rw [same] at sound maximal ⊢
        refine ⟨fun epoch found => (sound epoch found).imp id fun ahead =>
          ⟨List.mem_cons_of_mem _ ahead.1, ahead.2⟩, ?_⟩
        rintro other (held | ⟨ahead, keyed⟩)
        · exact maximal other (.inl held)
        · obtain here | later := List.mem_cons.mp ahead
          · obtain ⟨current, isCurrent, below⟩ := passed other here.symm keyed
            obtain ⟨epoch, found, above⟩ := maximal current (.inl isCurrent)
            exact ⟨epoch, found, UInt64.le_trans below above⟩
          · exact maximal other (.inr ⟨later, keyed⟩)
      · rw [taken] at sound maximal ⊢
        refine ⟨fun epoch found => .inr ?_, ?_⟩
        · obtain ⟨⟨⟩⟩ | ahead := sound epoch found
          · exact ⟨List.mem_cons_self, keyed⟩
          · exact ⟨List.mem_cons_of_mem _ ahead.1, ahead.2⟩
        · rintro other (held | ⟨ahead, otherKeyed⟩)
          · obtain ⟨epoch, found, above⟩ := maximal second (.inl rfl)
            exact ⟨epoch, found, UInt64.le_trans (UInt64.le_of_lt (newer other held)) above⟩
          · obtain here | later := List.mem_cons.mp ahead
            · cases here
              exact maximal second (.inl rfl)
            · exact maximal other (.inr ⟨later, otherKeyed⟩)

theorem mem_keys_iff {contents : Contents} {name : FileName} :
    name ∈ contents.files.keys ↔ (contents.file name).isSome = true :=
  AList.lookup_isSome.symm

/-- The newest retained second has both files, and no later one has. -/
theorem newestRetained_eq_some {contents : Contents} {epoch : UInt64}
    (newest : contents.newestRetained = some epoch) :
    contents.Complete epoch ∧ ∀ other, contents.Complete other → other ≤ epoch := by
  obtain ⟨sound, maximal⟩ := newerRetained_spec contents contents.files.keys none
  refine ⟨?_, fun other complete => ?_⟩
  · obtain ⟨⟨⟩⟩ | ⟨listed, keyed⟩ := sound epoch newest
    exact ⟨mem_keys_iff.mp listed, keyed⟩
  · obtain ⟨found, isFound, above⟩ := maximal other (.inr ⟨mem_keys_iff.mpr complete.1, complete.2⟩)
    cases newest.symm.trans isFound
    exact above

end Contents

/-! ## What operations leave of the retained pairs -/

/-- A file that a run did not change is as it was. -/
private theorem replay_untouched {α : Type} (program : Disk α) (world : World)
    (script : List Fault) (name : FileName)
    (absent : name ∉ (program.replay World.respond world script).1.contents.changed) :
    name ∉ world.contents.changed ∧
      (program.replay World.respond world script).1.contents.file name =
        world.contents.file name := by
  induction program generalizing world script with
  | pure value => exact ⟨absent, rfl⟩
  | call op next inductionHypothesis =>
      cases script with
      | nil => exact ⟨absent, rfl⟩
      | cons fault script =>
          obtain ⟨kept, same⟩ := inductionHypothesis _ _ script absent
          have step := World.respond_untouched kept
          exact ⟨step.1, same.trans step.2⟩
  | stop => exact ⟨absent, rfl⟩

/-- Retained files are the same. -/
def SameRetained (before after : Contents) : Prop :=
  ∀ name, name.retainedSecond.isSome = true → after.file name = before.file name

namespace Contents

variable {before after : Contents}

theorem complete_of_same (same : SameRetained before after) {epoch : UInt64} :
    after.Complete epoch ↔ before.Complete epoch := by
  rw [Complete, Complete, same _ rfl, same _ rfl]

/-- The pair that is retained under the newest second. -/
def Restorable (contents : Contents) (pair : List UInt8 × List UInt8) : Prop :=
  ∃ epoch, contents.file (.certificate (.retained epoch)) = some pair.1 ∧
    contents.file (.key (.retained epoch)) = some pair.2 ∧
    ∀ other, contents.Complete other → other ≤ epoch

theorem Restorable.same {pair : List UInt8 × List UInt8} (restorable : before.Restorable pair)
    (same : SameRetained before after) : after.Restorable pair := by
  obtain ⟨epoch, certificate, key, newest⟩ := restorable
  refine ⟨epoch, (same _ rfl).trans certificate, (same _ rfl).trans key, fun other complete => ?_⟩
  exact newest other ((complete_of_same same).mp complete)

/-- Such a pair is what a search for the newest comes to. -/
theorem Restorable.newest {pair : List UInt8 × List UInt8} (restorable : before.Restorable pair)
    {epoch : UInt64} (newest : before.newestRetained = some epoch) :
    before.file (.certificate (.retained epoch)) = some pair.1 ∧
      before.file (.key (.retained epoch)) = some pair.2 := by
  obtain ⟨second, certificate, key, above⟩ := restorable
  obtain ⟨complete, maximal⟩ := newestRetained_eq_some newest
  have same : second = epoch := by
    refine UInt64.le_antisymm (maximal second ⟨?_, ?_⟩) (above epoch complete)
    · rw [certificate]
      rfl
    · rw [key]
      rfl
  rw [← same]
  exact ⟨certificate, key⟩

theorem pair_eq_some {contents : Contents} {certificate key : List UInt8}
    (pair : contents.pair = some (certificate, key)) :
    contents.file (.certificate .live) = some certificate ∧
      contents.file (.key .live) = some key := by
  simp only [Contents.pair, Option.bind_eq_bind, Option.bind_eq_some_iff, Option.pure_def,
    Option.some.injEq, Prod.mk.injEq] at pair
  obtain ⟨found, isFound, foundKey, isFoundKey, rfl, rfl⟩ := pair
  exact ⟨isFound, isFoundKey⟩

end Contents

section

variable {before contents : Contents} {now : UInt64} {pair : List UInt8 × List UInt8}

/-- The pair in use is a given one. -/
private def InUse (pair : List UInt8 × List UInt8) (contents : Contents) : Prop :=
  contents.file (.certificate .live) = some pair.1 ∧ contents.file (.key .live) = some pair.2

/-- Retained files of other seconds are the same. -/
private def OtherSeconds (now : UInt64) (before contents : Contents) : Prop :=
  ∀ name second, name.retainedSecond = some second → second ≠ now →
    contents.file name = before.file name

/-- The pair is retained under a second. -/
private def RetainedAt (now : UInt64) (pair : List UInt8 × List UInt8) (contents : Contents) :
    Prop :=
  contents.file (.certificate (.retained now)) = some pair.1 ∧
    contents.file (.key (.retained now)) = some pair.2

/-- A persist on its way with the pair that is in use when it begins. -/
private def CopiedTo (before : Contents) (now : UInt64) (pair : List UInt8 × List UInt8) :
    PersistStage → Contents → Prop
  | .begun, contents => contents = before
  | .marked, contents =>
      OtherSeconds now before contents ∧ InUse pair contents ∧
        contents.file (.key (.retained now)) = none ∧ .key (.retained now) ∉ contents.changed
  | .certificateRetained, contents =>
      OtherSeconds now before contents ∧ InUse pair contents ∧
        contents.file (.key (.retained now)) = none ∧ .key (.retained now) ∉ contents.changed ∧
        contents.file (.certificate (.retained now)) = some pair.1
  | .keyRetained, contents | .retained, contents =>
      OtherSeconds now before contents ∧ InUse pair contents ∧ RetainedAt now pair contents
  | .certificateReplaced, contents | .replaced, contents | .described, contents =>
      OtherSeconds now before contents ∧ RetainedAt now pair contents

private theorem OtherSeconds.rename (same : OtherSeconds now before contents) {name : FileName}
    {bytes : List UInt8}
    (elsewhere : ∀ second, name.retainedSecond = some second → second = now) :
    OtherSeconds now before (contents.rename name bytes) := by
  intro other second isSecond ne
  rw [Contents.file_rename_ne, same other second isSecond ne]
  rintro rfl
  exact ne (elsewhere second isSecond)

private theorem OtherSeconds.elsewhere (same : OtherSeconds now before contents) {name : FileName}
    {bytes : List UInt8} (other : name.retainedSecond = none) :
    OtherSeconds now before (contents.rename name bytes) := by
  refine same.rename fun second isSecond => ?_
  rw [other] at isSecond
  cases isSecond

private theorem InUse.rename (inUse : InUse pair contents) {name : FileName} {bytes : List UInt8}
    (other : name.ofPair = false) : InUse pair (contents.rename name bytes) := by
  have ne : ∀ file : FileName, file.ofPair = true → file ≠ name := by
    rintro file isPair rfl
    rw [isPair] at other
    cases other
  rw [InUse, Contents.file_rename_ne (ne _ rfl), Contents.file_rename_ne (ne _ rfl)]
  exact inUse

private theorem RetainedAt.rename (retained : RetainedAt now pair contents) {name : FileName}
    {bytes : List UInt8} (other : name.retainedSecond = none) :
    RetainedAt now pair (contents.rename name bytes) := by
  have ne : ∀ file : FileName, file.retainedSecond.isSome = true → file ≠ name := by
    rintro file isRetained rfl
    rw [other] at isRetained
    cases isRetained
  rw [RetainedAt, Contents.file_rename_ne (ne _ rfl), Contents.file_rename_ne (ne _ rfl)]
  exact retained

private theorem persistStages_copied {issued : IssuedCertificate} {policy : AcmeRenewalPolicy}
    (inUse : InUse pair before) (unkeyed : before.file (.key (.retained now)) = none)
    (fresh : before.changed = []) :
    PersistStages libraries issued policy now (CopiedTo before now pair) where
  marker contents bytes begun := by
    cases begun
    have same : OtherSeconds now before before := fun _ _ _ _ => rfl
    refine ⟨same.elsewhere rfl, inUse.rename rfl, ?_, ?_⟩
    · rw [Contents.file_rename_ne FileName.noConfusion, unkeyed]
    · rw [Contents.changed_rename, fresh]
      simp
  bare contents marked missing := by
    rw [marked.2.1.1] at missing
    cases missing
  retainCertificate contents marked := by
    obtain ⟨same, inUse, unkeyed, unchanged⟩ := marked
    refine ⟨fun missing => ?_, fun bytes found => ?_⟩
    · rw [inUse.1] at missing
      cases missing
    · cases inUse.1.symm.trans found
      refine ⟨same.rename ?_, inUse.rename rfl, ?_, ?_, Contents.file_rename⟩
      · rintro second ⟨⟩
        rfl
      · rw [Contents.file_rename_ne FileName.noConfusion, unkeyed]
      · simpa using unchanged
  retainKey contents certified := by
    obtain ⟨same, inUse, -, -, certificate⟩ := certified
    refine ⟨fun missing => ?_, fun bytes found => ?_⟩
    · rw [inUse.2] at missing
      cases missing
    · cases inUse.2.symm.trans found
      refine ⟨same.rename ?_, inUse.rename rfl, ?_, Contents.file_rename⟩
      · rintro second ⟨⟩
        rfl
      · rw [Contents.file_rename_ne FileName.noConfusion, certificate]
  retainIssue contents keyed := by
    obtain ⟨same, inUse, retained⟩ := keyed
    exact ⟨fun _ => ⟨same, inUse, retained⟩,
      fun bytes _ => ⟨same.elsewhere rfl, inUse.rename rfl, retained.rename rfl⟩⟩
  replaceCertificate contents retained := ⟨retained.1.elsewhere rfl, retained.2.2.rename rfl⟩
  replaceKey contents replaced := ⟨replaced.1.elsewhere rfl, replaced.2.rename rfl⟩
  describe contents notAfter text replaced _ _ :=
    ⟨replaced.1.elsewhere rfl, replaced.2.rename rfl⟩

/-- Wherever such a persist is cut or fails, the pair can be restored if it could before, or if
its key was retained. -/
private theorem restorable_of_copied {stage : PersistStage}
    (copied : CopiedTo before now pair stage contents) (start : before.changed = [])
    (fresh : ∀ name, (before.file name).isSome = true → ∀ epoch ∈ name.retainedSecond, epoch < now)
    (owed : .key (.retained now) ∉ contents.changed → before.Restorable pair) :
    contents.Restorable pair := by
  -- without the key, nothing is complete under the new second
  have unkeyed (same : OtherSeconds now before contents)
      (missing : contents.file (.key (.retained now)) = none)
      (unchanged : .key (.retained now) ∉ contents.changed) : contents.Restorable pair := by
    obtain ⟨epoch, certificate, key, newest⟩ := owed unchanged
    have ne : epoch ≠ now := by
      have earlier := fresh (.key (.retained epoch)) (by rw [key]; rfl) epoch rfl
      exact UInt64.ne_of_lt earlier
    refine ⟨epoch, (same _ epoch rfl ne).trans certificate, (same _ epoch rfl ne).trans key, ?_⟩
    rintro other ⟨otherCertificate, otherKey⟩
    have otherNe : other ≠ now := by
      rintro rfl
      rw [missing] at otherKey
      cases otherKey
    rw [same _ other rfl otherNe] at otherCertificate otherKey
    exact newest other ⟨otherCertificate, otherKey⟩
  have keyed (same : OtherSeconds now before contents) (retained : RetainedAt now pair contents) :
      contents.Restorable pair := by
    refine ⟨now, retained.1, retained.2, fun other complete => ?_⟩
    by_cases isNow : other = now
    · rw [isNow]
      exact UInt64.le_refl _
    · have present := complete.1
      rw [same _ other rfl isNow] at present
      exact UInt64.le_of_lt (fresh _ present other rfl)
  cases stage with
  | begun =>
      cases copied
      refine owed ?_
      rw [start]
      exact List.not_mem_nil
  | marked => exact unkeyed copied.1 copied.2.2.1 copied.2.2.2
  | certificateRetained => exact unkeyed copied.1 copied.2.2.1 copied.2.2.2.1
  | keyRetained => exact keyed copied.1 copied.2.2
  | retained => exact keyed copied.1 copied.2.2
  | certificateReplaced => exact keyed copied.1 copied.2
  | replaced => exact keyed copied.1 copied.2
  | described => exact keyed copied.1 copied.2

/-- A rollback leaves the retained files and brings the newest retained pair into use. -/
private def RestoredTo (before : Contents) : RollbackStage → Contents → Prop
  | .begun, contents | .certificateReplaced, contents => SameRetained before contents
  | .replaced, contents => SameRetained before contents ∧
      ∃ epoch, before.newestRetained = some epoch ∧
        contents.file (.certificate .live) = before.file (.certificate (.retained epoch)) ∧
        contents.file (.key .live) = before.file (.key (.retained epoch))

private theorem SameRetained.rename (same : SameRetained before contents) {name : FileName}
    {bytes : List UInt8} (other : name.retainedSecond = none) :
    SameRetained before (contents.rename name bytes) := by
  intro file isRetained
  rw [Contents.file_rename_ne, same file isRetained]
  rintro rfl
  rw [other] at isRetained
  cases isRetained

private theorem SameRetained.remove (same : SameRetained before contents) {name : FileName}
    (other : name.retainedSecond = none) : SameRetained before (contents.remove name) := by
  intro file isRetained
  rw [Contents.file_remove_ne, same file isRetained]
  rintro rfl
  rw [other] at isRetained
  cases isRetained

/-- Consuming the marker leaves the retained files. -/
private theorem consumeReloadMarker_retained (stateDir : String) :
    Keeps (SameRetained before) (consumeReloadMarker stateDir) before
      fun _ after => SameRetained before after := by
  have same : SameRetained before before := fun _ _ => rfl
  refine Keeps.unchanged (prepare_keeps stateDir same) (fun _ => same) fun _ => ?_
  exact Keeps.remove same (Keeps.pure (same.remove rfl)) (fun _ => Keeps.pure same)
    fun detail => Keeps.throw same

private theorem rollbackStages_restored (before : Contents) :
    RollbackStages before (RestoredTo before) where
  replaceCertificate epoch certificate _ _ :=
    SameRetained.rename (fun _ _ => rfl : SameRetained before before) rfl
  replaceKey epoch certificate key newest found foundKey := by
    have same : SameRetained before before := fun _ _ => rfl
    refine ⟨(same.rename rfl).rename rfl, epoch, newest, ?_, ?_⟩
    · rw [Contents.file_rename_ne FileName.noConfusion, Contents.file_rename, found]
    · rw [Contents.file_rename, foundKey]
  restoreIssue epoch contents _ replaced := by
    obtain ⟨same, second, newest, certificate, key⟩ := replaced
    refine ⟨fun _ => ⟨same.remove rfl, second, newest, ?_⟩,
      fun bytes _ => ⟨same.rename rfl, second, newest, ?_⟩⟩
    · rw [Contents.file_remove_ne FileName.noConfusion, Contents.file_remove_ne FileName.noConfusion]
      exact ⟨certificate, key⟩
    · rw [Contents.file_rename_ne FileName.noConfusion, Contents.file_rename_ne FileName.noConfusion]
      exact ⟨certificate, key⟩
  note contents name bytes isNote replaced := by
    obtain ⟨same, second, newest, certificate, key⟩ := replaced
    have other : name.retainedSecond = none := by
      obtain rfl | rfl := isNote <;> rfl
    refine ⟨same.rename other, second, newest, ?_⟩
    obtain rfl | rfl := isNote
    · rw [Contents.file_rename_ne FileName.noConfusion, Contents.file_rename_ne FileName.noConfusion]
      exact ⟨certificate, key⟩
    · rw [Contents.file_rename_ne FileName.noConfusion, Contents.file_rename_ne FileName.noConfusion]
      exact ⟨certificate, key⟩

end

/-! ## Runs -/

/-- Where a persist retained the pair that the edge loaded last, a rollback restores that pair. -/
def Past.Sound (past : Past) : Prop :=
  past.retained = true → ∃ pair, past.booted = some pair ∧ past.world.contents.Restorable pair

section

variable {past next : Past}

/-- A program that is cut or fails at some stage, or ends at the last one. -/
private theorem after_stage {Stage : Type} {holds : Stage → Contents → Prop} {last : Stage}
    {program : ExceptT AcmeError Disk Unit} {world : World}
    (keeps : Keeps (Somewhere holds) program world.fresh.contents
      (Ends (Somewhere holds) fun _ => holds last)) (script : List Fault) :
    Somewhere holds (world.after program script).1.contents := by
  have outcome := keeps.replay script
  cases ended : (Program.replay World.respond program.run world.fresh script).2 with
  | none => exact outcome.2 ended
  | some result =>
      obtain ⟨result, rest⟩ := result
      have holds := outcome.1 result rest ended
      cases result with
      | ok done => exact ⟨last, holds⟩
      | error failure => exact holds

private theorem sound_persist {issued : IssuedCertificate} {policy : AcmeRenewalPolicy}
    {now : UInt64} {script : List Fault} (sound : past.Sound)
    (copies : RetainsBooted libraries past (.persist issued policy now script))
    (stepped : past.step libraries stateDir (.persist issued policy now script) = some next) :
    next.Sound := by
  simp only [Past.step] at stepped
  split at stepped
  · cases stepped
    intro retained
    simp only [Bool.or_eq_true, Bool.and_eq_true, decide_eq_true_eq] at retained
    obtain ⟨pair, booted⟩ : ∃ pair, past.booted = some pair := by
      obtain before | ⟨booted, -⟩ := retained
      · exact (sound before).imp fun pair found => found.1
      · exact Option.isSome_iff_exists.mp booted
    refine ⟨pair, booted, ?_⟩
    have owed : .key (.retained now) ∉
        (past.persisted libraries issued policy now script).contents.changed →
        past.world.contents.Restorable pair := by
      intro unchanged
      obtain ⟨found, isFound, restorable⟩ := sound (retained.resolve_right fun new =>
        unchanged new.2)
      cases booted.symm.trans isFound
      exact restorable
    by_cases touched : ∃ name ∈ (past.persisted libraries issued policy now script).contents.changed,
        name.retainedSecond.isSome = true
    · obtain ⟨inUse, fresh⟩ := copies (by rw [booted]; rfl) touched
      rw [booted] at inUse
      have unkeyed : past.world.contents.file (.key (.retained now)) = none := by
        rw [← Option.not_isSome_iff_eq_none]
        intro present
        have earlier := fresh _ (Contents.mem_keys_iff.mpr present) now rfl
        exact absurd earlier (UInt64.lt_irrefl now)
      have stages : PersistStages libraries issued policy now
          (CopiedTo past.world.fresh.contents now pair) :=
        persistStages_copied (Contents.pair_eq_some inUse) unkeyed rfl
      obtain ⟨stage, copied⟩ := after_stage (persist_stages stages rfl) script
      exact restorable_of_copied copied rfl
        (fun name present => fresh name (Contents.mem_keys_iff.mpr present)) owed
    · have same : SameRetained past.world.contents
          (past.persisted libraries issued policy now script).contents := by
        intro name isRetained
        exact (replay_untouched _ _ _ name fun changed => touched ⟨name, changed, isRetained⟩).2
      refine (owed fun changed => touched ⟨_, changed, rfl⟩).same same
  · cases stepped

private theorem sound_boot {script : List Fault} (sound : past.Sound)
    (stepped : past.step libraries stateDir (.boot script) = some next) : next.Sound := by
  simp only [Past.step] at stepped
  split at stepped
  · rename_i pair inUse
    cases stepped
    intro retained
    simp only [Bool.and_eq_true, decide_eq_true_eq] at retained
    obtain ⟨found, isFound, restorable⟩ := sound retained.1
    cases retained.2.symm.trans isFound
    have consumed : SameRetained past.world.fresh.contents
        (past.world.after (consumeReloadMarker stateDir) script).1.contents := by
      have keeps : Keeps (SameRetained past.world.fresh.contents) (consumeReloadMarker stateDir)
          past.world.fresh.contents fun _ => SameRetained past.world.fresh.contents :=
        consumeReloadMarker_retained stateDir
      have outcome := keeps.replay script
      cases ended : (Program.replay World.respond (consumeReloadMarker stateDir).run
          past.world.fresh script).2 with
      | none => exact outcome.2 ended
      | some result => exact outcome.1 _ _ ended
    exact ⟨pair, rfl, restorable.same consumed⟩
  · cases stepped

private theorem rolledBack_restored (now : UInt64) (reason : String) (script : List Fault) :
    SameRetained past.world.contents
      (past.rolledBack libraries stateDir now reason script).1.contents ∧
    ((past.rolledBack libraries stateDir now reason script).2 = some (.ok ()) →
      RestoredTo past.world.fresh.contents .replaced
        (past.rolledBack libraries stateDir now reason script).1.contents) := by
  have keeps : Keeps (Somewhere (RestoredTo past.world.fresh.contents))
      (rollbackToRetainedPair libraries stateDir now reason) past.world.fresh.contents
      (Ends (Somewhere (RestoredTo past.world.fresh.contents))
        fun _ => RestoredTo past.world.fresh.contents .replaced) :=
    rollback_stages (rollbackStages_restored _) fun _ _ => rfl
  refine ⟨?_, fun succeeded => ?_⟩
  · obtain ⟨stage, restored⟩ := after_stage keeps script
    cases stage with
    | begun => exact restored
    | certificateReplaced => exact restored
    | replaced => exact restored.1
  · obtain ⟨⟨result, rest⟩, ended, isOk⟩ := Option.map_eq_some_iff.mp succeeded
    cases isOk
    exact (keeps.replay script).1 _ rest ended

private theorem sound_step {action : PastAction} (sound : past.Sound)
    (retains : RetainsBooted libraries past action)
    (stepped : past.step libraries stateDir action = some next) : next.Sound := by
  cases action with
  | persist issued policy now script => exact sound_persist sound retains stepped
  | boot script => exact sound_boot sound stepped
  | rollback now reason script =>
      simp only [Past.step] at stepped
      split at stepped
      · cases stepped
        intro retained
        obtain ⟨pair, booted, restorable⟩ := sound retained
        exact ⟨pair, booted, restorable.same (rolledBack_restored now reason script).1⟩
      · cases stepped

end

/-- After every run in which persists retain the pair that the edge loaded last and rollbacks come
after such a persist, a rollback that succeeds brings that pair back into use. -/
theorem rollback_restores_booted_pair {world : World} {clock : UInt64} {actions : List PastAction}
    {past next : Past}
    (retains : Machine.Meets (Past.step libraries stateDir) (RetainsBooted libraries)
      (Past.initial world clock) actions)
    (ran : Machine.exec (Past.step libraries stateDir) (Past.initial world clock) actions =
      some past)
    {now : UInt64} {reason : String} {script : List Fault}
    (retained : RetainsBooted libraries past (.rollback now reason script))
    (stepped : past.step libraries stateDir (.rollback now reason script) = some next)
    (succeeded : (past.rolledBack libraries stateDir now reason script).2 = some (.ok ())) :
    next.world.contents.pair = past.booted := by
  have initial : (Past.initial world clock).Sound := fun wrong => nomatch wrong
  have sound := Machine.invariant_of_meets
    (fun _ _ _ before permitted stepped => sound_step before permitted stepped) initial retains ran
  obtain ⟨pair, booted, restorable⟩ := sound retained
  obtain ⟨-, epoch, newest, certificate, key⟩ := (rolledBack_restored now reason script).2 succeeded
  obtain ⟨found, foundKey⟩ := Contents.Restorable.newest restorable newest
  simp only [Past.step] at stepped
  split at stepped
  · cases stepped
    rw [booted, Contents.pair, certificate.trans found, key.trans foundKey]
    rfl
  · cases stepped

namespace Sample

def bootFailure : String := "edge failed to boot with the renewed certificate"

/-- The objects of two persists, the marker of a third and the records of a rollback. -/
def rollbackObjects : List Json :=
  [reloadMarker 1795000000, reloadMarker 1796000000, reloadMarker 1797000000,
    issueMetadata firstIssued .standard (some 1802779880) 1795000000,
    issueMetadata secondIssued .standard (some 1810555880) 1796000000,
    [("failed_at_epoch_seconds", .u64 1797000060), ("reason", .string bootFailure),
      ("rolled_back", .bool true)],
    [("kind", .string "reload-rolled-back"), ("message", .string bootFailure),
      ("failure_count", .u64 1), ("failed_at_epoch_seconds", .u64 1797000060),
      ("next_attempt_epoch_seconds", .u64 1797000382), ("plaintext_fallback", .bool false)]]

def retaining : Libraries :=
  librariesOf rollbackObjects (by decide +kernel)

/-- Operations that work. -/
def works (count : Nat) : List Fault :=
  List.replicate count .works

/-- The first pair is issued and served, the second is issued. -/
def firstServed : List PastAction :=
  [.persist firstIssued .standard 1795000000 (works 64), .boot (works 8),
    .persist secondIssued .standard 1796000000 (works 64)]

/-- The second pair is served too; another persist writes its marker and is cut. -/
def secondServed : List PastAction :=
  firstServed ++ [.boot (works 8), .persist firstIssued .standard 1797000000 (works 5)]

end Sample

/-- The second pair does not boot: the first one, served until then, is restored. -/
theorem rollback_restores_booted_pair_first : ∃ past next,
    Machine.exec (Past.step Sample.retaining "/acme") (Past.initial (World.empty 0o700) 0)
      Sample.firstServed = some past ∧
    past.step Sample.retaining "/acme" (.rollback 1797000060 Sample.bootFailure (Sample.works 64)) =
      some next ∧
    next.world.contents.pair = past.booted := by
  obtain ⟨past, ran, succeeded, retained, enabled⟩ : ∃ past,
      Machine.exec (Past.step Sample.retaining "/acme") (Past.initial (World.empty 0o700) 0)
        Sample.firstServed = some past ∧
      (past.rolledBack Sample.retaining "/acme" 1797000060 Sample.bootFailure
        (Sample.works 64)).2 = some (.ok ()) ∧ past.retained = true ∧
      (past.clock ≤ 1797000060 ∧ past.booted.isSome = true) :=
    Machine.exists_exec (by decide +kernel)
  have stepped : past.step Sample.retaining "/acme"
      (.rollback 1797000060 Sample.bootFailure (Sample.works 64)) = some _ :=
    if_pos enabled
  exact ⟨past, _, ran, stepped,
    rollback_restores_booted_pair (by decide +kernel) ran retained stepped succeeded⟩

/-- The edge boots on the second pair; a persist that is cut before it retains anything leaves a
marker; the reload fails, and the first pair is restored. -/
theorem rollback_restores_older_pair : ∃ past next,
    Machine.exec (Past.step Sample.retaining "/acme") (Past.initial (World.empty 0o700) 0)
      Sample.secondServed = some past ∧
    past.step Sample.retaining "/acme" (.rollback 1797000060 Sample.bootFailure (Sample.works 64)) =
      some next ∧
    (past.rolledBack Sample.retaining "/acme" 1797000060 Sample.bootFailure
      (Sample.works 64)).2 = some (.ok ()) ∧
    next.world.contents.pair ≠ past.booted := by
  obtain ⟨past, ran, succeeded, stepped⟩ : ∃ past,
      Machine.exec (Past.step Sample.retaining "/acme") (Past.initial (World.empty 0o700) 0)
        Sample.secondServed = some past ∧
      (past.rolledBack Sample.retaining "/acme" 1797000060 Sample.bootFailure
        (Sample.works 64)).2 = some (.ok ()) ∧
      ((past.step Sample.retaining "/acme" (.rollback 1797000060 Sample.bootFailure
        (Sample.works 64))).map fun next => decide (next.world.contents.pair = past.booted)) =
          some false :=
    Machine.exists_exec (by decide +kernel)
  obtain ⟨next, stepped, other⟩ := Option.map_eq_some_iff.mp stepped
  exact ⟨past, next, ran, stepped, succeeded, of_decide_eq_false other⟩

end Oxo.Edge.Acme
