import Oxo.Edge.Headers

/-!
Contract: the keep bitmap and the owned sanitizer select the same headers.

Owns: the survivors of a header list, the equation of each sanitizer in terms
of them, and the reading of the bitmap back into the list it marks.

Does not own: the frame built from the survivors.
-/

namespace Oxo.Edge

open Oxo.Foundation Oxo.Core

/-! ## Connection tokens -/

/-- Some `Connection` value names an upgrade. -/
def namesUpgrade (headers : List LoweredHeader) : Bool :=
  headers.any fun header =>
    header.lower == "connection" && (split header.value ',').any isUpgradeToken

private theorem rejectUpgradeToken_eq (headers : List LoweredHeader) :
    rejectUpgradeToken headers =
      if namesUpgrade headers then .error .upgradeUnsupported else .ok () := by
  induction headers with
  | nil => rfl
  | cons header rest inductionHypothesis =>
      unfold rejectUpgradeToken namesUpgrade
      rw [List.any_cons, inductionHypothesis]
      cases header.lower == "connection" && (split header.value ',').any isUpgradeToken with
      | true => rfl
      | false => rfl

theorem toAsciiLowercase_eq_empty (text : String) : toAsciiLowercase text = "" ↔ text = "" := by
  constructor
  · intro lowered
    have chars := congrArg String.toList lowered
    simp only [toAsciiLowercase, String.toList_ofList, String.toList_empty,
      List.map_eq_nil_iff] at chars
    exact String.toList_eq_nil_iff.mp chars
  · intro empty
    rw [empty]
    rfl

private theorem insertConnectionTokens_spec (values tokens : List String) :
    (values.any isUpgradeToken = true →
      insertConnectionTokens values tokens = .error .upgradeUnsupported) ∧
    (values.any isUpgradeToken = false → ∃ result,
      insertConnectionTokens values tokens = .ok result ∧
        ∀ name, name ∈ result ↔ name ∈ tokens ∨
          ∃ token ∈ values, trim token ≠ "" ∧ toAsciiLowercase (trim token) = name) := by
  induction values generalizing tokens with
  | nil =>
      refine ⟨by simp, fun _ => ⟨tokens, rfl, by simp⟩⟩
  | cons token rest inductionHypothesis =>
      have upgradeEq : isUpgradeToken token =
          (trim token != "" && toAsciiLowercase (trim token) == "upgrade") := rfl
      rw [List.any_cons, upgradeEq]
      unfold insertConnectionTokens
      simp only [toAsciiLowercase_eq_empty]
      by_cases empty : trim token = ""
      · simp only [empty, bne_self_eq_false, Bool.false_and, Bool.false_or,
          List.exists_mem_cons_iff, ne_eq, not_true_eq_false, false_and, false_or]
        exact inductionHypothesis tokens
      · simp only [if_neg empty, bne_iff_ne.mpr empty, Bool.true_and]
        cases isUpgrade : toAsciiLowercase (trim token) == "upgrade" with
        | true => simp
        | false =>
            simp only [Bool.false_or, Bool.false_eq_true, ↓reduceIte]
            obtain ⟨rejects, accepts⟩ := inductionHypothesis
              (tokens.insert (toAsciiLowercase (trim token)))
            refine ⟨rejects, ?_⟩
            intro clean
            obtain ⟨result, inserted, members⟩ := accepts clean
            refine ⟨result, inserted, ?_⟩
            intro name
            rw [members name, List.mem_insert_iff, List.exists_mem_cons_iff]
            simp only [empty, ne_eq, not_false_eq_true, true_and]
            rw [or_comm (a := name = _), or_assoc, eq_comm (a := name)]

/-- Some token of some `Connection` value lowercases to the name. -/
private def NamedByConnection (headers : List LoweredHeader) (name : String) : Prop :=
  ∃ header ∈ headers, header.lower = "connection" ∧
    ∃ token ∈ split header.value ',', trim token ≠ "" ∧ toAsciiLowercase (trim token) = name

private theorem collectConnectionTokens_spec (headers : List LoweredHeader)
    (tokens : List String) :
    (namesUpgrade headers = true →
      collectConnectionTokens headers tokens = .error .upgradeUnsupported) ∧
    (namesUpgrade headers = false → ∃ result,
      collectConnectionTokens headers tokens = .ok result ∧
        ∀ name, name ∈ result ↔ name ∈ tokens ∨ NamedByConnection headers name) := by
  induction headers generalizing tokens with
  | nil =>
      refine ⟨by simp [namesUpgrade], fun _ => ⟨tokens, rfl, by simp [NamedByConnection]⟩⟩
  | cons header rest inductionHypothesis =>
      have namesUpgradeCons : namesUpgrade (header :: rest) =
          ((header.lower == "connection" && (split header.value ',').any isUpgradeToken) ||
            namesUpgrade rest) := rfl
      have namedCons : ∀ name, NamedByConnection (header :: rest) name ↔
          (header.lower = "connection" ∧ ∃ token ∈ split header.value ',',
            trim token ≠ "" ∧ toAsciiLowercase (trim token) = name) ∨
          NamedByConnection rest name := by
        intro name
        exact List.exists_mem_cons_iff ..
      rw [namesUpgradeCons]
      unfold collectConnectionTokens
      cases isConnection : header.lower == "connection" with
      | false =>
          have notConnection : header.lower ≠ "connection" := beq_eq_false_iff_ne.mp isConnection
          simp only [Bool.false_and, Bool.false_or, Bool.false_eq_true, ↓reduceIte, namedCons,
            notConnection, false_and, false_or]
          exact inductionHypothesis tokens
      | true =>
          have isConnectionEq : header.lower = "connection" := beq_iff_eq.mp isConnection
          simp only [Bool.true_and, ↓reduceIte, namedCons, isConnectionEq, true_and]
          obtain ⟨rejects, accepts⟩ := insertConnectionTokens_spec (split header.value ',') tokens
          cases upgrade : (split header.value ',').any isUpgradeToken with
          | true =>
              rw [rejects upgrade]
              exact ⟨fun _ => rfl, fun impossible => by simp at impossible⟩
          | false =>
              obtain ⟨inserted, insertedEq, insertedMembers⟩ := accepts upgrade
              rw [insertedEq]
              obtain ⟨restRejects, restAccepts⟩ := inductionHypothesis inserted
              refine ⟨restRejects, ?_⟩
              intro clean
              obtain ⟨result, resultEq, members⟩ := restAccepts clean
              refine ⟨result, resultEq, ?_⟩
              intro name
              rw [members name, insertedMembers name, or_assoc]

private theorem connectionNamesMatch_iff (headers : List LoweredHeader) (candidate : String) :
    connectionNamesMatch headers candidate = true ↔
      NamedByConnection headers (toAsciiLowercase candidate) := by
  simp only [connectionNamesMatch, NamedByConnection, List.any_eq_true, List.mem_filter,
    List.mem_map, beq_iff_eq, Bool.and_eq_true, bne_iff_ne, eqIgnoreAsciiCase]
  constructor
  · intro found
    obtain ⟨header, ⟨member, isConnection⟩, _, ⟨token, tokenMember, rfl⟩, nonempty, same⟩ := found
    exact ⟨header, member, isConnection, token, tokenMember, nonempty, same⟩
  · intro found
    obtain ⟨header, member, isConnection, token, tokenMember, nonempty, same⟩ := found
    exact ⟨header, ⟨member, isConnection⟩, _, ⟨token, tokenMember, rfl⟩, nonempty, same⟩

/-! ## Survivors -/

/-- The sanitizers drop this header of the list. -/
def isStripped (headers : List LoweredHeader) (header : LoweredHeader) : Bool :=
  shouldStripHeaderScan header.lower (connectionNamesMatch headers)

/-- The headers that reach the worker, in client order. -/
def survivors (headers : List LoweredHeader) : List LoweredHeader :=
  headers.filter fun header => !isStripped headers header

/-- The rejection a header list meets: an upgrade token anywhere, else the first
header the ladder refuses. -/
def listRejection (protocols : ProtocolSupport) (headers : List LoweredHeader) :
    Option RequestRejection :=
  if namesUpgrade headers then some .upgradeUnsupported
  else headers.findSome? (headerRejection protocols)

private theorem sanitizeHeaders_eq (protocols : ProtocolSupport) (tokens : List String)
    (headers : List LoweredHeader) :
    sanitizeHeaders protocols tokens headers =
      match headers.findSome? (headerRejection protocols) with
      | some rejection => .error rejection
      | none => .ok
          { headers := (headers.filter fun header => !shouldStripHeader header.lower tokens).map
              fun header => (header.name, header.value)
            strippedHeaders := (headers.filter fun header =>
              shouldStripHeader header.lower tokens).map LoweredHeader.name } := by
  induction headers with
  | nil => rfl
  | cons header rest inductionHypothesis =>
      unfold sanitizeHeaders
      rw [List.findSome?_cons]
      cases headerRejection protocols header with
      | some rejection => rfl
      | none =>
          rw [inductionHypothesis]
          cases rest.findSome? (headerRejection protocols) with
          | some rejection => rfl
          | none =>
              cases strips : shouldStripHeader header.lower tokens with
              | true =>
                  simp only [List.filter_cons, strips]
                  rfl
              | false =>
                  simp only [List.filter_cons, strips]
                  rfl

/-- The owned sanitizer, in terms of the survivors. -/
theorem sanitizeLoweredWorkerRequestHeadersBare_eq (headers : List LoweredHeader)
    (protocols : ProtocolSupport) :
    sanitizeLoweredWorkerRequestHeadersBare headers protocols =
      match listRejection protocols headers with
      | some rejection => .error rejection
      | none => .ok
          { headers := (survivors headers).map fun header => (header.name, header.value)
            strippedHeaders := (headers.filter (isStripped headers)).map LoweredHeader.name } := by
  unfold sanitizeLoweredWorkerRequestHeadersBare listRejection
  obtain ⟨rejects, accepts⟩ := collectConnectionTokens_spec headers []
  cases upgrade : namesUpgrade headers with
  | true =>
      rw [rejects upgrade]
      rfl
  | false =>
      obtain ⟨tokens, collected, members⟩ := accepts upgrade
      have sameStrip : ∀ header : LoweredHeader,
          shouldStripHeader header.lower tokens = isStripped headers header := by
        intro header
        have sameTokens : tokens.contains header.lower =
            connectionNamesMatch headers header.lower := by
          rw [Bool.eq_iff_iff, List.contains_iff_mem, members, connectionNamesMatch_iff,
            header.lower_eq, toAsciiLowercase_idem]
          simp
        unfold shouldStripHeader isStripped shouldStripHeaderScan
        rw [sameTokens]
      rw [collected]
      change sanitizeHeaders protocols tokens headers = _
      rw [sanitizeHeaders_eq]
      simp only [sameStrip, survivors, Bool.false_eq_true, ↓reduceIte]

/-! ## The bitmap -/

namespace FrameHeaderPlan

private theorem word_bit (word : BitVec 64) (index : Nat) :
    ((word >>> index) &&& 1 == 1) = word.getLsbD index := by
  have low : (word >>> index) &&& 1 = BitVec.setWidth 64 (BitVec.ofBool (word.getLsbD index)) := by
    rw [show (1 : BitVec 64) = 1#64 from rfl, BitVec.and_one_eq_setWidth_ofBool_getLsbD]
    simp
  rw [low]
  cases word.getLsbD index <;> decide

theorem word_lt {index : Nat} (small : index < 128) : index / 64 < 2 := by omega

theorem keeps_eq (plan : FrameHeaderPlan) {index : Nat} (small : index < 128) :
    plan.keeps index = (plan.keep ⟨index / 64, word_lt small⟩).getLsbD (index % 64) := by
  unfold keeps
  rw [dif_pos small, word_bit]

theorem keeps_of_large (plan : FrameHeaderPlan) {index : Nat} (large : ¬ index < 128) :
    plan.keeps index = false := by
  unfold keeps
  rw [dif_neg large]

/-- Setting one bit changes one index. -/
theorem keeps_setKeep (plan : FrameHeaderPlan) {index : Nat} (small : index < 128)
    (count : Nat) (host : Bool) (other : Nat) :
    (FrameHeaderPlan.mk (setKeep plan.keep index) count host).keeps other =
      (plan.keeps other || other == index) := by
  by_cases otherSmall : other < 128
  · rw [keeps_eq _ otherSmall, keeps_eq _ otherSmall]
    simp only [setKeep]
    by_cases sameWord : other / 64 = index / 64
    · have bit : ((1 : BitVec 64) <<< (index % 64)).getLsbD (other % 64) = (other == index) := by
        rw [show (1 : BitVec 64) = 1#64 from rfl, ← BitVec.twoPow_eq, BitVec.getLsbD_twoPow]
        rw [Bool.eq_iff_iff]
        simp only [Bool.and_eq_true, decide_eq_true_eq, beq_iff_eq]
        omega
      rw [if_pos sameWord, BitVec.getLsbD_or, bit]
    · have different : (other == index) = false := by
        rw [beq_eq_false_iff_ne]
        intro same
        rw [same] at sameWord
        exact sameWord rfl
      rw [if_neg sameWord, different, Bool.or_false]
  · have different : (other == index) = false := by
      rw [beq_eq_false_iff_ne]
      omega
    rw [keeps_of_large _ otherSmall, keeps_of_large _ otherSmall, different]
    rfl

end FrameHeaderPlan

section Plan

variable (protocols : ProtocolSupport) (namesMatch : String → Bool)

private def isKept (header : LoweredHeader) : Bool :=
  !shouldStripHeaderScan header.lower namesMatch

/-- What a run of the plan loop adds to the plan it starts from. -/
private structure Extends (index : Nat) (headers : List LoweredHeader)
    (before after : FrameHeaderPlan) : Prop where
  survivorCount : after.survivorCount =
    before.survivorCount + (headers.filter (isKept namesMatch)).length
  hasHost : after.hasHost = (before.hasHost ||
    (headers.filter (isKept namesMatch)).any fun header => header.lower == "host")
  keeps : ∀ other, after.keeps other = (before.keeps other ||
    (decide (index ≤ other) && (headers[other - index]?).any (isKept namesMatch)))

private theorem planHeaders_spec (index : Nat) (headers : List LoweredHeader)
    (plan : FrameHeaderPlan) (bound : index + headers.length ≤ 128) :
    match headers.findSome? (headerRejection protocols) with
    | some rejection => planHeaders protocols namesMatch index headers plan = .error rejection
    | none => ∃ result, planHeaders protocols namesMatch index headers plan = .ok result ∧
        Extends namesMatch index headers plan result := by
  induction headers generalizing index plan with
  | nil => exact ⟨plan, rfl, by simp, by simp, by simp⟩
  | cons header rest inductionHypothesis =>
      unfold planHeaders
      rw [List.findSome?_cons]
      rw [List.length_cons] at bound
      -- The head index is the only one the first step can touch.
      have headIndex : ∀ other, (decide (index ≤ other) &&
          ((header :: rest)[other - index]?).any (isKept namesMatch)) =
          ((other == index && isKept namesMatch header) || (decide (index + 1 ≤ other) &&
            (rest[other - (index + 1)]?).any (isKept namesMatch))) := by
        intro other
        rcases Nat.lt_trichotomy other index with before | same | after
        · have notLe : ¬ index ≤ other := by omega
          have notLe' : ¬ index + 1 ≤ other := by omega
          have different : (other == index) = false := by
            rw [beq_eq_false_iff_ne]
            omega
          simp [notLe, notLe', different]
        · simp [same]
        · obtain ⟨offset, offsetEq⟩ : ∃ offset, other - index = offset + 1 :=
            ⟨other - index - 1, by omega⟩
          have shifted : other - (index + 1) = offset := by omega
          have different : (other == index) = false := by
            rw [beq_eq_false_iff_ne]
            omega
          have le : index ≤ other := by omega
          have le' : index + 1 ≤ other := by omega
          simp [offsetEq, shifted, different, le, le']
      cases headerRejection protocols header with
      | some rejection => rfl
      | none =>
          cases strips : shouldStripHeaderScan header.lower namesMatch with
          | true =>
              have kept : isKept namesMatch header = false := by simp [isKept, strips]
              have later := inductionHypothesis (index + 1) plan (by omega)
              simp only [↓reduceIte]
              cases found : rest.findSome? (headerRejection protocols) with
              | some rejection =>
                  rw [found] at later
                  exact later
              | none =>
                  rw [found] at later
                  obtain ⟨result, planned, extends'⟩ := later
                  refine ⟨result, planned, ?_, ?_, ?_⟩
                  · simp [kept, extends'.survivorCount]
                  · simp [kept, extends'.hasHost]
                  · intro other
                    rw [headIndex, kept, extends'.keeps]
                    simp
          | false =>
              have kept : isKept namesMatch header = true := by simp [isKept, strips]
              have later := inductionHypothesis (index + 1)
                { keep := FrameHeaderPlan.setKeep plan.keep index
                  survivorCount := plan.survivorCount + 1
                  hasHost := plan.hasHost || header.lower == "host" } (by omega)
              simp only [Bool.false_eq_true, ↓reduceIte]
              cases found : rest.findSome? (headerRejection protocols) with
              | some rejection =>
                  rw [found] at later
                  exact later
              | none =>
                  rw [found] at later
                  obtain ⟨result, planned, extends'⟩ := later
                  refine ⟨result, planned, ?_, ?_, ?_⟩
                  · simp only [List.filter_cons, kept, extends'.survivorCount, ↓reduceIte,
                      List.length_cons]
                    omega
                  · simp [kept, extends'.hasHost, Bool.or_assoc]
                  · intro other
                    rw [headIndex, kept, extends'.keeps,
                      FrameHeaderPlan.keeps_setKeep _ (by omega), Bool.and_true, Bool.or_assoc]

end Plan

/-- The headers a plan keeps, paired with their indices as the frame builder
enumerates them. -/
def FrameHeaderPlan.kept (plan : FrameHeaderPlan) (headers : List LoweredHeader) :
    List (LoweredHeader × Nat) :=
  headers.zipIdx.filter fun entry => plan.keeps entry.2

/-- A plan stands for the survivors of a header list. -/
structure FrameHeaderPlan.Represents (plan : FrameHeaderPlan) (headers : List LoweredHeader) :
    Prop where
  kept : (plan.kept headers).map Prod.fst = survivors headers
  survivorCount : plan.survivorCount = (survivors headers).length
  hasHost : plan.hasHost = (survivors headers).any fun header => header.lower == "host"

/-- The frame sanitizer, in terms of the survivors. -/
theorem sanitizeFrameHeaders_spec (headers : List LoweredHeader) (protocols : ProtocolSupport)
    (few : headers.length ≤ 128) :
    match listRejection protocols headers with
    | some rejection => sanitizeFrameHeaders headers protocols = .error rejection
    | none => ∃ plan, sanitizeFrameHeaders headers protocols = .ok plan ∧
        plan.Represents headers := by
  unfold sanitizeFrameHeaders listRejection
  rw [if_neg (Nat.not_lt.mpr few), rejectUpgradeToken_eq]
  cases upgrade : namesUpgrade headers with
  | true => rfl
  | false =>
      have planned := planHeaders_spec protocols (connectionNamesMatch headers) 0 headers
        ⟨fun _ => 0, 0, false⟩ (by omega)
      simp only [Bool.false_eq_true, ↓reduceIte]
      cases found : headers.findSome? (headerRejection protocols) with
      | some rejection =>
          rw [found] at planned
          exact planned
      | none =>
          rw [found] at planned
          obtain ⟨plan, planEq, extends'⟩ := planned
          refine ⟨plan, planEq, ?_, ?_, ?_⟩
          · have empty : ∀ other, (FrameHeaderPlan.mk (fun _ => 0) 0 false).keeps other = false := by
              intro other
              by_cases small : other < 128
              · rw [FrameHeaderPlan.keeps_eq _ small]
                exact BitVec.getLsbD_zero
              · exact FrameHeaderPlan.keeps_of_large _ small
            have sameFilter : plan.kept headers = headers.zipIdx.filter fun entry =>
                !isStripped headers entry.1 := by
              apply List.filter_congr
              intro entry member
              have lookup := List.mem_zipIdx_iff_getElem?.mp member
              rw [extends'.keeps, empty]
              simp [lookup, isKept, isStripped]
            have mapped := List.filter_map (f := Prod.fst)
              (p := fun header => !isStripped headers header) (l := headers.zipIdx)
            rw [List.zipIdx_map_fst] at mapped
            rw [sameFilter, survivors, mapped]
            rfl
          · rw [extends'.survivorCount, survivors, Nat.zero_add]
            rfl
          · rw [extends'.hasHost, survivors, Bool.false_or]
            rfl

end Oxo.Edge
