import Oxo.Foundation.Saturating

/-!
Contract: the edge's boot-time file-descriptor budget
(`oxo-pingora-edge/src/fd_budget.rs`).

Owns: the budget, its verdict, the remedy and the two messages that carry it; and when the pool
ceiling that the remedy recommends is the largest that the budget accepts.

Does not own: the reading of the process limit, or the posture line.
-/

namespace Oxo.Edge.Descriptors

open Oxo.Foundation.U64

/-! ## The budget -/

/-- Descriptors held regardless of configuration. -/
def reserve : UInt64 := 32

/-- The smallest remainder accepted without a warning. -/
def minDownstream : UInt64 := 256

inductive Nofile where
  | unknown
  | unlimited
  | limits (soft hard : UInt64)
deriving DecidableEq, Repr

inductive FdVerdict where
  | ok
  | warn
  | refuse
deriving DecidableEq, Repr

structure FdBudget where
  listeners : UInt64
  hops : UInt64
  reserve : UInt64
  fixed : UInt64
  pool : UInt64
  inFlightCap : Option UInt64
  demand : UInt64
  limits : Nofile
  remainder : Option UInt64
  verdict : FdVerdict
deriving DecidableEq, Repr

/-- Two descriptors for each request in flight. -/
def capDemand (inFlightCap : Option UInt64) : UInt64 :=
  match inFlightCap with
  | some cap => saturatingMul cap 2
  | none => 0

def fdBudget (limits : Nofile) (listeners workerCount poolCeiling : UInt64)
    (inFlightCap : Option UInt64) : FdBudget :=
  let hops := workerCount
  let fixed := saturatingAdd (saturatingAdd listeners hops) reserve
  let demand := saturatingAdd (saturatingAdd fixed poolCeiling) (capDemand inFlightCap)
  let (remainder, verdict) := match limits with
    | .unknown | .unlimited => (none, .ok)
    | .limits soft _ =>
        let verdict :=
          if fixed > soft then FdVerdict.refuse
          else if saturatingAdd demand minDownstream > soft then .warn
          else .ok
        (some (saturatingSub soft demand), verdict)
  ⟨listeners, hops, reserve, fixed, poolCeiling, inFlightCap, demand, limits, remainder, verdict⟩

namespace FdBudget

/-- The pool ceiling of the remedy. -/
def poolFit (budget : FdBudget) (soft : UInt64) : UInt64 :=
  saturatingSub soft (saturatingAdd (saturatingAdd budget.fixed minDownstream)
    (capDemand budget.inFlightCap))

def remedy (budget : FdBudget) (needed : UInt64) : String :=
  match budget.limits with
  | .limits soft hard =>
      (if needed ≤ hard then
        s!"raise the soft limit to at least {needed}: `ulimit -n {needed}` before starting the " ++
        s!"edge, `LimitNOFILE={needed}` in the systemd unit, or `launchctl limit maxfiles` for a " ++
        "launchd job; or lower OXO_EDGE_FRAME_POOL_IDLE "
      else
        s!"the hard limit {hard} is below the {needed} needed: set `LimitNOFILE={needed}` in the " ++
        "systemd unit or raise the limit in /etc/security/limits.conf as root; or lower " ++
        "OXO_EDGE_FRAME_POOL_IDLE ") ++ s!"to at most {budget.poolFit soft}"
  | .unknown | .unlimited => ""

def warning (budget : FdBudget) : Option String :=
  if budget.verdict ≠ .warn then none
  else
    let needed := saturatingAdd budget.demand minDownstream
    let inFlight := match budget.inFlightCap with
      | some cap => s!" and {cap} in-flight requests"
      | none => ""
    some (s!"oxo_edge_config_warning fd-budget: with the idle pool at its ceiling ({budget.pool})" ++
      s!"{inFlight} the process descriptor limit leaves {budget.remainder.getD 0} descriptors for " ++
      s!"downstream connections, below the {minDownstream} the edge wants; " ++
      budget.remedy needed)

def refusal (budget : FdBudget) : Option String :=
  if budget.verdict ≠ .refuse then none
  else
    let soft := match budget.limits with
      | .limits soft _ => soft
      | .unknown | .unlimited => 0
    some (s!"the edge holds {budget.fixed} descriptors before its first request (listeners " ++
      s!"{budget.listeners} + worker hops {budget.hops} + reserve {budget.reserve}) and the " ++
      s!"process descriptor limit (RLIMIT_NOFILE) soft limit is {soft}; it cannot serve. " ++
      budget.remedy budget.fixed)

end FdBudget

/-! ## The sums -/

section

variable {listeners workerCount poolCeiling soft hard : UInt64} {inFlightCap : Option UInt64}

/-- What the edge needs apart from the pool: its fixed descriptors, the downstream minimum and two
for each request in flight. -/
def unpooled (listeners workerCount : UInt64) (inFlightCap : Option UInt64) : Nat :=
  listeners.toNat + workerCount.toNat + 32 + 256 + 2 * (inFlightCap.elim 0 UInt64.toNat)

private theorem capDemand_toNat :
    (capDemand inFlightCap).toNat = min (2 * inFlightCap.elim 0 UInt64.toNat) (2 ^ 64 - 1) := by
  cases inFlightCap with
  | none => rfl
  | some cap =>
      rw [capDemand, saturatingMul_toNat, Nat.mul_comm]
      rfl

/-- No sum or product wraps: each is the exact one, or the largest word where that is larger. -/
theorem fixed_toNat (limits : Nofile) :
    (fdBudget limits listeners workerCount poolCeiling inFlightCap).fixed.toNat =
      min (listeners.toNat + workerCount.toNat + 32) (2 ^ 64 - 1) := by
  simp only [fdBudget, saturatingAdd_toNat]
  rw [show reserve.toNat = 32 from rfl]
  omega

theorem demand_toNat (limits : Nofile) :
    (fdBudget limits listeners workerCount poolCeiling inFlightCap).demand.toNat =
      min (listeners.toNat + workerCount.toNat + 32 + poolCeiling.toNat +
        2 * inFlightCap.elim 0 UInt64.toNat) (2 ^ 64 - 1) := by
  simp only [fdBudget, saturatingAdd_toNat, capDemand_toNat]
  rw [show reserve.toNat = 32 from rfl]
  omega

theorem poolFit_toNat (limits : Nofile) :
    ((fdBudget limits listeners workerCount poolCeiling inFlightCap).poolFit soft).toNat =
      soft.toNat - unpooled listeners workerCount inFlightCap := by
  have bound := soft.toNat_lt
  have fixed := @fixed_toNat listeners workerCount poolCeiling inFlightCap limits
  rw [FdBudget.poolFit, saturatingSub_toNat, saturatingAdd_toNat, saturatingAdd_toNat, fixed,
    show (fdBudget limits listeners workerCount poolCeiling inFlightCap).inFlightCap =
      inFlightCap from rfl, capDemand_toNat, show minDownstream.toNat = 256 from rfl, unpooled]
  omega

/-! ## The verdict -/

theorem verdict_limits :
    (fdBudget (.limits soft hard) listeners workerCount poolCeiling inFlightCap).verdict =
      if min (listeners.toNat + workerCount.toNat + 32) (2 ^ 64 - 1) > soft.toNat then .refuse
      else if min (unpooled listeners workerCount inFlightCap + poolCeiling.toNat) (2 ^ 64 - 1) >
        soft.toNat then .warn
      else .ok := by
  have fixed := @fixed_toNat listeners workerCount poolCeiling inFlightCap (.limits soft hard)
  have demand := @demand_toNat listeners workerCount poolCeiling inFlightCap (.limits soft hard)
  have needed : (saturatingAdd
      (fdBudget (.limits soft hard) listeners workerCount poolCeiling inFlightCap).demand
        minDownstream).toNat =
      min (unpooled listeners workerCount inFlightCap + poolCeiling.toNat) (2 ^ 64 - 1) := by
    rw [saturatingAdd_toNat, demand, show minDownstream.toNat = 256 from rfl, unpooled]
    omega
  rw [← fixed, ← needed]
  simp only [gt_iff_lt, ← UInt64.lt_iff_toNat_lt]
  rfl

/-! ## The advice -/

private theorem remedy_ends {budget : FdBudget} (limits : budget.limits = .limits soft hard)
    (needed : UInt64) :
    ∃ opening, budget.remedy needed = opening ++ s!"to at most {budget.poolFit soft}" := by
  rw [FdBudget.remedy, limits]
  exact ⟨_, rfl⟩

theorem warning_ends {budget : FdBudget} (limits : budget.limits = .limits soft hard)
    (warns : budget.verdict = .warn) :
    ∃ opening, budget.warning = some (opening ++ s!"to at most {budget.poolFit soft}") := by
  obtain ⟨opening, ends⟩ := remedy_ends limits (saturatingAdd budget.demand minDownstream)
  rw [FdBudget.warning, if_neg (not_not.mpr warns)]
  simp only [ends, ← String.append_assoc]
  exact ⟨_, rfl⟩

/-- The ceiling that a warning recommends is the largest without a warning exactly where the limit
holds what the edge needs apart from the pool. -/
theorem advice_works_iff (warns :
    (fdBudget (.limits soft hard) listeners workerCount poolCeiling inFlightCap).verdict = .warn) :
    let budget := fdBudget (.limits soft hard) listeners workerCount poolCeiling inFlightCap
    let advised := budget.poolFit soft
    (∃ opening, budget.warning = some (opening ++ s!"to at most {advised}")) ∧
      budget.fixed.toNat = min (listeners.toNat + workerCount.toNat + 32) (2 ^ 64 - 1) ∧
      budget.demand.toNat = min (listeners.toNat + workerCount.toNat + 32 + poolCeiling.toNat +
        2 * inFlightCap.elim 0 UInt64.toNat) (2 ^ 64 - 1) ∧
      ((fdBudget (.limits soft hard) listeners workerCount advised inFlightCap).verdict = .ok ∧
          (fdBudget (.limits soft hard) listeners workerCount (advised + 1) inFlightCap).verdict =
            .warn ↔
        unpooled listeners workerCount inFlightCap ≤ soft.toNat) := by
  intro budget advised
  refine ⟨warning_ends rfl warns, fixed_toNat _, demand_toNat _, ?_⟩
  have bound := soft.toNat_lt
  have fits : advised.toNat = soft.toNat - unpooled listeners workerCount inFlightCap :=
    poolFit_toNat (.limits soft hard)
  have more : (advised + 1).toNat = (advised.toNat + 1) % 2 ^ 64 := UInt64.toNat_add ..
  have pooled : listeners.toNat + workerCount.toNat + 32 ≤
      unpooled listeners workerCount inFlightCap := by
    rw [unpooled]
    omega
  rw [verdict_limits] at warns
  obtain ⟨served, small⟩ : ¬ min (listeners.toNat + workerCount.toNat + 32) (2 ^ 64 - 1) >
      soft.toNat ∧ soft.toNat < 2 ^ 64 - 1 := by
    split_ifs at warns with refused crowded
    exact ⟨refused, by omega⟩
  rw [verdict_limits, verdict_limits, if_neg served, if_neg served, more, fits]
  constructor
  · rintro ⟨works, -⟩
    split_ifs at works with crowded
    omega
  · intro holds
    rw [if_neg (by omega), if_pos (by omega)]
    exact ⟨rfl, rfl⟩

end

/-- Under a soft limit of 256 a small edge is told to lower its pool to nothing, and is warned
again. -/
theorem advice_fails_under_small_limit :
    (fdBudget (.limits 256 1048576) 1 4 128 none).verdict = .warn ∧
      (fdBudget (.limits 256 1048576) 1 4 128 none).poolFit 256 = 0 ∧
      (fdBudget (.limits 256 1048576) 1 4 0 none).verdict = .warn := by
  decide

theorem advice_works_iff_stock :
    (fdBudget (.limits 1024 1048576) 1 32 703 none).verdict = .ok ∧
      (fdBudget (.limits 1024 1048576) 1 32 704 none).verdict = .warn :=
  (@advice_works_iff 1 32 1024 1024 1048576 none (by decide)).2.2.2.mpr (by decide)

end Oxo.Edge.Descriptors
