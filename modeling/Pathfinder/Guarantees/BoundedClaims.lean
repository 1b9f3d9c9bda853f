import Pathfinder.Guarantees.NoStuckJob

/-!
# How often a job is claimed

A claim that finds attempts left uses one up. Once they are spent a job is claimed
for the recovery of its action, and nothing but the recovery counter of that
action bounds those claims, if it moves in between.
-/
namespace Pathfinder
open KeyedTable Machines

/-- The claims of a job since its attempts were last reset, and the recoveries its
action had behind it at the last claim that found no attempt left. -/
structure Tally where
  claims : Nat
  recoveries : Option Int

def Tally.fresh : Tally := ⟨0, none⟩

/-- The recoveries spent on the action a job without attempts is claimed for. -/
def RunRows.recoveries (rows : RunRows) : Option Int :=
  (rows.findAction fun intent => intent.status == .executing || intent.status == .succeeded).map
    fun found => found.2.intent.recoveryAttempts

/-- The run whose job a claim hands to its worker. -/
def claimedRun : Op → Except StoreError Reply → Option UUID
  | .claim .., .ok (.claimed (some job)) => some job.runId
  | _, _ => none

/-- What a step does to the tally of the job of `runId`. Only the resume after an
approval sets the attempts back to zero, and a claim leaves them positive. -/
def tally (runId : UUID) (before : World) (op : Op) (reply : Except StoreError Reply)
    (after : World) (seen : Tally) : Tally :=
  match before.db.runs.get runId, after.db.runs.get runId with
  | some rows, some later =>
    if later.job.attempt = 0 then .fresh
    else if claimedRun op reply = some runId then
      { claims := seen.claims + 1
        recoveries := if rows.job.maxAttempts ≤ rows.job.attempt then rows.recoveries
          else seen.recoveries }
    else seen
  | _, _ => seen

/-- The stores beside the tally of one job. -/
def tallied (cfg : Config) (runId : UUID) : Machine (World × Tally) Op (Except StoreError Reply) :=
  (stores cfg).observed (tally runId) .fresh

/-- The condition on a request: a claim that takes the job without attempts left
finds an action with recoveries left, and more of them spent than at the last such
claim since the job resumed. -/
def Recovers (cfg : Config) (runId : UUID) (state : World × Tally) (op : Op) : Prop :=
  ∀ locked workerId now leaseDuration ownerToken rows,
    op = .claim locked workerId now leaseDuration ownerToken →
    selectDueJob cfg state.1.db locked now = some (runId, rows) →
    rows.job.maxAttempts ≤ rows.job.attempt →
    ∃ spent, rows.recoveries = some spent ∧ spent < cfg.actionRecoveryMaxAttempts ∧
      ∀ last, state.2.recoveries = some last → last < spent

/-- The claims are the attempts, and after these the recoveries. -/
def Counted (cfg : Config) (rows : RunRows) (seen : Tally) : Prop :=
  match seen.recoveries with
  | none => (seen.claims : Int) ≤ rows.job.attempt
  | some last => rows.job.maxAttempts ≤ rows.job.attempt ∧
      (seen.claims : Int) ≤ rows.job.attempt + last + 1 ∧ last < cfg.actionRecoveryMaxAttempts

/-- What holds of the stores and the tally together. -/
structure Tallies (cfg : Config) (runId : UUID) (state : World × Tally) : Prop where
  sound : AllRuns (Sound cfg) state.1
  checked : state.1.db.checks = true
  unborn : state.1.db.runs.get runId = none → state.2 = .fresh
  counted : ∀ rows, state.1.db.runs.get runId = some rows → Counted cfg rows state.2

section Counting
variable {cfg : Config} {runId : UUID} {rows later : RunRows} {seen : Tally} {world : World}
  {op : Op}

/-- How a request that is no claim moves the attempts. -/
theorem serve_attempt (sound : AllRuns (Sound cfg) world) (unclaimed : op.token = none)
    (stored : world.db.runs.get runId = some rows) :
    ∃ later, (serve cfg world op).1.db.runs.get runId = some later ∧
      (later.job.attempt = rows.job.attempt ∨ later.job.attempt = 0) ∧
      later.job.maxAttempts = rows.job.maxAttempts := by
  refine writes_follow (serve_writes sound op) ?_ stored ⟨.inl rfl, rfl⟩
  rintro first last effect ⟨attempt, maxAttempts⟩
  have frame := effect.job_frame
  simp only [RunJob.identity, Prod.mk.injEq] at frame
  refine ⟨?_, frame.2.2.2.2.1.trans maxAttempts⟩
  rcases control_attempt effect.control with same | zero | ⟨claims, -⟩
  · rw [same]
    exact attempt
  · exact .inr zero
  · rw [unclaimed] at claims
    cases claims

theorem claimedRun_none (unclaimed : op.token = none) (reply : Except StoreError Reply) :
    claimedRun op reply = none := by
  cases op with
  | claim => cases unclaimed
  | _ => rfl

/-- No row has a negative recovery counter. -/
theorem recoveries_nonneg (checked : world.db.checks = true)
    (stored : world.db.runs.get runId = some rows) {spent : Int}
    (found : rows.recoveries = some spent) : 0 ≤ spent := by
  obtain ⟨⟨k, action⟩, here, rfl⟩ := Option.map_eq_some_iff.mp found
  have rowsChecked := (Table.all_iff _ _).mp checked runId rows stored
  simp only [RunRows.checks, Bool.and_eq_true] at rowsChecked
  have actionChecked := (Table.all_iff _ _).mp rowsChecked.1.2 k action (findAction_some here).1
  simp only [ActionRows.checks, Bool.and_eq_true, decide_eq_true_eq] at actionChecked
  exact actionChecked.1.1.1.2

theorem counted_fresh (sound : Sound cfg runId rows) : Counted cfg rows .fresh := by
  have nonneg := sound.attempts.1
  simpa [Counted, Tally.fresh] using nonneg

/-- Counters that stand still keep the count. -/
theorem counted_same (attempt : later.job.attempt = rows.job.attempt)
    (maxAttempts : later.job.maxAttempts = rows.job.maxAttempts) (before : Counted cfg rows seen) :
    Counted cfg later seen := by
  unfold Counted at before ⊢
  rw [attempt, maxAttempts]
  exact before

/-- One more claim, with an attempt left. -/
theorem counted_attempt (attempt : later.job.attempt = rows.job.attempt + 1)
    (left : rows.job.attempt < rows.job.maxAttempts) (before : Counted cfg rows seen) :
    Counted cfg later { claims := seen.claims + 1, recoveries := seen.recoveries } := by
  unfold Counted at before ⊢
  cases last : seen.recoveries with
  | none =>
    simp only [last] at before ⊢
    push_cast
    omega
  | some last' =>
    simp only [last] at before
    omega

/-- One more claim, for the recovery of the action. -/
theorem counted_recovery {spent : Int} (attempt : later.job.attempt = rows.job.attempt)
    (maxAttempts : later.job.maxAttempts = rows.job.maxAttempts)
    (exhausted : rows.job.maxAttempts ≤ rows.job.attempt) (nonneg : 0 ≤ spent)
    (left : spent < cfg.actionRecoveryMaxAttempts)
    (progress : ∀ last, seen.recoveries = some last → last < spent)
    (before : Counted cfg rows seen) :
    Counted cfg later { claims := seen.claims + 1, recoveries := some spent } := by
  unfold Counted at before ⊢
  refine ⟨by rw [attempt, maxAttempts]; exact exhausted, ?_, left⟩
  rw [attempt]
  push_cast
  cases last : seen.recoveries with
  | none =>
    simp only [last] at before
    omega
  | some last' =>
    simp only [last] at before
    have more := progress last' last
    omega

/-- The tally of a claim that takes this very job. -/
theorem counted_claim {locked : UUID → Bool} {workerId : String} {now : Timestamp}
    {leaseDuration : Timedelta} {ownerToken : UUID} (tallies : Tallies cfg runId (world, seen))
    (allowed : Recovers cfg runId (world, seen)
      (.claim locked workerId now leaseDuration ownerToken))
    (selected : selectDueJob cfg world.db locked now = some (runId, rows))
    (stored : world.db.runs.get runId = some rows)
    (job : later.job = leaseJob rows.job workerId ownerToken (now + leaseDuration)) :
    Counted cfg later
      { claims := seen.claims + 1
        recoveries := if rows.job.maxAttempts ≤ rows.job.attempt then rows.recoveries
          else seen.recoveries } := by
  have before := tallies.counted rows stored
  have maxAttempts : later.job.maxAttempts = rows.job.maxAttempts := by rw [job]; rfl
  by_cases exhausted : rows.job.maxAttempts ≤ rows.job.attempt
  · obtain ⟨spent, found, left, progress⟩ := allowed _ _ _ _ _ rows rfl selected exhausted
    have attempt : later.job.attempt = rows.job.attempt := by
      rw [job]
      exact if_neg (Int.not_lt.mpr exhausted)
    rw [if_pos exhausted, found]
    exact counted_recovery attempt maxAttempts exhausted
      (recoveries_nonneg tallies.checked stored found) left progress before
  · have attempt : later.job.attempt = rows.job.attempt + 1 := by
      rw [job]
      exact if_pos (Int.not_le.mp exhausted)
    rw [if_neg exhausted]
    exact counted_attempt attempt (Int.not_le.mp exhausted) before

theorem tallies_step (state : World × Tally) (op : Op) (tallies : Tallies cfg runId state)
    (allowed : Recovers cfg runId state op) :
    Tallies cfg runId ((tallied cfg runId).step state op).1 := by
  obtain ⟨world, seen⟩ := state
  have sound : AllRuns (Sound cfg) (serve cfg world op).1 := serve_sound tallies.sound op
  have checked : (serve cfg world op).1.db.checks = true := by
    rcases serve_db cfg world op with same | ⟨reply, ran, -⟩
    · exact (congrArg Db.checks same).trans tallies.checked
    · exact body_checks tallies.checked ran
  cases stored : world.db.runs.get runId with
  | none =>
    -- a job that is new has not been claimed
    have same : ((tallied cfg runId).step (world, seen) op).1 =
        ((serve cfg world op).1, seen) := by
      simp [tallied, Machine.observed, stores, tally, stored]
    have unborn : seen = .fresh := tallies.unborn stored
    rw [same, unborn]
    exact ⟨sound, checked, fun _ => rfl, fun rows there => counted_fresh (sound runId rows there)⟩
  | some rows =>
    have before := tallies.counted rows stored
    have finish (later : RunRows) (there : (serve cfg world op).1.db.runs.get runId = some later)
        (counted : Counted cfg later
          (tally runId world op (serve cfg world op).2 (serve cfg world op).1 seen)) :
        Tallies cfg runId ((tallied cfg runId).step (world, seen) op).1 := by
      refine ⟨sound, checked, fun absent => ?_, fun other stored => ?_⟩
      · cases there.symm.trans absent
      · cases there.symm.trans stored
        exact counted
    cases unclaimed : op.token with
    | none =>
      obtain ⟨later, there, attempt, maxAttempts⟩ :=
        serve_attempt tallies.sound unclaimed stored
      refine finish later there ?_
      simp only [tally, stored, there, claimedRun_none unclaimed]
      split
      · exact counted_fresh (sound runId later there)
      next nonzero => exact counted_same (attempt.resolve_right nonzero) maxAttempts before
    | some token =>
      cases op with
      | claim locked workerId now leaseDuration ownerToken =>
        rcases serve_claim cfg world locked workerId now leaseDuration ownerToken rfl with
          ⟨same, unclaimed⟩ | ⟨claimed, k, selectedRows, replied, -, selected, found, -, issued, put⟩
        · have there : (serve cfg world (.claim locked workerId now leaseDuration
              ownerToken)).1.db.runs.get runId = some rows := by rw [same]; exact stored
          refine finish rows there ?_
          have nobody : claimedRun (.claim locked workerId now leaseDuration ownerToken)
              (serve cfg world (.claim locked workerId now leaseDuration ownerToken)).2 = none := by
            unfold claimedRun
            split
            next replied => exact absurd replied (unclaimed _)
            · rfl
          simp only [tally, stored, there, nobody]
          split
          · exact counted_fresh (tallies.sound runId rows stored)
          · exact before
        · have runId_eq : claimed.runId = k := by
            unfold claimedJob at issued
            split at issued
            · cases issued
            cases issued
            exact (tallies.sound k selectedRows found).job_run
          by_cases same : runId = k
          · subst same
            cases stored.symm.trans found
            refine finish _ (by rw [put]; exact Table.put_get_self _ _ _) ?_
            simp only [tally, stored, put, Db.putRun, Table.put_get_self, replied, claimedRun,
              runId_eq]
            split
            next zero =>
              refine counted_fresh (sound runId _ ?_)
              rw [put]
              exact Table.put_get_self _ _ _
            · exact counted_claim tallies allowed selected stored rfl
          · have there : (serve cfg world (.claim locked workerId now leaseDuration
                ownerToken)).1.db.runs.get runId = some rows := by
              rw [put]
              exact (Table.put_get_of_ne _ _ same).trans stored
            refine finish rows there ?_
            have other : claimedRun (.claim locked workerId now leaseDuration ownerToken)
                (serve cfg world (.claim locked workerId now leaseDuration ownerToken)).2 ≠
                  some runId := by
              rw [replied]
              simpa [claimedRun, runId_eq] using Ne.symm same
            simp only [tally, stored, there, if_neg other]
            split
            · exact counted_fresh (tallies.sound runId rows stored)
            · exact before
      | _ => cases unclaimed

theorem tallies_start : Tallies cfg runId (tallied cfg runId).start where
  sound := (start_runs _ : AllRuns (Sound cfg) (stores cfg).start)
  checked := rfl
  unborn := fun _ => rfl
  counted := (start_runs _ : AllRuns (fun _ rows => Counted cfg rows .fresh)
    (stores cfg).start) runId

end Counting

/-- In every run of the stores in which each claim of the job without attempts left
finds recoveries left, and more of them spent than the last one since the job
resumed, the claims since the job resumed are at most `max_attempts` and
`action_recovery_max_attempts` together. -/
theorem claims_bounded (cfg : Config) (runId : UUID) (ops : List Op)
    (guarded : (tallied cfg runId).Guarded (Recovers cfg runId) (tallied cfg runId).start ops)
    (rows : RunRows) (stored : ((stores cfg).reached ops).db.runs.get runId = some rows) :
    (((tallied cfg runId).reached ops).2.claims : Int) ≤
      rows.job.maxAttempts + cfg.actionRecoveryMaxAttempts := by
  have tallies : Tallies cfg runId ((tallied cfg runId).reached ops) :=
    (tallied cfg runId).guarded_invariant
      (fun state op allowed tallies => tallies_step state op tallies allowed) tallies_start ops
      guarded
  have here : ((tallied cfg runId).reached ops).1.db.runs.get runId = some rows := by
    rw [tallied, Machine.observed_reached]
    exact stored
  have attempts := (tallies.sound runId rows here).attempts
  have positive := cfg.recovery_positive
  have counted := tallies.counted rows here
  unfold Counted at counted
  split at counted <;> omega

/-- `Recovers`, evaluated. -/
def recovers (cfg : Config) (state : World × Tally) : Op → Bool
  | .claim locked _ now _ _ =>
    (selectDueJob cfg state.1.db locked now).all fun found =>
      decide (found.2.job.attempt < found.2.job.maxAttempts) ||
        found.2.recoveries.any fun spent =>
          decide (spent < cfg.actionRecoveryMaxAttempts) &&
            state.2.recoveries.all fun last => decide (last < spent)
  | _ => true

theorem recovers_sound {cfg : Config} {runId : UUID} {state : World × Tally} {op : Op}
    (holds : recovers cfg state op = true) : Recovers cfg runId state op := by
  rintro locked workerId now leaseDuration ownerToken rows rfl selected exhausted
  simp only [recovers, selected, Option.all_some, Bool.or_eq_true, decide_eq_true_eq,
    Option.any_eq_true, Bool.and_eq_true, Option.all_eq_true] at holds
  rcases holds with spare | ⟨spent, found, left, progress⟩
  · exact absurd spare (Int.not_lt.mpr exhausted)
  · exact ⟨spent, found, left, progress⟩

namespace Sample

/-- The worker of a claim at `now` crashes and its lease is reclaimed. -/
def crash (now : Timestamp) (ownerToken : UUID) : List Op :=
  [claim now ownerToken, .reclaim (fun _ => 0) (fun _ => false) (now + 20) 1]

/-- Four more workers crash once the attempts are spent. -/
def crashing : List Op :=
  exhausted ++ crash 60 104 ++ crash 80 105 ++ crash 100 106 ++ crash 120 107

end Sample

/-- The first recovery claim after three crashes is the fourth of at most six. -/
theorem claims_bounded_exhausted :
    ((tallied Sample.config 3).reached (Sample.exhausted ++ [Sample.claim 60 104])).2.claims = 4 ∧
      ∃ rows, ((stores Sample.config).reached
          (Sample.exhausted ++ [Sample.claim 60 104])).db.runs.get 3 = some rows ∧
        (4 : Int) ≤ rows.job.maxAttempts + 3 := by
  have claims : ((tallied Sample.config 3).reached
      (Sample.exhausted ++ [Sample.claim 60 104])).2.claims = 4 := by
    decide +kernel
  have reached : (((stores Sample.config).reached
      (Sample.exhausted ++ [Sample.claim 60 104])).db.runs.get 3).isSome = true := by
    decide +kernel
  obtain ⟨rows, stored⟩ := Option.isSome_iff_exists.mp reached
  have guarded : (tallied Sample.config 3).Guarded (Recovers Sample.config 3)
      (tallied Sample.config 3).start (Sample.exhausted ++ [Sample.claim 60 104]) := by
    refine ⟨?_, ?_, ?_, ?_, ?_, ?_, ?_, ?_, ?_, ?_, ?_, ?_, ?_, ?_, ?_, ?_, ?_, ?_, trivial⟩ <;>
      exact recovers_sound (by decide +kernel)
  have bounded := claims_bounded Sample.config 3 _ guarded rows stored
  rw [claims] at bounded
  exact ⟨claims, rows, stored, bounded⟩

/-- The action is executing and no worker survives to reconcile it. Nothing that
`claim_due_job` or `reclaim_stale_leases` compares moves from one claim to the next,
so the seventh claim follows the sixth. -/
theorem claims_unbounded :
    ¬ ∀ (cfg : Config) (runId : UUID) (ops : List Op) (rows : RunRows),
      ((stores cfg).reached ops).db.runs.get runId = some rows →
      (((tallied cfg runId).reached ops).2.claims : Int) ≤
        rows.job.maxAttempts + cfg.actionRecoveryMaxAttempts := by
  intro bounded
  have reached : (((stores Sample.config).reached Sample.crashing).db.runs.get 3).any (fun rows =>
      decide (rows.job.maxAttempts + Sample.config.actionRecoveryMaxAttempts <
        ((tallied Sample.config 3).reached Sample.crashing).2.claims)) = true := by
    decide +kernel
  obtain ⟨rows, stored, more⟩ := (Option.any_eq_true _ _).mp reached
  exact absurd (bounded Sample.config 3 Sample.crashing rows stored)
    (Int.not_le.mpr (of_decide_eq_true more))

end Pathfinder
