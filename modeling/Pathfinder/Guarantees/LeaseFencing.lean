import Pathfinder.Lifecycle.Invariants

/-!
# Leases are fenced

The owner token of a claim is fresh, and only a claim writes one. A job that has
lost the token of a claim therefore never gets it back, and every call made with
that claim finds it gone, whatever the clocks say.
-/
namespace Pathfinder
open KeyedTable Machines

/-- The claimed job a request is made with. -/
def Op.lease : Op → Option ClaimedJob
  | .heartbeat job .. | .prepare job .. | .complete job .. | .waitForApproval job ..
  | .requeue _ job .. | .release _ job .. | .fail _ job .. | .cancel _ job .. => some job
  | _ => none

/-- The requests that end the lease they are made with. -/
def Op.finalizes : Op → Bool
  | .complete .. | .waitForApproval .. | .requeue .. | .release .. | .fail .. | .cancel .. => true
  | _ => false

/-- The call found its lease and did its work. -/
def succeeded : Except StoreError Reply → Bool
  | .ok (.held held) => held
  | .ok (.preparedClaim result) => result != .leaseLost
  | _ => false

/-- The call is refused for a lost lease. -/
def refused : Except StoreError Reply → Bool
  | .ok (.held held) => !held
  | .ok (.preparedClaim result) => result == .leaseLost
  | _ => false

/-- The job of the run is leased under the token of the claim. -/
def Holds (world : World) (job : ClaimedJob) : Prop :=
  ∃ rows, world.db.runs.get job.runId = some rows ∧ rows.job.ownerToken = some job.ownerToken

/-- The token of the claim has been drawn, and the job does not have it. -/
def LeaseLost (job : ClaimedJob) (world : World) : Prop :=
  job.ownerToken ∈ world.issued ∧ ¬ Holds world job

/-- A request that ends the lease of a claim: a finalizing call of its holder, or a
reclaim that takes the job. -/
def EndsLease (cfg : Config) (world : World) (op : Op) (job : ClaimedJob) : Prop :=
  (op.lease = some job ∧ op.finalizes = true ∧ succeeded (serve cfg world op).2 = true) ∨
  ∃ retryDelay locked now limit summary, op = .reclaim retryDelay locked now limit ∧
    (serve cfg world op).2 = .ok (.reclaimed summary) ∧
    job.runId ∈ selectStaleJobs cfg world.db.runs locked now limit ∧ Holds world job

/-! ## One call on the rows of the run -/

section Calls
variable {cfg : Config} {memberships : List WorkspaceMembership} {rows after : RunRows}
  {job : ClaimedJob} {now : Timestamp} {answer finalizes : Bool}

/-- What a call does to the rows: refused it leaves them alone, accepted it has
found its lease, and a finalizing one has given it up. -/
def Fenced (job : ClaimedJob) (rows after : RunRows) (finalizes accepted : Bool) : Prop :=
  if accepted then
    (∃ now, activeLeasePredicates rows.job job now = true) ∧
      (finalizes = true → after.job.ownerToken = none)
  else after = rows

theorem fenced_refused : Fenced job rows rows finalizes false := rfl

theorem fenced_accepted (held : activeLeasePredicates rows.job job now = true)
    (released : after.job.ownerToken = none) : Fenced job rows after finalizes true :=
  ⟨⟨now, held⟩, fun _ => released⟩

/-- The helpers that end a run leave the token alone. -/
theorem RunEnded.ownerToken {targets : List RunStatus} (ended : RunEnded rows after targets)
    (released : rows.job.ownerToken = none) : after.job.ownerToken = none := by
  obtain ⟨summary, job⟩ := ended.job
  rw [job]
  exact released

theorem exhaustRecovery_job {k : UUID} {action : ActionRows}
    (ran : exhaustRecovery rows k action now = .ok after) : after.job = rows.job := by
  unfold exhaustRecovery at ran
  split at ran
  · cases ran
  cases ran
  rfl

theorem heartbeatRows_fenced {leaseDuration : Timedelta}
    (ran : heartbeatRows job now leaseDuration rows = .ok (after, answer)) :
    Fenced job rows after false answer := by
  unfold heartbeatRows at ran
  split at ran
  next held =>
    cases ran
    exact ⟨⟨now, held⟩, fun ends => absurd ends Bool.false_ne_true⟩
  · cases ran
    exact fenced_refused

theorem completeRows_fenced {result : RunOutput} {published : Except StoreError RunOutput}
    (ran : completeRows cfg memberships job result published now rows = .ok (after, answer)) :
    Fenced job rows after true answer := by
  unfold completeRows at ran
  split at ran
  · cases ran
    exact fenced_refused
  next middle consumed =>
    obtain ⟨held, rfl⟩ := consumeLease_some consumed
    split at ran
    · cases ran
      exact fenced_accepted held rfl
    next live =>
      split at ran
      · cases ran
        exact fenced_accepted held ((markRunCancelled_ended _ _ _).ownerToken rfl)
      · split at ran
        · cases ran
        split at ran
        · cases ran
        · cases ran
          exact fenced_accepted held ((markRunCancelled_ended _ _ _).ownerToken rfl)
        · obtain ⟨dump, valid, written⟩ := map_ok ran
          cases written
          exact fenced_accepted held rfl

theorem waitForApprovalRows_fenced {approvalRequestId : UUID}
    (ran : waitForApprovalRows job approvalRequestId now rows = .ok (after, answer)) :
    Fenced job rows after true answer := by
  unfold waitForApprovalRows at ran
  split at ran
  · cases ran
    exact fenced_refused
  next lease =>
    have held : activeLeasePredicates rows.job job now = true := by simpa using lease
    split at ran
    · cases ran
    split at ran
    · cases ran
    dsimp only at ran
    -- both pauses write the job the same way
    repeat' split at ran
    all_goals cases ran
    all_goals exact fenced_accepted held rfl

theorem requeueRows_fenced {retryDelay : RetryDelayPolicy} {errorCategory : String}
    (ran : requeueRows retryDelay job errorCategory now rows = .ok (after, answer)) :
    Fenced job rows after true answer := by
  unfold requeueRows at ran
  split at ran
  · cases ran
    exact fenced_refused
  next middle consumed =>
    obtain ⟨held, rfl⟩ := consumeLease_some consumed
    dsimp only at ran
    split at ran
    · cases ran
      exact fenced_accepted held ((markRunCancelled_ended _ _ _).ownerToken rfl)
    · cases ran
      exact fenced_accepted held rfl

theorem releaseRows_fenced {retryDelay : RetryDelayPolicy} {errorCategory : String}
    (ran : releaseRows retryDelay job errorCategory now rows = .ok (after, answer)) :
    Fenced job rows after true answer := by
  unfold releaseRows at ran
  split at ran
  next allowed =>
    cases ran
    exact fenced_accepted allowed.1 rfl
  · cases ran
    exact fenced_refused

theorem failRows_fenced {retryDelay : RetryDelayPolicy} {errorCategory : String}
    (ran : failRows cfg memberships retryDelay job errorCategory now rows = .ok (after, answer)) :
    Fenced job rows after true answer := by
  unfold failRows at ran
  split at ran
  · split at ran
    · split at ran
      · cases ran
        exact fenced_refused
      next middle consumed =>
        cases ran
        obtain ⟨held, rfl⟩ := consumeLease_some consumed
        exact fenced_accepted held rfl
    · split at ran
      · cases ran
        exact fenced_refused
      next middle consumed =>
        obtain ⟨held, rfl⟩ := consumeLease_some consumed
        obtain ⟨ended, spent, written⟩ := map_ok ran
        cases written
        refine fenced_accepted held ((markRunFailed_ended _ _ _).ownerToken ?_)
        rw [exhaustRecovery_job spent]
        rfl
  · dsimp only at ran
    split at ran
    · cases ran
      exact fenced_refused
    next middle consumed =>
      obtain ⟨held, written⟩ := consumeLease_some consumed
      have released : middle.job.ownerToken = none := by rw [written]; rfl
      split at ran
      · cases ran
        exact fenced_accepted held released
      · split at ran
        · obtain ⟨settled, converged, written⟩ := map_ok ran
          cases written
          exact fenced_accepted held ((convergeTerminalAction_ended converged).ownerToken released)
        · split at ran
          · cases ran
            exact fenced_accepted held ((markRunCancelled_ended _ _ _).ownerToken released)
          · cases ran
            exact fenced_accepted held ((markRunFailed_ended _ _ _).ownerToken released)

theorem cancelRows_fenced {retryDelay : RetryDelayPolicy} {reason : String}
    (ran : cancelRows memberships retryDelay job reason now rows = .ok (after, answer)) :
    Fenced job rows after true answer := by
  unfold cancelRows at ran
  dsimp only at ran
  split at ran
  · split at ran
    · cases ran
      exact fenced_refused
    next middle consumed =>
      cases ran
      obtain ⟨held, rfl⟩ := consumeLease_some consumed
      exact fenced_accepted held rfl
  · split at ran
    · cases ran
      exact fenced_refused
    next middle consumed =>
      obtain ⟨held, rfl⟩ := consumeLease_some consumed
      split at ran
      · obtain ⟨settled, converged, written⟩ := map_ok ran
        cases written
        exact fenced_accepted held ((convergeTerminalAction_ended converged).ownerToken rfl)
      · cases ran
        exact fenced_accepted held ((markRunCancelled_ended _ _ _).ownerToken rfl)

theorem startRun_executes {role : WorkspaceRole} {result : PrepareClaimResult}
    (ran : startRun cfg role job now rows = .ok (after, result)) : result ≠ .leaseLost := by
  unfold startRun at ran
  dsimp only at ran
  repeat' split at ran
  all_goals cases ran
  all_goals simp

theorem prepareActiveRun_decides {membership : Option WorkspaceMembership}
    {result : PrepareClaimResult}
    (ran : prepareActiveRun cfg membership job now rows = .ok (after, result)) :
    result ≠ .leaseLost := by
  unfold prepareActiveRun at ran
  split at ran
  · cases ran
    simp
  · split at ran
    · cases ran
      simp
    · split at ran
      · cases ran
        simp
      · split at ran
        · cases ran
          simp
        · exact startRun_executes ran

/-- `prepare_claimed_job` answers `LEASE_LOST` for a lost lease only. -/
theorem prepareClaimedRows_fenced {result : PrepareClaimResult}
    (ran : prepareClaimedRows cfg memberships job now rows = .ok (after, result)) :
    Fenced job rows after false (result != .leaseLost) := by
  unfold prepareClaimedRows at ran
  dsimp only at ran
  split at ran
  · cases ran
    exact fenced_refused
  next lease =>
    have held : activeLeasePredicates rows.job job now = true := by simpa using lease
    have decided (found : result ≠ .leaseLost) :
        Fenced job rows after false (result != .leaseLost) := by
      rw [bne_iff_ne.mpr found]
      exact ⟨⟨now, held⟩, fun ends => absurd ends Bool.false_ne_true⟩
    split at ran
    · split at ran
      · cases ran
      cases ran
      exact decided (by simp)
    · split at ran
      · obtain ⟨settled, converged, written⟩ := map_ok ran
        cases written
        exact decided (by simp)
      · exact decided (prepareActiveRun_decides ran)

/-! ## One call on the database -/

/-- What a call with a claimed job does to the database. -/
def FencedCall (db later : Db) (job : ClaimedJob) (finalizes accepted : Bool) : Prop :=
  if accepted then
    ∃ rows, db.runs.get job.runId = some rows ∧
      (∃ now, activeLeasePredicates rows.job job now = true) ∧
      (finalizes = true → ∃ after, later.runs.get job.runId = some after ∧
        after.job.ownerToken = none)
  else later = db

theorem onClaimed_fenced {α : Type} {db later : Db} {lost result : α} (accepted : α → Bool)
    {f : Db → RunRows → Except StoreError (RunRows × α)} (losing : accepted lost = false)
    (fenced : ∀ rows after answer, f db rows = .ok (after, answer) →
      Fenced job rows after finalizes (accepted answer))
    (ran : onClaimed job lost f db = .ok (later, result)) :
    FencedCall db later job finalizes (accepted result) := by
  unfold onClaimed at ran
  rcases onRun_ok (transaction_ok ran).1 with ⟨-, same, rfl⟩ | ⟨rows, after, found, worked, rfl⟩
  · cases same
    rw [losing]
    rfl
  · have stored := (findRun_some found).1
    have rowsFenced := fenced rows after result worked
    unfold FencedCall
    unfold Fenced at rowsFenced
    split at rowsFenced
    next accepts =>
      rw [accepts]
      exact ⟨rows, stored, rowsFenced.1, fun ends =>
        ⟨after, Table.put_get_self _ _ _, rowsFenced.2 ends⟩⟩
    next refuses =>
      rw [eq_false_of_ne_true refuses, rowsFenced]
      simp [Db.putRun, Table.put_self _ stored]

end Calls

section Requests
variable {cfg : Config} {world : World} {op : Op} {job : ClaimedJob}

theorem body_fenced {db later : Db} {reply : Reply} (leased : op.lease = some job)
    (ran : op.body cfg db = .ok (later, reply)) :
    FencedCall db later job op.finalizes (succeeded (.ok reply)) ∧
      refused (.ok reply) = !succeeded (.ok reply) := by
  have answered {body : Body Bool} (ran : body.answers .held db = .ok (later, reply))
      (fenced : ∀ answer, body db = .ok (later, answer) →
        FencedCall db later job op.finalizes answer) :
      FencedCall db later job op.finalizes (succeeded (.ok reply)) ∧
        refused (.ok reply) = !succeeded (.ok reply) := by
    obtain ⟨answer, worked, rfl⟩ := answers_ok ran
    exact ⟨fenced answer worked, rfl⟩
  cases op with
  | heartbeat =>
    cases leased
    exact answered ran fun _ => onClaimed_fenced id rfl fun _ _ _ => heartbeatRows_fenced
  | complete =>
    cases leased
    exact answered ran fun _ => onClaimed_fenced id rfl fun _ _ _ => completeRows_fenced
  | waitForApproval =>
    cases leased
    exact answered ran fun _ => onClaimed_fenced id rfl fun _ _ _ => waitForApprovalRows_fenced
  | requeue =>
    cases leased
    exact answered ran fun _ worked =>
      onClaimed_fenced id rfl (fun _ _ _ => requeueRows_fenced) (requireErrorCategory_ok worked).2
  | release =>
    cases leased
    exact answered ran fun _ worked =>
      onClaimed_fenced id rfl (fun _ _ _ => releaseRows_fenced) (requireErrorCategory_ok worked).2
  | fail =>
    cases leased
    exact answered ran fun _ worked =>
      onClaimed_fenced id rfl (fun _ _ _ => failRows_fenced) (requireErrorCategory_ok worked).2
  | cancel =>
    cases leased
    exact answered ran fun _ worked =>
      onClaimed_fenced id rfl (fun _ _ _ => cancelRows_fenced) (requireErrorCategory_ok worked).2
  | prepare claimed resolvedTenant now =>
    cases leased
    obtain ⟨result, worked, rfl⟩ := answers_ok ran
    unfold prepareClaimedJob at worked
    split at worked
    · cases worked
    refine ⟨onClaimed_fenced (· != .leaseLost) rfl (fun _ _ _ => prepareClaimedRows_fenced)
      worked, ?_⟩
    cases result <;> rfl
  | _ => cases leased

/-- A call that succeeds has found its lease; a finalizing one ends it. -/
theorem serve_succeeded (leased : op.lease = some job)
    (success : succeeded (serve cfg world op).2 = true) :
    Holds world job ∧ (op.finalizes = true → ¬ Holds (serve cfg world op).1 job) := by
  rcases serve_cases cfg world op with ⟨-, reason, failed⟩ | ⟨reply, ran, answered⟩
  · rw [failed] at success
    cases success
  · obtain ⟨fenced, -⟩ := body_fenced leased ran
    rw [answered] at success
    rw [FencedCall, if_pos success] at fenced
    obtain ⟨rows, stored, ⟨now, held⟩, releases⟩ := fenced
    refine ⟨⟨rows, stored, activeLease_token held⟩, fun ends => ?_⟩
    rintro ⟨later, there, owned⟩
    obtain ⟨after, stored, released⟩ := releases ends
    cases stored.symm.trans there
    rw [released] at owned
    cases owned

/-- A call that is refused writes nothing. -/
theorem serve_refused (leased : op.lease = some job)
    (refusal : refused (serve cfg world op).2 = true) : (serve cfg world op).1.db = world.db := by
  rcases serve_cases cfg world op with ⟨same, -⟩ | ⟨reply, ran, answered⟩
  · exact same
  · obtain ⟨fenced, opposite⟩ := body_fenced leased ran
    rw [answered, opposite, Bool.not_eq_true'] at refusal
    rwa [FencedCall, if_neg (by simp [refusal])] at fenced

end Requests

/-! ## Reclaiming -/

section Reclaim
variable {cfg : Config} {memberships : List WorkspaceMembership} {rows after : RunRows}
  {now : Timestamp} {retryDelay : RetryDelayPolicy} {outcome : Reclaimed}

theorem reclaimRunning_token (ran : reclaimRunning retryDelay now rows = .ok (after, outcome)) :
    after.job.ownerToken = none := by
  unfold reclaimRunning at ran
  dsimp only at ran
  split at ran
  · split at ran
    · cases ran
    cases ran
    rfl
  · cases ran
    exact (markRunFailed_ended _ _ _).ownerToken rfl

/-- Each branch of the loop gives the lease up. -/
theorem reclaimRows_token (ran : reclaimRows cfg memberships retryDelay now rows =
    .ok (after, outcome)) : after.job.ownerToken = none := by
  unfold reclaimRows at ran
  split at ran
  · split at ran
    · split at ran
      · cases ran
      dsimp only at ran
      split at ran
      · cases ran
        rfl
      · obtain ⟨ended, spent, written⟩ := map_ok ran
        cases written
        exact (markRunFailed_ended _ _ _).ownerToken rfl
    · split at ran
      · obtain ⟨settled, converged, written⟩ := map_ok ran
        cases written
        exact (convergeTerminalAction_ended converged).ownerToken rfl
      · split at ran
        · cases ran
          rfl
        · split at ran
          · cases ran
            rfl
          · split at ran
            · cases ran
              exact (markRunCancelled_ended _ _ _).ownerToken rfl
            · exact reclaimRunning_token ran
  · split at ran
    · cases ran
      rfl
    · split at ran
      · cases ran
        exact (markRunCancelled_ended _ _ _).ownerToken rfl
      · exact reclaimRunning_token ran

/-- A job without an owner stays without one through the loop. -/
theorem reclaimEach_unowned {runId : UUID} :
    ∀ {runIds : List UUID} {db later : Db} {outcomes : List Reclaimed},
      reclaimEach cfg retryDelay now runIds db = .ok (later, outcomes) →
      (runId ∈ runIds ∨ ∃ rows, db.runs.get runId = some rows ∧ rows.job.ownerToken = none) →
      ∃ rows, later.runs.get runId = some rows ∧ rows.job.ownerToken = none
  | [], db, later, outcomes, ran, start => by
    cases ran
    exact start.resolve_left List.not_mem_nil
  | first :: rest, db, later, outcomes, ran, start => by
    unfold reclaimEach at ran
    split at ran
    · cases ran
    next rows stored =>
      split at ran
      · cases ran
      next after outcome reclaimed =>
        obtain ⟨done, rested, written⟩ := map_ok ran
        cases written
        refine reclaimEach_unowned rested ?_
        by_cases same : runId = first
        · subst same
          exact .inr ⟨after, Table.put_get_self _ _ _, reclaimRows_token reclaimed⟩
        · rcases start with member | ⟨rows, stored, unowned⟩
          · exact .inl ((List.mem_cons.mp member).resolve_left same)
          · exact .inr ⟨rows, (Table.put_get_of_ne _ _ same).trans stored, unowned⟩

/-- A reclaim that commits takes the lease of each job it has selected. -/
theorem serve_reclaims {world : World} {locked : UUID → Bool} {limit : Nat}
    {summary : ReclaimSummary} {job : ClaimedJob}
    (answered : (serve cfg world (.reclaim retryDelay locked now limit)).2 =
      .ok (.reclaimed summary))
    (selected : job.runId ∈ selectStaleJobs cfg world.db.runs locked now limit) :
    ¬ Holds (serve cfg world (.reclaim retryDelay locked now limit)).1 job := by
  rintro ⟨later, there, owned⟩
  obtain ⟨result, ran, -⟩ := answers_ok (serve_ran answered)
  unfold reclaimStaleLeases at ran
  split at ran
  · cases ran
  obtain ⟨done, looped, written⟩ := map_ok (transaction_ok ran).1
  obtain ⟨rows, stored, unowned⟩ := reclaimEach_unowned looped (.inl selected)
  rw [(Prod.mk.inj written).1] at stored
  cases stored.symm.trans there
  rw [unowned] at owned
  cases owned

end Reclaim

/-! ## Runs -/

section Runs
variable {cfg : Config} {world : World} {op : Op} {job : ClaimedJob}

/-- The tokens the jobs hold have all been drawn. -/
def TokensDrawn (world : World) : Prop :=
  AllRuns (fun _ rows => ∀ token, rows.job.ownerToken = some token → token ∈ world.issued) world

/-- Only a claim writes a token, the one it has drawn. -/
theorem control_token {memberships : List WorkspaceMembership} {rows after : RunRows}
    (control : Control cfg memberships op rows after) :
    after.job.ownerToken = rows.job.ownerToken ∨ after.job.ownerToken = none ∨
      ∃ token, op.token = some token ∧ after.job.ownerToken = some token := by
  cases control with
  | keep job | start _ _ _ _ _ job | flag _ _ _ job | extend _ _ job | relink _ _ _ _ job =>
    exact .inl (by rw [job])
  | claim locked workerId now leaseDuration ownerToken asked due job =>
    exact .inr (.inr ⟨ownerToken, by rw [asked]; rfl, by rw [job]; rfl⟩)
  | park _ _ _ _ _ _ _ job | requeue _ _ job | handBack _ _ _ _ _ _ job | finish _ job
  | bury _ job | closeQueued _ _ _ _ job | closeWaiting _ _ _ _ job =>
    obtain ⟨availableAt, summary, job⟩ := job
    exact .inr (.inl (by rw [job]; rfl))
  | wake dormant waiting requestId stored availableAt job => exact .inr (.inl (by rw [job]))

variable (cfg world op) in
/-- A request that writes has drawn a fresh token, if it draws one. -/
theorem serve_token : (serve cfg world op).1.db = world.db ∨ ∀ token, op.token = some token →
    token ∉ world.issued ∧ token ∈ (serve cfg world op).1.issued := by
  unfold serve
  split
  · exact .inl rfl
  next unused =>
    right
    intro token drawn
    refine ⟨by simpa [drawn] using unused, ?_⟩
    dsimp only
    split <;> exact List.mem_append_right _ (by rw [drawn]; exact List.mem_singleton_self token)

/-- What each request keeps of the leases. -/
structure Leasing (cfg : Config) (world : World) : Prop where
  sound : AllRuns (Sound cfg) world
  drawn : TokensDrawn world

theorem serve_leasing (before : Leasing cfg world) (op : Op) : Leasing cfg (serve cfg world op).1 := by
  refine ⟨serve_sound before.sound op, ?_⟩
  rcases serve_token cfg world op with same | fresh
  · intro k rows stored token owned
    rw [same] at stored
    exact serve_issued cfg world op (before.drawn k rows stored token owned)
  · refine writes_preserve (serve_writes before.sound op) ?_ ?_
      (fun k rows stored token owned =>
        serve_issued cfg world op (before.drawn k rows stored token owned))
    · intro k rows later origin held effect token owned
      rcases control_token effect.control with same | none | ⟨claimed, drawn, written⟩
      · exact held token (same ▸ owned)
      · rw [none] at owned
        cases owned
      · cases written.symm.trans owned
        exact (fresh _ drawn).2
    · intro create facts executable token owned
      cases owned

/-- A lost lease stays lost. -/
theorem serve_lost (before : Leasing cfg world) (lost : LeaseLost job world) (op : Op) :
    LeaseLost job (serve cfg world op).1 := by
  refine ⟨serve_issued cfg world op lost.1, ?_⟩
  rintro ⟨later, there, owned⟩
  rcases serve_token cfg world op with same | fresh
  · rw [same] at there
    exact lost.2 ⟨later, there, owned⟩
  · have unowned := writes_preserve
      (P := fun k rows => k = job.runId → rows.job.ownerToken ≠ some job.ownerToken)
      (serve_writes before.sound op) ?_ (fun _ _ _ _ owned => by cases owned)
      (fun k rows stored same owned => lost.2 ⟨rows, same ▸ stored, owned⟩)
    · exact unowned job.runId later there rfl owned
    · intro k rows after origin held effect same owned
      rcases control_token effect.control with kept | none | ⟨claimed, drawn, written⟩
      · exact held same (kept ▸ owned)
      · rw [none] at owned
        cases owned
      · cases written.symm.trans owned
        exact (fresh _ drawn).1 lost.1

theorem lost_of_released (before : Leasing cfg world) (held : Holds world job)
    (released : ¬ Holds (serve cfg world op).1 job) : LeaseLost job (serve cfg world op).1 := by
  obtain ⟨rows, stored, owned⟩ := held
  exact ⟨serve_issued cfg world op (before.drawn _ rows stored _ owned), released⟩

theorem lost_of_ends (before : Leasing cfg world) (ends : EndsLease cfg world op job) :
    LeaseLost job (serve cfg world op).1 := by
  rcases ends with ⟨leased, finalizes, success⟩ |
    ⟨retryDelay, locked, now, limit, summary, rfl, answered, selected, held⟩
  · obtain ⟨held, released⟩ := serve_succeeded leased success
    exact lost_of_released before held (released finalizes)
  · exact lost_of_released before held (serve_reclaims answered selected)

/-- No call succeeds with a claim whose lease is lost. -/
theorem unsuccessful_of_lost (lost : LeaseLost job world) (leased : op.lease = some job) :
    succeeded (serve cfg world op).2 = false := by
  by_contra success
  exact lost.2 (serve_succeeded leased (eq_true_of_ne_false success)).1

variable (cfg) in
theorem reached_leasing (ops : List Op) : Leasing cfg ((stores cfg).reached ops) := by
  refine (stores cfg).reached_invariant ⟨start_runs _, start_runs _⟩ ?_ ops
  exact fun world op before => serve_leasing before op

end Runs

/-- A finalizing call with this claim that succeeds. -/
def finalizedBy (job : ClaimedJob) (entry : Op × Except StoreError Reply) : Bool :=
  entry.1.lease == some job && entry.1.finalizes && succeeded entry.2

theorem finalizedBy_iff {job : ClaimedJob} {op : Op} {answer : Except StoreError Reply} :
    finalizedBy job (op, answer) = true ↔
      op.lease = some job ∧ op.finalizes = true ∧ succeeded answer = true := by
  simp [finalizedBy, and_assoc]

/-- In every run, and for every claimed job: at most one finalizing call with it
succeeds; after a step that ends its lease no call with it does; and a call that is
refused leaves the database as it was. -/
theorem lease_fencing (cfg : Config) (ops : List Op) (job : ClaimedJob) :
    ((stores cfg).trace (stores cfg).start ops).countP (finalizedBy job) ≤ 1 ∧
      (∀ first op later call rest, ops = first ++ op :: later ++ call :: rest →
        EndsLease cfg ((stores cfg).reached first) op job → call.lease = some job →
        succeeded (serve cfg ((stores cfg).reached (first ++ op :: later)) call).2 = false) ∧
      ∀ first call rest, ops = first ++ call :: rest → call.lease = some job →
        refused (serve cfg ((stores cfg).reached first) call).2 = true →
        ((stores cfg).reached (first ++ [call])).db = ((stores cfg).reached first).db := by
  refine ⟨?_, ?_, ?_⟩
  · refine (stores cfg).trace_at_most_once (Leasing cfg) (LeaseLost job)
      (fun _ op before => serve_leasing before op) (fun _ op before lost => serve_lost before lost op)
      ?_ ?_ (reached_leasing cfg []) ops
    · intro world op lost
      by_contra marked
      obtain ⟨leased, -, success⟩ := finalizedBy_iff.mp (eq_true_of_ne_false marked)
      exact Bool.false_ne_true ((unsuccessful_of_lost lost leased).symm.trans success)
    · intro world op before marked
      exact lost_of_ends before (.inl (finalizedBy_iff.mp marked))
  · intro first op later call rest _ ends leased
    have before := reached_leasing cfg first
    refine unsuccessful_of_lost ?_ leased
    rw [Machine.reached_append, Machine.after_cons]
    exact ((stores cfg).after_preserves
      (P := fun world => Leasing cfg world ∧ LeaseLost job world)
      (fun world op held => ⟨serve_leasing held.1 op, serve_lost held.1 held.2 op⟩)
      ⟨serve_leasing before op, lost_of_ends before ends⟩ later).2
  · intro first call rest _ leased refusal
    rw [Machine.reached_snoc]
    exact serve_refused leased refusal

/-- The lease ran out and was reclaimed, and the job is claimed again. Its first
holder, with its clock behind, cannot end it. -/
theorem lease_fencing_reclaimed :
    succeeded (serve Sample.config ((stores Sample.config).reached (Sample.running ++
      .reclaim (fun _ => 0) (fun _ => false) 20 1 :: [Sample.claim 20 101]))
      (.fail (fun _ => 0) (Sample.claimed 1 1 100 none) "worker_error" 5)).2 = false := by
  have reclaims : ∃ summary, (serve Sample.config ((stores Sample.config).reached Sample.running)
      (.reclaim (fun _ => 0) (fun _ => false) 20 1)).2 = .ok (.reclaimed summary) := by
    exact ⟨⟨1, 1, 0, 0⟩, rfl⟩
  have holds : (((stores Sample.config).reached Sample.running).db.runs.get 3).any (fun rows =>
      rows.job.ownerToken == some 100) = true := by
    decide +kernel
  have selected : 3 ∈ selectStaleJobs Sample.config
      ((stores Sample.config).reached Sample.running).db.runs (fun _ => false) 20 1 := by
    decide +kernel
  obtain ⟨summary, answered⟩ := reclaims
  obtain ⟨rows, stored, owned⟩ := (Option.any_eq_true _ _).mp holds
  exact (lease_fencing Sample.config _ (Sample.claimed 1 1 100 none)).2.1 Sample.running _
    [Sample.claim 20 101] _ [] rfl
    (.inr ⟨_, _, _, _, summary, rfl, answered, selected, rows, stored, beq_iff_eq.mp owned⟩) rfl

end Pathfinder
