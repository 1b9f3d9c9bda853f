import Mathlib.Data.List.Nodup
import Pathfinder.Lifecycle.Steps

/-!
# The writes of each request

Every transaction of the stores, from a database whose rows are sound, is a
sequence of writes. From there on no result looks at a store again, unless it is
about what that store answers.
-/
namespace Pathfinder
open KeyedTable Machines

section Bodies
variable {cfg : Config} {op : Op} {db after : Db}

theorem writes_same (same : after.runs = db.runs) :
    Writes cfg db.memberships op db.runs after.runs := by
  rw [same]
  exact .refl

/-- A body on one run is at most one write. -/
theorem onRun_writes {α : Type} {workspaceId runId : UUID} {absent : Except StoreError α}
    {f : RunRows → Except StoreError (RunRows × α)} {result : α}
    (reaches : op.reaches cfg db.runs runId)
    (effects : ∀ rows later answer, db.runs.get runId = some rows →
      rows.run.workspaceId = workspaceId → f rows = .ok (later, answer) →
      Effect cfg db.memberships op rows later)
    (ran : onRun workspaceId runId absent f db = .ok (after, result)) :
    Writes cfg db.memberships op db.runs after.runs := by
  rcases onRun_ok ran with ⟨-, -, rfl⟩ | ⟨rows, later, found, worked, rfl⟩
  · exact .refl
  · obtain ⟨stored, workspace⟩ := findRun_some found
    exact .single (.update runId stored (.inl ⟨stored, reaches⟩)
      (effects _ _ _ stored workspace worked))

/-- A worker's operation on the run of its claimed job. -/
theorem onClaimed_writes {α : Type} {job : ClaimedJob} {lost : α}
    {f : Db → RunRows → Except StoreError (RunRows × α)} {result : α}
    (reaches : op.reaches cfg db.runs job.runId)
    (effects : ∀ rows later answer, db.runs.get job.runId = some rows →
      f db rows = .ok (later, answer) → Effect cfg db.memberships op rows later)
    (ran : onClaimed job lost f db = .ok (after, result)) :
    Writes cfg db.memberships op db.runs after.runs :=
  onRun_writes reaches
    (fun rows later answer stored _ ran => effects rows later answer stored ran)
    (transaction_ok ran).1

theorem requireErrorCategory_ok {α : Type} {value : String} {body : Body α} {result : α}
    (ran : requireErrorCategory cfg value body db = .ok (after, result)) :
    validErrorCategory cfg value = true ∧ body db = .ok (after, result) := by
  unfold requireErrorCategory at ran
  split at ran
  next valid => exact ⟨valid, ran⟩
  · cases ran

theorem onTenantRun_writes {α : Type} {tenant : TenantContext} {runId : UUID}
    {f : Db → RunRows → Except StoreError (RunRows × α)} {result : α}
    (reaches : op.reaches cfg db.runs runId)
    (effects : ∀ rows later answer, db.runs.get runId = some rows →
      rows.run.workspaceId = tenant.workspaceId → f db rows = .ok (later, answer) →
      Effect cfg db.memberships op rows later)
    (ran : onTenantRun tenant runId f db = .ok (after, result)) :
    Writes cfg db.memberships op db.runs after.runs := by
  have ran := (transaction_ok ran).1
  split at ran
  · cases ran
  · exact onRun_writes reaches effects ran

theorem onIdentity_writes {α : Type} {identity : ActionExecutionIdentity}
    {f : List WorkspaceMembership → RunRows → Except StoreError (RunRows × α)} {result : α}
    (reaches : op.reaches cfg db.runs identity.runId)
    (effects : ∀ rows later answer, db.runs.get identity.runId = some rows →
      f db.memberships rows = .ok (later, answer) → Effect cfg db.memberships op rows later)
    (ran : onIdentity identity f db = .ok (after, result)) :
    Writes cfg db.memberships op db.runs after.runs :=
  onRun_writes reaches
    (fun rows later answer stored _ ran => effects rows later answer stored ran)
    (transaction_ok ran).1

/-! ## Creating -/

theorem createRunOnce_writes {create : CreateRunRequest} {facts : CreationFacts}
    {result : RunAccepted} (executable : cfg.executable create.graphVersion = true)
    (ran : createRunOnce cfg create facts db = .ok (after, result)) :
    Writes cfg db.memberships (.createRun create facts) db.runs after.runs := by
  unfold createRunOnce at ran
  split at ran
  · cases ran
  dsimp only at ran
  split at ran
  · obtain ⟨replayed, -, written⟩ := map_ok ran
    cases written
    exact .refl
  · split at ran
    · cases ran
    split at ran
    · cases ran
    split at ran
    · cases ran
    next absent =>
      cases ran
      exact .single (.create create facts rfl executable (by simpa using absent))

theorem createRunReplay_same {create : CreateRunRequest} {identity : RunCreateIdentity}
    {result : RunAccepted}
    (ran : createRunReplay cfg create identity db = .ok (after, result)) : after = db := by
  unfold createRunReplay at ran
  split at ran
  · cases ran
  split at ran
  · cases ran
  obtain ⟨replayed, -, written⟩ := map_ok ran
  cases written
  rfl

theorem createRun_writes {create : CreateRunRequest} {facts : CreationFacts}
    {result : RunAccepted} (ran : createRun cfg create facts db = .ok (after, result)) :
    Writes cfg db.memberships (.createRun create facts) db.runs after.runs := by
  unfold createRun at ran
  split at ran
  · cases ran
  next contract found =>
    have executable : cfg.executable create.graphVersion = true := by
      obtain ⟨member, version, -⟩ := findRunContract_mem found
      exact List.any_eq_true.mpr ⟨contract, member, by simpa using version⟩
    split at ran
    · cases ran
    dsimp only at ran
    split at ran
    · exact createRunOnce_writes executable (transaction_ok ran).1
    · split at ran
      · cases ran
      split at ran
      · cases ran
      split at ran
      · rw [createRunReplay_same (transaction_ok ran).1]
        exact .refl
      · exact createRunOnce_writes executable (transaction_ok ran).1

/-! ## Claiming -/

theorem selectDueJob_some {locked : UUID → Bool} {now : Timestamp} {runId : UUID}
    {rows : RunRows} (selected : selectDueJob cfg db locked now = some (runId, rows)) :
    db.runs.get runId = some rows ∧ claimable cfg rows now = true := by
  have member := List.mem_of_mem_head? selected
  rw [List.mem_insertionSort, List.mem_filter, Table.mem_scan, Bool.and_eq_true] at member
  exact ⟨member.1, member.2.1⟩

/-- What a claim that finds a job does. -/
theorem claimDueJob_some {locked : UUID → Bool} {workerId : String} {now : Timestamp}
    {leaseDuration : Timedelta} {ownerToken : UUID} {claimed : ClaimedJob}
    (ran : claimDueJob cfg locked workerId now leaseDuration ownerToken db =
      .ok (after, some claimed)) :
    ∃ runId rows, selectDueJob cfg db locked now = some (runId, rows) ∧
      db.runs.get runId = some rows ∧ claimable cfg rows now = true ∧
      claimedJob rows (leaseJob rows.job workerId ownerToken (now + leaseDuration)) ownerToken
        (now + leaseDuration) = .ok claimed ∧
      after = db.putRun runId
        { rows with job := leaseJob rows.job workerId ownerToken (now + leaseDuration) } := by
  unfold claimDueJob at ran
  split at ran
  · cases ran
  split at ran
  · cases ran
  have ran := (transaction_ok ran).1
  dsimp only at ran
  split at ran
  · cases ran
  next runId rows selected =>
    obtain ⟨stored, due⟩ := selectDueJob_some selected
    split at ran
    · cases ran
    next handed issued =>
      cases ran
      exact ⟨runId, rows, selected, stored, due, issued, rfl⟩

/-- A claim that finds none changes nothing. -/
theorem claimDueJob_none {locked : UUID → Bool} {workerId : String} {now : Timestamp}
    {leaseDuration : Timedelta} {ownerToken : UUID}
    (ran : claimDueJob cfg locked workerId now leaseDuration ownerToken db =
      .ok (after, none)) : after = db := by
  unfold claimDueJob at ran
  split at ran
  · cases ran
  split at ran
  · cases ran
  have ran := (transaction_ok ran).1
  dsimp only at ran
  split at ran
  · cases ran
    rfl
  · split at ran <;> cases ran

theorem claimDueJob_writes {locked : UUID → Bool} {workerId : String} {now : Timestamp}
    {leaseDuration : Timedelta} {ownerToken : UUID} {result : Option ClaimedJob}
    (ran : claimDueJob cfg locked workerId now leaseDuration ownerToken db =
      .ok (after, result)) :
    Writes cfg db.memberships (.claim locked workerId now leaseDuration ownerToken) db.runs
      after.runs := by
  cases result with
  | none => exact writes_same (by rw [claimDueJob_none ran])
  | some claimed =>
    obtain ⟨runId, rows, -, stored, due, -, rfl⟩ := claimDueJob_some ran
    exact .single (.update runId stored (.inl ⟨stored, trivial⟩) (leaseJob_effect rfl due))

/-! ## Reclaiming -/

theorem selectStaleJobs_stale {runs : Table UUID RunRows} {locked : UUID → Bool}
    {now : Timestamp} {limit : Nat} {runId : UUID}
    (selected : runId ∈ selectStaleJobs cfg runs locked now limit) :
    ∃ rows, runs.get runId = some rows ∧ stale cfg rows now = true ∧
      locked rows.job.id = false := by
  obtain ⟨⟨k, rows⟩, member, rfl⟩ := List.mem_map.mp selected
  have member := List.mem_of_mem_take member
  rw [List.mem_insertionSort, List.mem_filter, Table.mem_scan, Bool.and_eq_true] at member
  exact ⟨rows, member.1, member.2.1, by simpa using member.2.2⟩

theorem selectStaleJobs_nodup {locked : UUID → Bool} {now : Timestamp} {limit : Nat} :
    (selectStaleJobs cfg db.runs locked now limit).Nodup := by
  unfold selectStaleJobs
  have sorted := List.perm_insertionSort staleBefore
    (db.runs.scan.filter fun entry => stale cfg entry.2 now && !locked entry.2.job.id)
  refine ((List.take_sublist limit _).map Prod.fst).nodup ?_
  rw [(sorted.map Prod.fst).nodup_iff]
  exact (List.filter_sublist.map Prod.fst).nodup db.runs.scan_keys_nodup

/-- The loop comes to each selected run once, so it finds it as the selection did. -/
theorem reclaimEach_writes {retryDelay : RetryDelayPolicy} {locked : UUID → Bool}
    {now : Timestamp} {limit : Nat} {start : Table UUID RunRows}
    {memberships : List WorkspaceMembership} :
    ∀ {runIds : List UUID} {db after : Db} {outcomes : List Reclaimed}, runIds.Nodup →
      db.memberships = memberships →
      (∀ runId ∈ runIds, db.runs.get runId = start.get runId ∧
        runId ∈ selectStaleJobs cfg start locked now limit) →
      reclaimEach cfg retryDelay now runIds db = .ok (after, outcomes) →
      Relation.ReflTransGen (Write cfg memberships (.reclaim retryDelay locked now limit) start)
        db.runs after.runs
  | [], db, after, outcomes, distinct, same, ready, ran => by
    cases ran
    exact .refl
  | runId :: rest, db, after, outcomes, distinct, same, ready, ran => by
    obtain ⟨outside, distinct⟩ := List.nodup_cons.mp distinct
    obtain ⟨unchanged, selected⟩ := ready runId List.mem_cons_self
    obtain ⟨rows, stored, due, unlocked⟩ := selectStaleJobs_stale selected
    simp only [reclaimEach, unchanged.trans stored] at ran
    split at ran
    · cases ran
    next later outcome reclaimed =>
      obtain ⟨done, rested, written⟩ := map_ok ran
      cases written
      have write : Write cfg memberships (.reclaim retryDelay locked now limit) start db.runs
          (db.runs.put runId later) :=
        .update runId (unchanged.trans stored) (.inl ⟨stored, selected⟩)
          (reclaimRows_effect rfl due unlocked (same ▸ reclaimed))
      have unvisited : ∀ other ∈ rest, (db.putRun runId later).runs.get other = start.get other ∧
          other ∈ selectStaleJobs cfg start locked now limit := by
        intro other member
        have different : other ≠ runId := fun equal => outside (equal ▸ member)
        obtain ⟨kept, ready⟩ := ready other (List.mem_cons_of_mem _ member)
        exact ⟨(Table.put_get_of_ne _ _ different).trans kept, ready⟩
      have memberships_eq : (db.putRun runId later).memberships = memberships := same
      exact .head write (reclaimEach_writes distinct memberships_eq unvisited rested)

theorem reclaimStaleLeases_writes {retryDelay : RetryDelayPolicy} {locked : UUID → Bool}
    {now : Timestamp} {limit : Nat} {result : ReclaimSummary}
    (ran : reclaimStaleLeases cfg retryDelay locked now limit db = .ok (after, result)) :
    Writes cfg db.memberships (.reclaim retryDelay locked now limit) db.runs after.runs := by
  unfold reclaimStaleLeases at ran
  split at ran
  · cases ran
  obtain ⟨done, looped, written⟩ := map_ok (transaction_ok ran).1
  cases written
  refine reclaimEach_writes selectStaleJobs_nodup rfl ?_ looped
  exact fun runId selected => ⟨rfl, selected⟩

/-! ## Sweeping -/

theorem selectDueRequests_due {locked : UUID → Bool} {now : Timestamp} {limit : Nat}
    {runId k : UUID} (selected : (runId, k) ∈ selectDueRequests db locked now limit) :
    ∃ rows action request, db.runs.get runId = some rows ∧ rows.actions.get k = some action ∧
      action.request = some request ∧ request.status.open? = true := by
  obtain ⟨⟨key, request⟩, member, same⟩ := List.mem_map.mp selected
  have member := List.mem_of_mem_take member
  rw [List.mem_insertionSort, List.mem_filter, List.mem_flatMap] at member
  obtain ⟨⟨⟨r, rows⟩, stored, due⟩, -⟩ := member
  rw [Table.mem_scan] at stored
  simp only [dueRequests, List.mem_filterMap, Prod.exists, Option.map_eq_some_iff, Prod.mk.injEq,
    Option.filter_eq_some_iff, Table.mem_scan] at due
  obtain ⟨j, action, found, asked, ⟨requested, dueNow⟩, rfl, rfl⟩ := due
  cases same
  simp only [requestDue, Bool.and_eq_true] at dueNow
  exact ⟨rows, action, asked, stored, found, requested, dueNow.1⟩

theorem dueRequests_keys (now : Timestamp) (run : UUID × RunRows) :
    ((dueRequests now run).map Prod.fst).Sublist
      ((run.2.actions.scan.map Prod.fst).map fun k => (run.1, k)) := by
  unfold dueRequests
  induction run.2.actions.scan with
  | nil => exact .slnil
  | cons entry rest ih =>
    rw [List.filterMap_cons]
    split
    · exact ih.cons _
    next due =>
      obtain ⟨request, -, rfl⟩ := Option.map_eq_some_iff.mp due
      exact ih.cons_cons _

theorem dueRequests_nodup (now : Timestamp) (runs : Table UUID RunRows) :
    ((runs.scan.flatMap (dueRequests now)).map Prod.fst).Nodup := by
  rw [List.map_flatMap, List.nodup_flatMap]
  constructor
  · intro run _
    refine (dueRequests_keys now run).nodup (List.Nodup.map ?_ run.2.actions.scan_keys_nodup)
    exact fun _ _ same => (Prod.mk.inj same).2
  · have distinct := List.pairwise_map.mp runs.scan_keys_nodup
    refine distinct.imp ?_
    intro first second different pair fromFirst fromSecond
    obtain ⟨k, -, rfl⟩ := List.mem_map.mp ((dueRequests_keys now first).subset fromFirst)
    obtain ⟨j, -, same⟩ := List.mem_map.mp ((dueRequests_keys now second).subset fromSecond)
    exact different (Prod.mk.inj same).1.symm

theorem selectDueRequests_nodup {locked : UUID → Bool} {now : Timestamp} {limit : Nat} :
    (selectDueRequests db locked now limit).Nodup := by
  unfold selectDueRequests
  have sorted := List.perm_insertionSort expiryBefore
    ((db.runs.scan.flatMap (dueRequests now)).filter fun entry => !locked entry.2.id)
  refine ((List.take_sublist limit _).map Prod.fst).nodup ?_
  rw [(sorted.map Prod.fst).nodup_iff]
  exact (List.filter_sublist.map Prod.fst).nodup (dueRequests_nodup now db.runs)

/-- What a turn of the sweep leaves alone. -/
theorem sweepRows_others {rows later : RunRows} {k j : UUID} {now : Timestamp} {outcome : Swept}
    (different : j ≠ k) (ran : sweepRows k now rows = .ok (later, outcome)) :
    later.actions.get j = rows.actions.get j := by
  unfold sweepRows at ran
  split at ran
  · cases ran
    rfl
  · split at ran
    · cases ran
      rfl
    · split at ran
      · cases ran
      cases ran
      exact Table.put_get_of_ne _ _ different

/-- Some open request waits under the key of a selected pair. -/
def DueAt (runs : Table UUID RunRows) (pair : UUID × UUID) : Prop :=
  ∃ rows, runs.get pair.1 = some rows ∧ ∀ action request, rows.actions.get pair.2 = some action →
    action.request = some request → request.status.open? = true

/-- One turn of a sweep, at a request that is open. -/
inductive Turn (now : Timestamp) : Table UUID RunRows → Table UUID RunRows → Prop
  | expire {runs : Table UUID RunRows} (runId k : UUID) {rows later : RunRows} {outcome : Swept}
      (stored : runs.get runId = some rows)
      (opened : ∀ action request, rows.actions.get k = some action →
        action.request = some request → request.status.open? = true)
      (swept : sweepRows k now rows = .ok (later, outcome)) :
      Turn now runs (runs.put runId later)

/-- The sweep comes to each request once, so it finds it open. -/
theorem sweepEach_turns {now : Timestamp} :
    ∀ {due : List (UUID × UUID)} {db after : Db} {outcomes : List Swept}, due.Nodup →
      (∀ pair ∈ due, DueAt db.runs pair) → sweepEach now due db = .ok (after, outcomes) →
      Relation.ReflTransGen (Turn now) db.runs after.runs
  | [], db, after, outcomes, distinct, ready, ran => by
    cases ran
    exact .refl
  | (runId, k) :: rest, db, after, outcomes, distinct, ready, ran => by
    obtain ⟨outside, distinct⟩ := List.nodup_cons.mp distinct
    obtain ⟨rows, stored, opened⟩ := ready (runId, k) List.mem_cons_self
    dsimp only at stored opened
    simp only [sweepEach, stored] at ran
    split at ran
    · cases ran
    next later outcome swept =>
      obtain ⟨done, rested, written⟩ := map_ok ran
      cases written
      have turn : Turn now db.runs (db.runs.put runId later) :=
        .expire runId k stored opened swept
      have unvisited : ∀ pair ∈ rest, DueAt (db.putRun runId later).runs pair := by
        intro pair member
        obtain ⟨others, there, ready⟩ := ready pair (List.mem_cons_of_mem _ member)
        by_cases same : pair.1 = runId
        · have different : pair.2 ≠ k := by
            rintro rfl
            exact outside (same ▸ member)
          rw [same] at there
          cases stored.symm.trans there
          refine ⟨later, by rw [same]; exact Table.put_get_self _ _ _, ?_⟩
          rw [sweepRows_others different swept]
          exact ready
        · exact ⟨others, (Table.put_get_of_ne _ _ same).trans there, ready⟩
      exact .head turn (sweepEach_turns distinct unvisited rested)

theorem sweepDueApprovalRequests_turns {locked : UUID → Bool} {now : Timestamp} {limit : Nat}
    {result : ApprovalExpirySweepSummary}
    (ran : sweepDueApprovalRequests locked now limit db = .ok (after, result)) :
    Relation.ReflTransGen (Turn now) db.runs after.runs := by
  unfold sweepDueApprovalRequests at ran
  split at ran
  · cases ran
  obtain ⟨done, looped, written⟩ := map_ok (transaction_ok ran).1
  cases written
  refine sweepEach_turns selectDueRequests_nodup ?_ looped
  intro pair selected
  obtain ⟨rows, action, request, stored, found, requested, opened⟩ :=
    selectDueRequests_due selected
  refine ⟨rows, stored, fun other asked there requestedThere => ?_⟩
  cases found.symm.trans there
  cases requested.symm.trans requestedThere
  exact opened

theorem sweep_writes {locked : UUID → Bool} {now : Timestamp} {limit : Nat}
    {result : ApprovalExpirySweepSummary}
    (leases : ∀ k rows, db.runs.get k = some rows → LeaseFields rows.job)
    (ran : sweepDueApprovalRequests locked now limit db = .ok (after, result)) :
    Writes cfg db.memberships (.sweep locked now limit) db.runs after.runs := by
  suffices both : Writes cfg db.memberships (.sweep locked now limit) db.runs after.runs ∧
      ∀ k rows, after.runs.get k = some rows → LeaseFields rows.job from both.1
  have turns := sweepDueApprovalRequests_turns ran
  generalize after.runs = last at turns ⊢
  induction turns with
  | refl => exact ⟨.refl, leases⟩
  | tail _ turn ih =>
    obtain ⟨writes, kept⟩ := ih
    cases turn with
    | expire runId k stored opened swept =>
      have effect : Effect cfg db.memberships (.sweep locked now limit) _ _ :=
        sweepRows_effect (kept runId _ stored) opened swept
      exact ⟨.tail writes (.update runId stored (.inr ⟨locked, now, limit, rfl⟩) effect),
        Table.forall_put kept (control_lease effect.control (kept runId _ stored))⟩

/-! ## Deciding -/

theorem decideApproval_ok {command : ApprovalDecisionCommand} {decisionId : UUID}
    {result : ApprovalDecisionRecord}
    (ran : decideApproval cfg command decisionId db = .ok (after, result)) :
    ∃ membership runId rows later,
      findMembership db.memberships command.tenant.workspaceId command.tenant.actorUserId =
        some membership ∧ membership.revokedAt = none ∧ db.runs.get runId = some rows ∧
      decideRows cfg command membership.role decisionId rows = .ok (later, result) ∧
      after = db.putRun runId later := by
  have ran := (transaction_ok ran).1
  split at ran
  · cases ran
  next membership member =>
    obtain ⟨found, active⟩ := Option.filter_eq_some_iff.mp member
    split at ran
    · cases ran
    next runId rows located =>
      obtain ⟨done, decided, written⟩ := map_ok ran
      cases written
      exact ⟨membership, runId, rows, done.1, found, by simpa using active,
        (Table.find?_some located).1, decided, rfl⟩

theorem decideApproval_writes {command : ApprovalDecisionCommand} {decisionId : UUID}
    {result : ApprovalDecisionRecord}
    (keyed : ∀ k rows, db.runs.get k = some rows → Keyed rows)
    (ran : decideApproval cfg command decisionId db = .ok (after, result)) :
    Writes cfg db.memberships (.decide command decisionId) db.runs after.runs := by
  obtain ⟨membership, runId, rows, later, member, active, stored, decided, rfl⟩ :=
    decideApproval_ok ran
  exact .single (.update runId stored (.inl ⟨stored, trivial⟩)
    (decideRows_effect rfl member active (keyed runId rows stored) decided))

/-! ## Any request -/

theorem answers_ok {α : Type} {body : Body α} {reply : α → Reply} {answer : Reply}
    (ran : body.answers reply db = .ok (after, answer)) :
    ∃ result, body db = .ok (after, result) ∧ reply result = answer := by
  obtain ⟨done, worked, written⟩ := map_ok ran
  cases written
  exact ⟨done.2, worked, rfl⟩

theorem answers_checks {α : Type} {body : Body α} {reply : α → Reply} {answer : Reply}
    (checked : ∀ result, body db = .ok (after, result) → after.checks = true)
    (ran : body.answers reply db = .ok (after, answer)) : after.checks = true := by
  obtain ⟨result, ran, -⟩ := answers_ok ran
  exact checked result ran

theorem transaction_checks {α : Type} {body : Body α} (result : α)
    (ran : transaction body db = .ok (after, result)) : after.checks = true :=
  (transaction_ok ran).2

/-- A transaction behind a check of its arguments. -/
theorem guarded_checks {α : Type} {condition : Prop} [Decidable condition] {reason : StoreError}
    {body : Body α} (checked : ∀ result, body db = .ok (after, result) → after.checks = true)
    (result : α)
    (ran : (if condition then .error reason else body db) = Except.ok (after, result)) :
    after.checks = true := by
  split at ran
  · cases ran
  · exact checked result ran

theorem createRun_checks {create : CreateRunRequest} {facts : CreationFacts}
    (result : RunAccepted) (ran : createRun cfg create facts db = .ok (after, result)) :
    after.checks = true := by
  unfold createRun at ran
  split at ran
  · cases ran
  split at ran
  · cases ran
  dsimp only at ran
  split at ran
  · exact transaction_checks _ ran
  · split at ran
    · cases ran
    split at ran
    · cases ran
    · split at ran <;> exact transaction_checks _ ran

/-- No request commits rows that violate a constraint. -/
theorem body_checks {reply : Reply} (before : db.checks = true)
    (ran : op.body cfg db = .ok (after, reply)) : after.checks = true := by
  cases op with
  | setMemberships memberships =>
    cases ran
    exact before
  | setDocuments documents =>
    cases ran
    exact before
  | createRun create facts => exact answers_checks createRun_checks ran
  | claim =>
    obtain ⟨result, ran, -⟩ := answers_ok ran
    unfold claimDueJob at ran
    split at ran
    · cases ran
    · exact guarded_checks transaction_checks _ ran
  | cancelAction =>
    obtain ⟨result, ran, -⟩ := answers_ok ran
    unfold Pathfinder.cancelAction onTenantRun at ran
    exact transaction_checks _ ran
  | cancelRun | reclaim | sweep | prepare | prepareAction | supersedeAction
  | beginReconciliation | authorizeResend =>
    exact answers_checks (guarded_checks transaction_checks) ran
  | heartbeat | complete | waitForApproval | decide | prepareExecution | beginSend =>
    exact answers_checks transaction_checks ran
  | requeue | release | fail | cancel =>
    exact answers_checks (fun _ ran => transaction_checks _ (requireErrorCategory_ok ran).2) ran
  | recordRetrieved =>
    dsimp only [Op.body] at ran
    exact answers_checks transaction_checks ran
  | confirmSuccess | confirmFailure | confirmOutcomeUnknown =>
    dsimp only [Op.body] at ran
    exact answers_checks (guarded_checks transaction_checks) ran

/-- Whatever the request, from sound rows it is a sequence of writes. -/
theorem body_writes (sound : ∀ k rows, db.runs.get k = some rows → Sound cfg k rows)
    {reply : Reply} (ran : op.body cfg db = .ok (after, reply)) :
    Writes cfg db.memberships op db.runs after.runs := by
  have leases k rows (stored : db.runs.get k = some rows) : LeaseFields rows.job :=
    (sound k rows stored).lease
  cases op with
  | setMemberships memberships =>
    cases ran
    exact .refl
  | setDocuments documents =>
    cases ran
    exact .refl
  | createRun create facts =>
    obtain ⟨result, ran, -⟩ := answers_ok ran
    exact createRun_writes ran
  | cancelRun tenant runId allowOtherCreator now =>
    obtain ⟨result, ran, -⟩ := answers_ok ran
    unfold cancelRun at ran
    split at ran
    · cases ran
    have ran := (transaction_ok ran).1
    split at ran
    · cases ran
    · exact onRun_writes trivial (fun _ _ _ _ _ ran => cancelRunRows_effect rfl ran) ran
  | recordRetrieved workspaceId runId actorUserId toolInvocationId documentIds chunkIds profile =>
    dsimp only [Op.body] at ran
    obtain ⟨result, ran, -⟩ := answers_ok ran
    refine onRun_writes trivial (fun rows later answer _ _ ran => ?_) (transaction_ok ran).1
    cases ran
    exact recordRetrieved_effect _ _
  | claim locked workerId now leaseDuration ownerToken =>
    obtain ⟨result, ran, -⟩ := answers_ok ran
    exact claimDueJob_writes ran
  | heartbeat job now leaseDuration =>
    obtain ⟨result, ran, -⟩ := answers_ok ran
    exact onClaimed_writes trivial (fun _ _ _ _ ran => heartbeatRows_effect ran) ran
  | prepare job resolvedTenant now =>
    obtain ⟨result, ran, -⟩ := answers_ok ran
    unfold prepareClaimedJob at ran
    split at ran
    · cases ran
    next resolves =>
      exact onClaimed_writes trivial
        (fun _ _ _ _ ran =>
          prepareClaimedRows_effect rfl (Bool.eq_false_iff.mpr resolves) ran) ran
  | complete job result published now =>
    obtain ⟨held, ran, -⟩ := answers_ok ran
    exact onClaimed_writes trivial (fun _ _ _ _ ran => completeRows_effect rfl ran) ran
  | waitForApproval job approvalRequestId now =>
    obtain ⟨held, ran, -⟩ := answers_ok ran
    exact onClaimed_writes trivial (fun _ _ _ _ ran => waitForApprovalRows_effect rfl ran) ran
  | requeue retryDelay job errorCategory now =>
    obtain ⟨held, ran, -⟩ := answers_ok ran
    obtain ⟨valid, ran⟩ := requireErrorCategory_ok ran
    exact onClaimed_writes trivial (fun _ _ _ _ ran => requeueRows_effect rfl valid ran) ran
  | release retryDelay job errorCategory now =>
    obtain ⟨held, ran, -⟩ := answers_ok ran
    exact onClaimed_writes trivial (fun _ _ _ _ ran => releaseRows_effect ran)
      (requireErrorCategory_ok ran).2
  | fail retryDelay job errorCategory now =>
    obtain ⟨held, ran, -⟩ := answers_ok ran
    obtain ⟨valid, ran⟩ := requireErrorCategory_ok ran
    exact onClaimed_writes trivial (fun _ _ _ _ ran => failRows_effect rfl valid ran) ran
  | cancel retryDelay job reason now =>
    obtain ⟨held, ran, -⟩ := answers_ok ran
    obtain ⟨valid, ran⟩ := requireErrorCategory_ok ran
    exact onClaimed_writes trivial
      (fun rows _ _ stored ran => cancelRows_effect rfl valid (sound _ rows stored).bounded ran)
      ran
  | reclaim retryDelay locked now limit =>
    obtain ⟨result, ran, -⟩ := answers_ok ran
    exact reclaimStaleLeases_writes ran
  | prepareAction command requestId serverNow =>
    obtain ⟨result, ran, -⟩ := answers_ok ran
    unfold prepareAction at ran
    split at ran
    · cases ran
    next initial =>
      exact onTenantRun_writes trivial (fun rows _ _ stored workspace ran =>
        prepareActionRows_effect (.inl rfl) (not_not.mp initial) stored
          (sound _ rows stored).keyed (sound _ rows stored).run_id workspace ran) ran
  | supersedeAction command requestId serverNow =>
    obtain ⟨result, ran, -⟩ := answers_ok ran
    unfold supersedeAction at ran
    split at ran
    · cases ran
    next different =>
      exact onTenantRun_writes trivial (fun rows _ _ stored workspace ran =>
        supersedeActionRows_effect (.inr ⟨command, rfl, rfl⟩) stored
          (sound _ rows stored).keyed (sound _ rows stored).run_id workspace different ran) ran
  | cancelAction command =>
    obtain ⟨result, ran, -⟩ := answers_ok ran
    exact onTenantRun_writes trivial (fun _ _ _ _ _ ran => cancelActionRows_effect ran) ran
  | decide command decisionId =>
    obtain ⟨result, ran, -⟩ := answers_ok ran
    exact decideApproval_writes (fun k rows stored => (sound k rows stored).keyed) ran
  | sweep locked now limit =>
    obtain ⟨result, ran, -⟩ := answers_ok ran
    exact sweep_writes leases ran
  | prepareExecution identity invocationId now =>
    obtain ⟨result, ran, -⟩ := answers_ok ran
    exact onIdentity_writes trivial (fun _ _ _ _ ran => prepareExecutionRows_effect ran) ran
  | beginSend identity now =>
    obtain ⟨result, ran, -⟩ := answers_ok ran
    exact onIdentity_writes trivial
      (fun _ _ _ stored ran => beginSendRows_effect rfl (sound _ _ stored).keyed ran) ran
  | beginReconciliation identity now =>
    obtain ⟨result, ran, -⟩ := answers_ok ran
    unfold beginReconciliation at ran
    split at ran
    · cases ran
    exact onIdentity_writes trivial
      (fun _ _ _ stored ran => beginReconciliationRows_effect rfl (sound _ _ stored).keyed ran) ran
  | authorizeResend identity expectedRecoveryAttempt now =>
    obtain ⟨result, ran, -⟩ := answers_ok ran
    unfold authorizeResend at ran
    split at ran
    · cases ran
    next valid =>
      exact onIdentity_writes trivial
        (fun _ _ _ stored ran =>
          authorizeResendRows_effect rfl valid (sound _ _ stored).keyed ran) ran
  | confirmSuccess identity confirmed latencyMs now =>
    dsimp only [Op.body] at ran
    obtain ⟨result, ran, -⟩ := answers_ok ran
    unfold confirmSuccess at ran
    split at ran
    · cases ran
    exact onIdentity_writes trivial
      (fun _ _ _ stored ran => confirmSuccessRows_effect rfl (sound _ _ stored).keyed ran) ran
  | confirmFailure identity errorCategory evidence latencyMs now =>
    dsimp only [Op.body] at ran
    obtain ⟨result, ran, -⟩ := answers_ok ran
    unfold confirmFailure at ran
    split at ran
    · cases ran
    next valid =>
      exact onIdentity_writes trivial
        (fun _ _ _ stored ran =>
          confirmFailureRows_effect rfl valid (sound _ _ stored).keyed ran) ran
  | confirmOutcomeUnknown identity evidence latencyMs now =>
    dsimp only [Op.body] at ran
    obtain ⟨result, ran, -⟩ := answers_ok ran
    unfold confirmOutcomeUnknown at ran
    split at ran
    · cases ran
    next valid =>
      exact onIdentity_writes trivial
        (fun _ _ _ stored ran =>
          confirmOutcomeUnknownRows_effect rfl valid (sound _ _ stored).keyed ran) ran

end Bodies
end Pathfinder
