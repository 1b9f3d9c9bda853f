import Pathfinder.Library.Batches
import Pathfinder.Lifecycle.Commits

/-!
# The queue of the expiry sweep

A sweep takes the first due requests in the order of their expiry. At a request whose run waits
for approval it expires the request and wakes the job, unless the job is bound to another request;
at any other request it does nothing.
-/
namespace Pathfinder
open KeyedTable Batches

variable {now : Timestamp} {limit : Nat} {db after : Db}

/-- A due request, under its run and its action. -/
abbrev DueRow := (UUID × UUID) × ApprovalRequest

/-- The due requests, run by run. -/
def dueRows (now : Timestamp) (db : Db) : List DueRow := db.runs.scan.flatMap (dueRequests now)

/-- The due requests in the order of a sweep. -/
def sweepQueue (now : Timestamp) (db : Db) : List DueRow :=
  (dueRows now db).insertionSort expiryBefore

/-- The run of a request is `WAITING_APPROVAL`. -/
def waits (db : Db) (row : DueRow) : Bool :=
  (db.runs.get row.1.1).any fun rows => rows.run.status == .waitingApproval

/-- The job is not bound to another request. -/
def acceptsExpiry (job : RunJob) (requestId : UUID) : Bool :=
  match job.status with
  | .done => true
  | .queued => job.resumeApprovalRequestId.all (· == requestId)
  | .leased => job.resumeApprovalRequestId == some requestId
  | .dead => false

/-- The job of a request's run is not bound to another request. -/
def accepts (db : Db) (row : DueRow) : Bool :=
  (db.runs.get row.1.1).any fun rows => acceptsExpiry rows.job row.2.id

/-- No request of a waiting run finds its job bound to another request, nor do two of one run bind
it to different ones. -/
structure Unconflicted (db : Db) (rows : List DueRow) : Prop where
  accepted : ∀ row ∈ rows, waits db row = true → accepts db row = true
  agreed : ∀ row ∈ rows, ∀ other ∈ rows, waits db row = true → waits db other = true →
    row.1.1 = other.1.1 → row.2.id = other.2.id

/-- The request as a sweep leaves it. -/
def ApprovalRequest.expire (request : ApprovalRequest) : ApprovalRequest :=
  { request with status := .expired, version := request.version + 1 }

/-- The request of a row is expired. -/
def ExpiredAt (db : Db) (row : DueRow) : Prop :=
  ∃ rows action, db.runs.get row.1.1 = some rows ∧ rows.actions.get row.1.2 = some action ∧
    action.request = some row.2.expire

theorem selectDueRequests_unlocked :
    selectDueRequests db (fun _ => false) now limit =
      ((sweepQueue now db).take limit).map Prod.fst := by
  simp [selectDueRequests, sweepQueue, dueRows]

theorem mem_dueRows {row : DueRow} :
    row ∈ dueRows now db ↔ ∃ rows action, db.runs.get row.1.1 = some rows ∧
      rows.actions.get row.1.2 = some action ∧ action.request = some row.2 ∧
      requestDue row.2 now = true := by
  obtain ⟨⟨runId, k⟩, request⟩ := row
  simp only [dueRows, List.mem_flatMap, Prod.exists, Table.mem_scan, dueRequests,
    List.mem_filterMap, Option.map_eq_some_iff, Option.filter_eq_some_iff, Prod.mk.injEq]
  constructor
  · rintro ⟨r, rows, stored, j, action, found, asked, ⟨requested, due⟩, ⟨rfl, rfl⟩, rfl⟩
    exact ⟨rows, action, stored, found, requested, due⟩
  · rintro ⟨rows, action, stored, found, requested, due⟩
    exact ⟨runId, rows, stored, k, action, found, request, ⟨requested, due⟩, ⟨rfl, rfl⟩, rfl⟩

theorem mem_sweepQueue {row : DueRow} : row ∈ sweepQueue now db ↔ row ∈ dueRows now db :=
  List.mem_insertionSort _

theorem dueRows_keys_nodup : ((dueRows now db).map Prod.fst).Nodup :=
  dueRequests_nodup now db.runs

theorem sweepQueue_keys_nodup : ((sweepQueue now db).map Prod.fst).Nodup :=
  (((List.perm_insertionSort expiryBefore (dueRows now db)).map Prod.fst).nodup_iff).mpr
    dueRows_keys_nodup

/-! ## Waking a job -/

theorem wakeExpiredJob_accepts {job : RunJob} {requestId : UUID} :
    (∃ done, wakeExpiredJob job requestId now = .ok done) ↔
      acceptsExpiry job requestId = true := by
  unfold wakeExpiredJob acceptsExpiry
  cases job.status <;> cases bound : job.resumeApprovalRequestId <;> simp [ite_eq_iff]

/-- A job that was woken is bound to the request. -/
theorem wakeExpiredJob_bound {job woken : RunJob} {requestId : UUID} {outcome : Swept}
    (ran : wakeExpiredJob job requestId now = .ok (woken, outcome)) (other : UUID) :
    acceptsExpiry woken other = true ↔ requestId = other := by
  unfold wakeExpiredJob at ran
  split at ran
  · cases ran
    simp [acceptsExpiry]
  next queued =>
    split at ran
    · cases ran
    cases ran
    simp [acceptsExpiry, queued]
  next leased =>
    split at ran
    · cases ran
    next bound =>
      cases ran
      simp [acceptsExpiry, leased, not_not.mp bound]
  · cases ran

/-- A woken job passes the checks of its table. -/
theorem wakeExpiredJob_checks {job woken : RunJob} {requestId : UUID} {outcome : Swept}
    (ran : wakeExpiredJob job requestId now = .ok (woken, outcome)) (checked : job.checks = true) :
    woken.checks = true := by
  unfold wakeExpiredJob at ran
  split at ran
  next dormant =>
    cases ran
    have passed : (((0 ≤ job.attempt ∧ 0 < job.maxAttempts) ∧ job.attempt ≤ job.maxAttempts) ∧
        (job.leasedBy = none ∧ job.ownerToken = none) ∧ job.leaseExpiresAt = none) ∧
        (job.errorSummary.all fun text => decide (text.length ≤ 1000)) = true := by
      simpa [RunJob.checks, dormant] using checked
    obtain ⟨⟨⟨⟨-, positive⟩, -⟩, lease⟩, -⟩ := passed
    simpa [RunJob.checks] using ⟨⟨positive, positive.le⟩, lease⟩
  · split at ran
    · cases ran
    cases ran
    exact checked
  · split at ran
    · cases ran
    cases ran
    exact checked
  · cases ran

/-! ## Turns -/

/-- The rows of a run whose request a sweep expires. -/
def RunRows.expire (rows : RunRows) (actionIntentId : UUID) (action : ActionRows)
    (request : ApprovalRequest) (job : RunJob) : RunRows :=
  ({ rows.putAction actionIntentId { action with request := some request.expire } with
      job := job }).pushEvent none .approvalExpired
    [("reason", .str "natural_expiry"), ("approval_request_id", .id request.id),
      ("action_intent_id", .id request.actionIntentId)]

section Rows
variable {rows : RunRows} {k : UUID} {action : ActionRows} {request : ApprovalRequest}

theorem sweepRows_waiting (found : rows.actions.get k = some action)
    (requested : action.request = some request) (waiting : rows.run.status = .waitingApproval) :
    sweepRows k now rows = (wakeExpiredJob rows.job request.id now).map fun woken =>
      (rows.expire k action request woken.1, woken.2) := by
  simp only [sweepRows, found, requested, Option.bind_some, Option.map_some, waiting, ne_eq,
    not_true_eq_false, if_false]
  cases wakeExpiredJob rows.job request.id now <;> rfl

theorem sweepRows_idle (idle : rows.run.status ≠ .waitingApproval) :
    sweepRows k now rows = .ok (rows, .skipped) := by
  unfold sweepRows
  split
  · rfl
  · rw [if_pos idle]

end Rows

/-- What a turn does at the request of a waiting run. -/
structure ExpiryTurn (now : Timestamp) (row : DueRow) (db after : Db) : Prop where
  waits_ : waits after = waits db
  due : dueRows now after = (dueRows now db).filter fun other => other.1 ≠ row.1
  bound : ∀ other, other.1.1 = row.1.1 → (accepts after other = true ↔ row.2.id = other.2.id)
  others : ∀ other, other.1.1 ≠ row.1.1 → accepts after other = accepts db other
  expired : ExpiredAt after row
  kept : ∀ other, other.1 ≠ row.1 → ExpiredAt db other → ExpiredAt after other
  checked : db.checks = true → after.checks = true

section Turns
variable {row : DueRow} {rows : RunRows} {action : ActionRows} {job : RunJob} {outcome : Swept}

/-- The request is no longer among the due requests of its run. -/
theorem dueRequests_expire {runId k : UUID} {request : ApprovalRequest}
    (found : rows.actions.get k = some action) :
    dueRequests now (runId, rows.expire k action request job) =
      (dueRequests now (runId, rows)).filter fun other => other.1 ≠ (runId, k) := by
  have actions : (rows.expire k action request job).actions =
      rows.actions.put k { action with request := some request.expire } := rfl
  unfold dueRequests
  simp only [actions, Table.scan_put found, List.filterMap_map, List.filter_filterMap]
  refine List.filterMap_congr fun entry _ => ?_
  by_cases same : entry.1 = k
  · have closed : ((some request.expire).filter fun request => requestDue request now) = none := rfl
    simp only [Function.comp_apply, if_pos same, closed, Option.map_none]
    cases entry.2.request.filter fun request => requestDue request now with
    | none => rfl
    | some request => simp [Option.filter, same]
  · simp only [Function.comp_apply, if_neg same]
    cases entry.2.request.filter fun request => requestDue request now with
    | none => rfl
    | some request => simp [Option.filter, same]

theorem dueRows_expire (stored : db.runs.get row.1.1 = some rows)
    (found : rows.actions.get row.1.2 = some action) (request : ApprovalRequest) :
    dueRows now (db.putRun row.1.1 (rows.expire row.1.2 action request job)) =
      (dueRows now db).filter fun other => other.1 ≠ row.1 := by
  have whole : (db.putRun row.1.1 (rows.expire row.1.2 action request job)).runs =
    db.runs.put row.1.1 (rows.expire row.1.2 action request job) := rfl
  rw [dueRows, dueRows, whole, Table.scan_put stored, List.flatMap_map, List.filter_flatMap]
  refine List.flatMap_congr fun entry member => ?_
  by_cases same : entry.1 = row.1.1
  · have here : entry = (row.1.1, rows) := by
      obtain ⟨runId, there⟩ := entry
      obtain rfl : runId = row.1.1 := same
      rw [Table.mem_scan, stored] at member
      cases member
      rfl
    rw [if_pos same, here, dueRequests_expire found]
  · rw [if_neg same]
    refine (List.filter_eq_self.mpr fun other listed => ?_).symm
    have runs := (dueRequests_keys now entry).subset (List.mem_map_of_mem listed)
    obtain ⟨k, -, whole⟩ := List.mem_map.mp runs
    simp only [ne_eq, decide_not, Bool.not_eq_true', decide_eq_false_iff_not]
    intro equal
    rw [equal] at whole
    exact same (congrArg Prod.fst whole)

theorem waits_put (stored : db.runs.get row.1.1 = some rows) {later : RunRows}
    (status : later.run.status = rows.run.status) : waits (db.putRun row.1.1 later) = waits db := by
  funext other
  unfold waits Db.putRun
  by_cases same : other.1.1 = row.1.1
  · rw [same, Table.put_get_self, stored, Option.any_some, Option.any_some, status]
  · rw [Table.put_get_of_ne _ _ same]

/-- An open request passes the checks of its table when it is expired. -/
theorem ApprovalRequest.checks_expire {request : ApprovalRequest}
    (opened : request.status.open? = true) (checked : request.checks = true) :
    request.expire.checks = true := by
  have unconsumed : (request.status == .consumed) = false := by
    cases status : request.status <;> rw [status] at opened <;> first | rfl | cases opened
  simp only [ApprovalRequest.checks, unconsumed, Bool.and_eq_true, decide_eq_true_eq] at checked
  obtain ⟨⟨positive, unset⟩, ordered⟩ := checked
  simp only [ApprovalRequest.checks, ApprovalRequest.expire, Bool.and_eq_true]
  exact ⟨⟨decide_eq_true (by omega), unset⟩, ordered⟩

theorem RunRows.checks_expire {k : UUID} {request : ApprovalRequest}
    (found : rows.actions.get k = some action) (requested : action.request = some request)
    (opened : request.status.open? = true) (woken : job.checks = true)
    (checked : rows.checks = true) : (rows.expire k action request job).checks = true := by
  simp only [RunRows.checks, Bool.and_eq_true, Table.all_iff] at checked ⊢
  obtain ⟨⟨⟨run, -⟩, actions⟩, events⟩ := checked
  refine ⟨⟨⟨run, woken⟩, ?_⟩, ?_⟩
  · refine Table.forall_put actions ?_
    have here := actions k action found
    simp only [ActionRows.checks, requested, Option.all_some, Bool.and_eq_true] at here ⊢
    obtain ⟨⟨⟨bounds, request⟩, decisions⟩, invocation⟩ := here
    exact ⟨⟨⟨bounds, ApprovalRequest.checks_expire opened request⟩, decisions⟩, invocation⟩
  · simp only [RunRows.expire, RunRows.pushEvent, List.all_append, List.all_cons, List.all_nil,
      Bool.and_true, Bool.and_eq_true, decide_eq_true_eq]
    exact ⟨events, rows.run.nextEventSeq_pos⟩

theorem expiryTurn (stored : db.runs.get row.1.1 = some rows)
    (found : rows.actions.get row.1.2 = some action) (requested : action.request = some row.2)
    (due : requestDue row.2 now = true)
    (woken : wakeExpiredJob rows.job row.2.id now = .ok (job, outcome)) :
    ExpiryTurn now row db (db.putRun row.1.1 (rows.expire row.1.2 action row.2 job)) where
  waits_ := waits_put stored rfl
  due := dueRows_expire stored found row.2
  bound other same := by
    unfold accepts Db.putRun
    rw [same, Table.put_get_self]
    exact wakeExpiredJob_bound woken other.2.id
  others other different := by
    unfold accepts Db.putRun
    rw [Table.put_get_of_ne _ _ different]
  expired := ⟨_, _, Table.put_get_self _ _ _, Table.put_get_self _ _ _, rfl⟩
  kept other different expired := by
    obtain ⟨there, asked, held, listed, left⟩ := expired
    by_cases same : other.1.1 = row.1.1
    · have apart : other.1.2 ≠ row.1.2 := fun equal => different (Prod.ext same equal)
      rw [same, stored] at held
      cases held
      exact ⟨_, asked, by rw [same]; exact Table.put_get_self _ _ _,
        (Table.put_get_of_ne _ _ apart).trans listed, left⟩
    · exact ⟨there, asked, (Table.put_get_of_ne _ _ same).trans held, listed, left⟩
  checked checked := by
    simp only [requestDue, Bool.and_eq_true] at due
    rw [Db.checks, Table.all_iff] at checked ⊢
    have here := checked _ _ stored
    have job : rows.job.checks = true := by
      simp only [RunRows.checks, Bool.and_eq_true] at here
      exact here.1.1.2
    exact Table.forall_put checked (RunRows.checks_expire found requested due.1
      (wakeExpiredJob_checks woken job) here)

end Turns

/-! ## Conflicts -/

section Conflicts
variable {row : DueRow} {rest : List DueRow}

theorem Unconflicted.nil : Unconflicted db [] :=
  ⟨fun _ member => (List.not_mem_nil member).elim, fun _ member => (List.not_mem_nil member).elim⟩

theorem Unconflicted.subset {rows others : List DueRow} (holds : Unconflicted db rows)
    (inside : ∀ row ∈ others, waits db row = true → row ∈ rows) : Unconflicted db others :=
  ⟨fun row member waiting => holds.accepted row (inside row member waiting) waiting,
    fun row member other member' waiting waiting' => holds.agreed row (inside row member waiting)
      other (inside other member' waiting') waiting waiting'⟩

theorem accepts_congr {other : DueRow} (run : row.1.1 = other.1.1) (id : row.2.id = other.2.id) :
    accepts db row = accepts db other := by
  unfold accepts
  rw [run, id]

/-- What a turn at an accepted request leaves of the conflicts. -/
theorem unconflicted_turn (turn : ExpiryTurn now row db after) (waiting : waits db row = true)
    (free : accepts db row = true) :
    Unconflicted db (row :: rest) ↔ Unconflicted after rest := by
  constructor
  · intro holds
    constructor
    · intro other member waiting'
      rw [turn.waits_] at waiting'
      by_cases same : other.1.1 = row.1.1
      · exact (turn.bound other same).mpr (holds.agreed row List.mem_cons_self other
          (List.mem_cons_of_mem _ member) waiting waiting' same.symm)
      · rw [turn.others other same]
        exact holds.accepted other (List.mem_cons_of_mem _ member) waiting'
    · intro first member second member' waits₁ waits₂
      rw [turn.waits_] at waits₁ waits₂
      exact holds.agreed first (List.mem_cons_of_mem _ member) second
        (List.mem_cons_of_mem _ member') waits₁ waits₂
  · intro holds
    have bound : ∀ other ∈ rest, waits db other = true → other.1.1 = row.1.1 →
        row.2.id = other.2.id := fun other member waits' same =>
      (turn.bound other same).mp (holds.accepted other member (by rwa [turn.waits_]))
    constructor
    · intro other member waiting'
      rcases List.mem_cons.mp member with rfl | member
      · exact free
      · by_cases same : other.1.1 = row.1.1
        · rw [← accepts_congr same.symm (bound other member waiting' same)]
          exact free
        · rw [← turn.others other same]
          exact holds.accepted other member (by rwa [turn.waits_])
    · intro first member second member' waits₁ waits₂ same
      rcases List.mem_cons.mp member with rfl | inRest
      · rcases List.mem_cons.mp member' with rfl | inRest'
        · rfl
        · exact bound second inRest' waits₂ same.symm
      · rcases List.mem_cons.mp member' with rfl | inRest'
        · exact (bound first inRest waits₁ same).symm
        · exact holds.agreed first inRest second inRest' (by rwa [turn.waits_])
            (by rwa [turn.waits_]) same

end Conflicts

/-! ## Sweeps -/

/-- A sweep over some requests, turn by turn. -/
inductive SweepRun (now : Timestamp) : List DueRow → Db → Db → Prop
  | done {db : Db} : SweepRun now [] db db
  | skip {row : DueRow} {rest : List DueRow} {db after : Db} (idle : waits db row = false)
      (swept : SweepRun now rest db after) : SweepRun now (row :: rest) db after
  | expire {row : DueRow} {rest : List DueRow} {db middle after : Db}
      (member : row ∈ dueRows now db) (waiting : waits db row = true)
      (free : accepts db row = true) (turn : ExpiryTurn now row db middle)
      (swept : SweepRun now rest middle after) : SweepRun now (row :: rest) db after

section Sweeps
variable {row : DueRow} {due rest others : List DueRow}

/-- The first turn of a sweep. -/
theorem sweepEach_turn (member : row ∈ dueRows now db) (keys : List (UUID × UUID)) :
    (waits db row = false ∧ sweepEach now (row.1 :: keys) db =
      (sweepEach now keys db).map fun done => (done.1, .skipped :: done.2)) ∨
    (waits db row = true ∧ accepts db row = false ∧
      ∃ reason, sweepEach now (row.1 :: keys) db = .error reason) ∨
    (waits db row = true ∧ accepts db row = true ∧ ∃ middle outcome, ExpiryTurn now row db middle ∧
      sweepEach now (row.1 :: keys) db =
        (sweepEach now keys middle).map fun done => (done.1, outcome :: done.2)) := by
  obtain ⟨rows, action, stored, found, requested, due⟩ := mem_dueRows.mp member
  have waiting : waits db row = (rows.run.status == .waitingApproval) := by
    rw [waits, stored, Option.any_some]
  have accepting : accepts db row = acceptsExpiry rows.job row.2.id := by
    rw [accepts, stored, Option.any_some]
  by_cases status : rows.run.status = .waitingApproval
  · refine .inr ?_
    have turned : sweepRows row.1.2 now rows = _ := sweepRows_waiting found requested status
    rw [waiting, accepting, status]
    cases woken : wakeExpiredJob rows.job row.2.id now with
    | error reason =>
      refine .inl ⟨rfl, ?_, reason, ?_⟩
      · refine Bool.eq_false_of_not_eq_true fun accepted => ?_
        obtain ⟨done, ran⟩ : ∃ done, wakeExpiredJob rows.job row.2.id now = .ok done :=
          wakeExpiredJob_accepts.mpr accepted
        rw [woken] at ran
        cases ran
      · obtain ⟨⟨runId, k⟩, request⟩ := row
        simp only [sweepEach, stored, turned, woken, Except.map]
    | ok done =>
      obtain ⟨job, outcome⟩ := done
      refine .inr ⟨rfl, wakeExpiredJob_accepts.mp ⟨_, woken⟩, _, outcome,
        expiryTurn stored found requested due woken, ?_⟩
      obtain ⟨⟨runId, k⟩, request⟩ := row
      simp only [sweepEach, stored, turned, woken, Except.map]
  · refine .inl ⟨by rw [waiting]; simpa using status, ?_⟩
    obtain ⟨⟨runId, k⟩, request⟩ := row
    simp only [sweepEach, stored, sweepRows_idle status, Db.putRun, Table.put_self _ stored]

/-- The other requests of a batch are still due behind a turn. -/
theorem due_turn {middle : Db} (turn : ExpiryTurn now row db middle)
    (distinct : row.1 ∉ rest.map Prod.fst) (current : ∀ other ∈ rest, other ∈ dueRows now db) :
    ∀ other ∈ rest, other ∈ dueRows now middle := by
  intro other member
  rw [turn.due, List.mem_filter]
  refine ⟨current other member, decide_eq_true fun same => distinct ?_⟩
  rw [← same]
  exact List.mem_map_of_mem member

theorem sweepEach_run : ∀ {due : List DueRow} {db after : Db} {outcomes : List Swept},
    (due.map Prod.fst).Nodup → (∀ row ∈ due, row ∈ dueRows now db) →
      sweepEach now (due.map Prod.fst) db = .ok (after, outcomes) → SweepRun now due db after
  | [], db, after, outcomes, _, _, ran => by
    cases ran
    exact .done
  | row :: rest, db, after, outcomes, distinct, current, ran => by
    obtain ⟨outside, distinct⟩ := List.nodup_cons.mp distinct
    have member := current row List.mem_cons_self
    have current := fun other inRest => current other (List.mem_cons_of_mem row inRest)
    rw [List.map_cons] at ran
    rcases sweepEach_turn member (rest.map Prod.fst) with ⟨idle, turned⟩ |
      ⟨-, -, reason, turned⟩ | ⟨waiting, free, middle, outcome, turn, turned⟩
    · rw [turned] at ran
      obtain ⟨done, rested, written⟩ := map_ok ran
      cases written
      exact .skip idle (sweepEach_run distinct current rested)
    · rw [turned] at ran
      cases ran
    · rw [turned] at ran
      obtain ⟨done, rested, written⟩ := map_ok ran
      cases written
      exact .expire member waiting free turn
        (sweepEach_run distinct (due_turn turn outside current) rested)

theorem sweepEach_ok : ∀ {due : List DueRow} {db : Db}, (due.map Prod.fst).Nodup →
    (∀ row ∈ due, row ∈ dueRows now db) → Unconflicted db due →
      ∃ done, sweepEach now (due.map Prod.fst) db = .ok done
  | [], db, _, _, _ => ⟨_, rfl⟩
  | row :: rest, db, distinct, current, free => by
    obtain ⟨outside, distinct⟩ := List.nodup_cons.mp distinct
    have member := current row List.mem_cons_self
    have current := fun other inRest => current other (List.mem_cons_of_mem row inRest)
    rw [List.map_cons]
    rcases sweepEach_turn member (rest.map Prod.fst) with ⟨idle, turned⟩ |
      ⟨waiting, refused, -⟩ | ⟨waiting, accepted, middle, outcome, turn, turned⟩
    · have left := free.subset fun other inRest _ => List.mem_cons_of_mem row inRest
      obtain ⟨done, rested⟩ := sweepEach_ok distinct current left
      exact ⟨_, by rw [turned, rested]; rfl⟩
    · have accepted := free.accepted row List.mem_cons_self waiting
      rw [refused] at accepted
      cases accepted
    · obtain ⟨done, rested⟩ := sweepEach_ok distinct (due_turn turn outside current)
        ((unconflicted_turn turn waiting accepted).mp free)
      exact ⟨_, by rw [turned, rested]; rfl⟩

theorem SweepRun.waits_ (run : SweepRun now due db after) : waits after = waits db := by
  induction run with
  | done => rfl
  | skip _ _ ih => exact ih
  | expire _ _ _ turn _ ih => exact ih.trans turn.waits_

theorem SweepRun.checked (run : SweepRun now due db after) (checked : db.checks = true) :
    after.checks = true := by
  induction run with
  | done => exact checked
  | skip _ _ ih => exact ih checked
  | expire _ _ _ turn _ ih => exact ih (turn.checked checked)

/-- An expired request is not due. -/
theorem ExpiredAt.not_due {other : DueRow} (expired : ExpiredAt db other)
    (member : row ∈ dueRows now db) : other.1 ≠ row.1 := by
  intro same
  obtain ⟨rows, action, stored, found, requested, due⟩ := mem_dueRows.mp member
  obtain ⟨there, asked, held, listed, left⟩ := expired
  rw [same, stored] at held
  cases held
  rw [same, found] at listed
  cases listed
  have closed : requestDue other.2.expire now = false := rfl
  rw [← Option.some.inj (requested.symm.trans left), due] at closed
  cases closed

theorem SweepRun.kept (run : SweepRun now due db after) {other : DueRow}
    (expired : ExpiredAt db other) : ExpiredAt after other := by
  induction run with
  | done => exact expired
  | skip _ _ ih => exact ih expired
  | expire member _ _ turn _ ih => exact ih (turn.kept other (expired.not_due member) expired)

/-- A sweep expires the requests of waiting runs that it comes to. -/
theorem SweepRun.expired (run : SweepRun now due db after) :
    ∀ row ∈ due, waits db row = true → ExpiredAt after row := by
  induction run with
  | done => exact fun row member => (List.not_mem_nil member).elim
  | skip idle _ ih =>
    intro other member waiting
    rcases List.mem_cons.mp member with rfl | inRest
    · rw [idle] at waiting
      cases waiting
    · exact ih other inRest waiting
  | expire member _ _ turn swept ih =>
    intro other listed waiting
    rcases List.mem_cons.mp listed with rfl | inRest
    · exact swept.kept turn.expired
    · exact ih other inRest (by rwa [turn.waits_])

theorem mem_keys_cons {other : DueRow} (different : other.1 ≠ row.1) :
    decide (other.1 ∈ (row :: rest).map Prod.fst) = decide (other.1 ∈ rest.map Prod.fst) := by
  rw [decide_eq_decide, List.map_cons, List.mem_cons, or_iff_right different]

theorem waits_congr {other : DueRow} (same : row.1 = other.1) : waits db row = waits db other := by
  unfold waits
  rw [same]

/-- A sweep leaves due what it did not expire. -/
theorem SweepRun.left_due (run : SweepRun now due db after) :
    dueRows now after = (dueRows now db).filter fun row =>
      !(waits db row && decide (row.1 ∈ due.map Prod.fst)) := by
  induction run with
  | done => simp
  | @skip row _ _ _ idle _ ih =>
    rw [ih]
    refine List.filter_congr fun other _ => ?_
    by_cases same : other.1 = row.1
    · rw [waits_congr same, idle]
      rfl
    · rw [mem_keys_cons same]
  | @expire row _ _ _ _ _ waiting _ turn _ ih =>
    rw [ih, turn.due, turn.waits_, List.filter_filter]
    refine List.filter_congr fun other _ => ?_
    by_cases same : other.1 = row.1
    · rw [waits_congr same, waiting]
      simp [same]
    · rw [mem_keys_cons same, decide_eq_true same, Bool.and_true]

/-- What conflicts behind a sweep is what it did not settle. -/
theorem SweepRun.unconflicted (run : SweepRun now due db after) :
    Unconflicted db (due ++ others) ↔ Unconflicted after others := by
  induction run with
  | done => rfl
  | skip idle swept ih =>
    rw [← ih, List.cons_append]
    refine ⟨fun free => free.subset fun other inRest _ => List.mem_cons_of_mem _ inRest,
      fun free => free.subset fun other listed waiting => ?_⟩
    rcases List.mem_cons.mp listed with rfl | inRest
    · rw [idle] at waiting
      cases waiting
    · exact inRest
  | expire _ waiting free turn _ ih =>
    rw [← ih, List.cons_append]
    exact unconflicted_turn turn waiting free

end Sweeps

end Pathfinder
