import Pathfinder.Lifecycle.Invariants

/-!
# What one commit does to a run

A request other than the sweep has at most one effect on a run. A sweep may come
to a run once for each of its due requests; all it does there is to expire
requests that are open and to wake a dormant job.
-/
namespace Pathfinder
open KeyedTable Machines

/-- The request is the expiry sweep. -/
def Op.sweeps : Op → Bool
  | .sweep .. => true
  | _ => false

/-- The rows of an action at most had their open request expired. -/
def LeftExpired (action after : ActionRows) : Prop :=
  after = action ∨
  ∃ request, action.request = some request ∧ request.status.open? = true ∧
    after = { action with request := some { request with
      status := .expired, version := request.version + 1 } }

theorem LeftExpired.trans {action middle after : ActionRows} (first : LeftExpired action middle)
    (second : LeftExpired middle after) : LeftExpired action after := by
  rcases first with rfl | ⟨request, requested, due, rfl⟩
  · exact second
  · rcases second with rfl | ⟨closed, same, still, -⟩
    · exact .inr ⟨request, requested, due, rfl⟩
    · cases same
      cases still

/-- What the turns of a sweep do to a run. -/
structure Steady (rows after : RunRows) : Prop where
  status : after.run.status = rows.run.status
  job : after.job.status = rows.job.status ∨
    (rows.job.status = .done ∧ after.job.status = .queued)
  actions : ∀ k action, rows.actions.get k = some action →
    ∃ later, after.actions.get k = some later ∧ LeftExpired action later
  absent : ∀ k, rows.actions.get k = none → after.actions.get k = none

theorem Steady.refl (rows : RunRows) : Steady rows rows :=
  ⟨rfl, .inl rfl, fun _ action found => ⟨action, found, .inl rfl⟩, fun _ absent => absent⟩

theorem Steady.trans {rows middle after : RunRows} (first : Steady rows middle)
    (second : Steady middle after) : Steady rows after := by
  refine ⟨second.status.trans first.status, ?_, fun k action found => ?_,
    fun k absent => second.absent k (first.absent k absent)⟩
  · rcases first.job with same | ⟨dormant, queued⟩
    · rw [← same]
      exact second.job
    · rcases second.job with same | ⟨done, -⟩
      · exact .inr ⟨dormant, same.trans queued⟩
      · rw [queued] at done
        cases done
  · obtain ⟨middle, stored, expired⟩ := first.actions k action found
    obtain ⟨later, kept, expired'⟩ := second.actions k middle stored
    exact ⟨later, kept, expired.trans expired'⟩

/-- Waking for an expiry sends a dormant job back to the queue. -/
theorem wakeExpiredJob_status {job woken : RunJob} {requestId : UUID} {now : Timestamp}
    {outcome : Swept} (ran : wakeExpiredJob job requestId now = .ok (woken, outcome)) :
    woken.status = job.status ∨ (job.status = .done ∧ woken.status = .queued) := by
  unfold wakeExpiredJob at ran
  split at ran
  next dormant =>
    cases ran
    exact .inr ⟨dormant, rfl⟩
  · split at ran
    · cases ran
    cases ran
    exact .inl rfl
  · split at ran
    · cases ran
    cases ran
    exact .inl rfl
  · cases ran

theorem sweepRows_steady {rows after : RunRows} {k : UUID} {now : Timestamp} {outcome : Swept}
    (opened : ∀ action request, rows.actions.get k = some action →
      action.request = some request → request.status.open? = true)
    (ran : sweepRows k now rows = .ok (after, outcome)) : Steady rows after := by
  have others {j : UUID} (different : j ≠ k) := sweepRows_others different ran
  unfold sweepRows at ran
  split at ran
  · cases ran
    exact .refl rows
  next action request bound =>
    obtain ⟨found, requested⟩ := bound_request bound
    split at ran
    · cases ran
      exact .refl rows
    · split at ran
      · cases ran
      next job outcome woken =>
        cases ran
        refine ⟨rfl, wakeExpiredJob_status woken, fun j other there => ?_, fun j absent => ?_⟩
        · by_cases same : j = k
          · subst same
            cases found.symm.trans there
            exact ⟨_, Table.put_get_self _ _ _,
              .inr ⟨request, requested, opened _ _ found requested, rfl⟩⟩
          · exact ⟨other, (others same).trans there, .inl rfl⟩
        · have different : j ≠ k := by
            rintro rfl
            rw [absent] at found
            cases found
          exact (others different).trans absent

/-- A run that is stored when the sweep begins is stored, and steady, after any turn. -/
theorem turns_steady {now : Timestamp} {before after : Table UUID RunRows} {k : UUID}
    {rows : RunRows} (turns : Relation.ReflTransGen (Turn now) before after)
    (stored : before.get k = some rows) :
    ∃ later, after.get k = some later ∧ Steady rows later := by
  induction turns with
  | refl => exact ⟨rows, stored, .refl rows⟩
  | tail _ turn ih =>
    obtain ⟨middle, there, steady⟩ := ih
    cases turn with
    | expire runId j found opened swept =>
      by_cases same : k = runId
      · subst same
        cases found.symm.trans there
        exact ⟨_, Table.put_get_self _ _ _, steady.trans (sweepRows_steady opened swept)⟩
      · exact ⟨middle, (Table.put_get_of_ne _ _ same).trans there, steady⟩

section Commits
variable {cfg : Config} {memberships : List WorkspaceMembership} {op : Op}

/-- A request other than the sweep writes a run once, if at all. -/
theorem writes_once {start after : Table UUID RunRows} {k : UUID} {rows : RunRows}
    (writes : Relation.ReflTransGen (Write cfg memberships op start) start after)
    (unswept : op.sweeps = false) (stored : start.get k = some rows) :
    ∃ later, after.get k = some later ∧ (later = rows ∨ Effect cfg memberships op rows later) := by
  induction writes with
  | refl => exact ⟨rows, stored, .inl rfl⟩
  | tail _ write ih =>
    obtain ⟨middle, kept, moved⟩ := ih
    cases write with
    | update j found origin effect =>
      by_cases same : k = j
      · subst same
        rcases origin with ⟨first, -⟩ | ⟨locked, now, limit, rfl⟩
        · cases stored.symm.trans first
          exact ⟨_, Table.put_get_self _ _ _, .inr effect⟩
        · cases unswept
      · exact ⟨middle, (Table.put_get_of_ne _ _ same).trans kept, moved⟩
    | create create facts asked executable absent =>
      have different : k ≠ facts.runId := by
        rintro rfl
        rw [absent] at kept
        cases kept
      exact ⟨middle, (Table.put_get_of_ne _ _ different).trans kept, moved⟩

variable (cfg memberships op) in
/-- What the commit of a request does to a run. -/
inductive Committed (rows : RunRows) : RunRows → Prop
  | same : Committed rows rows
  | effect {after : RunRows} (unswept : op.sweeps = false)
      (effect : Effect cfg memberships op rows after) : Committed rows after
  | swept {after : RunRows} (asked : op.sweeps = true) (steady : Steady rows after) :
      Committed rows after

/-- A stored run is stored after every request, one commit on. -/
theorem reached_commit {ops : List Op} {k : UUID} {rows : RunRows}
    (stored : ((stores cfg).reached ops).db.runs.get k = some rows) (op : Op) :
    ∃ later, ((stores cfg).reached (ops ++ [op])).db.runs.get k = some later ∧
      Committed cfg ((stores cfg).reached ops).db.memberships op rows later := by
  rw [Machine.reached_snoc]
  cases swept : op.sweeps with
  | false =>
    obtain ⟨later, kept, moved⟩ :=
      writes_once (serve_writes (reached_sound ops) op) swept stored
    rcases moved with rfl | effect
    · exact ⟨later, kept, .same⟩
    · exact ⟨later, kept, .effect swept effect⟩
  | true =>
    rcases serve_db cfg ((stores cfg).reached ops) op with same | ⟨reply, ran, -⟩
    · exact ⟨rows, (congrArg (fun db => db.runs.get k) same).trans stored, .same⟩
    · cases op with
      | sweep locked now limit =>
        obtain ⟨result, ran, -⟩ := answers_ok ran
        obtain ⟨later, kept, steady⟩ :=
          turns_steady (sweepDueApprovalRequests_turns ran) stored
        exact ⟨later, kept, .swept swept steady⟩
      | _ => cases swept

/-- A run that a request stores for the first time is as `create_run` leaves it. -/
theorem writes_new {start after : Table UUID RunRows} {k : UUID} {rows : RunRows}
    (writes : Relation.ReflTransGen (Write cfg memberships op start) start after)
    (absent : start.get k = none) (stored : after.get k = some rows) :
    ∃ create facts, rows = createdRows create facts := by
  suffices all : ∀ rows, after.get k = some rows →
      ∃ create facts, op = .createRun create facts ∧ rows = createdRows create facts by
    obtain ⟨create, facts, -, created⟩ := all rows stored
    exact ⟨create, facts, created⟩
  clear stored
  induction writes with
  | refl =>
    intro rows stored
    rw [absent] at stored
    cases stored
  | tail _ write ih =>
    intro rows stored
    cases write with
    | update j found origin effect =>
      by_cases same : k = j
      · subst same
        obtain ⟨create, facts, asked, -⟩ := ih _ found
        rcases origin with ⟨first, -⟩ | ⟨locked, now, limit, swept⟩
        · rw [absent] at first
          cases first
        · rw [asked] at swept
          cases swept
      · exact ih rows ((Table.put_get_of_ne _ _ same).symm.trans stored)
    | create create facts asked executable missing =>
      by_cases same : k = facts.runId
      · subst same
        rw [Table.put_get_self, Option.some.injEq] at stored
        exact ⟨create, facts, asked, stored.symm⟩
      · exact ih rows ((Table.put_get_of_ne _ _ same).symm.trans stored)

/-! ## The rows of one action -/

/-- The rows of an action of a run, in a state of the stores. -/
def World.action (world : World) (runId k : UUID) : Option ActionRows :=
  (world.db.runs.get runId).bind fun rows => rows.actions.get k

variable (cfg memberships op) in
/-- What one commit does to the rows of an action. -/
inductive ActionStep : Option ActionRows → Option ActionRows → Prop
  | same (action : Option ActionRows) : ActionStep action action
  | moved {action after : ActionRows} (rows : RunRows) (unswept : op.sweeps = false)
      (moves : ActionMove cfg memberships op rows action after) :
      ActionStep (some action) (some after)
  | expired {action after : ActionRows} (asked : op.sweeps = true)
      (left : LeftExpired action after) : ActionStep (some action) (some after)
  | proposed (command : PrepareActionCommand) (requestId : UUID) (createdAt : Timestamp)
      (asked : op.proposes command requestId createdAt) :
      ActionStep none (some (proposedRows (deriveFacts cfg.digests command) requestId createdAt))

theorem committed_action {rows later : RunRows} (committed : Committed cfg memberships op rows later)
    (k : UUID) : ActionStep cfg memberships op (rows.actions.get k) (later.actions.get k) := by
  cases committed with
  | same => exact .same _
  | effect unswept effect =>
    cases effect.deeds k with
    | keep same =>
      rw [same]
      exact .same _
    | move found moves stored =>
      rw [found, stored]
      exact .moved rows unswept moves
    | propose command requestId createdAt asked named absent running sameRun unused next stored =>
      rw [absent, stored]
      exact .proposed command requestId createdAt asked
  | swept asked steady =>
    cases found : rows.actions.get k with
    | none =>
      rw [steady.absent k found]
      exact .same none
    | some action =>
      obtain ⟨after, stored, left⟩ := steady.actions k action found
      rw [stored]
      exact .expired asked left

variable (cfg) in
/-- How the rows of an action go from one reachable state to the next. -/
theorem reached_action (ops : List Op) (op : Op) (runId k : UUID) :
    ActionStep cfg ((stores cfg).reached ops).db.memberships op
      (((stores cfg).reached ops).action runId k)
      (((stores cfg).reached (ops ++ [op])).action runId k) := by
  cases stored : ((stores cfg).reached ops).db.runs.get runId with
  | some rows =>
    obtain ⟨later, kept, committed⟩ := reached_commit stored op
    simp only [World.action, stored, kept, Option.bind_some]
    exact committed_action committed k
  | none =>
    cases kept : ((stores cfg).reached (ops ++ [op])).db.runs.get runId with
    | none =>
      simp only [World.action, stored, kept, Option.bind_none]
      exact .same none
    | some later =>
      have there := kept
      rw [Machine.reached_snoc] at there
      obtain ⟨create, facts, rfl⟩ := writes_new (serve_writes (reached_sound ops) op) stored there
      simp only [World.action, stored, kept, Option.bind_none, Option.bind_some]
      exact .same none

/-! ## An action belongs to one run -/

theorem onTenantRun_ok {α : Type} {tenant : TenantContext} {runId : UUID}
    {f : Db → RunRows → Except StoreError (RunRows × α)} {db after : Db} {result : α}
    (ran : onTenantRun tenant runId f db = .ok (after, result)) :
    ∃ rows later, db.runs.get runId = some rows ∧ f db rows = .ok (later, result) ∧
      after = db.putRun runId later := by
  have ran := (transaction_ok ran).1
  split at ran
  · cases ran
  rcases onRun_ok ran with ⟨-, refused, -⟩ | ⟨rows, later, found, worked, written⟩
  · cases refused
  · exact ⟨rows, later, (findRun_some found).1, worked, written⟩

/-- A proposal inserts an action under a key that no run has. -/
theorem withProposal_fresh {db : Db} {middle : RunRows} {facts : ProposalFacts}
    {requestId : UUID} {createdAt : Timestamp} {p : ActionRows → Bool} {k : UUID}
    (keyed : ∀ r rows, db.runs.get r = some rows → Keyed rows)
    (unconflicting : db.allActions.any (fun action =>
      action.intent.id == facts.actionIntentId || p action) = false)
    (absent : middle.actions.get k = none)
    (there : ((middle.withProposal facts requestId createdAt).actions.get k).isSome) :
    ∀ r rows, db.runs.get r = some rows → rows.actions.get k = none := by
  have same : k = facts.actionIntentId := by
    by_contra different
    have still : (middle.withProposal facts requestId createdAt).actions.get k =
        middle.actions.get k := Table.put_get_of_ne _ _ different
    rw [still, absent] at there
    cases there
  subst same
  intro r rows stored
  by_contra present
  obtain ⟨action, found⟩ := Option.ne_none_iff_exists'.mp present
  have refused := unconflicting_stored stored unconflicting found
  simp [keyed r rows stored _ action found] at refused

/-- A request proposes at most one action. -/
theorem proposes_unique {first second : PrepareActionCommand} {requestId otherId : UUID}
    {createdAt otherAt : Timestamp} (asked : op.proposes first requestId createdAt)
    (also : op.proposes second otherId otherAt) : first = second := by
  rcases asked with rfl | ⟨superseding, rfl, rfl⟩ <;>
    rcases also with also | ⟨other, also, rfl⟩ <;> cases also <;> rfl

/-- An action that a request stores for the first time is stored nowhere else. -/
theorem serve_fresh {world : World} (sound : AllRuns (Sound cfg) world)
    {command : PrepareActionCommand} {requestId : UUID} {createdAt : Timestamp}
    (asked : op.proposes command requestId createdAt) {runId k : UUID}
    (absent : world.action runId k = none)
    (there : ((serve cfg world op).1.action runId k).isSome) :
    runId = command.runId ∧
      ∀ r rows, world.db.runs.get r = some rows → rows.actions.get k = none := by
  have keyed (r : UUID) (rows : RunRows) (stored : world.db.runs.get r = some rows) :
      Keyed rows := (sound r rows stored).keyed
  -- the run whose rows the request writes is the one that has a new action
  have written {target : UUID} {rows later : RunRows}
      (stored : world.db.runs.get target = some rows)
      (put : (serve cfg world op).1.db = world.db.putRun target later) :
      runId = target ∧ rows.actions.get k = none ∧ (later.actions.get k).isSome := by
    rw [World.action, put] at there
    by_cases same : runId = target
    · subst same
      simp only [World.action, stored, Option.bind_some] at absent
      refine ⟨rfl, absent, ?_⟩
      simpa [Db.putRun] using there
    · have unchanged : (world.db.putRun target later).runs.get runId =
          world.db.runs.get runId := Table.put_get_of_ne _ _ same
      rw [unchanged] at there
      rw [World.action] at absent
      rw [absent] at there
      cases there
  rcases serve_db cfg world op with same | ⟨reply, ran, -⟩
  · rw [World.action, same, ← World.action, absent] at there
    cases there
  rcases asked with rfl | ⟨superseding, rfl, rfl⟩
  · obtain ⟨result, ran, -⟩ := answers_ok ran
    unfold prepareAction at ran
    split at ran
    · cases ran
    obtain ⟨rows, later, stored, worked, put⟩ := onTenantRun_ok ran
    obtain ⟨same, before, after⟩ := written stored put
    refine ⟨same, ?_⟩
    unfold prepareActionRows at worked
    split at worked
    · cases worked
    rcases insertProposal_ok worked with rfl | ⟨-, unconflicting, -, rfl⟩
    · rw [before] at after
      cases after
    · exact withProposal_fresh keyed unconflicting before after
  · obtain ⟨result, ran, -⟩ := answers_ok ran
    unfold supersedeAction at ran
    split at ran
    · cases ran
    obtain ⟨rows, later, stored, worked, put⟩ := onTenantRun_ok ran
    obtain ⟨same, before, after⟩ := written stored put
    refine ⟨same, ?_⟩
    rcases supersedeActionRows_ok cfg world.db.memberships
      (.supersedeAction superseding requestId createdAt) worked with
      ⟨rfl, -⟩ | ⟨action, retired, middle, types, found, -, -, -, -, -, -, moved, -, -, -, -, -,
        outcome⟩
    · rw [before] at after
      cases after
    · have still : middle.actions.get k = none := by
        have different : k ≠ superseding.oldActionIntentId := by
          rintro rfl
          rw [before] at found
          cases found
        rw [moved, Table.put_get_of_ne _ _ different, before]
      rcases outcome with rfl | ⟨unconflicting, -, rfl⟩
      · rw [still] at after
        cases after
      · exact withProposal_fresh keyed unconflicting still after

/-- The key of an action names its run. -/
theorem reached_action_run (ops : List Op) {first second k : UUID}
    (inFirst : (((stores cfg).reached ops).action first k).isSome)
    (inSecond : (((stores cfg).reached ops).action second k).isSome) : first = second := by
  induction ops using List.reverseRecOn generalizing first second with
  | nil => cases inFirst
  | append_singleton ops op ih =>
    -- an action that is new in a run is the one the request proposes there
    have proposes {runId : UUID} (absent : ((stores cfg).reached ops).action runId k = none)
        (there : (((stores cfg).reached (ops ++ [op])).action runId k).isSome) :
        ∃ command requestId createdAt, op.proposes command requestId createdAt ∧
          runId = command.runId ∧
          ∀ other, ((stores cfg).reached ops).action other k = none := by
      have step := reached_action cfg ops op runId k
      obtain ⟨action, stored⟩ := Option.isSome_iff_exists.mp there
      rw [absent, stored] at step
      cases step with
      | proposed command requestId createdAt asked =>
        rw [Machine.reached_snoc] at there
        obtain ⟨here, nowhere⟩ := serve_fresh (reached_sound ops) asked absent there
        refine ⟨command, requestId, createdAt, asked, here, fun other => ?_⟩
        unfold World.action
        cases found : ((stores cfg).reached ops).db.runs.get other with
        | none => rfl
        | some rows => exact nowhere other rows found
    cases before : ((stores cfg).reached ops).action first k with
    | none =>
      obtain ⟨command, requestId, createdAt, asked, here, nowhere⟩ := proposes before inFirst
      obtain ⟨other, otherId, otherAt, also, there, -⟩ := proposes (nowhere second) inSecond
      rw [here, there, proposes_unique asked also]
    | some action =>
      cases earlier : ((stores cfg).reached ops).action second k with
      | some other => exact ih (by rw [before]; rfl) (by rw [earlier]; rfl)
      | none =>
        obtain ⟨command, requestId, createdAt, asked, here, nowhere⟩ := proposes earlier inSecond
        rw [nowhere first] at before
        cases before

end Commits
end Pathfinder
