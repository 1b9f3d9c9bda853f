import Pathfinder.Lifecycle.Commits

/-!
# One live action a run

The actions of a run are the revisions of one action: numbered from one, and
cancelled but for the last. A supersession retires the last revision for good.
-/
namespace Pathfinder
open KeyedTable Machines

/-! ## Cancelled intents -/

section Cancelled
variable {cfg : Config} {memberships : List WorkspaceMembership} {op : Op} {rows : RunRows}

/-- A cancelled intent stays cancelled. -/
theorem cancelled_move {action after : ActionRows}
    (moved : ActionMove cfg memberships op rows action after)
    (cancelled : action.intent.status = .cancelled) : after.intent.status = .cancelled := by
  cases moved with
  | decide | expire => exact cancelled
  | withdraw requested closes facts recovery unbegun ended => exact ended
  | consume now invocationId requested approved inTime proposed =>
    rw [cancelled] at proposed
    cases proposed
  | send identity now asked named requested consumed invoked authorized =>
    rw [cancelled] at authorized
    cases authorized
  | reconcile identity now asked named invoked executing => exact cancelled
  | resend => exact cancelled
  | succeed identity result latencyMs now asked named invoked executing =>
    rw [cancelled] at executing
    cases executing
  | settle invoked executing =>
    rw [cancelled] at executing
    cases executing

theorem cancelled_step {action : ActionRows} {after : Option ActionRows}
    (step : ActionStep cfg memberships op (some action) after)
    (cancelled : action.intent.status = .cancelled) :
    ∃ later, after = some later ∧ later.intent.status = .cancelled := by
  cases step with
  | same => exact ⟨action, rfl, cancelled⟩
  | moved rows unswept moves => exact ⟨_, rfl, cancelled_move moves cancelled⟩
  | expired asked left =>
    rcases left with rfl | ⟨request, requested, due, rfl⟩
    · exact ⟨_, rfl, cancelled⟩
    · exact ⟨_, rfl, cancelled⟩

/-- A cancelled intent is cancelled in every later state. -/
theorem reached_cancelled {before : List Op} {runId k : UUID} {action : ActionRows}
    (stored : ((stores cfg).reached before).action runId k = some action)
    (cancelled : action.intent.status = .cancelled) (after : List Op) :
    ∃ later, ((stores cfg).reached (before ++ after)).action runId k = some later ∧
      later.intent.status = .cancelled := by
  induction after using List.reverseRecOn with
  | nil => exact ⟨action, by rw [List.append_nil, stored], cancelled⟩
  | append_singleton after op ih =>
    obtain ⟨later, there, still⟩ := ih
    have step := reached_action cfg (before ++ after) op runId k
    rw [there] at step
    rw [← List.append_assoc]
    exact cancelled_step step still

end Cancelled

/-! ## The revisions of a run -/

/-- The revisions of the actions of a run are `1` to `n`, each taken once, and
all but the last are cancelled. -/
structure Revised (rows : RunRows) (n : Nat) : Prop where
  bounded : ∀ k action, rows.actions.get k = some action →
    1 ≤ action.intent.actionRevision ∧ action.intent.actionRevision ≤ n
  taken : ∀ r : Int, 1 ≤ r → r ≤ n →
    ∃ k action, rows.actions.get k = some action ∧ action.intent.actionRevision = r
  distinct : ∀ j k first second, rows.actions.get j = some first →
    rows.actions.get k = some second →
    first.intent.actionRevision = second.intent.actionRevision → j = k
  retired : ∀ k action, rows.actions.get k = some action →
    action.intent.actionRevision < n → action.intent.status = .cancelled

/-- Every action is a revision of the one action of its run, was announced once
and has its request. -/
structure Announced (rows : RunRows) : Prop where
  home : ∀ k action, rows.actions.get k = some action →
    action.intent.workspaceId = rows.run.workspaceId ∧ action.intent.runId = rows.run.id ∧
      action.intent.actionKey = actionKey
  once : ∀ k action, rows.actions.get k = some action → (rows.proposals k).length = 1
  requested : ∀ k action, rows.actions.get k = some action → action.request.isSome

section Revisions
variable {cfg : Config} {memberships : List WorkspaceMembership} {op : Op}
  {rows after : RunRows} {n : Nat}

theorem announced_effect (before : Announced rows) (effect : Effect cfg memberships op rows after) :
    Announced after := by
  have frame := effect.run_frame
  simp only [Run.identity, Prod.mk.injEq] at frame
  obtain ⟨id_eq, workspace_eq, -⟩ := frame
  have kept (k : UUID) (action later : ActionRows) (found : rows.actions.get k = some action)
      (facts : later.intent.facts = action.intent.facts) :
      later.intent.workspaceId = after.run.workspaceId ∧ later.intent.runId = after.run.id ∧
        later.intent.actionKey = actionKey := by
    rw [id_eq, workspace_eq]
    obtain ⟨workspace, run, key⟩ := before.home k action found
    exact ⟨(congrArg ActionIntent.workspaceId facts).trans workspace,
      (congrArg ActionIntent.runId facts).trans run,
      (congrArg ActionIntent.actionKey facts).trans key⟩
  refine ⟨fun k action stored => ?_, fun k action stored => ?_, fun k action stored => ?_⟩
  · cases effect.deeds k with
    | keep same => exact kept k action action (same.symm.trans stored) rfl
    | move found moves written =>
      cases written.symm.trans stored
      exact kept k _ _ found moves.facts.1
    | propose command requestId createdAt asked named absent running sameRun unused next written =>
      cases written.symm.trans stored
      rw [id_eq, workspace_eq]
      exact ⟨sameRun.2.1.symm, sameRun.1.symm, command.key_supported⟩
  · cases effect.deeds k with
    | keep same silent => rw [silent, before.once k action (same.symm.trans stored)]
    | move found moves written silent => rw [silent, before.once k _ found]
    | propose _ _ _ _ _ _ _ _ _ _ _ announced => exact announced
  · cases effect.deeds k with
    | keep same => exact before.requested k action (same.symm.trans stored)
    | move found moves written =>
      cases written.symm.trans stored
      have requested := before.requested k _ found
      have facts := moves.facts.2
      cases held : ActionRows.request _ with
      | none =>
        rw [held] at facts
        obtain ⟨request, asked⟩ := Option.isSome_iff_exists.mp requested
        rw [asked] at facts
        cases facts
      | some request => rfl
    | propose command requestId createdAt asked named absent running sameRun unused next written =>
      cases written.symm.trans stored
      rfl

/-- A revision that was there is there, and cancelled if it was. -/
theorem deeds_revision (deeds : Deeds cfg memberships op rows after) {k : UUID}
    {action : ActionRows} (found : rows.actions.get k = some action) :
    ∃ later, after.actions.get k = some later ∧
      later.intent.actionRevision = action.intent.actionRevision ∧
      (action.intent.status = .cancelled → later.intent.status = .cancelled) := by
  refine deeds_follow (P := fun later =>
    later.intent.actionRevision = action.intent.actionRevision ∧
      (action.intent.status = .cancelled → later.intent.status = .cancelled))
    deeds ?_ found ⟨rfl, id⟩
  intro earlier later moves held
  exact ⟨(congrArg ActionIntent.actionRevision moves.facts.1).trans held.1,
    fun cancelled => cancelled_move moves (held.2 cancelled)⟩

/-- An action that was there before the step carries its revision over. -/
theorem deeds_origin (deeds : Deeds cfg memberships op rows after) {k : UUID} {later : ActionRows}
    (stored : after.actions.get k = some later) :
    rows.actions.get k = none ∨ ∃ action, rows.actions.get k = some action ∧
      later.intent.actionRevision = action.intent.actionRevision ∧
      (action.intent.status = .cancelled → later.intent.status = .cancelled) := by
  cases found : rows.actions.get k with
  | none => exact .inl rfl
  | some action =>
    obtain ⟨kept, there, same, cancelled⟩ := deeds_revision deeds found
    cases stored.symm.trans there
    exact .inr ⟨action, rfl, same, cancelled⟩

/-- Without a proposal the revisions stay. -/
theorem revised_same (before : Revised rows n) (deeds : Deeds cfg memberships op rows after)
    (old : ∀ k, rows.actions.get k = none → after.actions.get k = none) : Revised after n := by
  have origin {k : UUID} {later : ActionRows} (stored : after.actions.get k = some later) :
      ∃ action, rows.actions.get k = some action ∧
        later.intent.actionRevision = action.intent.actionRevision ∧
        (action.intent.status = .cancelled → later.intent.status = .cancelled) := by
    refine (deeds_origin deeds stored).resolve_left fun absent => ?_
    rw [old k absent] at stored
    cases stored
  refine ⟨fun k later stored => ?_, fun r low high => ?_, fun j k first second here there same => ?_,
    fun k later stored below => ?_⟩
  · obtain ⟨action, found, same, -⟩ := origin stored
    rw [same]
    exact before.bounded k action found
  · obtain ⟨k, action, found, is⟩ := before.taken r low high
    obtain ⟨later, stored, same, -⟩ := deeds_revision deeds found
    exact ⟨k, later, stored, same.trans is⟩
  · obtain ⟨one, foundOne, sameOne, -⟩ := origin here
    obtain ⟨other, foundOther, sameOther, -⟩ := origin there
    exact before.distinct j k one other foundOne foundOther
      (sameOne.symm.trans (same.trans sameOther))
  · obtain ⟨action, found, same, cancelled⟩ := origin stored
    exact cancelled (before.retired k action found (same ▸ below))

/-- A proposal takes the next revision, when all the others are cancelled. -/
theorem revised_next (before : Revised rows n) (deeds : Deeds cfg memberships op rows after)
    {k : UUID} {proposed : ActionRows} (stored : after.actions.get k = some proposed)
    (follows : proposed.intent.actionRevision = n + 1)
    (only : ∀ j later, after.actions.get j = some later → rows.actions.get j = none → j = k)
    (rest : ∀ j action, rows.actions.get j = some action → ∃ kept,
      after.actions.get j = some kept ∧ kept.intent.status = .cancelled) :
    Revised after (n + 1) := by
  have origin {j : UUID} {later : ActionRows} (there : after.actions.get j = some later) :
      (j = k ∧ later = proposed) ∨ ∃ action, rows.actions.get j = some action ∧
        later.intent.actionRevision = action.intent.actionRevision := by
    rcases deeds_origin deeds there with absent | ⟨action, found, same, -⟩
    · have here := only j later there absent
      subst here
      cases stored.symm.trans there
      exact .inl ⟨rfl, rfl⟩
    · exact .inr ⟨action, found, same⟩
  refine ⟨fun j later there => ?_, fun r low high => ?_, fun i j first second here there same => ?_,
    fun j later there below => ?_⟩
  · rcases origin there with ⟨-, rfl⟩ | ⟨action, found, same⟩
    · rw [follows]
      omega
    · have bounds := before.bounded j action found
      omega
  · by_cases last : r = n + 1
    · exact ⟨k, proposed, stored, follows.trans last.symm⟩
    · obtain ⟨j, action, found, is⟩ := before.taken r low (by push_cast at high; omega)
      obtain ⟨later, there, same, -⟩ := deeds_revision deeds found
      exact ⟨j, later, there, same.trans is⟩
  · rcases origin here with ⟨rfl, rfl⟩ | ⟨one, foundOne, sameOne⟩
    · rcases origin there with ⟨rfl, -⟩ | ⟨other, foundOther, sameOther⟩
      · rfl
      · have bounds := before.bounded j other foundOther
        omega
    · rcases origin there with ⟨rfl, rfl⟩ | ⟨other, foundOther, sameOther⟩
      · have bounds := before.bounded i one foundOne
        omega
      · exact before.distinct i j one other foundOne foundOther
          (sameOne.symm.trans (same.trans sameOther))
  · rcases origin there with ⟨-, rfl⟩ | ⟨action, found, -⟩
    · push_cast at below
      omega
    · obtain ⟨kept, here, cancelled⟩ := rest j action found
      cases there.symm.trans here
      exact cancelled

/-- The revision of an inserted proposal is the next one. -/
theorem revised_effect (announced : Announced rows) (before : Revised rows n)
    (effect : Effect cfg memberships op rows after) : ∃ m, Revised after m := by
  by_cases old : ∀ k, rows.actions.get k = none → after.actions.get k = none
  · exact ⟨n, revised_same before effect.deeds old⟩
  simp only [not_forall] at old
  obtain ⟨k, absent, there⟩ := old
  cases effect.deeds k with
  | keep same => exact absurd (same.trans absent) there
  | move found =>
    rw [absent] at found
    cases found
  | propose command requestId createdAt asked named _ running sameRun unused next stored =>
    subst named
    have only (j : UUID) (later : ActionRows) (there : after.actions.get j = some later)
        (fresh : rows.actions.get j = none) : j = command.actionProposalId := by
      cases effect.deeds j with
      | keep same =>
        rw [same, fresh] at there
        cases there
      | move found =>
        rw [fresh] at found
        cases found
      | propose other otherId otherAt also named =>
        rw [proposes_unique asked also, named]
    rcases next with initial | ⟨j, old, retired, found, waiting, kept, cancelled, follows⟩
    · -- a first revision is not taken, so there was none
      have none : n = 0 := by
        by_contra some
        obtain ⟨j, action, found, is⟩ := before.taken 1 (by omega) (by omega)
        obtain ⟨workspace, run, key⟩ := announced.home j action found
        have taken := unused j action found
        simp [logicalKeyTaken, deriveFacts, workspace, run, key, is, sameRun.1, sameRun.2.1,
          command.key_supported, initial, initialActionRevision] at taken
      subst none
      refine ⟨1, revised_next before effect.deeds stored ?_ only fun j action found => ?_⟩
      · exact initial
      · have bounds := before.bounded j action found
        omega
    · -- the action it retires was the last
      have last : old.intent.actionRevision = n := by
        have bounds := before.bounded j old found
        by_contra earlier
        have ended := before.retired j old found (by omega)
        rw [ended] at waiting
        cases waiting
      refine ⟨n + 1, revised_next before effect.deeds stored (by rw [← last]; exact follows) only
        fun i action here => ?_⟩
      by_cases same : i = j
      · subst same
        exact ⟨retired, kept, cancelled⟩
      · have bounds := before.bounded i action here
        have below : action.intent.actionRevision < n := by
          have differs : action.intent.actionRevision ≠ old.intent.actionRevision :=
            fun equal => same (before.distinct i j action old here found equal)
          omega
        obtain ⟨later, stays, -, ends⟩ := deeds_revision effect.deeds here
        exact ⟨later, stays, ends (before.retired i action here below)⟩

theorem reached_revised (ops : List Op) :
    AllRuns (fun _ rows => Announced rows ∧ ∃ n, Revised rows n) ((stores cfg).reached ops) := by
  refine reached_rows ?_ ?_ ops
  · rintro memberships op k rows after - effect ⟨announced, n, revised⟩
    exact ⟨announced_effect announced effect, revised_effect announced revised effect⟩
  · intro create facts _
    have none {k : UUID} {action : ActionRows}
        (found : (createdRows create facts).actions.get k = some action) : False := by
      cases found
    refine ⟨⟨fun k action found => (none found).elim, fun k action found => (none found).elim,
      fun k action found => (none found).elim⟩, 0, fun k action found => (none found).elim,
      fun r low high => ?_, fun j k first second found => (none found).elim,
      fun k action found => (none found).elim⟩
    push_cast at high
    omega

end Revisions

/-- A supersession that is accepted leaves its old action cancelled. -/
theorem supersede_cancels {cfg : Config} {ops : List Op} {command : SupersedeActionCommand}
    {requestId : UUID} {serverNow : Timestamp} {reply : Reply}
    (accepted : (stores cfg).answer ((stores cfg).reached ops)
      (.supersedeAction command requestId serverNow) = .ok reply) :
    ∃ action, ((stores cfg).reached (ops ++ [.supersedeAction command requestId serverNow])).action
        command.asPrepareCommand.runId command.oldActionIntentId = some action ∧
      action.intent.status = .cancelled := by
  rw [Machine.reached_snoc]
  obtain ⟨result, ran, -⟩ := answers_ok (serve_ran accepted)
  unfold supersedeAction at ran
  split at ran
  · cases ran
  next different =>
    obtain ⟨rows, later, stored, worked, put⟩ := onTenantRun_ok ran
    -- the rows the request leaves
    have written : World.action (serve cfg ((stores cfg).reached ops)
        (.supersedeAction command requestId serverNow)).1 command.asPrepareCommand.runId
        command.oldActionIntentId = later.actions.get command.oldActionIntentId := by
      rw [World.action, put]
      simp [Db.putRun]
    change ∃ action, World.action (serve cfg ((stores cfg).reached ops) _).1 _ _ = _ ∧ _
    rw [written]
    rcases supersedeActionRows_ok cfg ((stores cfg).reached ops).db.memberships
      (.supersedeAction command requestId serverNow) worked with
      ⟨rfl, retired⟩ | ⟨action, retired, middle, types, -, -, -, -, -, -, cancelled, moved, -, -,
        -, -, -, outcome⟩
    · exact retired
    · have there : middle.actions.get command.oldActionIntentId = some retired := by
        rw [moved, Table.put_get_self]
      rcases outcome with rfl | ⟨-, -, rfl⟩
      · exact ⟨retired, there, cancelled⟩
      · exact ⟨retired, (Table.put_get_of_ne _ _ different).trans there, cancelled⟩

/-- In every reachable state the actions of a run have the revisions `1` to `n`,
each once, and all but the last are cancelled; each has one request and one
proposal event. An action that was superseded stays cancelled. -/
theorem single_live_action (cfg : Config) (ops : List Op) (runId : UUID) (rows : RunRows)
    (stored : ((stores cfg).reached ops).db.runs.get runId = some rows) :
    (∀ j k first second, rows.actions.get j = some first → rows.actions.get k = some second →
      first.intent.status ≠ .cancelled → second.intent.status ≠ .cancelled → j = k) ∧
    (∃ n : Nat, ∀ r : Int, (1 ≤ r ∧ r ≤ n) ↔
      ∃ k action, rows.actions.get k = some action ∧ action.intent.actionRevision = r) ∧
    (∀ j k first second, rows.actions.get j = some first → rows.actions.get k = some second →
      first.intent.actionRevision = second.intent.actionRevision → j = k) ∧
    (∀ k action, rows.actions.get k = some action →
      action.request.isSome ∧ (eventsOf rows .actionProposed action.intent.id).length = 1) ∧
    ∀ before after command requestId serverNow reply,
      ops = before ++ [.supersedeAction command requestId serverNow] ++ after →
      (stores cfg).answer ((stores cfg).reached before)
        (.supersedeAction command requestId serverNow) = .ok reply →
      command.asPrepareCommand.runId = runId →
      ∃ action, rows.actions.get command.oldActionIntentId = some action ∧
        action.intent.status = .cancelled := by
  obtain ⟨announced, n, revised⟩ := reached_revised ops runId rows stored
  have keyed := (reached_sound ops runId rows stored).keyed
  -- a live action has the last revision
  have last (k : UUID) (action : ActionRows) (found : rows.actions.get k = some action)
      (live : action.intent.status ≠ .cancelled) : action.intent.actionRevision = n := by
    have bounds := revised.bounded k action found
    by_contra earlier
    exact live (revised.retired k action found (by omega))
  refine ⟨fun j k first second here there live alive => ?_, ⟨n, fun r => ⟨?_, ?_⟩⟩,
    revised.distinct, fun k action found => ⟨announced.requested k action found, ?_⟩, ?_⟩
  · exact revised.distinct j k first second here there
      ((last j first here live).trans (last k second there alive).symm)
  · exact fun bounds => revised.taken r bounds.1 bounds.2
  · rintro ⟨k, action, found, rfl⟩
    exact revised.bounded k action found
  · rw [keyed k action found]
    exact announced.once k action found
  · rintro before after command requestId serverNow reply rfl accepted rfl
    obtain ⟨action, there, cancelled⟩ := supersede_cancels accepted
    obtain ⟨later, kept, still⟩ := reached_cancelled there cancelled after
    rw [World.action, stored, Option.bind_some] at kept
    exact ⟨later, kept, still⟩

namespace Sample

/-- Action 16 takes the place of action 6. -/
def supersede : Op :=
  .supersedeAction
    { oldActionIntentId := 6
      asPrepareCommand :=
        { tenant := member, runId := 3, actionProposalId := 16, actionKey := actionKey,
          actionRevision := 2, args := args, now := 2, expiresAt := 1000, key_supported := rfl,
          revision_bounds := by decide, expiry_ahead := by decide } } 17 2

end Sample

/-- Action 6 stays cancelled after its supersession. -/
theorem single_live_action_superseded :
    ∃ rows action, ((stores Sample.config).reached
        (Sample.running ++ [Sample.propose, Sample.supersede])).db.runs.get 3 = some rows ∧
      rows.actions.get 6 = some action ∧ action.intent.status = .cancelled ∧
      ∃ n : Nat, ∀ r : Int, (1 ≤ r ∧ r ≤ n) ↔
        ∃ k action, rows.actions.get k = some action ∧ action.intent.actionRevision = r := by
  have reached : (((stores Sample.config).reached
      (Sample.running ++ [Sample.propose, Sample.supersede])).db.runs.get 3).isSome = true := by
    decide +kernel
  have accepts : ((stores Sample.config).answer
      ((stores Sample.config).reached (Sample.running ++ [Sample.propose]))
        Sample.supersede).toBool = true := by
    decide +kernel
  obtain ⟨rows, stored⟩ := Option.isSome_iff_exists.mp reached
  cases answered : (stores Sample.config).answer
      ((stores Sample.config).reached (Sample.running ++ [Sample.propose])) Sample.supersede with
  | error reason =>
    rw [answered] at accepts
    cases accepts
  | ok reply =>
    obtain ⟨-, numbered, -, -, superseded⟩ := single_live_action Sample.config
      (Sample.running ++ [Sample.propose, Sample.supersede]) 3 rows stored
    obtain ⟨action, found, cancelled⟩ :=
      superseded (Sample.running ++ [Sample.propose]) [] _ _ _ reply (by simp [Sample.supersede])
        answered rfl
    exact ⟨rows, action, stored, found, cancelled, numbered⟩

end Pathfinder
