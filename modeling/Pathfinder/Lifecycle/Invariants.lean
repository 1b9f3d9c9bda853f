import Pathfinder.Lifecycle.Requests

/-!
# Invariants of every reachable state

The rule the guarantees are proved by: the rows of a new run have the property,
and every effect the guard allows keeps it.
-/
namespace Pathfinder
open KeyedTable Machines

section Rules
variable {cfg : Config}

/-- The runs of a database all have a property. -/
def AllRuns (P : UUID → RunRows → Prop) (world : World) : Prop :=
  ∀ k rows, world.db.runs.get k = some rows → P k rows

variable (cfg) in
/-- A request fails and keeps the database, or commits its transaction. -/
theorem serve_cases (world : World) (op : Op) :
    ((serve cfg world op).1.db = world.db ∧ ∃ reason, (serve cfg world op).2 = .error reason) ∨
      ∃ reply, op.body cfg world.db = .ok ((serve cfg world op).1.db, reply) ∧
        (serve cfg world op).2 = .ok reply := by
  unfold serve
  split
  · exact .inl ⟨rfl, _, rfl⟩
  · dsimp only
    split
    · exact .inl ⟨rfl, _, rfl⟩
    next db reply ran => exact .inr ⟨reply, ran, rfl⟩

/-- An answered request has committed its transaction. -/
theorem serve_ran {world : World} {op : Op} {reply : Reply}
    (answered : (serve cfg world op).2 = .ok reply) :
    op.body cfg world.db = .ok ((serve cfg world op).1.db, reply) := by
  rcases serve_cases cfg world op with ⟨-, reason, refused⟩ | ⟨other, ran, replied⟩
  · cases answered.symm.trans refused
  · cases answered.symm.trans replied
    exact ran

variable (cfg) in
theorem serve_db (world : World) (op : Op) :
    (serve cfg world op).1.db = world.db ∨
      ∃ reply, op.body cfg world.db = .ok ((serve cfg world op).1.db, reply) ∧
        (serve cfg world op).2 = .ok reply :=
  (serve_cases cfg world op).imp_left And.left

variable (cfg) in
/-- A token that has been drawn stays drawn. -/
theorem serve_issued (world : World) (op : Op) {token : UUID} (drawn : token ∈ world.issued) :
    token ∈ (serve cfg world op).1.issued := by
  unfold serve
  split
  · exact drawn
  · dsimp only
    split <;> exact List.mem_append_left _ drawn

variable (cfg) in
/-- A claim keeps the database, or leases the job it has selected under a fresh token. -/
theorem serve_claim (world : World) (locked : UUID → Bool) (workerId : String) (now : Timestamp)
    (leaseDuration : Timedelta) (ownerToken : UUID) {next : World × Except StoreError Reply}
    (served : serve cfg world (.claim locked workerId now leaseDuration ownerToken) = next) :
    (next.1.db = world.db ∧ ∀ claimed, next.2 ≠ .ok (.claimed (some claimed))) ∨
    ∃ claimed runId rows, next.2 = .ok (.claimed (some claimed)) ∧ ownerToken ∉ world.issued ∧
      selectDueJob cfg world.db locked now = some (runId, rows) ∧
      world.db.runs.get runId = some rows ∧ claimable cfg rows now = true ∧
      claimedJob rows (leaseJob rows.job workerId ownerToken (now + leaseDuration)) ownerToken
        (now + leaseDuration) = .ok claimed ∧
      next.1.db = world.db.putRun runId
        { rows with job := leaseJob rows.job workerId ownerToken (now + leaseDuration) } := by
  subst served
  unfold serve
  split
  · exact .inl ⟨rfl, nofun⟩
  next unused =>
    dsimp only
    split
    · exact .inl ⟨rfl, nofun⟩
    next db reply ran =>
      obtain ⟨result, worked, replied⟩ := answers_ok ran
      subst replied
      cases result with
      | none => exact .inl ⟨claimDueJob_none worked, nofun⟩
      | some claimed =>
        obtain ⟨runId, rows, selected, stored, due, issued, rfl⟩ := claimDueJob_some worked
        exact .inr ⟨claimed, runId, rows, rfl, by simpa [Op.token] using unused, selected, stored,
          due, issued, rfl⟩

theorem serve_writes {world : World} (sound : AllRuns (Sound cfg) world) (op : Op) :
    Writes cfg world.db.memberships op world.db.runs (serve cfg world op).1.db.runs := by
  rcases serve_db cfg world op with same | ⟨reply, ran, -⟩
  · rw [same]
    exact .refl
  · exact body_writes sound ran

theorem serve_sound {world : World} (sound : AllRuns (Sound cfg) world) (op : Op) :
    AllRuns (Sound cfg) (serve cfg world op).1 :=
  writes_preserve (serve_writes sound op) (fun _ _ _ _ before effect => sound_effect before effect)
    (fun create facts _ => sound_created create facts) sound

theorem start_runs (P : UUID → RunRows → Prop) : AllRuns P (stores cfg).start := by
  intro k rows stored
  cases stored

theorem reached_sound (ops : List Op) : AllRuns (Sound cfg) ((stores cfg).reached ops) :=
  (stores cfg).reached_invariant (start_runs _) (fun _ op sound => serve_sound sound op) ops

/-- Every reachable database satisfies its constraints. -/
theorem reached_checks (ops : List Op) : ((stores cfg).reached ops).db.checks = true := by
  refine (stores cfg).reached_invariant (P := fun world => world.db.checks = true) rfl ?_ ops
  intro world op before
  rcases serve_db cfg world op with same | ⟨reply, ran, -⟩
  · exact (congrArg Db.checks same).trans before
  · exact body_checks before ran

/-- A condition on the rows a request may come to, before the request. -/
def Allows (cfg : Config) (allowed : List WorkspaceMembership → Op → RunRows → Prop)
    (world : World) (op : Op) : Prop :=
  ∀ k rows, world.db.runs.get k = some rows → op.reaches cfg world.db.runs k →
    allowed world.db.memberships op rows

section Guarded
variable {P : UUID → RunRows → Prop}
  {allowed : List WorkspaceMembership → Op → RunRows → Prop}

/-- One request that the guard allows keeps a property of the rows. A sweep, which
may come to the rows of a run it has already written, is always allowed. -/
theorem serve_guarded
    (sweeps : ∀ memberships locked now limit rows, allowed memberships (.sweep locked now limit) rows)
    (updated : ∀ memberships op k rows after, Sound cfg k rows → allowed memberships op rows →
      Effect cfg memberships op rows after → P k rows → P k after)
    (created : ∀ create facts, cfg.executable create.graphVersion = true →
      P facts.runId (createdRows create facts))
    {world : World} {op : Op} (sound : AllRuns (Sound cfg) world)
    (guarded : Allows cfg allowed world op) (before : AllRuns P world) :
    AllRuns P (serve cfg world op).1 := by
  have both := writes_preserve (P := fun k rows => Sound cfg k rows ∧ P k rows)
    (serve_writes sound op)
    (fun k rows later origin held effect => by
      refine ⟨sound_effect held.1 effect, updated _ _ _ _ _ held.1 ?_ effect held.2⟩
      rcases origin with ⟨stored, reached⟩ | ⟨locked, now, limit, rfl⟩
      · exact guarded k rows stored reached
      · exact sweeps _ _ _ _ _)
    (fun create facts executable => ⟨sound_created create facts, created create facts executable⟩)
    (fun k rows stored => ⟨sound k rows stored, before k rows stored⟩)
  exact fun k rows stored => (both k rows stored).2

/-- What every allowed effect keeps holds in every state a guarded run reaches. -/
theorem reached_guarded
    (sweeps : ∀ memberships locked now limit rows, allowed memberships (.sweep locked now limit) rows)
    (updated : ∀ memberships op k rows after, Sound cfg k rows → allowed memberships op rows →
      Effect cfg memberships op rows after → P k rows → P k after)
    (created : ∀ create facts, cfg.executable create.graphVersion = true →
      P facts.runId (createdRows create facts))
    (ops : List Op)
    (guarded : (stores cfg).Guarded (Allows cfg allowed) (stores cfg).start ops) :
    AllRuns P ((stores cfg).reached ops) := by
  have sound world op (before : AllRuns (Sound cfg) world) :
      AllRuns (Sound cfg) ((stores cfg).step world op).1 := serve_sound before op
  exact (stores cfg).guarded_invariant_of sound
    (fun _ _ sound allows before => serve_guarded sweeps updated created sound allows before)
    (start_runs _) (start_runs _) ops guarded

end Guarded

/-- What every effect keeps holds in every reachable state. -/
theorem reached_rows {P : UUID → RunRows → Prop}
    (updated : ∀ memberships op k rows after, Sound cfg k rows →
      Effect cfg memberships op rows after → P k rows → P k after)
    (created : ∀ create facts, cfg.executable create.graphVersion = true →
      P facts.runId (createdRows create facts))
    (ops : List Op) : AllRuns P ((stores cfg).reached ops) := by
  refine (stores cfg).reached_invariant (P := fun world =>
    AllRuns (Sound cfg) world ∧ AllRuns P world) ⟨start_runs _, start_runs _⟩ ?_ ops |>.2
  intro world op held
  have unguarded : Allows cfg (fun _ _ _ => True) world op := fun _ _ _ _ => trivial
  refine ⟨serve_sound held.1 op, serve_guarded ?_ ?_ created held.1 unguarded held.2⟩
  · exact fun _ _ _ _ _ => trivial
  · exact fun memberships op k rows after sound _ => updated memberships op k rows after sound

end Rules
/-!
## What becomes of a run over many requests

No request forgets a run or an action: what is stored in one state of a run of
the stores is found in every later one, some effects and some moves further on.
What a row remembers can be traced back to the request that wrote it.
-/

section Paths
variable {cfg : Config}

variable (cfg) in
/-- Some request moves the rows of an action so. -/
def Moves (action after : ActionRows) : Prop :=
  ∃ memberships op rows, ActionMove cfg memberships op rows action after

variable (cfg) in
/-- Some request moves the rows of a run so. -/
def Affects (rows after : RunRows) : Prop :=
  ∃ memberships op, Effect cfg memberships op rows after

/-- An effect moves each stored action on. -/
theorem deeds_path {memberships : List WorkspaceMembership} {op : Op} {rows : RunRows}
    {after : RunRows} {k : UUID} {action : ActionRows}
    (deeds : Deeds cfg memberships op rows after) (found : rows.actions.get k = some action) :
    ∃ later, after.actions.get k = some later ∧ Relation.ReflTransGen (Moves cfg) action later :=
  deeds_follow deeds (fun _ _ moved path => path.tail ⟨memberships, op, rows, moved⟩) found .refl

theorem affects_path {rows after : RunRows} {k : UUID} {action : ActionRows}
    (path : Relation.ReflTransGen (Affects cfg) rows after)
    (found : rows.actions.get k = some action) :
    ∃ later, after.actions.get k = some later ∧
      Relation.ReflTransGen (Moves cfg) action later := by
  induction path with
  | refl => exact ⟨action, found, .refl⟩
  | tail _ affected ih =>
    obtain ⟨middle, stored, before⟩ := ih
    obtain ⟨memberships, op, effect⟩ := affected
    obtain ⟨later, kept, moved⟩ := deeds_path effect.deeds stored
    exact ⟨later, kept, before.trans moved⟩

/-- A stored run stays stored, and what the effects of a request keep holds of it. -/
theorem writes_follow {P : RunRows → Prop} {memberships : List WorkspaceMembership} {op : Op}
    {start before after : Table UUID RunRows} {k : UUID} {rows : RunRows}
    (writes : Relation.ReflTransGen (Write cfg memberships op start) before after)
    (updated : ∀ rows later, Effect cfg memberships op rows later → P rows → P later)
    (stored : before.get k = some rows) (held : P rows) :
    ∃ later, after.get k = some later ∧ P later := by
  induction writes with
  | refl => exact ⟨rows, stored, held⟩
  | tail _ write ih =>
    obtain ⟨later, kept, held⟩ := ih
    cases write with
    | update j found origin effect =>
      by_cases same : k = j
      · subst same
        cases found.symm.trans kept
        exact ⟨_, Table.put_get_self _ _ _, updated _ _ effect held⟩
      · exact ⟨later, (Table.put_get_of_ne _ _ same).trans kept, held⟩
    | create create facts asked executable absent =>
      have different : k ≠ facts.runId := by
        rintro rfl
        rw [absent] at kept
        cases kept
      exact ⟨later, (Table.put_get_of_ne _ _ different).trans kept, held⟩

theorem writes_path {memberships : List WorkspaceMembership} {op : Op}
    {start before after : Table UUID RunRows} {k : UUID} {rows : RunRows}
    (writes : Relation.ReflTransGen (Write cfg memberships op start) before after)
    (stored : before.get k = some rows) :
    ∃ later, after.get k = some later ∧ Relation.ReflTransGen (Affects cfg) rows later :=
  writes_follow writes (fun _ _ effect path => path.tail ⟨memberships, op, effect⟩) stored .refl

theorem after_path {world : World} (sound : AllRuns (Sound cfg) world) {k : UUID} {rows : RunRows}
    (stored : world.db.runs.get k = some rows) (ops : List Op) :
    ∃ later, ((stores cfg).after world ops).db.runs.get k = some later ∧
      Relation.ReflTransGen (Affects cfg) rows later := by
  induction ops generalizing world rows with
  | nil => exact ⟨rows, stored, .refl⟩
  | cons op rest ih =>
    obtain ⟨middle, kept, path⟩ := writes_path (serve_writes sound op) stored
    obtain ⟨later, there, moved⟩ := ih (serve_sound sound op) kept
    exact ⟨later, there, path.trans moved⟩

/-- An action stored at one point of a run is stored at every later point. -/
theorem reached_path {before after : List Op} {k j : UUID} {rows : RunRows} {action : ActionRows}
    (stored : ((stores cfg).reached before).db.runs.get k = some rows)
    (found : rows.actions.get j = some action) :
    ∃ later moved, ((stores cfg).reached (before ++ after)).db.runs.get k = some later ∧
      later.actions.get j = some moved ∧ Relation.ReflTransGen (Moves cfg) action moved := by
  obtain ⟨later, there, path⟩ := after_path (reached_sound before) stored after
  obtain ⟨moved, kept, moves⟩ := affects_path path found
  exact ⟨later, moved, by rw [Machine.reached_append]; exact there, kept, moves⟩

/-- Moves keep what the requester and the reviewer have seen. -/
theorem moves_facts {action after : ActionRows}
    (path : Relation.ReflTransGen (Moves cfg) action after) :
    after.intent.facts = action.intent.facts ∧
      after.request.map ApprovalRequest.facts = action.request.map ApprovalRequest.facts := by
  induction path with
  | refl => exact ⟨rfl, rfl⟩
  | tail _ moved ih =>
    obtain ⟨memberships, op, rows, moved⟩ := moved
    exact ⟨moved.facts.1.trans ih.1, moved.facts.2.trans ih.2⟩

/-- What moves keep, a path of moves keeps. -/
theorem moves_preserve {P : ActionRows → Prop}
    (kept : ∀ memberships op rows action after, ActionMove cfg memberships op rows action after →
      P action → P after) {action after : ActionRows}
    (path : Relation.ReflTransGen (Moves cfg) action after) (before : P action) : P after := by
  induction path with
  | refl => exact before
  | tail _ moved ih =>
    obtain ⟨memberships, op, rows, moved⟩ := moved
    exact kept _ _ _ _ _ moved ih

end Paths

/-! ## Back to the request -/

section Traces
variable {cfg : Config}

/-- A property of the rows of actions that may speak of the requests so far. The
proposal that starts it finds no such action. -/
theorem reached_actions {P : List Op → UUID → UUID → ActionRows → Prop}
    (extended : ∀ ops op k j action, P ops k j action → P (ops ++ [op]) k j action)
    (moved : ∀ ops op k j rows action after reply,
      (stores cfg).answer ((stores cfg).reached ops) op = .ok reply →
      ActionMove cfg ((stores cfg).reached ops).db.memberships op rows action after →
      P (ops ++ [op]) k j action → P (ops ++ [op]) k j after)
    (proposed : ∀ ops op k (command : PrepareActionCommand) requestId createdAt,
      op.proposes command requestId createdAt →
      (∀ rows, ((stores cfg).reached ops).db.runs.get k = some rows →
        rows.actions.get command.actionProposalId = none) →
      P (ops ++ [op]) k command.actionProposalId
        (proposedRows (deriveFacts cfg.digests command) requestId createdAt))
    (ops : List Op) {k j : UUID} {rows : RunRows} {action : ActionRows}
    (stored : ((stores cfg).reached ops).db.runs.get k = some rows)
    (found : rows.actions.get j = some action) : P ops k j action := by
  suffices all : AllRuns (fun k rows => ∀ j action, rows.actions.get j = some action →
      P ops k j action) ((stores cfg).reached ops) from all k rows stored j action found
  clear stored found
  induction ops using List.reverseRecOn with
  | nil => exact start_runs _
  | append_singleton ops op ih =>
    have kept : AllRuns (fun k rows => ∀ j action, rows.actions.get j = some action →
        P (ops ++ [op]) k j action) ((stores cfg).reached ops) := by
      intro k rows stored j action found
      exact extended ops op k j action (ih k rows stored j action found)
    rw [Machine.reached_snoc]
    rcases serve_db cfg ((stores cfg).reached ops) op with same | ⟨reply, ran, answered⟩
    · intro k rows stored
      exact kept k rows (same ▸ stored)
    refine writes_preserve (body_writes (reached_sound ops) ran) ?_ ?_ kept
    · intro k rows later origin before effect
      refine deeds_preserve effect.deeds
        (fun j action after => moved ops op k j rows action after reply answered) ?_ before
      intro command requestId createdAt asked _ absent
      refine proposed ops op k command requestId createdAt asked ?_
      rcases origin with ⟨stored, -⟩ | ⟨locked, now, limit, rfl⟩
      · intro other there
        cases stored.symm.trans there
        exact absent
      · rcases asked with asked | ⟨superseding, asked, -⟩ <;> cases asked
    · intro create facts executable j action found
      cases found

end Traces
end Pathfinder
