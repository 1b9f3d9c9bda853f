import Pathfinder.Lifecycle.ExpirySweeps

/-!
# Progress of the expiry sweep

One sweep expires a request when its batch holds one of a waiting run and no conflict. Repeated
sweeps expire all that are due when there is no conflict and fewer requests than a batch stand in
front of each for good.
-/
namespace Pathfinder
open Batches Machines

/-- The database behind one more sweep; a sweep that fails is rolled back. -/
def sweepOnce (now : Timestamp) (limit : Nat) (db : Db) : Db :=
  match sweepDueApprovalRequests (fun _ => false) now limit db with
  | .ok (after, _) => after
  | .error _ => db

/-- One sweep commits and expires a due request of a waiting run. -/
def SweepExpires (now : Timestamp) (limit : Nat) (db : Db) : Prop :=
  ∃ after summary, sweepDueApprovalRequests (fun _ => false) now limit db = .ok (after, summary) ∧
    ∃ row ∈ dueRows now db, waits db row = true ∧ ExpiredAt after row

variable {now : Timestamp} {limit : Nat} {db after : Db}

instance : Std.Total expiryBefore where
  total first second := by
    rcases Int.lt_trichotomy first.2.expiresAt second.2.expiresAt with before | same | behind
    · exact .inl (.inl before)
    · rcases Int.le_total first.2.createdAt second.2.createdAt with older | newer
      · exact .inl (.inr ⟨same, older⟩)
      · exact .inr (.inr ⟨same.symm, newer⟩)
    · exact .inr (.inl behind)

instance : IsTrans _ expiryBefore where
  trans first second third := by
    rintro (before | ⟨same, older⟩) (before' | ⟨same', older'⟩)
    · exact .inl (Int.lt_trans before before')
    · exact .inl (same' ▸ before)
    · exact .inl (same ▸ before')
    · exact .inr ⟨same.trans same', Int.le_trans older older'⟩

theorem mem_dueRows_of_take {row : DueRow} (member : row ∈ (sweepQueue now db).take limit) :
    row ∈ dueRows now db := mem_sweepQueue.mp (List.mem_of_mem_take member)

theorem take_keys_nodup : (((sweepQueue now db).take limit).map Prod.fst).Nodup :=
  ((List.take_sublist limit _).map Prod.fst).nodup sweepQueue_keys_nodup

/-! ## One sweep -/

theorem sweep_run {summary : ApprovalExpirySweepSummary}
    (ran : sweepDueApprovalRequests (fun _ => false) now limit db = .ok (after, summary)) :
    SweepRun now ((sweepQueue now db).take limit) db after := by
  unfold sweepDueApprovalRequests at ran
  split at ran
  · cases ran
  obtain ⟨done, looped, written⟩ := map_ok (transaction_ok ran).1
  cases written
  rw [selectDueRequests_unlocked] at looped
  exact sweepEach_run take_keys_nodup (fun _ => mem_dueRows_of_take) looped

theorem sweep_ok_iff (positive : 1 ≤ limit) (valid : db.checks = true) :
    (∃ done, sweepDueApprovalRequests (fun _ => false) now limit db = .ok done) ↔
      Unconflicted db ((sweepQueue now db).take limit) := by
  constructor
  · rintro ⟨⟨after, summary⟩, ran⟩
    rw [← List.append_nil ((sweepQueue now db).take limit)]
    exact (sweep_run ran).unconflicted.mpr .nil
  · intro free
    obtain ⟨⟨after, outcomes⟩, looped⟩ := sweepEach_ok take_keys_nodup
      (fun _ => mem_dueRows_of_take) free
    have checked := (sweepEach_run take_keys_nodup (fun _ => mem_dueRows_of_take) looped).checked
      valid
    unfold sweepDueApprovalRequests
    rw [if_neg (by omega)]
    simp only [transaction, selectDueRequests_unlocked, looped, Except.map, checked, if_true]
    exact ⟨_, rfl⟩

/-- A sweep expires a request exactly when its batch holds one of a waiting run and no conflict. -/
theorem sweepExpires_iff (positive : 1 ≤ limit) (valid : db.checks = true) :
    SweepExpires now limit db ↔
      (∃ row ∈ (sweepQueue now db).take limit, waits db row = true) ∧
        Unconflicted db ((sweepQueue now db).take limit) := by
  constructor
  · rintro ⟨after, summary, ran, row, member, waiting, expired⟩
    refine ⟨⟨row, ?_, waiting⟩, (sweep_ok_iff positive valid).mp ⟨_, ran⟩⟩
    by_contra outside
    have run := sweep_run ran
    have keyless : row.1 ∉ ((sweepQueue now db).take limit).map Prod.fst := by
      intro listed
      obtain ⟨other, inBatch, same⟩ := List.mem_map.mp listed
      have equal := List.inj_on_of_nodup_map dueRows_keys_nodup (mem_dueRows_of_take inBatch)
        member same
      exact outside (equal ▸ inBatch)
    have still : row ∈ dueRows now after := by
      rw [run.left_due, List.mem_filter, decide_eq_false keyless, Bool.and_false]
      exact ⟨member, rfl⟩
    exact expired.not_due still rfl
  · rintro ⟨⟨row, member, waiting⟩, free⟩
    obtain ⟨⟨after, summary⟩, ran⟩ := (sweep_ok_iff positive valid).mpr free
    exact ⟨after, summary, ran, row, mem_dueRows_of_take member, waiting,
      (sweep_run ran).expired row member waiting⟩

/-! ## Repeated sweeps -/

/-- What sweeps do to the requests that were due when they began. -/
structure Settles (now : Timestamp) (db after : Db) : Prop where
  waits_ : waits after = waits db
  due : ∀ row ∈ dueRows now after, row ∈ dueRows now db
  settled : ∀ row ∈ dueRows now db, row ∈ dueRows now after ∨ ExpiredAt after row
  kept : ∀ row, ExpiredAt db row → ExpiredAt after row
  checked : db.checks = true → after.checks = true

theorem Settles.refl (db : Db) : Settles now db db :=
  ⟨rfl, fun _ => id, fun _ => .inl, fun _ => id, id⟩

theorem Settles.trans {middle : Db} (first : Settles now db middle)
    (second : Settles now middle after) : Settles now db after where
  waits_ := second.waits_.trans first.waits_
  due row member := first.due row (second.due row member)
  settled row member := by
    rcases first.settled row member with still | expired
    · exact second.settled row still
    · exact .inr (second.kept row expired)
  kept row expired := second.kept row (first.kept row expired)
  checked valid := second.checked (first.checked valid)

theorem SweepRun.settles {batch : List DueRow} (run : SweepRun now batch db after)
    (current : ∀ row ∈ batch, row ∈ dueRows now db) : Settles now db after where
  waits_ := run.waits_
  due row member := by
    rw [run.left_due] at member
    exact (List.mem_filter.mp member).1
  settled row member := by
    by_cases taken : (waits db row && decide (row.1 ∈ batch.map Prod.fst)) = true
    · refine .inr ?_
      simp only [Bool.and_eq_true, decide_eq_true_eq, List.mem_map] at taken
      obtain ⟨waiting, other, inBatch, same⟩ := taken
      have equal := List.inj_on_of_nodup_map dueRows_keys_nodup (current other inBatch) member same
      exact run.expired row (equal ▸ inBatch) waiting
    · refine .inl ?_
      rw [run.left_due, List.mem_filter, Bool.eq_false_of_not_eq_true taken]
      exact ⟨member, rfl⟩
  kept _ expired := run.kept expired
  checked := run.checked

theorem sweepOnce_settles (db : Db) : Settles now db (sweepOnce now limit db) := by
  unfold sweepOnce
  split
  next ran => exact (sweep_run ran).settles fun _ => mem_dueRows_of_take
  · exact .refl db

theorem sweeps_settle (n : Nat) : Settles now db ((sweepOnce now limit)^[n] db) := by
  induction n with
  | zero => exact .refl db
  | succ n ih =>
    rw [Function.iterate_succ_apply']
    exact ih.trans (sweepOnce_settles _)

theorem filter_taken {queue : List DueRow} (distinct : (queue.map Prod.fst).Nodup)
    (ready : DueRow → Bool) :
    (queue.filter fun row => !(ready row && decide (row.1 ∈ (queue.take limit).map Prod.fst))) =
      afterRound ready limit queue := by
  have whole := List.take_append_drop limit queue
  have apart : ((queue.take limit).map Prod.fst).Disjoint ((queue.drop limit).map Prod.fst) := by
    refine List.disjoint_of_nodup_append ?_
    rwa [← List.map_append, whole]
  rw [afterRound]
  generalize queue.take limit = batch at whole apart ⊢
  generalize queue.drop limit = rest at whole apart ⊢
  rw [← whole, List.filter_append]
  congr 1
  · refine List.filter_congr fun row member => ?_
    rw [decide_eq_true (List.mem_map_of_mem member), Bool.and_true]
  · refine List.filter_eq_self.mpr fun row member => ?_
    have outside := fun listed => apart listed (List.mem_map_of_mem member)
    rw [decide_eq_false outside, Bool.and_false]
    rfl

/-- A sweep is a round over the queue. -/
theorem sweepQueue_run (run : SweepRun now ((sweepQueue now db).take limit) db after) :
    sweepQueue now after = afterRound (waits db) limit (sweepQueue now db) := by
  rw [sweepQueue, run.left_due, ← filter_insertionSort]
  exact filter_taken sweepQueue_keys_nodup (waits db)

theorem sweepOnce_rounds (positive : 1 ≤ limit) :
    Rounds (fun db => db.checks = true) (sweepOnce now limit) (sweepQueue now) waits limit
      (fun db => Unconflicted db (sweepQueue now db))
      (fun db => Unconflicted db ((sweepQueue now db).take limit)) where
  valid_step db := (sweepOnce_settles db).checked
  ready_step db _ := (sweepOnce_settles db).waits_
  blocked db valid conflict := by
    unfold sweepOnce
    split
    next ran => exact absurd ((sweep_ok_iff positive valid).mp ⟨_, ran⟩) conflict
    · rfl
  queue_step db valid free := by
    obtain ⟨⟨after, summary⟩, ran⟩ := (sweep_ok_iff positive valid).mpr free
    simp only [sweepOnce, ran]
    exact sweepQueue_run (sweep_run ran)
  free_step db valid := by
    have whole := List.take_append_drop limit (sweepQueue now db)
    constructor
    · intro free
      have batch : Unconflicted db ((sweepQueue now db).take limit) :=
        free.subset fun row member _ => List.mem_of_mem_take member
      obtain ⟨⟨after, summary⟩, ran⟩ := (sweep_ok_iff positive valid).mpr batch
      refine ⟨batch, ?_⟩
      simp only [sweepOnce, ran]
      rw [← whole, (sweep_run ran).unconflicted] at free
      rw [sweepQueue_run (sweep_run ran)]
      refine free.subset fun row member waiting => ?_
      rw [(sweep_run ran).waits_] at waiting
      rcases List.mem_append.mp member with idle | later
      · have idle := (List.mem_filter.mp idle).2
        rw [waiting] at idle
        cases idle
      · exact later
    · rintro ⟨batch, free⟩
      obtain ⟨⟨after, summary⟩, ran⟩ := (sweep_ok_iff positive valid).mpr batch
      simp only [sweepOnce, ran] at free
      rw [sweepQueue_run (sweep_run ran)] at free
      rw [← whole, (sweep_run ran).unconflicted]
      exact free.subset fun row member _ => List.mem_append_right _ member
  free_none db none := by
    refine Unconflicted.nil.subset fun row member waiting => ?_
    rw [none row member] at waiting
    cases waiting

/-- Every due request of a waiting run is expired at last exactly when none is due for good. -/
theorem expired_iff_drained :
    (∃ n, ∀ row ∈ dueRows now db, waits db row = true →
      ExpiredAt ((sweepOnce now limit)^[n] db) row) ↔
      ∃ n, ∀ row ∈ sweepQueue now ((sweepOnce now limit)^[n] db),
        waits ((sweepOnce now limit)^[n] db) row = false := by
  refine exists_congr fun n => ?_
  have settles : Settles now db ((sweepOnce now limit)^[n] db) := sweeps_settle n
  rw [settles.waits_]
  constructor
  · intro expired row member
    have due := mem_sweepQueue.mp member
    refine Bool.eq_false_of_not_eq_true fun waiting => ?_
    exact (expired row (settles.due row due) waiting).not_due due rfl
  · intro drained row member waiting
    refine (settles.settled row member).resolve_left fun due => ?_
    rw [drained row (mem_sweepQueue.mpr due)] at waiting
    cases waiting

/-- A sweep makes progress exactly when its batch holds a request of a waiting run and no conflict;
sweeps expire every due request of a waiting run exactly when none conflict and, for good, fewer
requests of other runs than a batch are in front of each. -/
theorem expiry_progress_iff (now : Timestamp) (limit : Nat) (db : Db) (positive : 1 ≤ limit)
    (valid : db.checks = true) :
    (((∃ row ∈ dueRows now db, waits db row = true) → SweepExpires now limit db) ↔
      ((∃ row ∈ dueRows now db, waits db row = true) →
        (∃ row ∈ (sweepQueue now db).take limit, waits db row = true) ∧
          Unconflicted db ((sweepQueue now db).take limit))) ∧
    ((∃ n, ∀ row ∈ dueRows now db, waits db row = true →
      ExpiredAt ((sweepOnce now limit)^[n] db) row) ↔
      Unconflicted db (sweepQueue now db) ∧ Reached (waits db) limit (sweepQueue now db)) := by
  refine ⟨?_, expired_iff_drained.trans ((sweepOnce_rounds positive).drained_iff valid)⟩
  rw [sweepExpires_iff positive valid]

namespace Sample

/-- The worker of the first run fails between its proposal and its pause. -/
def abandoned : List Op :=
  running ++ [propose, .fail (fun _ => 0) (claimed 1 1 100 none) "worker_error" 2]

/-- Run 13 with job 14. -/
def createNext : Op :=
  .createRun
    { tenant := member, mode := .application, resumeDocumentId := some 5,
      request := ⟨"apply", true⟩, graphVersion := currentGraphVersion, requestIdentity := none }
    { conversationId := 11, messageId := 12, runId := 13, jobId := 14, serverNow := 3,
      missedWinner := false }

def claimedNext : ClaimedJob :=
  { claimed 1 3 200 none with jobId := 14, runId := 13 }

/-- Action 16 under approval request 17. -/
def proposeNext : Op :=
  .prepareAction
    { tenant := member, runId := 13, actionProposalId := 16, actionKey := actionKey,
      actionRevision := 1, args := args, now := 3, expiresAt := 2000, key_supported := rfl,
      revision_bounds := first_revision, expiry_ahead := by decide } 17 3

/-- A second run waits for its approval. -/
def starved : List Op :=
  abandoned ++ [createNext, claim 3 200, .prepare claimedNext none 3, proposeNext,
    .waitForApproval claimedNext 17 4]

def waitingDb : Db := ((stores config).reached waiting).db

def starvedDb : Db := ((stores config).reached starved).db

end Sample

theorem expiry_progress_waiting :
    SweepExpires 2000 1 Sample.waitingDb ∧
    ∃ n, ∀ row ∈ dueRows 2000 Sample.waitingDb, waits Sample.waitingDb row = true →
      ExpiredAt ((sweepOnce 2000 1)^[n] Sample.waitingDb) row := by
  have valid : Sample.waitingDb.checks = true := by decide +kernel
  have short : (sweepQueue 2000 Sample.waitingDb).length = 1 := by decide +kernel
  have ready : ((sweepQueue 2000 Sample.waitingDb).all fun row =>
      waits Sample.waitingDb row && accepts Sample.waitingDb row) = true := by
    decide +kernel
  generalize Sample.waitingDb = db at *
  obtain ⟨row, queue⟩ := List.length_eq_one_iff.mp short
  rw [queue, List.all_cons, Bool.and_eq_true, Bool.and_eq_true] at ready
  obtain ⟨⟨waiting, accepted⟩, -⟩ := ready
  have free : Unconflicted db [row] := by
    constructor
    · intro other member _
      rwa [List.mem_singleton.mp member]
    · intro first member second member' _ _ _
      rw [List.mem_singleton.mp member, List.mem_singleton.mp member']
  obtain ⟨one, all⟩ := expiry_progress_iff 2000 1 db (by decide) valid
  rw [queue] at one all
  refine ⟨one.mpr (fun _ => ⟨⟨row, List.mem_cons_self, waiting⟩, free⟩) ⟨row, ?_, waiting⟩,
    all.mpr ⟨free, reached_of_length (Nat.le_refl 1)⟩⟩
  rw [← mem_sweepQueue, queue]
  exact List.mem_cons_self

/-- The request of a failed run stays in front of the queue and fills the batch: the request of the
run that waits is never expired. -/
theorem sweep_starved :
    (∃ row ∈ dueRows 3000 Sample.starvedDb, waits Sample.starvedDb row = true) ∧
    ¬SweepExpires 3000 1 Sample.starvedDb ∧
    ¬∃ n, ∀ row ∈ dueRows 3000 Sample.starvedDb, waits Sample.starvedDb row = true →
      ExpiredAt ((sweepOnce 3000 1)^[n] Sample.starvedDb) row := by
  have valid : Sample.starvedDb.checks = true := by decide +kernel
  have some : (sweepQueue 3000 Sample.starvedDb).any (waits Sample.starvedDb) = true := by
    decide +kernel
  have batch : ((sweepQueue 3000 Sample.starvedDb).take 1).any (waits Sample.starvedDb) = false := by
    decide +kernel
  generalize Sample.starvedDb = db at *
  obtain ⟨row, member, waiting⟩ := List.any_eq_true.mp some
  have idle : ¬∃ row ∈ (sweepQueue 3000 db).take 1, waits db row = true := by
    rw [← List.any_eq_true, batch]
    exact Bool.false_ne_true
  refine ⟨⟨row, mem_sweepQueue.mp member, waiting⟩, fun expires => ?_, fun expired => ?_⟩
  · exact idle ((sweepExpires_iff (by decide) valid).mp expires).1
  · obtain ⟨-, reached⟩ := ((sweepOnce_rounds (by decide)).drained_iff valid).mp
      (expired_iff_drained.mp expired)
    exact idle (exists_ready_take reached ⟨row, member, waiting⟩)

end Pathfinder
