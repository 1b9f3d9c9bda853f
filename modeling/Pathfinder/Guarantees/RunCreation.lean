import Pathfinder.Lifecycle.Invariants

/-!
# A run is created once

`create_run` looks for an earlier run of the same request identity, and when a
concurrent winner has slipped past that look-up the unique key refuses its insert
and it looks again. Either way one run answers every request of the identity.
-/
namespace Pathfinder
open KeyedTable Machines

/-- What `uq_runs_workspace_creator_request` ranges over. -/
structure RequestKey where
  workspaceId : UUID
  createdByUserId : UUID
  clientRequestId : UUID
  deriving DecidableEq, Repr

/-- The request key of a run that has one. -/
def Run.requestKey (run : Run) : Option RequestKey :=
  run.requestIdentity.map fun identity =>
    ⟨run.workspaceId, run.createdByUserId, identity.clientRequestId⟩

/-- The digest stored with a run that has a request key. -/
def Run.requestDigest (run : Run) : Option String :=
  run.requestIdentity.map RunCreateIdentity.createRequestDigest

def CreateRunRequest.key (create : CreateRunRequest) : Option RequestKey :=
  create.requestIdentity.map fun identity =>
    ⟨create.tenant.workspaceId, create.tenant.actorUserId, identity.clientRequestId⟩

/-- The canonical digest of the content of a request. -/
def CreateRunRequest.canonicalDigest (cfg : Config) (create : CreateRunRequest) : Option String :=
  cfg.requestDigest create.mode create.request.query create.resumeDocumentId

/-- What `create_run` checks of a request besides its identity: the contract, its
own digest, the tenant and, when it does not see a winner, the document. -/
structure Creatable (cfg : Config) (db : Db) (create : CreateRunRequest) (facts : CreationFacts) :
    Prop where
  contract : ∃ contract, findRunContract cfg.executionContracts create.graphVersion create.mode =
    some contract ∧ cfg.decodeInput contract create.request = true
  digest : create.canonicalDigest cfg =
    create.requestIdentity.map RunCreateIdentity.createRequestDigest
  tenant : requireCurrentTenant db.memberships create.tenant = .ok ()
  document : facts.missedWinner = true → ∀ documentId, create.resumeDocumentId = some documentId →
    (db.documents.any fun row =>
      row.workspaceId == create.tenant.workspaceId && row.id == documentId) = true

/-- A request of this key that creates a run. -/
def creates (key : RequestKey) (entry : Op × Except StoreError Reply) : Bool :=
  match entry with
  | (.createRun create _, .ok (.accepted result)) =>
    create.key == some key && !result.replayed
  | _ => false

theorem creates_iff {key : RequestKey} {op : Op} {answer : Except StoreError Reply} :
    creates key (op, answer) = true ↔ ∃ create facts result, op = .createRun create facts ∧
      create.key = some key ∧ answer = .ok (.accepted result) ∧ result.replayed = false := by
  unfold creates
  split
  next create facts result shape =>
    cases shape
    simp
  next other =>
    refine ⟨nofun, ?_⟩
    rintro ⟨create, facts, result, rfl, -, rfl, -⟩
    exact absurd rfl (other create facts result)

/-- No two runs share a request key. -/
def RequestKeysUnique (db : Db) : Prop :=
  ∀ j k first second key, db.runs.get j = some first → db.runs.get k = some second →
    first.run.requestKey = some key → second.run.requestKey = some key → j = k

/-! ## One request -/

section Creation
variable {cfg : Config} {db after : Db} {create : CreateRunRequest} {facts : CreationFacts}
  {identity : RunCreateIdentity} {result : RunAccepted} {key : RequestKey}

theorem create_key (identified : create.requestIdentity = some identity) :
    create.key =
      some ⟨create.tenant.workspaceId, create.tenant.actorUserId, identity.clientRequestId⟩ := by
  simp [CreateRunRequest.key, identified]

/-- The look-up compares the columns of the key. -/
theorem findRunRequest_matches {tenant : TenantContext} {rows : RunRows} :
    (rows.run.workspaceId == tenant.workspaceId && rows.run.createdByUserId == tenant.actorUserId &&
      rows.run.requestIdentity.any fun stored =>
        stored.clientRequestId == identity.clientRequestId) = true ↔
      rows.run.requestKey =
        some ⟨tenant.workspaceId, tenant.actorUserId, identity.clientRequestId⟩ := by
  cases stored : rows.run.requestIdentity with
  | none => simp [Run.requestKey, stored]
  | some found => simp [Run.requestKey, stored, and_assoc]

theorem findRunRequest_some {tenant : TenantContext} {k : UUID} {rows : RunRows}
    (found : findRunRequest db tenant identity = some (k, rows)) :
    db.runs.get k = some rows ∧ rows.run.requestKey =
      some ⟨tenant.workspaceId, tenant.actorUserId, identity.clientRequestId⟩ := by
  obtain ⟨stored, accepted⟩ := Table.find?_some found
  exact ⟨stored, findRunRequest_matches.mp accepted⟩

theorem findRunRequest_none {tenant : TenantContext} {k : UUID} {rows : RunRows}
    (absent : findRunRequest db tenant identity = none) (stored : db.runs.get k = some rows) :
    rows.run.requestKey ≠
      some ⟨tenant.workspaceId, tenant.actorUserId, identity.clientRequestId⟩ := by
  intro same
  have refused := Table.find?_none absent stored
  rw [findRunRequest_matches.mpr same] at refused
  cases refused

theorem replayRun_ok {existing : Run} (replayed : replayRun cfg existing create = .ok result) :
    result = ⟨existing.id, true⟩ ∧ ∃ digest, create.canonicalDigest cfg = some digest ∧
      existing.requestDigest = some digest := by
  unfold replayRun at replayed
  split at replayed
  · cases replayed
  next digest canonical =>
    split at replayed
    next agrees =>
      cases replayed
      refine ⟨rfl, digest, canonical, ?_⟩
      obtain ⟨stored, identified, same⟩ := (Option.any_eq_true _ _).mp agrees
      simpa [Run.requestDigest, identified] using same
    · cases replayed

/-- What a creation that commits has done: nothing, for the answer of the stored
run, or the inserts of a run whose key was free. -/
def Created (cfg : Config) (db after : Db) (create : CreateRunRequest) (facts : CreationFacts)
    (identity : RunCreateIdentity) (result : RunAccepted) : Prop :=
  (result.replayed = true ∧ after = db ∧ ∃ k rows digest,
      findRunRequest db create.tenant identity = some (k, rows) ∧ result.runId = rows.run.id ∧
      create.canonicalDigest cfg = some digest ∧ rows.run.requestDigest = some digest) ∨
  (result = ⟨facts.runId, false⟩ ∧ after = insertRun create facts db ∧
    findRunRequest db create.tenant identity = none ∧ db.runs.get facts.runId = none)

theorem createRunOnce_ok (identified : create.requestIdentity = some identity)
    (ran : createRunOnce cfg create facts db = .ok (after, result)) :
    Created cfg db after create facts identity result := by
  unfold createRunOnce at ran
  split at ran
  · cases ran
  simp only [identified, Option.bind_some] at ran
  split at ran
  next k existing seen =>
    obtain ⟨answer, replayed, written⟩ := map_ok ran
    cases written
    obtain ⟨rfl, digest, canonical, stored⟩ := replayRun_ok replayed
    have found := (Option.filter_eq_some_iff.mp seen).1
    exact .inl ⟨rfl, rfl, k, existing, digest, found, rfl, canonical, stored⟩
  · split at ran
    · cases ran
    split at ran
    · cases ran
    next free =>
      split at ran
      · cases ran
      next absent =>
        cases ran
        exact .inr ⟨rfl, rfl, by simpa using free, by simpa using absent⟩

theorem createRunReplay_ok
    (ran : createRunReplay cfg create identity db = .ok (after, result)) :
    Created cfg db after create facts identity result := by
  unfold createRunReplay at ran
  split at ran
  · cases ran
  split at ran
  · cases ran
  next k existing found =>
    obtain ⟨answer, replayed, written⟩ := map_ok ran
    cases written
    obtain ⟨rfl, digest, canonical, stored⟩ := replayRun_ok replayed
    exact .inl ⟨rfl, rfl, k, existing, digest, found, rfl, canonical, stored⟩

theorem createRun_ok (identified : create.requestIdentity = some identity)
    (ran : createRun cfg create facts db = .ok (after, result)) :
    create.canonicalDigest cfg = some identity.createRequestDigest ∧
      Created cfg db after create facts identity result := by
  unfold createRun at ran
  split at ran
  · cases ran
  split at ran
  · cases ran
  simp only [identified] at ran
  split at ran
  · cases ran
  split at ran
  · cases ran
  next canonical =>
    refine ⟨not_not.mp canonical, ?_⟩
    split at ran
    · exact createRunReplay_ok (transaction_ok ran).1
    · exact createRunOnce_ok identified (transaction_ok ran).1

/-- Whatever commits leaves the database, or inserts a run whose key was free. -/
theorem createRun_inserts (ran : createRun cfg create facts db = .ok (after, result)) :
    after = db ∨ (after = insertRun create facts db ∧ db.runs.get facts.runId = none ∧
      ∀ key, create.key = some key → ∀ k rows, db.runs.get k = some rows →
        rows.run.requestKey ≠ some key) := by
  cases identified : create.requestIdentity with
  | some identity =>
    obtain ⟨-, ⟨-, same, -⟩ | ⟨-, inserted, free, absent⟩⟩ := createRun_ok identified ran
    · exact .inl same
    · refine .inr ⟨inserted, absent, ?_⟩
      rintro key asked k rows stored
      rw [create_key identified] at asked
      exact asked ▸ findRunRequest_none free stored
  | none =>
    have once : createRunOnce cfg create facts db = .ok (after, result) := by
      unfold createRun at ran
      split at ran
      · cases ran
      split at ran
      · cases ran
      simp only [identified] at ran
      exact (transaction_ok ran).1
    unfold createRunOnce at once
    simp only [identified, Option.bind_none, Option.filter_none, Option.isSome_none,
      Bool.false_eq_true, if_false] at once
    split at once
    · cases once
    split at once
    · cases once
    split at once
    · cases once
    next absent =>
      cases once
      refine .inr ⟨rfl, by simpa using absent, fun key asked => ?_⟩
      rw [CreateRunRequest.key, identified] at asked
      cases asked

theorem insertRun_get (k : UUID) : (insertRun create facts db).runs.get k =
    if k = facts.runId then some (createdRows create facts) else db.runs.get k :=
  Table.put_get _ _ _ _

/-- A request that can be answered, of a run that is stored with other content,
finds the stored run before or after its own insert and is told so. -/
theorem createRun_conflict (unique : RequestKeysUnique db)
    (identified : create.requestIdentity = some identity)
    (creatable : Creatable cfg db create facts) {k : UUID} {rows : RunRows}
    (stored : db.runs.get k = some rows) (keyed : rows.run.requestKey = create.key)
    (different : rows.run.requestDigest ≠ create.canonicalDigest cfg) :
    createRun cfg create facts db =
      .error (.conflict "run creation request conflicts with accepted request") := by
  have canonical := creatable.digest
  rw [identified, Option.map_some] at canonical
  rw [create_key identified] at keyed
  -- the look-up finds the stored run and no other
  have winner : findRunRequest db create.tenant identity = some (k, rows) := by
    cases found : findRunRequest db create.tenant identity with
    | none => exact absurd keyed (findRunRequest_none found stored)
    | some entry =>
      obtain ⟨j, other⟩ := entry
      obtain ⟨there, same⟩ := findRunRequest_some found
      obtain rfl := unique j k other rows _ there stored same keyed
      cases stored.symm.trans there
      rfl
  have conflicts : replayRun cfg rows.run create =
      .error (.conflict "run creation request conflicts with accepted request") := by
    have refuted : (rows.run.requestIdentity.any fun stored =>
        stored.createRequestDigest == identity.createRequestDigest) = false := by
      rw [canonical] at different
      cases has : rows.run.requestIdentity with
      | none => rfl
      | some found => simpa [Run.requestDigest, has] using different
    simp only [CreateRunRequest.canonicalDigest] at canonical
    simp [replayRun, canonical, refuted]
  obtain ⟨contract, found, decodes⟩ := creatable.contract
  simp only [CreateRunRequest.canonicalDigest] at canonical
  have tenant := creatable.tenant
  cases missed : facts.missedWinner with
  | false =>
    have once : transaction (createRunOnce cfg create facts) db =
        .error (.conflict "run creation request conflicts with accepted request") := by
      simp [transaction, createRunOnce, tenant, identified, winner, missed, Option.filter, conflicts,
        Except.map]
    simp [createRun, found, decodes, identified, canonical, once, lostRequestRace]
  | true =>
    have document : (create.resumeDocumentId.any fun documentId =>
        !db.documents.any fun row =>
          row.workspaceId == create.tenant.workspaceId && row.id == documentId) = false := by
      cases asked : create.resumeDocumentId with
      | none => rfl
      | some documentId => simpa using creatable.document missed documentId asked
    have once : transaction (createRunOnce cfg create facts) db =
        .error (.integrity "uq_runs_workspace_creator_request") := by
      simp [transaction, createRunOnce, tenant, identified, winner, missed, document]
    have again : transaction (createRunReplay cfg create identity) db =
        .error (.conflict "run creation request conflicts with accepted request") := by
      simp [transaction, createRunReplay, tenant, winner, conflicts, Except.map]
    simp [createRun, found, decodes, identified, canonical, once, again, lostRequestRace]

end Creation

/-! ## Runs of the stores -/

section Runs
variable {cfg : Config} {world : World}

/-- Writes that create no run keep the identity of each run they leave. -/
theorem writes_kept {memberships : List WorkspaceMembership} {op : Op}
    {start before after : Table UUID RunRows} {k : UUID} {later : RunRows}
    (writes : Relation.ReflTransGen (Write cfg memberships op start) before after)
    (other : ∀ create facts, op ≠ .createRun create facts) (there : after.get k = some later) :
    ∃ rows, before.get k = some rows ∧ later.run.identity = rows.run.identity := by
  induction writes generalizing k later with
  | refl => exact ⟨later, there, rfl⟩
  | tail _ write ih =>
    cases write with
    | update j found origin effect =>
      by_cases same : k = j
      · subst same
        obtain ⟨rows, stored, kept⟩ := ih found
        cases (Table.put_get_self _ _ _).symm.trans there
        exact ⟨rows, stored, effect.run_frame.trans kept⟩
      · exact ih ((Table.put_get_of_ne _ _ same).symm.trans there)
    | create create facts asked => exact absurd asked (other create facts)

theorem requestKey_identity {run other : Run} (same : run.identity = other.identity) :
    run.requestKey = other.requestKey ∧ run.requestDigest = other.requestDigest := by
  simp only [Run.identity, Prod.mk.injEq] at same
  obtain ⟨-, workspace, creator, -, -, -, -, identity, -⟩ := same
  simp only [Run.requestKey, Run.requestDigest, workspace, creator, identity, and_self]

/-- A stored run keeps its identity. -/
theorem after_identity (sound : AllRuns (Sound cfg) world) {k : UUID} {rows : RunRows}
    (stored : world.db.runs.get k = some rows) (ops : List Op) :
    ∃ later, ((stores cfg).after world ops).db.runs.get k = some later ∧
      later.run.identity = rows.run.identity := by
  induction ops generalizing world rows with
  | nil => exact ⟨rows, stored, rfl⟩
  | cons op rest ih =>
    obtain ⟨middle, there, same⟩ := writes_follow (P := fun later =>
        later.run.identity = rows.run.identity) (serve_writes sound op)
      (fun _ _ effect same => effect.run_frame.trans same) stored rfl
    obtain ⟨later, here, kept⟩ := ih (serve_sound sound op) there
    exact ⟨later, here, kept.trans same⟩

/-- What is known of the runs of a reachable database. -/
structure RunsKeyed (cfg : Config) (world : World) : Prop where
  sound : AllRuns (Sound cfg) world
  unique : RequestKeysUnique world.db

/-- The key of a new run was free. -/
theorem insertRun_unique {db : Db} {create : CreateRunRequest} {facts : CreationFacts}
    (unique : RequestKeysUnique db)
    (free : ∀ key, create.key = some key → ∀ k rows, db.runs.get k = some rows →
      rows.run.requestKey ≠ some key) : RequestKeysUnique (insertRun create facts db) := by
  intro j k first second key storedFirst storedSecond keyFirst keySecond
  rw [insertRun_get] at storedFirst storedSecond
  have created (rows : RunRows) (stored : some (createdRows create facts) = some rows)
      (keyed : rows.run.requestKey = some key) : create.key = some key := by
    cases stored
    exact keyed
  split at storedFirst
  next sameFirst =>
    split at storedSecond
    next sameSecond => exact sameFirst.trans sameSecond.symm
    · exact absurd keySecond (free key (created first storedFirst keyFirst) k second storedSecond)
  · split at storedSecond
    · exact absurd keyFirst (free key (created second storedSecond keySecond) j first storedFirst)
    · exact unique j k first second key storedFirst storedSecond keyFirst keySecond

theorem serve_runsKeyed (before : RunsKeyed cfg world) (op : Op) :
    RunsKeyed cfg (serve cfg world op).1 := by
  refine ⟨serve_sound before.sound op, ?_⟩
  have others (other : ∀ create facts, op ≠ .createRun create facts) :
      RequestKeysUnique (serve cfg world op).1.db := by
    intro j k first second key storedFirst storedSecond keyFirst keySecond
    have writes := serve_writes before.sound op
    obtain ⟨first', thereFirst, sameFirst⟩ := writes_kept writes other storedFirst
    obtain ⟨second', thereSecond, sameSecond⟩ := writes_kept writes other storedSecond
    exact before.unique j k first' second' key thereFirst thereSecond
      ((requestKey_identity sameFirst).1.symm.trans keyFirst)
      ((requestKey_identity sameSecond).1.symm.trans keySecond)
  cases op with
  | createRun create facts =>
    rcases serve_db cfg world (.createRun create facts) with same | ⟨reply, ran, -⟩
    · exact same ▸ before.unique
    · obtain ⟨result, ran, -⟩ := answers_ok ran
      rcases createRun_inserts ran with same | ⟨inserted, -, free⟩
      · exact same ▸ before.unique
      · rw [inserted]
        exact insertRun_unique before.unique free
  | _ => exact others (fun _ _ asked => by cases asked)

variable (cfg) in
theorem reached_runsKeyed (ops : List Op) : RunsKeyed cfg ((stores cfg).reached ops) := by
  have unborn : RequestKeysUnique (stores cfg).start.db := by
    intro j k first second key stored
    cases stored
  exact (stores cfg).reached_invariant (P := RunsKeyed cfg) ⟨start_runs _, unborn⟩
    (fun _ op before => serve_runsKeyed before op) ops

/-- The key has a run. -/
def Taken (key : RequestKey) (world : World) : Prop :=
  ∃ k rows, world.db.runs.get k = some rows ∧ rows.run.requestKey = some key

theorem serve_taken {key : RequestKey} (before : RunsKeyed cfg world) (taken : Taken key world)
    (op : Op) : Taken key (serve cfg world op).1 := by
  obtain ⟨k, rows, stored, keyed⟩ := taken
  obtain ⟨later, there, same⟩ := after_identity before.sound stored [op]
  exact ⟨k, later, there, (requestKey_identity same).1.trans keyed⟩

/-- The request key of a request comes from its identity. -/
theorem key_some {create : CreateRunRequest} {key : RequestKey} (keyed : create.key = some key) :
    ∃ identity, create.requestIdentity = some identity ∧
      key = ⟨create.tenant.workspaceId, create.tenant.actorUserId, identity.clientRequestId⟩ := by
  obtain ⟨identity, identified, same⟩ := Option.map_eq_some_iff.mp keyed
  exact ⟨identity, identified, same.symm⟩

/-- What the requests of a key are answered. -/
theorem serve_created {create : CreateRunRequest} {facts : CreationFacts} {key : RequestKey}
    {result : RunAccepted} (keyed : create.key = some key)
    (answered : (serve cfg world (.createRun create facts)).2 = .ok (.accepted result)) :
    ∃ identity, create.requestIdentity = some identity ∧
      key = ⟨create.tenant.workspaceId, create.tenant.actorUserId, identity.clientRequestId⟩ ∧
      create.canonicalDigest cfg = some identity.createRequestDigest ∧
      Created cfg world.db (serve cfg world (.createRun create facts)).1.db create facts identity
        result := by
  obtain ⟨identity, identified, same⟩ := key_some keyed
  obtain ⟨accepted, worked, same'⟩ := answers_ok (serve_ran answered)
  cases same'
  exact ⟨identity, identified, same, createRun_ok identified worked⟩

/-- A creation that commits has an accepted answer. -/
theorem serve_accepts {create : CreateRunRequest} {facts : CreationFacts} {reply : Reply}
    (answered : (serve cfg world (.createRun create facts)).2 = .ok reply) :
    ∃ result, reply = .accepted result := by
  obtain ⟨accepted, -, same⟩ := answers_ok (serve_ran answered)
  exact ⟨accepted, same.symm⟩

/-- The run an accepted request is answered with is the run of the key, then and later. -/
theorem accepted_stored {create : CreateRunRequest} {facts : CreationFacts} {key : RequestKey}
    {result : RunAccepted} (before : RunsKeyed cfg world) (keyed : create.key = some key)
    (answered : (serve cfg world (.createRun create facts)).2 = .ok (.accepted result))
    (rest : List Op) :
    ∃ rows, ((stores cfg).after (serve cfg world (.createRun create facts)).1 rest).db.runs.get
        result.runId = some rows ∧
      rows.run.requestKey = some key ∧ rows.run.requestDigest = create.canonicalDigest cfg := by
  obtain ⟨identity, identified, rfl, canonical, created⟩ := serve_created keyed answered
  obtain ⟨rows, stored, rowsKeyed, digest⟩ : ∃ rows,
      (serve cfg world (.createRun create facts)).1.db.runs.get result.runId = some rows ∧
      rows.run.requestKey =
        some ⟨create.tenant.workspaceId, create.tenant.actorUserId, identity.clientRequestId⟩ ∧
      rows.run.requestDigest = create.canonicalDigest cfg := by
    rcases created with ⟨-, same, k, rows, digest, found, answer, digested, stored⟩ |
      ⟨rfl, inserted, -, -⟩
    · obtain ⟨there, rowsKeyed⟩ := findRunRequest_some found
      rw [same, answer, (before.sound k rows there).run_id]
      exact ⟨rows, there, rowsKeyed, stored.trans digested.symm⟩
    · refine ⟨createdRows create facts, ?_, keyed, ?_⟩
      · rw [inserted, insertRun_get, if_pos rfl]
      · rw [canonical]
        exact congrArg (Option.map RunCreateIdentity.createRequestDigest) identified
  obtain ⟨later, there, same⟩ :=
    after_identity (serve_sound before.sound (.createRun create facts)) stored rest
  obtain ⟨sameKey, sameDigest⟩ := requestKey_identity same
  exact ⟨later, there, sameKey.trans rowsKeyed, sameDigest.trans digest⟩

/-- A request whose key has a run with another digest is not accepted. -/
theorem refused_of_different {create : CreateRunRequest} {facts : CreationFacts}
    {key : RequestKey} (before : RunsKeyed cfg world) (keyed : create.key = some key) {k : UUID}
    {rows : RunRows} (stored : world.db.runs.get k = some rows)
    (taken : rows.run.requestKey = some key)
    (different : rows.run.requestDigest ≠ create.canonicalDigest cfg) (reply : Reply) :
    (serve cfg world (.createRun create facts)).2 ≠ .ok reply := by
  intro answered
  obtain ⟨result, rfl⟩ := serve_accepts answered
  obtain ⟨other, there, otherKeyed, digest⟩ := accepted_stored before keyed answered []
  obtain ⟨later, here, same⟩ := after_identity before.sound stored [.createRun create facts]
  obtain ⟨sameKey, sameDigest⟩ := requestKey_identity same
  have after := serve_runsKeyed before (.createRun create facts)
  obtain rfl := after.unique _ _ later other key here there (sameKey.trans taken) otherKeyed
  cases here.symm.trans there
  exact different (sameDigest.symm.trans digest)

theorem serve_conflict {create : CreateRunRequest} {facts : CreationFacts} {reason : StoreError}
    (failed : createRun cfg create facts world.db = .error reason) :
    (serve cfg world (.createRun create facts)).2 = .error reason := by
  have body : Op.body cfg (.createRun create facts) world.db = .error reason := by
    simp [Op.body, Body.answers, failed, Except.map]
  simp [serve, Op.token, body]

end Runs

/-- In every run, of the requests of one key: at most one creates a run, and no two
stored runs have the key; one that is accepted is answered with the run that has
the key from then on and the digest of the request, and either changed nothing or
inserted exactly that run; one that fails changed nothing; and where a run of the
key is stored with another digest, no request succeeds, and one that could
otherwise be answered gets the conflict. -/
theorem run_creation_idempotent (cfg : Config) (ops : List Op) (key : RequestKey) :
    ((stores cfg).trace (stores cfg).start ops).countP (creates key) ≤ 1 ∧
    (∀ j k first second, ((stores cfg).reached ops).db.runs.get j = some first →
      ((stores cfg).reached ops).db.runs.get k = some second →
      first.run.requestKey = some key → second.run.requestKey = some key → j = k) ∧
    ∀ before create facts rest, ops = before ++ .createRun create facts :: rest →
      create.key = some key →
      (∀ result, (stores cfg).answer ((stores cfg).reached before) (.createRun create facts) =
          .ok (.accepted result) →
        (∃ rows, ((stores cfg).reached ops).db.runs.get result.runId = some rows ∧
          rows.run.requestKey = some key ∧ rows.run.requestDigest = create.canonicalDigest cfg) ∧
        ((stores cfg).reached (before ++ [.createRun create facts])).db =
          if result.replayed then ((stores cfg).reached before).db
          else insertRun create facts ((stores cfg).reached before).db) ∧
      (∀ reason, (stores cfg).answer ((stores cfg).reached before) (.createRun create facts) =
          .error reason →
        ((stores cfg).reached (before ++ [.createRun create facts])).db =
          ((stores cfg).reached before).db) ∧
      ∀ k rows, ((stores cfg).reached before).db.runs.get k = some rows →
        rows.run.requestKey = some key → rows.run.requestDigest ≠ create.canonicalDigest cfg →
        (∀ reply, (stores cfg).answer ((stores cfg).reached before) (.createRun create facts) ≠
          .ok reply) ∧
        (Creatable cfg ((stores cfg).reached before).db create facts →
          (stores cfg).answer ((stores cfg).reached before) (.createRun create facts) =
            .error (.conflict "run creation request conflicts with accepted request")) := by
  refine ⟨?_, ?_, ?_⟩
  · refine (stores cfg).trace_at_most_once (RunsKeyed cfg) (Taken key)
      (fun _ op before => serve_runsKeyed before op)
      (fun _ op before taken => serve_taken before taken op) ?_ ?_ (reached_runsKeyed cfg []) ops
    · rintro world op ⟨k, rows, stored, taken⟩
      by_contra marked
      obtain ⟨create, facts, result, rfl, keyed, answered, fresh⟩ :=
        creates_iff.mp (eq_true_of_ne_false marked)
      obtain ⟨identity, -, rfl, -, ⟨replayed, -⟩ | ⟨-, -, free, -⟩⟩ := serve_created keyed answered
      · rw [replayed] at fresh
        cases fresh
      · exact findRunRequest_none free stored taken
    · intro world op before marked
      obtain ⟨create, facts, result, rfl, keyed, answered, -⟩ := creates_iff.mp marked
      obtain ⟨rows, stored, taken, -⟩ := accepted_stored before keyed answered []
      exact ⟨_, rows, stored, taken⟩
  · exact fun j k first second => (reached_runsKeyed cfg ops).unique j k first second key
  · intro before create facts rest split keyed
    have keys := reached_runsKeyed cfg before
    refine ⟨fun result answered => ⟨?_, ?_⟩, fun reason failed => ?_, ?_⟩
    · rw [split, Machine.reached_append, Machine.after_cons]
      exact accepted_stored keys keyed answered rest
    · rw [Machine.reached_snoc]
      obtain ⟨identity, -, -, -, ⟨replayed, same, -⟩ | ⟨rfl, inserted, -⟩⟩ :=
        serve_created keyed answered
      · rw [if_pos replayed]
        exact same
      · exact inserted
    · rw [Machine.reached_snoc]
      rcases serve_cases cfg ((stores cfg).reached before) (.createRun create facts) with
        ⟨same, -⟩ | ⟨reply, -, answered⟩
      · exact same
      · cases answered.symm.trans failed
    · intro k rows stored taken different
      refine ⟨fun reply => refused_of_different keys keyed stored taken different reply,
        fun creatable => ?_⟩
      obtain ⟨identity, identified, -⟩ := key_some keyed
      exact serve_conflict (createRun_conflict keys.unique identified creatable stored
        (taken.trans keyed.symm) different)

namespace Sample

/-- The request of `create` under an identity of the client. -/
def identified : CreateRunRequest :=
  { tenant := member, mode := .application, resumeDocumentId := some 5,
    request := ⟨"apply", true⟩, graphVersion := currentGraphVersion,
    requestIdentity := some ⟨50, "apply"⟩ }

/-- The first request creates run 3, and a worker has started it. -/
def accepted : List Op :=
  [.setMemberships memberships, .setDocuments [⟨5, 1⟩],
    .createRun identified
      { conversationId := 1, messageId := 2, runId := 3, jobId := 4, serverNow := 0,
        missedWinner := false },
    claim 1 100, .prepare (claimed 1 1 100 none) none 1]

/-- A retry that has not seen the first request commit. -/
def retry : CreationFacts :=
  { conversationId := 11, messageId := 12, runId := 13, jobId := 14, serverNow := 2,
    missedWinner := true }

end Sample

/-- The retry is answered with run 3, which is running by now. -/
theorem run_creation_idempotent_retried :
    ∃ rows, ((stores Sample.config).reached (Sample.accepted ++
        [.createRun Sample.identified Sample.retry])).db.runs.get 3 = some rows ∧
      rows.run.requestKey = some ⟨1, 10, 50⟩ ∧ rows.run.requestDigest = some "apply" := by
  have answered : (stores Sample.config).answer ((stores Sample.config).reached Sample.accepted)
      (.createRun Sample.identified Sample.retry) = .ok (.accepted ⟨3, true⟩) := rfl
  exact (((run_creation_idempotent Sample.config _ ⟨1, 10, 50⟩).2.2 Sample.accepted _ _ [] rfl
    rfl).1 _ answered).1

end Pathfinder
