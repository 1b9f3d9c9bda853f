import Pathfinder.Material.FactVersions
import Pathfinder.System

/-!
# The versions of project facts

Whatever extractions and commands interleave: the versions of a fact are numbered from 1 to
its current one, a command that expects another one is refused, every quote stands in the
snapshot of the fact's set, and a confirmed version has no open question but the two that
an attestation waives. That the attestation is its own holds as long as no review confirms a
claim about oneself without one where an earlier review has taken the questions away.
-/
namespace Pathfinder
open KeyedTable Machines

variable {chars : CharacterTables}

/-- An accepted review confirmed the fact with attestation, making version `n`. -/
def AttestedAt (accepted : List PendingFactCommand) (factId : UUID) (n : Nat) : Prop :=
  ∃ command ∈ accepted, command.request.kind = "material_fact_review" ∧
    command.request.payload.decision = some "confirm" ∧
    command.request.payload.attested = true ∧ command.request.payload.factId = some factId ∧
    command.request.payload.expectedVersion = some ((n : Int) - 1)

/-- What holds of all facts. -/
def FactsSound (chars : CharacterTables) (db : ProjectFactDb) : Prop :=
  ∀ factId rows, db.facts.get factId = some rows →
    ∃ set_, db.factSets.get rows.factSetId = some set_ ∧ set_.workspaceId = rows.workspaceId ∧
      rows.Sound chars (filesForImport db set_.workspaceId set_.importId)

/-- The versions that accepted revisions and reviews expected are no longer current. -/
def ExpectedBefore (accepted : List PendingFactCommand) (db : ProjectFactDb) : Prop :=
  ∀ command ∈ accepted, command.request.kind ≠ "material_fact_add" →
    ∀ factId, command.request.payload.factId = some factId →
      ∃ rows, db.facts.get factId = some rows ∧
        ∃ n < rows.currentVersion, command.request.payload.expectedVersion = some (n : Int)

structure ProjectFactWorld.Sound (chars : CharacterTables) (world : ProjectFactWorld) : Prop where
  facts : FactsSound chars world.tables
  expected : ExpectedBefore world.accepted world.tables
  kinds : ∀ command ∈ world.pending, command.request.kind ∈ factCommandKinds

/-- A version, if it is confirmed, carries no question, and what `candidate_issues` asks about its
claim is what the attestation of its own confirmation waived. -/
def FactVersionRow.Settled (chars : CharacterTables) (attested : Nat → Prop)
    (row : FactVersionRow) : Prop :=
  row.reviewStatus = .confirmed → row.issues = [] ∧
    ∀ issue ∈ candidateIssues chars row.candidate, issue ∈ waivableIssues ∧
      row.candidate.kind = .personalStatement ∧ attested row.version

/-- Every version is settled. -/
def AllSettled (chars : CharacterTables) (accepted : List PendingFactCommand)
    (db : ProjectFactDb) : Prop :=
  ∀ factId rows, db.facts.get factId = some rows →
    ∀ row ∈ rows.versions, row.Settled chars (AttestedAt accepted factId)

section Writes
variable {accepted : List PendingFactCommand} {db after : ProjectFactDb}

/-- What leaves the facts alone keeps them sound. -/
theorem FactsSound.kept (sound : FactsSound chars db) (facts : after.facts = db.facts)
    (sets : ∀ setId set_, db.factSets.get setId = some set_ → after.factSets.get setId = some set_)
    (files : ∀ workspaceId importId, FilesKept (filesForImport db workspaceId importId)
      (filesForImport after workspaceId importId)) : FactsSound chars after := by
  intro factId rows stored
  rw [facts] at stored
  obtain ⟨set_, found, same, holds⟩ := sound factId rows stored
  exact ⟨set_, sets _ _ found, same, holds.mono (files _ _)⟩

/-- A row written under a fact. -/
theorem FactsSound.put (sound : FactsSound chars db) {factId : UUID} {rows : FactRows}
    {set_ : FactSetRow} (found : db.factSets.get rows.factSetId = some set_)
    (same : set_.workspaceId = rows.workspaceId)
    (written : rows.Sound chars (filesForImport db set_.workspaceId set_.importId)) :
    FactsSound chars { db with facts := db.facts.put factId rows } :=
  Table.forall_put sound ⟨set_, found, same, written⟩

/-- Facts are added, with versions that wait for a review; those that are there stay. -/
structure FactsAdded (db after : ProjectFactDb) : Prop where
  kept : ∀ factId rows, db.facts.get factId = some rows → after.facts.get factId = some rows
  fresh : ∀ factId rows, after.facts.get factId = some rows →
    db.facts.get factId = some rows ∨ ∀ row ∈ rows.versions, row.reviewStatus = .pending

theorem FactsAdded.of_same (facts : after.facts = db.facts) : FactsAdded db after where
  kept _ _ stored := facts ▸ stored
  fresh _ _ stored := .inl (facts ▸ stored)

theorem FactsAdded.trans {last : ProjectFactDb} (first : FactsAdded db after)
    (second : FactsAdded after last) : FactsAdded db last where
  kept factId rows stored := second.kept factId rows (first.kept factId rows stored)
  fresh factId rows stored := by
    rcases second.fresh factId rows stored with before | pending
    · exact first.fresh factId rows before
    · exact .inr pending

theorem ExpectedBefore.added (expected : ExpectedBefore accepted db)
    (added : FactsAdded db after) : ExpectedBefore accepted after := by
  intro command member versioned factId named
  obtain ⟨rows, stored, n⟩ := expected command member versioned factId named
  exact ⟨rows, added.kept factId rows stored, n⟩

theorem AttestedAt.grown {factId : UUID} {n : Nat} {more : List PendingFactCommand}
    (attested : AttestedAt accepted factId n) : AttestedAt (accepted ++ more) factId n := by
  obtain ⟨command, member, attests⟩ := attested
  exact ⟨command, List.mem_append_left _ member, attests⟩

theorem FactVersionRow.Settled.grown {row : FactVersionRow} {factId : UUID}
    (settled : row.Settled chars (AttestedAt accepted factId)) (more : List PendingFactCommand) :
    row.Settled chars (AttestedAt (accepted ++ more) factId) := by
  intro confirmed
  obtain ⟨none_left, waived⟩ := settled confirmed
  refine ⟨none_left, fun issue asked => ?_⟩
  obtain ⟨waivable, personal, attested⟩ := waived issue asked
  exact ⟨waivable, personal, attested.grown⟩

theorem AllSettled.added (settled : AllSettled chars accepted db) (added : FactsAdded db after)
    (more : List PendingFactCommand) : AllSettled chars (accepted ++ more) after := by
  intro factId rows stored row member
  rcases added.fresh factId rows stored with before | pending
  · exact (settled factId rows before row member).grown more
  · intro confirmed
    rw [pending row member] at confirmed
    cases confirmed

theorem insertFact_ok {workspaceId setId factId : UUID} {ordinal : Nat} {ids : VersionIds}
    {candidate : CandidateFactV1} {actor : Option UUID}
    (inserted : insertFact chars db workspaceId setId factId ordinal ids candidate actor =
      .ok after) :
    db.facts.get factId = none ∧ ∃ rows,
      addVersion ⟨workspaceId, setId, ordinal, 1, []⟩ ids 1 candidate .pending
        (candidateIssues chars candidate) actor = .ok rows ∧
      after = { db with facts := db.facts.put factId rows } := by
  unfold insertFact at inserted
  split at inserted
  · cases inserted
  next absent =>
    split at inserted
    · cases inserted
    split at inserted
    · cases inserted
    next rows added =>
      cases inserted
      exact ⟨by simpa using absent, rows, added, rfl⟩

/-- A new fact whose evidence passes. -/
theorem insertFact_sound (space : chars.isDecimal ' ' = false) (sound : FactsSound chars db)
    {workspaceId setId factId : UUID} {ordinal : Nat} {ids : VersionIds}
    {candidate : CandidateFactV1} {actor : Option UUID} {set_ : FactSetRow}
    (found : db.factSets.get setId = some set_) (same : set_.workspaceId = workspaceId)
    (quoted : ∀ item ∈ candidate.evidence,
      checkEvidence (filesForImport db workspaceId set_.importId) item = .ok ())
    (inserted : insertFact chars db workspaceId setId factId ordinal ids candidate actor =
      .ok after) :
    FactsSound chars after ∧ FactsAdded db after ∧ after.factSets = db.factSets ∧
      after.snapshots = db.snapshots := by
  obtain ⟨absent, rows, made, rfl⟩ := insertFact_ok inserted
  subst same
  have holds := firstVersion_sound space rfl rfl quoted made
  obtain ⟨-, -, rfl⟩ := addVersion_iff.mp made
  refine ⟨sound.put found rfl holds, ⟨fun other kept stored => ?_, fun other kept stored => ?_⟩,
    rfl, rfl⟩
  · rw [Table.put_get, if_neg]
    · exact stored
    · rintro rfl
      rw [absent] at stored
      cases stored
  · rw [Table.put_get] at stored
    split at stored
    · cases stored
      exact .inr (by simp [storedVersion])
    · exact .inl stored

theorem filesForImport_congr {first second : ProjectFactDb}
    (same : first.snapshots = second.snapshots) :
    filesForImport first = filesForImport second := by
  unfold filesForImport
  rw [same]

/-- The facts of an extraction whose evidence passes. -/
theorem publishFacts_sound (space : chars.isDecimal ' ' = false) {workspaceId setId : UUID}
    {ids : Nat → UUID × VersionIds} {set_ : FactSetRow} (same : set_.workspaceId = workspaceId)
    {ordinal : Nat} {candidates : List CandidateFactV1} (sound : FactsSound chars db)
    (found : db.factSets.get setId = some set_)
    (quoted : ∀ item ∈ candidates.flatMap CandidateFactV1.evidence,
      checkEvidence (filesForImport db workspaceId set_.importId) item = .ok ())
    (published : publishFacts chars workspaceId setId ids ordinal candidates db = .ok after) :
    FactsSound chars after ∧ FactsAdded db after := by
  induction candidates generalizing ordinal db with
  | nil =>
    cases published
    exact ⟨sound, .of_same rfl⟩
  | cons candidate rest ih =>
    unfold publishFacts at published
    split at published
    · cases published
    next next_ inserted =>
      rw [List.flatMap_cons] at quoted
      obtain ⟨kept, added, sets, snapshots⟩ := insertFact_sound space sound found same
        (fun item inside => quoted item (List.mem_append_left _ inside)) inserted
      have others : ∀ item ∈ rest.flatMap CandidateFactV1.evidence,
          checkEvidence (filesForImport next_ workspaceId set_.importId) item = .ok () := by
        intro item inside
        rw [filesForImport_congr snapshots]
        exact quoted item (List.mem_append_right _ inside)
      obtain ⟨there, later⟩ := ih kept (sets ▸ found) others published
      exact ⟨there, added.trans later⟩

theorem publishExtraction_sound (space : chars.isDecimal ' ' = false)
    (sound : FactsSound chars db) {tenant : TenantContext} {projectId importId : UUID}
    {extractorDigest : String} {extraction : FactExtractionV1} {complete : Bool} {setId : UUID}
    {createdAt : Nat} {ids : Nat → UUID × VersionIds} {published : UUID}
    (ran : publishExtraction chars db tenant projectId importId extractorDigest extraction complete
      setId createdAt ids = .ok (after, published)) :
    FactsSound chars after ∧ FactsAdded db after := by
  unfold publishExtraction at ran
  split at ran
  · cases ran
  split at ran
  · cases ran
  next cacheDigest recorded =>
    split at ran
    · cases ran
      exact ⟨sound, .of_same rfl⟩
    · split at ran
      · cases ran
      next passed =>
        split at ran
        · cases ran
        next fresh =>
          obtain ⟨written, facts, same⟩ := map_ok ran
          cases same
          have absent : db.factSets.get setId = none := by simpa using fresh
          have opened : FactsSound chars { db with
              factSets := db.factSets.put setId ⟨tenant.workspaceId, projectId, importId,
                cacheDigest, extractorDigest, complete, extraction.questions, createdAt⟩ } := by
            refine sound.kept rfl (fun other set_ found => ?_) (fun _ _ _ _ found => found)
            rw [Table.put_get_of_ne]
            · exact found
            · rintro rfl
              rw [absent] at found
              cases found
          obtain ⟨kept, added⟩ := publishFacts_sound space rfl opened
            (Table.put_get_self _ _ _) (checkCandidates_ok passed) facts
          exact ⟨kept, added.kept, added.fresh⟩

/-- `_current_set` answers a fact set of the tenant. -/
theorem currentSet_some {tenant : TenantContext} {projectId setId : UUID} {set_ : FactSetRow}
    (found : currentSet db tenant projectId = some (setId, set_)) :
    db.factSets.get setId = some set_ ∧ set_.workspaceId = tenant.workspaceId := by
  unfold currentSet at found
  split at found
  · cases found
  have listed := List.mem_mergeSort.mp (List.mem_of_mem_head? found)
  obtain ⟨stored, matching⟩ := List.mem_filter.mp listed
  simp only [Bool.and_eq_true, beq_iff_eq] at matching
  exact ⟨(Table.mem_scan _ _ _).mp stored, matching.1.1⟩

/-- A revision or review writes the next version of the fact it names. -/
theorem applyVersion_iff {tenant : TenantContext} {setId : UUID} {set_ : FactSetRow}
    {ids : VersionIds} {kind : String} {payload : FactCommand} :
    applyVersion chars db tenant setId set_ ids kind payload = .ok after ↔
    ∃ factId rows, payload.factId = some factId ∧ db.facts.get factId = some rows ∧
      rows.workspaceId = tenant.workspaceId ∧ rows.factSetId = setId ∧
      payload.expectedVersion = some (rows.currentVersion : Int) ∧
      ∃ previous, (rows.versions.find? fun row => row.version == rows.currentVersion) =
          some previous ∧
        ∃ candidate status issues written,
          nextVersion chars kind payload (filesForImport db tenant.workspaceId set_.importId)
            previous = .ok (candidate, status, issues) ∧
          addVersion { rows with currentVersion := rows.currentVersion + 1 } ids
            (rows.currentVersion + 1) candidate status issues (some tenant.actorUserId) =
              .ok written ∧
          after = { db with facts := db.facts.put factId written } := by
  constructor
  · intro applied
    unfold applyVersion at applied
    split at applied
    · cases applied
    next factId named =>
      split at applied
      · cases applied
      next rows found =>
        obtain ⟨stored, matching⟩ := Option.filter_eq_some_iff.mp found
        simp only [Bool.and_eq_true, beq_iff_eq] at matching
        split at applied
        · cases applied
        next expected =>
          split at applied
          · cases applied
          next previous here =>
            split at applied
            · cases applied
            next candidate status issues made =>
              obtain ⟨written, added, rfl⟩ := map_ok applied
              exact ⟨factId, rows, named, stored, matching.1, matching.2,
                (not_not.mp expected).symm, previous, here, candidate, status, issues, written,
                made, added, rfl⟩
  · rintro ⟨factId, rows, named, stored, tenant_, set_, expected, previous, here, candidate,
      status, issues, written, made, added, rfl⟩
    have found : (db.facts.get factId).filter (fun rows =>
        rows.workspaceId == tenant.workspaceId && rows.factSetId == setId) = some rows := by
      rw [stored]
      simp [tenant_, set_]
    unfold applyVersion
    simp [named, found, expected, here, made, added, Except.map]

/-- An accepted command adds a fact, or writes the next version of one. -/
theorem applyFact_cases {factId : UUID} {ids : VersionIds} {tenant : TenantContext}
    {request : ResumeCommandRequest FactCommand} {commandId : UUID} {receipt : CommandReceiptV1}
    (applied : applyFact chars factId ids db tenant request commandId = .ok (after, receipt)) :
    ∃ setId set_, currentSet db tenant request.payload.projectId = some (setId, set_) ∧
      set_.importId = request.payload.importId ∧
      ((request.kind = "material_fact_add" ∧ ∃ ordinal candidate,
        checkCandidate candidate (filesForImport db tenant.workspaceId set_.importId) = .ok () ∧
        insertFact chars db tenant.workspaceId setId factId ordinal ids candidate
          (some tenant.actorUserId) = .ok after) ∨
      (request.kind ≠ "material_fact_add" ∧
        applyVersion chars db tenant setId set_ ids request.kind request.payload = .ok after)) := by
  unfold applyFact at applied
  dsimp only at applied
  split at applied
  · cases applied
  next setId set_ current =>
    split at applied
    · cases applied
    next imported =>
      refine ⟨setId, set_, current, not_not.mp imported, ?_⟩
      split at applied
      next addition =>
        obtain ⟨written, added, same⟩ := map_ok applied
        cases same
        unfold applyAddition at added
        split at added
        · cases added
        next candidate offered =>
          split at added
          · cases added
          next passed => exact .inl ⟨addition, _, candidate, passed, added⟩
      next other =>
        obtain ⟨written, versioned, same⟩ := map_ok applied
        cases same
        exact .inr ⟨other, versioned⟩

/-- A command's writes keep the facts sound. -/
theorem applyFact_sound (space : chars.isDecimal ' ' = false) (sound : FactsSound chars db)
    {command : PendingFactCommand} {commandId : UUID} {receipt : CommandReceiptV1}
    (applied : applyFact chars command.factId command.ids db command.tenant command.request
      commandId = .ok (after, receipt)) : FactsSound chars after := by
  obtain ⟨setId, set_, current, -, ⟨-, ordinal, candidate, passed, added⟩ | ⟨-, versioned⟩⟩ :=
    applyFact_cases applied
  · obtain ⟨found, same⟩ := currentSet_some current
    exact (insertFact_sound space sound found same (checkCandidate_ok passed) added).1
  · obtain ⟨found, same⟩ := currentSet_some current
    obtain ⟨factId, rows, named, stored, here, inSet, expected, previous, latest, candidate, status,
      issues, written, made, added, rfl⟩ := applyVersion_iff.mp versioned
    obtain ⟨own, ownFound, ownSame, holds⟩ := sound factId rows stored
    obtain rfl : own = set_ := by
      rw [inSet, found] at ownFound
      exact (Option.some.inj ownFound).symm
    obtain ⟨-, -, kept⟩ := addVersion_iff.mp added
    refine @FactsSound.put chars db sound _ written own ?_ ?_ ?_
    · rw [kept]
      exact ownFound
    · rw [kept]
      exact ownSame
    · rw [ownSame, here] at holds ⊢
      exact nextVersion_sound space holds (List.mem_of_find?_eq_some latest) made added

/-- What a command answers, and that it leaves the receipts to the store. -/
theorem applyFact_receipt {factId : UUID} {ids : VersionIds} {tenant : TenantContext}
    {request : ResumeCommandRequest FactCommand} {commandId : UUID} {receipt : CommandReceiptV1}
    (applied : applyFact chars factId ids db tenant request commandId = .ok (after, receipt)) :
    (receipt.commandId = commandId ∧ receipt.runId = none ∧ receipt.queued = false) ∧
      after.commands = db.commands := by
  constructor
  · unfold applyFact at applied
    dsimp only at applied
    split at applied
    · cases applied
    split at applied
    · cases applied
    split at applied
    all_goals
      obtain ⟨written, -, same⟩ := map_ok applied
      cases same
      exact ⟨rfl, rfl, rfl⟩
  · obtain ⟨setId, set_, -, -, ⟨-, ordinal, candidate, -, added⟩ | ⟨-, versioned⟩⟩ :=
      applyFact_cases applied
    · obtain ⟨-, rows, -, rfl⟩ := insertFact_ok added
      rfl
    · obtain ⟨_, _, -, -, -, -, -, _, -, _, _, _, _, -, -, rfl⟩ := applyVersion_iff.mp versioned
      rfl

/-- A commit writes the command's effect and a receipt under unused identities. -/
theorem commitFact_iff {command : PendingFactCommand} {commandId : UUID} :
    (∃ reply, commitCommand projectFactTables (factWriter chars command.factId command.ids)
      command.tenant command.request command.digest commandId db = .ok (after, reply)) ↔
    ∃ written receipt, applyFact chars command.factId command.ids db command.tenant
        command.request commandId = .ok (written, receipt) ∧
      (∀ row ∈ db.commands, row.id ≠ commandId) ∧
      findCommand db.commands command.tenant command.request.clientRequestId = none ∧
      after = projectFactTables.record ⟨commandId, command.tenant.workspaceId,
        command.tenant.actorUserId, command.request.clientRequestId, command.request.kind,
        command.digest, receipt, receipt.runId⟩ written := by
  unfold commitCommand
  constructor
  · rintro ⟨reply, committed⟩
    split at committed
    · cases committed
    next written receipt applied =>
      have commands := (applyFact_receipt applied).2
      split at committed
      · cases committed
      split at committed
      · cases committed
      split at committed
      · cases committed
      split at committed
      · cases committed
      next unused =>
        split at committed
        · cases committed
        next first =>
          cases committed
          rw [show projectFactTables.commands written = db.commands from commands]
            at unused first
          exact ⟨written, receipt, applied, by simpa using unused, by simpa using first, rfl⟩
  · rintro ⟨written, receipt, applied, unused, first, rfl⟩
    obtain ⟨⟨same, noRun, unqueued⟩, commands⟩ := applyFact_receipt applied
    have writes : (factWriter chars command.factId command.ids).apply db command.tenant
        command.request commandId = .ok (written, receipt) := applied
    have fresh : ((projectFactTables.commands written).any fun row => row.id == commandId) =
        false := by
      rw [show projectFactTables.commands written = db.commands from commands]
      simpa using unused
    have none_ : findCommand (projectFactTables.commands written) command.tenant
        command.request.clientRequestId = none := by
      rw [show projectFactTables.commands written = db.commands from commands]
      exact first
    refine ⟨⟨receipt, false⟩, ?_⟩
    simp [writes, same, noRun, unqueued, fresh, none_]

/-- A revision or review of the current version `previous`, and the version that it writes. -/
structure VersionWritten (chars : CharacterTables) (db : ProjectFactDb)
    (command : PendingFactCommand) (factId : UUID) (rows : FactRows) (set_ : FactSetRow)
    (previous next : FactVersionRow) (after : ProjectFactDb) : Prop where
  versioned : command.request.kind ≠ "material_fact_add"
  inSet : currentSet db command.tenant command.request.payload.projectId =
    some (rows.factSetId, set_)
  imported : set_.importId = command.request.payload.importId
  named : command.request.payload.factId = some factId
  stored : db.facts.get factId = some rows
  tenant : rows.workspaceId = command.tenant.workspaceId
  expected : command.request.payload.expectedVersion = some (rows.currentVersion : Int)
  found : (rows.versions.find? fun row => row.version == rows.currentVersion) = some previous
  made : ∃ candidate, nextVersion chars command.request.kind command.request.payload
      (filesForImport db command.tenant.workspaceId set_.importId) previous =
        .ok (candidate, next.reviewStatus, next.issues) ∧ SameFact next.candidate candidate
  follows : next.version = rows.currentVersion + 1
  facts : after.facts = db.facts.put factId
    { rows with currentVersion := rows.currentVersion + 1, versions := rows.versions ++ [next] }

theorem applyFact_version {command : PendingFactCommand} {commandId : UUID}
    {receipt : CommandReceiptV1}
    (applied : applyFact chars command.factId command.ids db command.tenant command.request
      commandId = .ok (after, receipt)) (versioned : command.request.kind ≠ "material_fact_add") :
    ∃ factId rows set_ previous next,
      VersionWritten chars db command factId rows set_ previous next after := by
  obtain ⟨setId, set_, current, imported, ⟨addition, -⟩ | ⟨-, ran⟩⟩ := applyFact_cases applied
  · exact absurd addition versioned
  · obtain ⟨factId, rows, named, stored, tenant, rfl, expected, previous, found, candidate, status,
      issues, written, made, added, rfl⟩ := applyVersion_iff.mp ran
    obtain ⟨-, -, rfl⟩ := addVersion_iff.mp added
    exact ⟨factId, rows, set_, previous, storedVersion command.ids (rows.currentVersion + 1)
      candidate status issues (some command.tenant.actorUserId), versioned, current, imported, named,
      stored, tenant, expected, found, ⟨candidate, made, stored_same _ _⟩, rfl, rfl⟩

namespace VersionWritten
variable {command : PendingFactCommand} {factId : UUID} {rows : FactRows} {set_ : FactSetRow}
  {previous next : FactVersionRow}
  (written : VersionWritten chars db command factId rows set_ previous next after)
include written

theorem listed : previous ∈ rows.versions := List.mem_of_find?_eq_some written.found

/-- The version that the command expected is behind the new one. -/
theorem expectedBefore (expected : ExpectedBefore accepted db) :
    ExpectedBefore (accepted ++ [command]) after := by
  have grows (other : UUID) (old : FactRows) (stored : db.facts.get other = some old) :
      ∃ now, after.facts.get other = some now ∧ old.currentVersion ≤ now.currentVersion := by
    rw [written.facts, Table.put_get]
    split
    next same =>
      rw [same, written.stored] at stored
      cases stored
      exact ⟨_, rfl, Nat.le_succ _⟩
    next => exact ⟨old, stored, Nat.le_refl _⟩
  intro other member versioned named namedBy
  rcases List.mem_append.mp member with earlier | new
  · obtain ⟨old, stored, n, before, expects⟩ := expected other earlier versioned named namedBy
    obtain ⟨now, here, later⟩ := grows named old stored
    exact ⟨now, here, n, Nat.lt_of_lt_of_le before later, expects⟩
  · obtain rfl := List.mem_singleton.mp new
    obtain rfl : factId = named := Option.some.inj (written.named.symm.trans namedBy)
    rw [written.facts, Table.put_get_self]
    exact ⟨_, rfl, rows.currentVersion, Nat.lt_succ_self _, written.expected⟩

/-- No earlier review attested to the new version. -/
theorem attested_own (expected : ExpectedBefore accepted db)
    (attested : AttestedAt (accepted ++ [command]) factId next.version) :
    command.request.payload.attested = true := by
  obtain ⟨other, member, review, -, attests, named, expects⟩ := attested
  rcases List.mem_append.mp member with earlier | new
  · have versioned : other.request.kind ≠ "material_fact_add" := by
      rw [review]
      decide
    obtain ⟨old, stored, n, before, expected_⟩ := expected other earlier versioned factId named
    rw [written.stored] at stored
    cases stored
    rw [expects, written.follows] at expected_
    have same := Option.some.inj expected_
    push_cast at same
    omega
  · rw [← List.mem_singleton.mp new]
    exact attests

end VersionWritten

/-- The question that `candidate_issues` asks of every claim about oneself. -/
theorem personal_asked {candidate : CandidateFactV1} (personal : candidate.kind = .personalStatement) :
    "personal_role_requires_attestation" ∈ candidateIssues chars candidate := by
  simp [candidateIssues, personal]

/-- The review confirms, without attestation, a claim about oneself of which no question is
recorded. -/
def ConfirmsUnattested (command : PendingFactCommand) (previous : FactVersionRow) : Prop :=
  command.request.kind = "material_fact_review" ∧
    command.request.payload.decision = some "confirm" ∧
    command.request.payload.attested = false ∧
    previous.candidate.kind = .personalStatement ∧ previous.issues = []

theorem ConfirmsUnattested.made {command : PendingFactCommand} {previous : FactVersionRow}
    (unattested : ConfirmsUnattested command previous) (files : UUID → Option ByteArray) :
    nextVersion chars command.request.kind command.request.payload files previous =
      .ok (previous.candidate, .confirmed, []) := by
  obtain ⟨review, decided, attested, -, unasked⟩ := unattested
  simp [nextVersion, issuesUnderReview, review, decided, attested, unasked]

/-- Behind a revision or review every version is settled exactly if it does not confirm a claim
about oneself without attestation. -/
theorem VersionWritten.settled_iff (space : chars.isDecimal ' ' = false)
    {command : PendingFactCommand} {factId : UUID} {rows : FactRows} {set_ : FactSetRow}
    {previous next : FactVersionRow}
    (written : VersionWritten chars db command factId rows set_ previous next after)
    (sound : FactsSound chars db) (expected : ExpectedBefore accepted db)
    (known : command.request.kind ∈ factCommandKinds) (settled : AllSettled chars accepted db) :
    AllSettled chars (accepted ++ [command]) after ↔ ¬ ConfirmsUnattested command previous := by
  obtain ⟨candidate, made, same⟩ := written.made
  constructor
  · intro all unattested
    rw [unattested.made] at made
    obtain ⟨rfl, confirmed, -⟩ : previous.candidate = candidate ∧ .confirmed = next.reviewStatus ∧
        [] = next.issues := by simpa using made
    have here := all factId _ (written.facts ▸ Table.put_get_self _ _ _) next
      (List.mem_append_right _ List.mem_cons_self)
    have asked : _ ∈ candidateIssues chars _ := personal_asked unattested.2.2.2.1
    rw [← candidateIssues_same space same] at asked
    have own := written.attested_own expected ((here confirmed.symm).2 _ asked).2.2
    rw [unattested.2.2.1] at own
    cases own
  · intro attested other now stored row member
    rw [written.facts, Table.put_get] at stored
    split at stored
    next own =>
      subst own
      cases stored
      rcases List.mem_append.mp member with old | new
      · exact (settled _ rows written.stored row old).grown _
      · obtain rfl := List.mem_singleton.mp new
        intro confirmed
        obtain ⟨set', -, -, holds⟩ := sound _ rows written.stored
        have before := holds.versions previous written.listed
        rcases nextVersion_ok made with ⟨pending, -⟩ | ⟨noRevision, decided, rfl, -, none_left,
          cleared⟩ | ⟨-, rejected, -⟩
        · rw [confirmed] at pending
          cases pending
        · have review : command.request.kind = "material_fact_review" := by
            simp only [factCommandKinds, List.mem_cons, List.not_mem_nil, or_false] at known
            rcases known with add | revise | review
            · exact absurd add written.versioned
            · exact absurd revise noRevision
            · exact review
          refine ⟨none_left, fun issue asked => ?_⟩
          rw [candidateIssues_same space same] at asked
          -- an issue is open only where the review attests
          have waived : issue ∈ waivableIssues ∧ previous.candidate.kind = .personalStatement ∧
              command.request.payload.attested = true := by
            rcases cleared with unasked | ⟨attests, personal, waivable⟩
            · rcases before.recorded issue asked with open_ | ⟨waivable, personal⟩
              · rw [unasked] at open_
                cases open_
              · refine ⟨waivable, personal, ?_⟩
                by_contra unattested
                exact attested ⟨review, decided, by simpa using unattested, personal, unasked⟩
            · rcases before.recorded issue asked with open_ | ⟨waived, -⟩
              · exact ⟨waivable issue open_, personal, attests⟩
              · exact ⟨waived, personal, attests⟩
          refine ⟨waived.1, same.kind.trans waived.2.1, command,
            List.mem_append_right _ List.mem_cons_self, review, decided, waived.2.2, written.named,
            ?_⟩
          rw [written.expected, written.follows]
          simp
        · rw [confirmed] at rejected
          cases rejected
    next other_ => exact (settled other now stored row member).grown _

end Writes

/-! ## Runs -/

theorem filesForImport_snoc (db : ProjectFactDb) (snapshot : MaterialSnapshot)
    (workspaceId importId : UUID) :
    FilesKept (filesForImport db workspaceId importId)
      (filesForImport { db with snapshots := db.snapshots ++ [snapshot] } workspaceId importId) := by
  intro fileId content found
  simp only [filesForImport, Option.map_eq_some_iff] at found ⊢
  obtain ⟨file, here, rfl⟩ := found
  refine ⟨file, ?_, rfl⟩
  rw [List.filter_append, List.flatMap_append, List.find?_append, here]
  rfl

/-- A commit adds a fact or writes a version; the facts stay sound. -/
theorem commitFact_sound (space : chars.isDecimal ' ' = false) {world : ProjectFactWorld}
    (sound : world.Sound chars) {command : PendingFactCommand}
    {commandId : UUID} {after : ProjectFactDb} {reply : CommandAccepted}
    (committed : commitCommand projectFactTables (factWriter chars command.factId command.ids)
      command.tenant command.request command.digest commandId world.tables = .ok (after, reply)) :
    FactsSound chars after ∧ ExpectedBefore (world.accepted ++ [command]) after ∧
      (command.request.kind = "material_fact_add" ∧ FactsAdded world.tables after ∨
        ∃ factId rows set_ previous next,
          VersionWritten chars world.tables command factId rows set_ previous next after) := by
  obtain ⟨written, receipt, applied, -, -, rfl⟩ := commitFact_iff.mp ⟨reply, committed⟩
  have kept : FactsSound chars (projectFactTables.record ⟨commandId, command.tenant.workspaceId,
      command.tenant.actorUserId, command.request.clientRequestId, command.request.kind,
      command.digest, receipt, receipt.runId⟩ written) :=
    (applyFact_sound space sound.facts applied).kept rfl (fun _ _ found => found)
      (fun _ _ _ _ found => found)
  by_cases addition : command.request.kind = "material_fact_add"
  · obtain ⟨setId, set_, current, -, ⟨-, ordinal, candidate, passed, inserted⟩ | ⟨versioned, -⟩⟩ :=
      applyFact_cases applied
    case inr => exact absurd addition versioned
    obtain ⟨found, same⟩ := currentSet_some current
    obtain ⟨-, added, -⟩ := insertFact_sound space sound.facts found same (checkCandidate_ok passed)
      inserted
    refine ⟨kept, ?_, .inl ⟨addition, added.kept, added.fresh⟩⟩
    intro other member versioned factId named
    rcases List.mem_append.mp member with earlier | new
    · obtain ⟨rows, stored, n⟩ := sound.expected other earlier versioned factId named
      exact ⟨rows, added.kept factId rows stored, n⟩
    · rw [List.mem_singleton.mp new] at versioned
      exact absurd addition versioned
  · obtain ⟨factId, rows, set_, previous, next, wrote⟩ :=
      applyFact_version applied addition
    have wrote : VersionWritten chars world.tables command factId rows set_ previous next
        (projectFactTables.record ⟨commandId, command.tenant.workspaceId,
          command.tenant.actorUserId, command.request.clientRequestId, command.request.kind,
          command.digest, receipt, receipt.runId⟩ written) :=
      { wrote with facts := wrote.facts }
    exact ⟨kept, wrote.expectedBefore sound.expected, .inr ⟨factId, rows, set_, previous, next, wrote⟩⟩

/-- Every request keeps the facts sound. -/
theorem serveProjectFacts_sound (space : chars.isDecimal ' ' = false) {world : ProjectFactWorld}
    (sound : world.Sound chars) (op : ProjectFactOp) :
    (serveProjectFacts chars world op).1.Sound chars := by
  cases op with
  | others memberships projects imports runs =>
    refine ⟨?_, sound.expected, sound.kinds⟩
    exact sound.facts.kept rfl (fun _ _ found => found) (fun _ _ _ _ found => found)
  | persistSnapshot snapshot =>
    simp only [serveProjectFacts]
    split
    · exact sound
    · refine ⟨?_, sound.expected, sound.kinds⟩
      exact sound.facts.kept rfl (fun _ _ found => found) (filesForImport_snoc world.tables snapshot)
  | publish tenant projectId importId extractorDigest extraction complete setId createdAt ids =>
    simp only [serveProjectFacts]
    split
    · exact sound
    next published =>
      obtain ⟨kept, added⟩ := publishExtraction_sound space sound.facts published
      exact ⟨kept, sound.expected.added added, sound.kinds⟩
  | begin_ command =>
    simp only [serveProjectFacts]
    split
    · exact sound
    next known =>
      split
      · exact sound
      · split
        · exact sound
        · exact sound
        · refine ⟨sound.facts, sound.expected, fun other member => ?_⟩
          rcases List.mem_append.mp member with old | new
          · exact sound.kinds other old
          · rw [List.mem_singleton.mp new]
            exact not_not.mp known
  | finish commandId =>
    simp only [serveProjectFacts]
    split
    · exact sound
    next command found =>
      have rest : ∀ other ∈ world.pending.filter (fun other => other.commandId != commandId),
          other.request.kind ∈ factCommandKinds := fun other member =>
        sound.kinds other (List.mem_of_mem_filter member)
      split
      · exact ⟨sound.facts, sound.expected, rest⟩
      next tables accepted committed =>
        obtain ⟨kept, expected, -⟩ := commitFact_sound space sound committed
        exact ⟨kept, expected, rest⟩

theorem projectFacts_start : (projectFacts chars).start.Sound chars where
  facts factId rows stored := by cases stored
  expected command member := by cases member
  kinds command member := by cases member

theorem projectFacts_sound (space : chars.isDecimal ' ' = false) (ops : List ProjectFactOp) :
    ((projectFacts chars).reached ops).Sound chars :=
  (projectFacts chars).reached_invariant (P := fun world => world.Sound chars) projectFacts_start
    (fun _ op sound => serveProjectFacts_sound space sound op) ops

/-! ## Reviews without attestation -/

/-- The command under way is a review that goes through: it names the current version of a fact of
the current set, and its identities are unused. It confirms, without attestation, a claim about
oneself of which no question is recorded any more. -/
structure ReconfirmsUnattested (world : ProjectFactWorld) (commandId : UUID)
    (command : PendingFactCommand) (factId : UUID) (rows : FactRows) (set_ : FactSetRow)
    (previous : FactVersionRow) : Prop where
  pending : (world.pending.find? fun other => other.commandId == commandId) = some command
  named : command.request.payload.factId = some factId
  stored : world.tables.facts.get factId = some rows
  tenant : rows.workspaceId = command.tenant.workspaceId
  inSet : currentSet world.tables command.tenant command.request.payload.projectId =
    some (rows.factSetId, set_)
  imported : set_.importId = command.request.payload.importId
  expected : command.request.payload.expectedVersion = some (rows.currentVersion : Int)
  found : (rows.versions.find? fun row => row.version == rows.currentVersion) = some previous
  unattested : ConfirmsUnattested command previous
  unused : ∀ row ∈ world.tables.commands, row.id ≠ commandId
  first : findCommand world.tables.commands command.tenant command.request.clientRequestId = none

/-- The operation is the commit of such a review. -/
def CommitsUnattested (world : ProjectFactWorld) : ProjectFactOp → Prop
  | .finish commandId => ∃ command factId rows set_ previous,
    ReconfirmsUnattested world commandId command factId rows set_ previous
  | .others .. | .persistSnapshot .. | .publish .. | .begin_ .. => False

/-- Such a review does go through. -/
theorem ReconfirmsUnattested.commits {world : ProjectFactWorld} (sound : world.Sound chars)
    {commandId factId : UUID} {command : PendingFactCommand} {rows : FactRows} {set_ : FactSetRow}
    {previous : FactVersionRow}
    (review : ReconfirmsUnattested world commandId command factId rows set_ previous) :
    ∃ after reply, commitCommand projectFactTables (factWriter chars command.factId command.ids)
      command.tenant command.request command.digest commandId world.tables = .ok (after, reply) := by
  obtain ⟨own, -, -, holds⟩ := sound.facts factId rows review.stored
  have fresh : ∀ row ∈ rows.versions, row.version ≠ rows.currentVersion + 1 := by
    intro row member
    have := (holds.version_le member).2
    omega
  obtain ⟨rows', added⟩ : ∃ rows', addVersion { rows with
      currentVersion := rows.currentVersion + 1 } command.ids (rows.currentVersion + 1)
      previous.candidate .confirmed [] (some command.tenant.actorUserId) = .ok rows' :=
    ⟨_, addVersion_iff.mpr
      ⟨fresh, (holds.versions previous (List.mem_of_find?_eq_some review.found)).placed, rfl⟩⟩
  have made : nextVersion chars _ _ _ _ = _ := review.unattested.made
    (filesForImport world.tables command.tenant.workspaceId set_.importId)
  have applied := applyVersion_iff.mpr ⟨factId, rows, review.named, review.stored, review.tenant,
    rfl, review.expected, previous, review.found, previous.candidate, .confirmed, [], _, made,
    added, rfl⟩
  have versioned : command.request.kind ≠ "material_fact_add" := by
    rw [review.unattested.1]
    decide
  have wrote : ∃ after receipt, applyFact chars command.factId command.ids world.tables
      command.tenant command.request commandId = .ok (after, receipt) := by
    unfold applyFact
    simp [review.inSet, review.imported, versioned, applied, Except.map]
  obtain ⟨after, receipt, wrote⟩ := wrote
  obtain ⟨reply, committed⟩ := commitFact_iff.mpr
    ⟨after, receipt, wrote, review.unused, review.first, rfl⟩
  exact ⟨_, reply, committed⟩

/-- A request leaves every version settled exactly if it does not commit such a review. -/
theorem serveProjectFacts_settled (space : chars.isDecimal ' ' = false) {world : ProjectFactWorld}
    (sound : world.Sound chars) (settled : AllSettled chars world.accepted world.tables)
    (op : ProjectFactOp) :
    AllSettled chars (serveProjectFacts chars world op).1.accepted
        (serveProjectFacts chars world op).1.tables ↔ ¬ CommitsUnattested world op := by
  have adds {after : ProjectFactDb} (added : FactsAdded world.tables after) :
      AllSettled chars world.accepted after := by
    have more := settled.added added []
    rwa [List.append_nil] at more
  cases op with
  | others => exact iff_of_true settled id
  | persistSnapshot snapshot =>
    refine iff_of_true ?_ id
    simp only [serveProjectFacts]
    split
    · exact settled
    · exact settled
  | publish =>
    refine iff_of_true ?_ id
    simp only [serveProjectFacts]
    split
    · exact settled
    next published => exact adds (publishExtraction_sound space sound.facts published).2
  | begin_ =>
    refine iff_of_true ?_ id
    simp only [serveProjectFacts]
    split
    · exact settled
    · split
      · exact settled
      · split <;> exact settled
  | finish commandId =>
    cases pending : world.pending.find? fun other => other.commandId == commandId with
    | none =>
      refine iff_of_true (by simpa only [serveProjectFacts, pending] using settled) ?_
      rintro ⟨command, _, _, _, _, review⟩
      cases pending.symm.trans review.pending
    | some command =>
      have known := sound.kinds command (List.mem_of_find?_eq_some pending)
      simp only [serveProjectFacts, pending]
      split
      next reason refused =>
        refine iff_of_true settled ?_
        rintro ⟨command', factId, rows, set_, previous, review⟩
        obtain rfl := Option.some.inj (pending.symm.trans review.pending)
        obtain ⟨after, reply, committed⟩ := review.commits sound
        cases refused.symm.trans committed
      next after reply committed =>
        obtain ⟨-, -, ⟨addition, added⟩ | ⟨factId, rows, set_, previous, next, written⟩⟩ :=
          commitFact_sound space sound committed
        · refine iff_of_true (settled.added added _) ?_
          rintro ⟨command', factId, rows, set_, previous, review⟩
          obtain rfl := Option.some.inj (pending.symm.trans review.pending)
          rw [review.unattested.1] at addition
          exact absurd addition (by decide)
        · refine (written.settled_iff space sound.facts sound.expected known settled).trans
            (not_congr ⟨fun unattested => ?_, ?_⟩)
          · obtain ⟨-, -, -, unused, first, -⟩ := commitFact_iff.mp ⟨reply, committed⟩
            exact ⟨command, factId, rows, set_, previous,
              { pending, named := written.named, stored := written.stored
                tenant := written.tenant, inSet := written.inSet, imported := written.imported
                expected := written.expected, found := written.found, unattested, unused, first }⟩
          · rintro ⟨command', factId', rows', set', previous', review⟩
            obtain rfl := Option.some.inj (pending.symm.trans review.pending)
            obtain rfl := Option.some.inj (written.named.symm.trans review.named)
            obtain rfl := Option.some.inj (written.stored.symm.trans review.stored)
            obtain rfl := Option.some.inj (written.found.symm.trans review.found)
            exact review.unattested

/-! ## The lineage of facts -/

/-- A command that expects another version than the current one is refused. -/
theorem stale_command_refused {world : ProjectFactWorld} {commandId : UUID}
    {command : PendingFactCommand}
    (pending : (world.pending.find? fun other => other.commandId == commandId) = some command)
    (versioned : command.request.kind ≠ "material_fact_add") {factId : UUID} {rows : FactRows}
    (named : command.request.payload.factId = some factId)
    (stored : world.tables.facts.get factId = some rows)
    (stale : command.request.payload.expectedVersion ≠ some (rows.currentVersion : Int)) :
    ∃ reason, (serveProjectFacts chars world (.finish commandId)).2 = .error reason ∧
      (serveProjectFacts chars world (.finish commandId)).1.tables = world.tables := by
  simp only [serveProjectFacts, pending]
  split
  next reason _ => exact ⟨reason, rfl, rfl⟩
  next tables accepted committed =>
    obtain ⟨written, receipt, applied, -⟩ := commitFact_iff.mp ⟨accepted, committed⟩
    obtain ⟨other, found, set_, previous, next, wrote⟩ :=
      applyFact_version applied versioned
    obtain rfl := Option.some.inj (named.symm.trans wrote.named)
    obtain rfl := Option.some.inj (stored.symm.trans wrote.stored)
    exact absurd wrote.expected stale

/-- The lineage of the versions of every fact. -/
structure FactLineage (chars : CharacterTables) (world : ProjectFactWorld) : Prop where
  numbered : ∀ factId rows, world.tables.facts.get factId = some rows →
    rows.versions.map FactVersionRow.version = List.range' 1 rows.currentVersion ∧
      1 ≤ rows.currentVersion
  stale : ∀ commandId command,
    (world.pending.find? fun other => other.commandId == commandId) = some command →
    command.request.kind ≠ "material_fact_add" →
    ∀ factId rows, command.request.payload.factId = some factId →
      world.tables.facts.get factId = some rows →
      command.request.payload.expectedVersion ≠ some (rows.currentVersion : Int) →
      ∃ reason, (serveProjectFacts chars world (.finish commandId)).2 = .error reason ∧
        (serveProjectFacts chars world (.finish commandId)).1.tables = world.tables
  quoted : ∀ factId rows, world.tables.facts.get factId = some rows →
    ∃ set_, world.tables.factSets.get rows.factSetId = some set_ ∧
      set_.workspaceId = rows.workspaceId ∧
      ∀ row ∈ rows.versions, ∀ item ∈ row.candidate.evidence, checkEvidence
        (filesForImport world.tables set_.workspaceId set_.importId) item = .ok ()
  settled : AllSettled chars world.accepted world.tables

/-- All but the attestations holds in any case. -/
theorem ProjectFactWorld.Sound.lineage_iff {world : ProjectFactWorld} (sound : world.Sound chars) :
    FactLineage chars world ↔ AllSettled chars world.accepted world.tables := by
  refine ⟨FactLineage.settled, fun settled => ⟨?_, ?_, ?_, settled⟩⟩
  · intro factId rows stored
    obtain ⟨set_, -, -, holds⟩ := sound.facts factId rows stored
    exact ⟨holds.numbered, holds.positive⟩
  · exact fun commandId command pending versioned factId rows named stored stale =>
      stale_command_refused pending versioned named stored stale
  · intro factId rows stored
    obtain ⟨set_, found, same, holds⟩ := sound.facts factId rows stored
    exact ⟨set_, found, same, fun row member => (holds.versions row member).quoted⟩

/-- Any interleaving of extractions and commands keeps the lineage throughout exactly if it commits
no review that confirms without attestation what only an attestation can settle. -/
theorem fact_versions_lineage_iff (space : chars.isDecimal ' ' = false)
    (ops : List ProjectFactOp) :
    (projectFacts chars).Throughout (FactLineage chars) (projectFacts chars).start ops ↔
      (projectFacts chars).Guarded (fun world op => ¬ CommitsUnattested world op)
        (projectFacts chars).start ops := by
  have start : AllSettled chars [] (projectFacts chars).start.tables := by
    intro factId rows stored
    cases stored
  have kept (world op) : ProjectFactWorld.Sound chars world →
      ProjectFactWorld.Sound chars ((projectFacts chars).step world op).1 :=
    fun sound => serveProjectFacts_sound space sound op
  refine (projectFacts chars).throughout_iff_guarded kept ?_ projectFacts_start
    (projectFacts_start.lineage_iff.mpr start) ops
  intro world op sound lineage
  exact (serveProjectFacts_sound space sound op).lineage_iff.trans
    (serveProjectFacts_settled space sound lineage.settled op)

/-! ## A sample fact -/

namespace Sample

def importRun : RunRows where
  run :=
    { id := 70, workspaceId := 1, createdByUserId := 10, conversationId := 1, requestMessageId := 2,
      mode := .application, resumeDocumentId := none, requestIdentity := none,
      input := ⟨"import", false⟩, status := .completed, graphVersion := currentGraphVersion,
      nextEventSeq := 1, nextEventSeq_pos := by decide, resultJson := none, errorCategory := none,
      cancelRequestedAt := none, startedAt := none, finishedAt := none }
  job :=
    { id := 71, workspaceId := 1, originatingActorUserId := 10, runId := 70, status := .done,
      attempt := 1, maxAttempts := 3, availableAt := 0, createdAt := 0, leasedBy := none,
      ownerToken := none, leaseExpiresAt := none, resumeApprovalRequestId := none,
      errorSummary := none }
  actions := Table.empty
  events := []

/-- A claim about oneself, which no file supports. -/
def ownClaim : CandidateFactV1 where
  claim := "Built it".toList
  kind := .personalStatement
  conditions := ⟨none, none, none⟩
  evidence := []
  claim_bounds := by decide
  conditions_bounds := by simp [FactConditions.short]
  evidence_bound := by decide

/-- A review of version `n` of fact 65. -/
def factReview (n : Nat) (decision : String) (attested : Bool) : PendingFactCommand where
  commandId := 300 + n
  tenant := member
  request := ⟨n, "material_fact_review", some 61, 1,
    ⟨61, 80, some 65, some n, none, some decision, attested⟩, none⟩
  digest := "review"
  factId := 0
  ids := ⟨67 + n, fun _ => 0⟩

/-- The claim is extracted as fact 65 and confirmed with attestation. -/
def factRun : List ProjectFactOp :=
  [.others memberships [⟨61, 1, 10⟩] [⟨80, 1, 61, 70, some "digest", 0⟩]
      (Table.empty.put 70 importRun),
    .publish member 61 80 "extractor" ⟨[ownClaim], [], by decide⟩ true 63 0
      fun _ => (65, ⟨67, fun _ => 0⟩),
    .begin_ (factReview 1 "confirm" true), .finish 301]

/-- Then it is rejected, and confirmed once more without attestation. -/
def reconfirmingRun : List ProjectFactOp :=
  factRun ++ [.begin_ (factReview 2 "reject" false), .finish 302,
    .begin_ (factReview 3 "confirm" false), .finish 303]

end Sample

/-- The sample's claim has its attestation: what its confirmed second version leaves open was waived
by that version's own review. -/
theorem sample_fact_attested :
    (projectFacts asciiTables).Throughout (FactLineage asciiTables)
        (projectFacts asciiTables).start Sample.factRun ∧
      ∃ rows, ((projectFacts asciiTables).reached Sample.factRun).tables.facts.get 65 = some rows ∧
        rows.currentVersion = 2 ∧
        rows.versions.any (fun row => row.version == 2 && row.reviewStatus == .confirmed &&
          candidateIssues asciiTables row.candidate == waivableIssues) = true := by
  have present : (((projectFacts asciiTables).reached Sample.factRun).tables.facts.get 65).any
      (fun rows => rows.currentVersion == 2 && rows.versions.any fun row => row.version == 2 &&
        row.reviewStatus == .confirmed &&
          candidateIssues asciiTables row.candidate == waivableIssues) = true := by
    decide +kernel
  obtain ⟨rows, stored, shown⟩ := (Option.any_eq_true _ _).mp present
  obtain ⟨two, confirmed⟩ := Bool.and_eq_true_iff.mp shown
  refine ⟨(fact_versions_lineage_iff (by decide) Sample.factRun).mpr ⟨id, id, id, ?_, trivial⟩,
    rows, stored, by simpa using two, confirmed⟩
  rintro ⟨command, _, _, _, _, review⟩
  -- the one review under way attests
  have attests : ∀ other ∈ (((projectFacts asciiTables).reached (Sample.factRun.take 3)).pending),
      other.request.payload.attested = true := by
    decide +kernel
  have attested := attests command (List.mem_of_find?_eq_some review.pending)
  rw [review.unattested.2.2.1] at attested
  cases attested

/-- The last version of the sample's claim is confirmed without attestation. -/
theorem reconfirmed_unattested :
    ¬ (projectFacts asciiTables).Throughout (FactLineage asciiTables)
        (projectFacts asciiTables).start Sample.reconfirmingRun := by
  intro all
  have lineage : FactLineage asciiTables ((projectFacts asciiTables).reached
      Sample.reconfirmingRun) := Machine.throughout_last _ all
  have present : (((projectFacts asciiTables).reached Sample.reconfirmingRun).tables.facts.get 65).any
      (fun rows => rows.versions.any fun row => row.version == 4 &&
        row.reviewStatus == .confirmed && row.candidate.kind == .personalStatement) = true := by
    decide +kernel
  have unattested : ∀ command ∈ ((projectFacts asciiTables).reached Sample.reconfirmingRun).accepted,
      command.request.payload.attested = true →
        command.request.payload.expectedVersion = some 1 := by
    decide +kernel
  obtain ⟨rows, stored, shown⟩ := (Option.any_eq_true _ _).mp present
  obtain ⟨row, member, last⟩ := List.any_eq_true.mp shown
  simp only [Bool.and_eq_true, beq_iff_eq] at last
  obtain ⟨⟨four, confirmed⟩, personal⟩ := last
  obtain ⟨-, waived⟩ := lineage.settled 65 rows stored row member confirmed
  obtain ⟨-, -, command, accepted, -, -, attested, -, expected⟩ :=
    waived _ (personal_asked personal)
  rw [unattested command accepted attested, four] at expected
  exact absurd expected (by decide)

end Pathfinder
