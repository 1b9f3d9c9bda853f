import Pathfinder.Guarantees.AttributionExact
import Pathfinder.Library.Journal
import Pathfinder.Lifecycle.SessionEffects

/-!
# The versions of a session are one chain

Commands and publications of one session run one at a time, under its row lock.
The optimistic checks do the rest: a version is published on the current one
only, and by the run that has not published yet.
-/
namespace Pathfinder
open KeyedTable Machines Journals Chains

/-- What the rows of a session satisfy beside the runs that they name. -/
structure SessionOk (runs : Table UUID RunRows) (rows : SessionRows) : Prop where
  numbered : NumberedFrom ResumeVersion.version 1 rows.versions
  linked : LinkedFrom ResumeVersion.id ResumeVersion.parentVersionId none rows.versions
  tip : rows.session.currentVersionId = tipFrom ResumeVersion.id none rows.versions
  ids : (rows.versions.map ResumeVersion.id).Nodup
  feedbackIds : (rows.feedback.map ResumeFeedback.id).Nodup
  runIds : (rows.session.runId :: rows.feedback.filterMap ResumeFeedback.runId).Nodup
  stored : ∀ runId ∈ rows.session.runId :: rows.feedback.filterMap ResumeFeedback.runId,
    (runs.get runId).isSome
  answered : ∀ version ∈ rows.versions, ∀ id, version.feedbackId = some id →
    ∃ row ∈ rows.feedback, row.id = id ∧ row.targetVersionId = some version.id
  generated : ∀ version ∈ rows.versions, version.feedbackId = none → version.version = 1

theorem newSession_ok {runs : Table UUID RunRows} {sessionId workspaceId ownerUserId runId : UUID}
    (stored : (runs.get runId).isSome) :
    SessionOk runs (newSession sessionId workspaceId ownerUserId runId) where
  numbered := numberedFrom_nil
  linked := trivial
  tip := rfl
  ids := List.nodup_nil
  feedbackIds := List.nodup_nil
  runIds := List.nodup_singleton _
  stored := by simpa [newSession] using stored
  answered := by simp [newSession]
  generated := by simp [newSession]

section Changes
variable {runs runs' : Table UUID RunRows} {rows : SessionRows}

/-- A rewrite of feedback rows that keeps their identity and their run. -/
theorem mapFeedback_ids {runId : UUID} {f : ResumeFeedback → ResumeFeedback}
    (same : ∀ row, (f row).id = row.id) :
    (rows.mapFeedback runId f).feedback.map ResumeFeedback.id =
      rows.feedback.map ResumeFeedback.id := by
  simp only [SessionRows.mapFeedback, List.map_map]
  refine List.map_congr_left fun row _ => ?_
  simp only [Function.comp_apply]
  split
  · exact same row
  · rfl

theorem mapFeedback_runs {runId : UUID} {f : ResumeFeedback → ResumeFeedback}
    (same : ∀ row, (f row).runId = row.runId) :
    (rows.mapFeedback runId f).feedback.filterMap ResumeFeedback.runId =
      rows.feedback.filterMap ResumeFeedback.runId := by
  simp only [SessionRows.mapFeedback, List.filterMap_map]
  refine List.filterMap_congr fun row _ => ?_
  simp only [Function.comp_apply]
  split
  · exact same row
  · rfl

theorem mapFeedback_origin {runId : UUID} {f : ResumeFeedback → ResumeFeedback}
    {row : ResumeFeedback} (member : row ∈ (rows.mapFeedback runId f).feedback)
    (same : ∀ row, (f row).id = row.id ∧ (f row).baseVersionId = row.baseVersionId) :
    ∃ origin ∈ rows.feedback,
      row.id = origin.id ∧ row.baseVersionId = origin.baseVersionId := by
  obtain ⟨origin, present, rfl⟩ := List.mem_map.mp member
  refine ⟨origin, present, ?_⟩
  split
  · exact same origin
  · exact ⟨rfl, rfl⟩

/-- Two feedback rows of one run are the same row. -/
theorem SessionOk.feedback_of_run (ok : SessionOk runs rows) {first second : ResumeFeedback}
    (hfirst : first ∈ rows.feedback) (hsecond : second ∈ rows.feedback) {runId : UUID}
    (firstRun : first.runId = some runId) (secondRun : second.runId = some runId) :
    first = second := by
  exact KeyedList.eq_of_key_some (List.nodup_cons.mp ok.runIds).2 hfirst hsecond firstRun secondRun

theorem SessionOk.kept (ok : SessionOk runs rows) (kept : RunsKept runs runs') :
    SessionOk runs' rows :=
  { ok with stored := fun runId member => kept runId (ok.stored runId member) }

theorem SessionOk.addFeedback (ok : SessionOk runs rows) (kept : RunsKept runs runs')
    {added : ResumeFeedback} (fresh : ∀ row ∈ rows.feedback, row.id ≠ added.id)
    (unused : ∀ runId, added.runId = some runId →
      runs.get runId = none ∧ (runs'.get runId).isSome) :
    SessionOk runs' (rows.addFeedback added) := by
  have feedbackIds : ((rows.feedback ++ [added]).map ResumeFeedback.id).Nodup :=
    KeyedList.nodup_snoc ok.feedbackIds fresh
  have answered : ∀ version ∈ rows.versions, ∀ id, version.feedbackId = some id →
      ∃ row ∈ rows.feedback ++ [added], row.id = id ∧ row.targetVersionId = some version.id := by
    intro version member id asked
    obtain ⟨row, present, facts⟩ := ok.answered version member id asked
    exact ⟨row, List.mem_append_left _ present, facts⟩
  have runs_eq : rows.session.runId :: (rows.feedback ++ [added]).filterMap ResumeFeedback.runId =
      (rows.session.runId :: rows.feedback.filterMap ResumeFeedback.runId) ++
        added.runId.toList := by
    cases held : added.runId <;> simp [held]
  have runIds : ((rows.session.runId :: rows.feedback.filterMap ResumeFeedback.runId) ++
      added.runId.toList).Nodup := by
    refine List.nodup_append.mpr ⟨ok.runIds, by cases added.runId <;> simp, ?_⟩
    intro runId listed other last same
    have absent := (unused other (by simpa [Option.mem_toList] using last)).1
    have present := ok.stored runId listed
    rw [same, absent] at present
    cases present
  refine ⟨ok.numbered, ok.linked, ok.tip, ok.ids, feedbackIds, ?_, ?_, answered, ok.generated⟩
  · show (rows.session.runId :: (rows.feedback ++ [added]).filterMap ResumeFeedback.runId).Nodup
    rwa [runs_eq]
  · intro runId listed
    have listed : runId ∈ rows.session.runId ::
      (rows.feedback ++ [added]).filterMap ResumeFeedback.runId := listed
    rw [runs_eq, List.mem_append] at listed
    rcases listed with old | last
    · exact kept runId (ok.stored runId old)
    · exact (unused runId (by simpa [Option.mem_toList] using last)).2

/-- A rewrite of feedback rows that touches no identity, run or target. -/
theorem SessionOk.mapFeedback (ok : SessionOk runs rows) (runId : UUID)
    {f : ResumeFeedback → ResumeFeedback} (id_eq : ∀ row, (f row).id = row.id)
    (run_eq : ∀ row, (f row).runId = row.runId)
    (target_eq : ∀ row ∈ rows.feedback, row.runId = some runId →
      ∀ version ∈ rows.versions, row.targetVersionId = some version.id →
        (f row).targetVersionId = some version.id) :
    SessionOk runs (rows.mapFeedback runId f) where
  numbered := ok.numbered
  linked := ok.linked
  tip := ok.tip
  ids := ok.ids
  feedbackIds := by
    rw [mapFeedback_ids id_eq]
    exact ok.feedbackIds
  runIds := by
    rw [mapFeedback_runs run_eq]
    exact ok.runIds
  stored := by
    rw [mapFeedback_runs run_eq]
    exact ok.stored
  answered := by
    intro version member id asked
    obtain ⟨row, present, rfl, target⟩ := ok.answered version member id asked
    refine ⟨_, List.mem_map_of_mem present, ?_⟩
    split
    next ran => exact ⟨id_eq row, target_eq row present ran version member target⟩
    · exact ⟨rfl, target⟩
  generated := ok.generated

/-- A version behind the current one. -/
theorem SessionOk.addVersion (ok : SessionOk runs rows) {version : ResumeVersion}
    (number : version.version = rows.versions.length + 1)
    (parent : version.parentVersionId = rows.session.currentVersionId)
    (fresh : ∀ row ∈ rows.versions, row.id ≠ version.id)
    (answered : ∀ id, version.feedbackId = some id →
      ∃ row ∈ rows.feedback, row.id = id ∧ row.targetVersionId = some version.id)
    (generated : version.feedbackId = none → version.version = 1) :
    SessionOk runs (rows.addVersion version) where
  numbered := numberedFrom_append ok.numbered (numberedFrom_singleton (by omega))
  linked := linkedFrom_snoc ok.linked (parent.trans ok.tip)
  tip := (tipFrom_snoc none rows.versions version).symm
  ids := KeyedList.nodup_snoc ok.ids fresh
  feedbackIds := ok.feedbackIds
  runIds := ok.runIds
  stored := ok.stored
  answered := by
    intro row member id asked
    rcases List.mem_append.mp member with old | last
    · exact ok.answered row old id asked
    · obtain rfl := List.mem_singleton.mp last
      exact answered id asked
  generated := by
    intro row member unasked
    rcases List.mem_append.mp member with old | last
    · exact ok.generated row old unasked
    · obtain rfl := List.mem_singleton.mp last
      exact generated unasked

/-- The current version carries the number of versions. -/
theorem SessionOk.current_number (ok : SessionOk runs rows) {base : ResumeVersion}
    (stored : base ∈ rows.versions) (current : rows.session.currentVersionId = some base.id) :
    base.version = rows.versions.length := by
  obtain ⟨entry, present, same, number, -⟩ := tipFrom_last ok.numbered (ok.tip.symm.trans current)
  rw [KeyedList.eq_of_key ok.ids stored present same.symm]
  exact number

theorem SessionOk.revised (ok : SessionOk runs rows) {runId : UUID} {feedback : ResumeFeedback}
    {base version : ResumeVersion} (questions : List Text)
    (found : rows.feedback.find? (fun row => row.runId == some runId) = some feedback)
    (unpublished : feedback.targetVersionId = none)
    (current : rows.session.currentVersionId = feedback.baseVersionId)
    (stored : base ∈ rows.versions) (named : some base.id = feedback.baseVersionId)
    (number : version.version = base.version + 1) (parent : version.parentVersionId = some base.id)
    (answers : version.feedbackId = some feedback.id)
    (fresh : ∀ row ∈ rows.versions, row.id ≠ version.id) :
    SessionOk runs
      (((rows.mapFeedback runId fun row => { row with questions := questions }).addVersion
        version).mapFeedback runId fun row => { row with targetVersionId := some version.id }) := by
  have present := List.mem_of_find?_eq_some found
  have run : feedback.runId = some runId := by simpa using List.find?_some found
  have asked : SessionOk runs
      (rows.mapFeedback runId fun row => { row with questions := questions }) :=
    ok.mapFeedback runId (fun _ => rfl) (fun _ => rfl) fun _ _ _ _ _ target => target
  have targeted := asked.mapFeedback runId
    (f := fun row => { row with targetVersionId := some version.id }) (fun _ => rfl)
    (fun _ => rfl) (by
      intro row member ran old _ target
      obtain ⟨origin, before, rfl⟩ := List.mem_map.mp member
      have originRun : origin.runId = some runId := by
        split at ran <;> exact ran
      have same := ok.feedback_of_run before present originRun run
      simp only [if_pos originRun] at target
      rw [same, unpublished] at target
      cases target)
  have behind : rows.session.currentVersionId = some base.id := current.trans named.symm
  refine targeted.addVersion ?_ (parent.trans behind.symm) fresh ?_ ?_
  · rw [number, ok.current_number stored behind]
    rfl
  · intro id same
    obtain rfl : feedback.id = id := Option.some.inj (answers.symm.trans same)
    refine ⟨{ feedback with questions := questions, targetVersionId := some version.id }, ?_, rfl,
      rfl⟩
    refine List.mem_map.mpr ⟨{ feedback with questions := questions }, ?_, by simp [run]⟩
    exact List.mem_map.mpr ⟨feedback, present, by simp [run]⟩
  · intro unasked
    rw [answers] at unasked
    cases unasked

/-- Every change of a session keeps it well formed. -/
theorem SessionOk.step {rows' : SessionRows} (ok : SessionOk runs rows)
    (kept : RunsKept runs runs') (effect : SessionEffect runs runs' rows rows') :
    SessionOk runs' rows' := by
  cases effect with
  | feedback added unpublished fresh unused => exact ok.addFeedback kept fresh unused
  | confirmation added fresh =>
    exact ⟨ok.numbered, ok.linked, ok.tip, ok.ids, ok.feedbackIds, ok.runIds,
      (ok.kept kept).stored, ok.answered, ok.generated⟩
  | asked runId questions =>
    exact (ok.kept kept).mapFeedback _ (fun _ => rfl) (fun _ => rfl) fun _ _ _ _ _ target => target
  | generated version first number root unasked fresh =>
    have none_yet := tipFrom_none (ok.tip.symm.trans first)
    refine (ok.kept kept).addVersion ?_ (root.trans first.symm) fresh ?_ fun _ => number
    · rw [number, none_yet]
      rfl
    · simp [unasked]
  | revised runId feedback base version questions found unpublished current stored named number
      parent answers fresh =>
    exact (ok.kept kept).revised questions found unpublished current stored named number parent
      answers fresh

end Changes

/-! ## What a request adds -/

/-- What a request may change of a session: rows are only added, each addition
raises the revision, and a version goes behind the current one. -/
structure Advances (before after : SessionRows) : Prop where
  versions : before.versions <+: after.versions
  feedback : before.feedback.map ResumeFeedback.id <+: after.feedback.map ResumeFeedback.id
  confirmations : before.confirmations <+: after.confirmations
  revision : after.session.revision + before.versions.length + before.feedback.length +
      before.confirmations.length =
    before.session.revision + after.versions.length + after.feedback.length +
      after.confirmations.length
  based : ∀ version ∈ after.versions, version ∉ before.versions →
    version.parentVersionId = before.session.currentVersionId ∧
      ∀ feedback ∈ after.feedback, version.feedbackId = some feedback.id →
        feedback.baseVersionId = before.session.currentVersionId

theorem advances_refl (rows : SessionRows) : Advances rows rows where
  versions := List.prefix_rfl
  feedback := List.prefix_rfl
  confirmations := List.prefix_rfl
  revision := rfl
  based := by
    intro version member absent
    exact absurd member absent

section Additions
variable {runs runs' : Table UUID RunRows} {rows rows' : SessionRows}

theorem advances_step (ok : SessionOk runs rows) (effect : SessionEffect runs runs' rows rows') :
    Advances rows rows' := by
  cases effect with
  | feedback added unpublished fresh unused =>
    refine ⟨List.prefix_rfl, ?_, List.prefix_rfl, ?_, fun _ member absent => absurd member absent⟩
    · exact ⟨[added.id], by simp [SessionRows.addFeedback]⟩
    · simp only [SessionRows.addFeedback, List.length_append, List.length_singleton]
      omega
  | confirmation added fresh =>
    refine ⟨List.prefix_rfl, List.prefix_rfl, List.prefix_append _ _, ?_,
      fun _ member absent => absurd member absent⟩
    simp only [SessionRows.addConfirmation, List.length_append, List.length_singleton]
    omega
  | asked runId questions =>
    refine ⟨List.prefix_rfl, ?_, List.prefix_rfl, ?_, fun _ member absent => absurd member absent⟩
    · have same : (rows.mapFeedback runId fun row =>
          { row with questions := questions }).feedback.map ResumeFeedback.id =
          rows.feedback.map ResumeFeedback.id := mapFeedback_ids fun _ => rfl
      exact same ▸ List.prefix_rfl
    · simp [SessionRows.mapFeedback]
  | generated version first number root unasked fresh =>
    refine ⟨List.prefix_append _ _, List.prefix_rfl, List.prefix_rfl, ?_, ?_⟩
    · simp only [SessionRows.addVersion, List.length_append, List.length_singleton]
      omega
    · intro other member absent
      obtain rfl : other = version := by
        simpa [SessionRows.addVersion, absent] using member
      refine ⟨root.trans first.symm, fun feedback _ asked => ?_⟩
      rw [unasked] at asked
      cases asked
  | revised runId feedback base version questions found unpublished current stored named number
      parent answers fresh =>
    refine ⟨List.prefix_append _ _, ?_, List.prefix_rfl, ?_, ?_⟩
    · have outer : ((rows.mapFeedback runId fun row =>
          { row with questions := questions }).feedback.map ResumeFeedback.id) =
          rows.feedback.map ResumeFeedback.id := mapFeedback_ids fun _ => rfl
      rw [mapFeedback_ids]
      · exact outer ▸ List.prefix_rfl
      · exact fun _ => rfl
    · simp only [SessionRows.mapFeedback, SessionRows.addVersion, List.length_append,
        List.length_singleton, List.length_map]
      omega
    · intro other member absent
      have behind : rows.session.currentVersionId = some base.id := current.trans named.symm
      obtain rfl : other = version := by
        simpa [SessionRows.mapFeedback, SessionRows.addVersion, absent] using member
      refine ⟨parent.trans behind.symm, fun row listed asked => ?_⟩
      obtain ⟨middle, between, rowId, rowBase⟩ := mapFeedback_origin listed fun _ => ⟨rfl, rfl⟩
      obtain ⟨origin, before, middleId, middleBase⟩ :=
        mapFeedback_origin between fun _ => ⟨rfl, rfl⟩
      have ids : origin.id = feedback.id := by
        rw [← middleId, ← rowId]
        exact Option.some.inj (asked.symm.trans answers)
      have origin_eq : origin = feedback := KeyedList.eq_of_key ok.feedbackIds before
        (List.mem_of_find?_eq_some found) ids
      rw [rowBase, middleBase, origin_eq, current]

end Additions
/-! ## Every run -/

/-- The versions that a run has published. -/
def SessionRows.publishedBy (rows : SessionRows) (runId : UUID) : List ResumeVersion :=
  rows.versions.filter fun version => match version.feedbackId with
    | none => rows.session.runId == runId
    | some id => rows.feedback.any fun row => row.id == id && row.runId == some runId

/-- The versions of a session are numbered from 1, each the child of the one
before, the current one is the last, and no run has published two of them. -/
structure Lineage (rows : SessionRows) : Prop where
  numbered : rows.versions.map ResumeVersion.version = List.range' 1 rows.versions.length
  root : ∀ version, rows.versions[0]? = some version → version.parentVersionId = none
  parents : ∀ k first second, rows.versions[k]? = some first →
    rows.versions[k + 1]? = some second → second.parentVersionId = some first.id
  empty : rows.session.currentVersionId = none ↔ rows.versions = []
  highest : ∀ current, rows.session.currentVersionId = some current →
    ∃ version ∈ rows.versions, version.id = current ∧
      ∀ other ∈ rows.versions, other.version ≤ version.version
  once : ∀ runId, (rows.publishedBy runId).length ≤ 1

theorem SessionOk.published_eq {runs : Table UUID RunRows} {rows : SessionRows}
    (ok : SessionOk runs rows) {runId : UUID} {first second : ResumeVersion}
    (hfirst : first ∈ rows.publishedBy runId) (hsecond : second ∈ rows.publishedBy runId) :
    first = second := by
  obtain ⟨own, apart⟩ := List.nodup_cons.mp ok.runIds
  have numbers : (rows.versions.map ResumeVersion.version).Nodup := by
    rw [ok.numbered]
    exact List.nodup_range'
  have by_feedback : ∀ version ∈ rows.publishedBy runId, ∀ id, version.feedbackId = some id →
      ∃ row ∈ rows.feedback, row.runId = some runId ∧ row.targetVersionId = some version.id := by
    intro version published id asked
    obtain ⟨member, by_run⟩ := List.mem_filter.mp published
    obtain ⟨row, present, rfl, target⟩ := ok.answered version member id asked
    rw [asked] at by_run
    obtain ⟨other, listed, same⟩ := List.any_eq_true.mp by_run
    simp only [Bool.and_eq_true, beq_iff_eq] at same
    have equal := KeyedList.eq_of_key ok.feedbackIds listed present same.1
    exact ⟨row, present, equal ▸ same.2, target⟩
  have by_generation : ∀ version ∈ rows.publishedBy runId, version.feedbackId = none →
      rows.session.runId = runId ∧ version.version = 1 := by
    intro version published unasked
    obtain ⟨member, by_run⟩ := List.mem_filter.mp published
    rw [unasked] at by_run
    exact ⟨by simpa using by_run, ok.generated version member unasked⟩
  have memberFirst := (List.mem_filter.mp hfirst).1
  have memberSecond := (List.mem_filter.mp hsecond).1
  cases askedFirst : first.feedbackId with
  | none =>
    obtain ⟨run, numberFirst⟩ := by_generation first hfirst askedFirst
    cases askedSecond : second.feedbackId with
    | none =>
      obtain ⟨-, numberSecond⟩ := by_generation second hsecond askedSecond
      exact KeyedList.eq_of_key numbers memberFirst memberSecond
        (numberFirst.trans numberSecond.symm)
    | some id =>
      obtain ⟨row, present, by_run, -⟩ := by_feedback second hsecond id askedSecond
      exact absurd (List.mem_filterMap.mpr ⟨row, present, by_run.trans (by rw [run])⟩) own
  | some id =>
    obtain ⟨row, present, by_run, target⟩ := by_feedback first hfirst id askedFirst
    cases askedSecond : second.feedbackId with
    | none =>
      obtain ⟨run, -⟩ := by_generation second hsecond askedSecond
      exact absurd (List.mem_filterMap.mpr ⟨row, present, by_run.trans (by rw [run])⟩) own
    | some id' =>
      obtain ⟨row', present', by_run', target'⟩ := by_feedback second hsecond id' askedSecond
      obtain rfl := ok.feedback_of_run present present' by_run by_run'
      exact KeyedList.eq_of_key ok.ids memberFirst memberSecond
        (Option.some.inj (target.symm.trans target'))

theorem SessionOk.lineage {runs : Table UUID RunRows} {rows : SessionRows}
    (ok : SessionOk runs rows) : Lineage rows where
  numbered := ok.numbered
  root := by
    intro version first
    cases listed : rows.versions with
    | nil => simp [listed] at first
    | cons head rest =>
      have linked := ok.linked
      rw [listed] at first linked
      obtain rfl : head = version := by simpa using first
      exact linked.1
  parents _ _ _ here next := linkedFrom_next ok.linked here next
  empty := by
    rw [ok.tip]
    refine ⟨tipFrom_none, fun none_yet => ?_⟩
    rw [none_yet]
    rfl
  highest := by
    intro current same
    obtain ⟨version, present, id, -, most⟩ := tipFrom_last ok.numbered (ok.tip.symm.trans same)
    exact ⟨version, present, id, most⟩
  once := by
    intro runId
    have distinct : (rows.publishedBy runId).Nodup := ok.ids.of_map.filter _
    match listed : rows.publishedBy runId with
    | [] => exact Nat.zero_le 1
    | [_] => exact Nat.le_refl 1
    | first :: second :: rest =>
      rw [listed] at distinct
      have same : first = second :=
        ok.published_eq (listed ▸ List.mem_cons_self)
          (listed ▸ List.mem_cons_of_mem _ List.mem_cons_self)
      exact absurd (same ▸ List.mem_cons_self) (List.nodup_cons.mp distinct).1

section Steps
variable {runs runs' : Table UUID RunRows} {sessions sessions' : Table UUID SessionRows}

theorem SessionsStep.ok (step : SessionsStep runs runs' sessions sessions')
    (kept : RunsKept runs runs')
    (ok : ∀ sessionId rows, sessions.get sessionId = some rows → SessionOk runs rows) :
    ∀ sessionId rows, sessions'.get sessionId = some rows → SessionOk runs' rows := by
  have before : ∀ sessionId rows, sessions.get sessionId = some rows → SessionOk runs' rows :=
    fun sessionId rows stored => (ok sessionId rows stored).kept kept
  cases step with
  | same => exact before
  | created sessionId workspaceId ownerUserId runId absent unused stored =>
    exact Table.forall_put before (newSession_ok stored)
  | changed sessionId found effect =>
    exact Table.forall_put before ((ok sessionId _ found).step kept effect)

/-- A request leaves a session alone or advances it. -/
theorem SessionsStep.advances (step : SessionsStep runs runs' sessions sessions')
    {sessionId : UUID} {rows : SessionRows} (ok : SessionOk runs rows)
    (stored : sessions.get sessionId = some rows) :
    ∃ after, sessions'.get sessionId = some after ∧ Advances rows after := by
  cases step with
  | same => exact ⟨rows, stored, advances_refl rows⟩
  | created otherId workspaceId ownerUserId runId absent unused present =>
    have different : sessionId ≠ otherId := by
      rintro rfl
      rw [absent] at stored
      cases stored
    exact ⟨rows, (Table.put_get_of_ne _ _ different).trans stored, advances_refl rows⟩
  | @changed otherId found rows' present effect =>
    by_cases same : sessionId = otherId
    · subst same
      obtain rfl : found = rows := Option.some.inj (present.symm.trans stored)
      exact ⟨rows', Table.put_get_self _ _ _, advances_step ok effect⟩
    · exact ⟨rows, (Table.put_get_of_ne _ _ same).trans stored, advances_refl rows⟩

end Steps

variable {cfg : ResumeConfig}

namespace Sample

def resumeJob (runId : UUID) (graphVersion : GraphVersion) (now : Timestamp)
    (ownerToken : UUID) : ClaimedJob :=
  { jobId := runId + 1, workspaceId := 1, runId := runId, originatingActorUserId := 10,
    graphVersion := graphVersion, attempt := 1, maxAttempts := 3, ownerToken := ownerToken,
    leaseExpiresAt := now + 10, resumeApprovalRequestId := none }

/-- A worker takes the run and publishes version `versionId`. -/
def published (runId : UUID) (generation : Bool) (versionId : UUID) (now : Timestamp)
    (ownerToken : UUID) : List ResumeOp :=
  let job := resumeJob runId (.resume (if generation then 3 else 4)) now ownerToken
  [.store (claim now ownerToken), .store (.prepare job none now),
    .publish job generation ⟨some sampleGenerated, [], "candidate"⟩
      { versionId := versionId, access := .ok (), checked := .ok (),
        staged := .ok (versionId + 100) } now]

end Sample

end Pathfinder
