import Pathfinder.Profiles.Sound

/-!
# Project links of a profile

The generation inputs of a session need one material project for each project of
the profile. A claim review checks its own project only, so two claims of one
project can come to name different ones; exactly such a review breaks the links.
-/
namespace Pathfinder
open KeyedTable Machines Journals

variable {chars : CharacterTables} {cfg : ResumeConfig}

/-- The linked claims of one project item name one material project. -/
def SingleLinks (rows : ProfileRows chars) : Prop :=
  ∀ j k claim other projectId otherId, rows.claims.get j = some claim →
    rows.claims.get k = some other →
    claim.claim.projectItemId = other.claim.projectItemId →
    claim.linkedProject = some projectId → other.linkedProject = some otherId →
    projectId = otherId

/-- The linked claims of every profile agree, and no session on it is refused its
generation inputs for conflicting links. -/
def LinksSingle (world : ProfileWorld chars) : Prop :=
  (∀ profileId rows, world.tables.profiles.get profileId = some rows → SingleLinks rows) ∧
  ∀ tenant sessionId, executionInputs world.tables tenant sessionId ≠
    .error (.invariant "profile project has conflicting fact links")

/-- The profile and the review of a request. -/
def ProfileOp.claimReview : ProfileOp chars → Option (UUID × ClaimReviewV1)
  | .profile _ request _ _ _ =>
    match request.payload, request.targetId with
    | .claimReview payload, some profileId => some (profileId, payload)
    | _, _ => none
  | _ => none

/-- The project a review links its claim to is that of the other linked claims of
the same project item. -/
def AgreesWithLinked (tables : ProfileDb chars) (profileId : UUID) (payload : ClaimReviewV1) :
    Prop :=
  ∀ rows claim k other projectId otherId, tables.profiles.get profileId = some rows →
    rows.claims.get payload.claimId = some claim → k ≠ payload.claimId →
    rows.claims.get k = some other →
    other.claim.projectItemId = claim.claim.projectItemId → payload.decision = .linked →
    payload.projectId = some projectId → other.linkedProject = some otherId →
    otherId = projectId

variable (cfg) in
/-- The request, if it is an accepted review, agrees with the links that are there. -/
def ReviewAgrees (world : ProfileWorld chars) (op : ProfileOp chars) : Prop :=
  ∀ profileId payload, op.claimReview = some (profileId, payload) →
    Fresh (serveProfile cfg world op).2 → AgreesWithLinked world.tables profileId payload

/-! ## The map of linked projects -/

/-- The map can be built exactly if no item is paired with two projects. -/
theorem projectMap_total {known : UUID → Option UUID} {pairs : List (UUID × UUID)}
    (agrees : ∀ pair ∈ pairs, ∀ projectId, known pair.1 = some projectId → projectId = pair.2)
    (single : ∀ pair ∈ pairs, ∀ other ∈ pairs, pair.1 = other.1 → pair.2 = other.2) :
    ∃ map, projectMap known pairs = .ok map := by
  induction pairs generalizing known with
  | nil => exact ⟨known, rfl⟩
  | cons pair rest ih =>
    have later : ∀ pair ∈ rest, ∀ other ∈ rest, pair.1 = other.1 → pair.2 = other.2 :=
      fun first member second other =>
        single first (List.mem_cons_of_mem _ member) second (List.mem_cons_of_mem _ other)
    unfold projectMap
    split
    · refine ih (fun other member projectId found => ?_) later
      by_cases here : other.1 = pair.1
      · rw [here, Function.update_self] at found
        rw [← Option.some.inj found]
        exact single pair List.mem_cons_self other (List.mem_cons_of_mem _ member) here.symm
      · rw [Function.update_of_ne here] at found
        exact agrees other (List.mem_cons_of_mem _ member) projectId found
    next previous found =>
      have same := agrees pair List.mem_cons_self previous found
      rw [if_neg (not_not.mpr same)]
      exact ih (fun other member => agrees other (List.mem_cons_of_mem _ member)) later

theorem mem_linkedProjects {rows : ProfileRows chars} {pair : UUID × UUID} :
    pair ∈ linkedProjects (rows.claims.scan.map Prod.snd) ↔
      ∃ k claim, rows.claims.get k = some claim ∧ claim.claim.projectItemId = pair.1 ∧
        claim.linkedProject = some pair.2 := by
  simp only [linkedProjects, List.mem_filterMap, List.mem_map, Prod.exists, Table.mem_scan,
    Option.map_eq_some_iff]
  constructor
  · rintro ⟨claim, ⟨k, stored, listed, rfl⟩, projectId, linked, rfl⟩
    exact ⟨k, _, listed, rfl, linked⟩
  · rintro ⟨k, claim, stored, item, linked⟩
    exact ⟨claim, ⟨k, claim, stored, rfl⟩, pair.2, linked, by rw [item]⟩

theorem singleLinks_map {rows : ProfileRows chars} (single : SingleLinks rows) :
    ∃ map, projectMap (fun _ => none) (linkedProjects (rows.claims.scan.map Prod.snd)) =
      .ok map := by
  refine projectMap_total (fun pair member projectId found => by cases found) ?_
  intro pair member other there same
  obtain ⟨j, claim, stored, item, linked⟩ := mem_linkedProjects.mp member
  obtain ⟨k, second, found, itemOther, linkedOther⟩ := mem_linkedProjects.mp there
  exact single j k claim second _ _ stored found (item.trans (same.trans itemOther.symm)) linked
    linkedOther

/-- Where the links of every profile agree, no session's inputs are refused for them. -/
theorem executionInputs_links {tables : ProfileDb chars}
    (single : ∀ profileId rows, tables.profiles.get profileId = some rows → SingleLinks rows)
    (tenant : TenantContext) (sessionId : UUID) :
    executionInputs tables tenant sessionId ≠
      .error (.invariant "profile project has conflicting fact links") := by
  unfold executionInputs
  split
  next reason refused =>
    rintro ⟨⟩
    rcases sessionAccess_error refused with same | same
    · cases same
    · simp at same
  · simp
  · split
    next reason refused =>
      rintro ⟨⟩
      cases profileInputs_error refused
    · split
      next reason refused =>
        rintro ⟨⟩
        cases effectivePreferences_error refused
      · intro failed
        cases stored : tables.profiles.get _ with
        | none =>
          rw [stored] at failed
          cases failed
        | some rows =>
          rw [stored] at failed
          obtain ⟨map, built⟩ := singleLinks_map (single _ rows stored)
          dsimp only at failed
          rw [built] at failed
          cases failed

/-! ## One review -/

theorem latestReview_eq (rows : ClaimRows) :
    rows.latestReview = latestBy ResumeClaimReview.version rows.reviews := by
  unfold ClaimRows.latestReview latestBy
  congr 1
  funext latest review
  cases latest <;> rfl

section Review
variable {rows : ProfileRows chars} {payload : ClaimReviewV1} {claim : ClaimRows}
  {reviewId actorUserId : UUID}

/-- After a review its claim is linked as the review says. -/
theorem linkedProject_addReview (sound : ProfileSound rows)
    (found : rows.claims.get payload.claimId = some claim) :
    (claim.addReview payload reviewId actorUserId).linkedProject =
      if payload.decision = .linked then payload.projectId else none := by
  obtain ⟨numbered, counted⟩ := sound.claims _ claim found
  have next : NumberedFrom ResumeClaimReview.version 1
      (claim.addReview payload reviewId actorUserId).reviews :=
    numberedFrom_append numbered (numberedFrom_singleton (by rw [counted, Nat.add_comm]))
  have latest : (claim.addReview payload reviewId actorUserId).latestReview =
      some ⟨reviewId, claim.claim.reviewVersion + 1, payload.decision, payload.projectId,
        actorUserId, payload.factVersionIds⟩ := by
    rw [latestReview_eq, latestBy_numbered next, ClaimRows.addReview, List.getLast?_concat]
  rw [ClaimRows.linkedProject, latest]

/-- A review keeps the links of its profile single exactly if it agrees with them. -/
theorem review_single_iff (sound : ProfileSound rows) (single : SingleLinks rows)
    (found : rows.claims.get payload.claimId = some claim) :
    SingleLinks { rows with
      claims := rows.claims.put payload.claimId
        (claim.addReview payload reviewId actorUserId) } ↔
    ∀ k other projectId otherId, k ≠ payload.claimId → rows.claims.get k = some other →
      other.claim.projectItemId = claim.claim.projectItemId → payload.decision = .linked →
      payload.projectId = some projectId → other.linkedProject = some otherId →
      otherId = projectId := by
  have reviewed : (claim.addReview payload reviewId actorUserId).linkedProject = _ :=
    linkedProject_addReview sound found
  constructor
  · intro after k other projectId otherId different stored item decided named linked
    refine after k payload.claimId other (claim.addReview payload reviewId actorUserId) otherId
      projectId ?_ (Table.put_get_self _ _ _) item linked ?_
    · exact (Table.put_get_of_ne _ _ different).trans stored
    · rw [reviewed, if_pos decided, named]
  · intro agrees
    -- the reviewed claim against any other
    have against {k : UUID} {other : ClaimRows} {projectId otherId : UUID}
        (different : k ≠ payload.claimId) (stored : rows.claims.get k = some other)
        (item : other.claim.projectItemId = claim.claim.projectItemId)
        (linked : (claim.addReview payload reviewId actorUserId).linkedProject = some projectId)
        (linkedOther : other.linkedProject = some otherId) : otherId = projectId := by
      rw [reviewed] at linked
      split at linked
      next decided =>
        exact agrees k other projectId otherId different stored item decided linked linkedOther
      · cases linked
    intro j k first second projectId otherId stored storedOther item linked linkedOther
    simp only [Table.put_get] at stored storedOther
    split at stored
    · cases stored
      split at storedOther
      · cases storedOther
        exact Option.some.inj (linked.symm.trans linkedOther)
      next different => exact (against different storedOther item.symm linked linkedOther).symm
    next different =>
      split at storedOther
      · cases storedOther
        exact against different stored item linkedOther linked
      · exact single j k first second projectId otherId stored storedOther item linked linkedOther

end Review

/-! ## Every run -/

section Runs
variable {tables after : ProfileDb chars} {op : ProfileOp chars}
  {reply : Except StoreError ResumeReply}

theorem linksSingle_iff {world : ProfileWorld chars} :
    LinksSingle world ↔
      ∀ profileId rows, world.tables.profiles.get profileId = some rows → SingleLinks rows :=
  ⟨fun both => both.1, fun single => ⟨single, executionInputs_links single⟩⟩

/-- Writing a profile whose links agree leaves all links agreeing. -/
theorem single_put {profileId : UUID} {later : ProfileRows chars}
    (single : ∀ profileId rows, tables.profiles.get profileId = some rows → SingleLinks rows)
    (written : after.profiles = tables.profiles.put profileId later) :
    (∀ profileId rows, after.profiles.get profileId = some rows → SingleLinks rows) ↔
      SingleLinks later := by
  rw [written]
  exact ⟨fun all => all profileId later (Table.put_get_self _ _ _),
    fun here => Table.forall_put single here⟩

theorem imported_single (tenant : TenantContext) (preview : SourcePreview) (ids : List UUID) :
    SingleLinks (importedRows tenant preview ids : ProfileRows chars) := by
  intro j k claim other projectId otherId stored _ _ linked
  have unreviewed := (claimTable_unreviewed ids preview.claims j claim stored).1
  rw [ClaimRows.linkedProject, ClaimRows.latestReview, unreviewed] at linked
  cases linked

theorem claimReview_profile {profileId : UUID} {payload : ClaimReviewV1}
    (asked : op.claimReview = some (profileId, payload)) :
    ∃ tenant request digest commandId facts,
      op = .profile tenant request digest commandId facts ∧
      request.payload = .claimReview payload ∧ request.targetId = some profileId := by
  cases op with
  | profile tenant request digest commandId facts =>
    dsimp only [ProfileOp.claimReview] at asked
    split at asked
    next review target payload_eq target_eq =>
      cases asked
      exact ⟨tenant, request, digest, commandId, facts, rfl, payload_eq, target_eq⟩
    · cases asked
  | _ => cases asked

/-- One request keeps the links single exactly if its review agrees with them. -/
theorem step_links {world : ProfileWorld chars} (op : ProfileOp chars)
    (sound : TablesSound world.tables) (links : LinksSingle world) :
    LinksSingle ((profileStores chars cfg).step world op).1 ↔ ReviewAgrees cfg world op := by
  have single := links.1
  rw [linksSingle_iff]
  rcases step_profiles (@serveProfile_step _ cfg world op) with
    ⟨same, stale⟩ | ⟨fresh, profileId, later, write, written⟩
  · refine iff_of_true ?_ ?_
    · intro profileId rows stored
      exact single profileId rows (same ▸ stored)
    · intro profileId payload asked fresh
      obtain ⟨tenant, request, digest, commandId, facts, rfl, -, -⟩ := claimReview_profile asked
      exact absurd fresh (stale rfl)
  refine (single_put single written).trans ?_
  cases write with
  | @imported tenant request digest commandId facts preview payload absent =>
    refine iff_of_true (imported_single _ _ _) ?_
    intro profileId review asked
    obtain ⟨_, _, _, _, _, same, reviewed, -⟩ := claimReview_profile asked
    cases same
    rw [payload] at reviewed
    cases reviewed
  | @edited tenant request digest commandId facts profileId rows later target stored edit =>
    generalize asked : request.payload = payload at edit
    cases edit with
    | version current same unreviewed =>
      refine iff_of_true (single _ rows stored) ?_
      intro profileId review claimed
      obtain ⟨_, _, _, _, _, same, reviewed, -⟩ := claimReview_profile claimed
      cases same
      exact absurd (asked.symm.trans reviewed) (unreviewed review)
    | preference current valid =>
      refine iff_of_true (single _ rows stored) ?_
      intro profileId review claimed
      obtain ⟨_, _, _, _, _, same, reviewed, -⟩ := claimReview_profile claimed
      cases same
      cases asked.symm.trans reviewed
    | @review review claim found unlinked =>
      refine (review_single_iff (sound.profiles _ rows stored) (single _ rows stored) found).trans
        ⟨fun agrees => ?_, fun agrees => ?_⟩
      · intro other payload claimed _ rows' claim' k linked p q there here
        obtain ⟨_, _, _, _, _, same, reviewed, targeted⟩ := claimReview_profile claimed
        cases same
        cases asked.symm.trans reviewed
        cases target.symm.trans targeted
        cases stored.symm.trans there
        cases found.symm.trans here
        exact agrees k linked p q
      · have claimed : (ProfileOp.profile tenant request digest commandId facts).claimReview =
            some (profileId, review) := by
          simp only [ProfileOp.claimReview, asked, target]
        intro k other p q
        exact agrees profileId review claimed fresh rows claim k other p q stored found
  | @preferred tenant request digest commandId facts sessionId session rows preferences expected
      payload target named stored =>
    refine iff_of_true (single _ rows stored) ?_
    intro profileId review asked
    obtain ⟨_, _, _, _, _, same, -, -⟩ := claimReview_profile asked
    cases same

variable (chars cfg) in
/-- In a run whose accepted reviews agree with the links that are there, and in no
other, the linked claims of each profile project name one material project in every
state, and no session is refused its inputs for conflicting links. -/
theorem project_links_single_iff (ops : List (ProfileOp chars)) :
    (profileStores chars cfg).Throughout LinksSingle (profileStores chars cfg).start ops ↔
      (profileStores chars cfg).Guarded (ReviewAgrees cfg) (profileStores chars cfg).start ops := by
  refine (profileStores chars cfg).throughout_iff_guarded
    (fun world op sound => serveProfile_sound world op sound)
    (fun world op sound links => step_links op sound links) (start_sound chars cfg) ?_ ops
  exact linksSingle_iff.mpr fun _ _ stored => (nomatch stored)

end Runs

/-! ## Two claims, two projects -/

namespace Sample

/-- A review that links a claim of profile 40 to a project, by one of its facts. -/
def linkClaim (requestId claimId projectId factVersionId : UUID) : ProfileOp asciiTables :=
  .profile member
    ⟨requestId, "resume_claim_review", some 40, 1,
      .claimReview ⟨claimId, 0, .linked, some projectId, [factVersionId]⟩, none⟩
    "review" (300 + requestId) ⟨0, [], 80 + requestId⟩

/-- The claims of one project are linked to projects 61 and 62. -/
def linkedTwice : List (ProfileOp asciiTables) :=
  profileSession ++ [linkClaim 3 41 61 67, linkClaim 4 42 62 68]

end Sample

/-- Both reviews are accepted, and the session's inputs can no longer be built. -/
theorem project_links_conflict : ¬ ∀ (cfg : ResumeConfig) (ops : List (ProfileOp asciiTables)),
    LinksSingle ((profileStores asciiTables cfg).reached ops) := by
  intro single
  have refused : executionInputs
      ((profileStores asciiTables Sample.profileConfig).reached Sample.linkedTwice).tables
      Sample.member 50 = .error (.invariant "profile project has conflicting fact links") := by
    rfl
  exact (single Sample.profileConfig Sample.linkedTwice).2 Sample.member 50 refused

end Pathfinder
