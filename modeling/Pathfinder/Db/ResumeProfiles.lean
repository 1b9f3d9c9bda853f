import Pathfinder.Db.ProfileModels
import Pathfinder.Db.ResumePublication

/-!
# Profiles and the review of their claims

`_ProfileWriter` of `db/resume_profiles.py`. Every command but the import holds
the row lock of its profile from `authorize_and_lock` on. What
`parse_resume_source` finds in a source is an argument; the columns that record
the source are left out.
-/
namespace Pathfinder
open KeyedTable

variable {chars : CharacterTables}

/-! ## Edits of the content -/

namespace ResumeContentV1

/-- The display name is replaced and waits for its review. -/
def setDisplayName (content : ResumeContentV1) (value : Text)
    (bounds : 1 ≤ value.length ∧ value.length ≤ 200) : ResumeContentV1 where
  data := { content.data with displayName := value, displayNameReviewStatus := .pending }
  valid := by
    have valid := content.valid
    simp only [ResumeContent.valid, Bool.and_eq_true] at valid ⊢
    simp [bounds, valid]

/-- One contact field is replaced and waits for its review. -/
def setContact (content : ResumeContentV1) (itemId : UUID) (value : Text)
    (bounds : 1 ≤ value.length ∧ value.length ≤ 300) : ResumeContentV1 where
  data := { content.data with
    contact := content.data.contact.map fun item =>
      if item.id = itemId then { item with value := value, reviewStatus := .pending } else item }
  valid := by
    have valid := content.valid
    simp only [ResumeContent.valid, Bool.and_eq_true, List.all_map] at valid ⊢
    refine ⟨⟨⟨⟨valid.1.1.1.1, List.all_eq_true.mpr fun item member => ?_⟩, valid.1.1.2⟩,
      valid.1.2⟩, valid.2⟩
    have kept := List.all_eq_true.mp valid.1.1.1.2 item member
    simp only [ContactField.valid, Function.comp_apply] at kept ⊢
    split
    · simp_all
    · exact kept

/-- The item of this id is marked as reviewed, in every section that has it. -/
def markReviewed (content : ResumeContentV1) (itemId : UUID) : ResumeContentV1 where
  data := { content.data with
    contact := content.data.contact.map fun item =>
      if item.id = itemId then { item with reviewStatus := .reviewed } else item
    education := content.data.education.map fun item =>
      if item.id = itemId then { item with reviewStatus := .reviewed } else item
    projects := content.data.projects.map fun item =>
      if item.id = itemId then { item with reviewStatus := .reviewed } else item
    skills := content.data.skills.map fun item =>
      if item.id = itemId then { item with reviewStatus := .reviewed } else item }
  valid := by
    have valid := content.valid
    simp only [ResumeContent.valid, Bool.and_eq_true, List.all_map, List.all_eq_true,
      Function.comp_apply] at valid ⊢
    obtain ⟨⟨⟨⟨name, contact⟩, education⟩, projects⟩, skills⟩ := valid
    refine ⟨⟨⟨⟨name, ?_⟩, ?_⟩, ?_⟩, ?_⟩ <;> intro item member
    · split
      · exact contact item member
      · exact contact item member
    · split
      · exact education item member
      · exact education item member
    · split
      · exact projects item member
      · exact projects item member
    · split
      · exact skills item member
      · exact skills item member

/-- The display name is marked as reviewed. -/
def markNameReviewed (content : ResumeContentV1) : ResumeContentV1 where
  data := { content.data with displayNameReviewStatus := .reviewed }
  valid := content.valid

end ResumeContentV1

/-! ## Payloads -/

/-- A complete preview of a source. -/
structure SourcePreview where
  content : ResumeContentV1
  claims : List ResumeSourceClaim

/-- `ContactEditV1`. -/
structure ContactEditV1 where
  expectedVersion : Nat
  itemId : UUID
  value : Text
  bounds : 1 ≤ value.length ∧ value.length ≤ 300

/-- `ClaimReviewV1`. -/
structure ClaimReviewV1 where
  claimId : UUID
  expectedReviewVersion : Nat
  decision : ClaimDecision
  projectId : Option UUID
  factVersionIds : List UUID
  deriving DecidableEq, Repr

/-- The payloads of the five kinds. -/
inductive ProfilePayload (chars : CharacterTables) where
  | profileImport (preview : Option SourcePreview)
  | contactEdit (payload : ContactEditV1)
  | itemReview (expectedVersion : Nat) (itemId : UUID)
  | preferenceUpdate (expectedVersion : Nat) (preferences : ResumePreferencesV1 chars)
  | claimReview (payload : ClaimReviewV1)

/-- The identities a command draws. -/
structure ProfileFacts where
  profileId : UUID
  claimIds : List UUID
  reviewId : UUID

/-! ## The branches of `apply` -/

/-- The claims of an import under the ids drawn for them. -/
def claimTable (ids : List UUID) (claims : List ResumeSourceClaim) : Table UUID ClaimRows :=
  (ids.zip claims).foldl
    (fun table entry => table.put entry.1 ⟨{ entry.2 with reviewVersion := 0 }, []⟩) Table.empty

/-- The rows of a new profile. -/
def importedRows (tenant : TenantContext) (preview : SourcePreview) (claimIds : List UUID) :
    ProfileRows chars where
  profile := ⟨tenant.workspaceId, tenant.actorUserId, 1, 1⟩
  versions := [⟨1, preview.content⟩]
  preferences := [⟨1, defaultPreferences⟩]
  claims := claimTable claimIds preview.claims

/-- The import of a source; a drawn id that exists is refused by its primary key. -/
def importProfile (tables : ProfileDb chars) (tenant : TenantContext)
    (preview : Option SourcePreview) (facts : ProfileFacts) : Except StoreError (ProfileDb chars) :=
  match preview with
  | none => .error (.validation "resume source cannot be imported")
  | some preview =>
    if tables.profiles.any fun rows => rows.profile.workspaceId == tenant.workspaceId &&
        rows.profile.ownerUserId == tenant.actorUserId then
      .error (.conflict "resume profile already exists")
    else if (tables.profiles.get facts.profileId).isSome then
      .error (.integrity "pk_resume_profiles")
    else if facts.claimIds.length ≠ preview.claims.length ∨ ¬ facts.claimIds.Nodup ∨
        tables.profiles.any (fun rows => facts.claimIds.any fun id =>
          (rows.claims.get id).isSome) then
      .error (.integrity "pk_resume_source_claims")
    else .ok (tables.putProfile facts.profileId (importedRows tenant preview facts.claimIds))

/-- `_profile`, for a role that has been read. -/
def findProfile (tables : ProfileDb chars) (tenant : TenantContext) (profileId : UUID)
    (edit : Bool) : Except StoreError (ProfileRows chars) :=
  match (tables.profiles.get profileId).filter fun rows =>
      rows.profile.workspaceId == tenant.workspaceId with
  | none => .error .notFound
  | some rows =>
    if (rows.profile.ownerUserId ≠ tenant.actorUserId ∧ tenant.role ≠ .admin) ∨
        (edit = true ∧ tenant.role = .reviewer) then .error .notFound
    else .ok rows

/-- `_new_version`. -/
def ProfileRows.newVersion (rows : ProfileRows chars) (content : ResumeContentV1) :
    ProfileRows chars :=
  { rows with
    profile := { rows.profile with currentVersion := rows.profile.currentVersion + 1 }
    versions := rows.versions ++ [⟨rows.profile.currentVersion + 1, content⟩] }

/-- The insert of a preference version behind the current one. -/
def ProfileRows.newPreference (rows : ProfileRows chars) (preferences : ResumePreferencesV1 chars) :
    ProfileRows chars :=
  { rows with
    profile := { rows.profile with
      currentPreferenceVersion := rows.profile.currentPreferenceVersion + 1 }
    preferences := rows.preferences ++
      [⟨rows.profile.currentPreferenceVersion + 1, preferences⟩] }

/-- The content behind an accepted contact edit. -/
def editContact (content : ResumeContentV1) (payload : ContactEditV1) :
    Except StoreError ResumeContentV1 :=
  if payload.itemId = content.data.displayNameId then
    if short : payload.value.length ≤ 200 then
      .ok (content.setDisplayName payload.value ⟨payload.bounds.1, short⟩)
    else .error (.validation "display name is too long")
  else if payload.itemId ∉ content.data.contact.map ContactField.id then .error .notFound
  else .ok (content.setContact payload.itemId payload.value payload.bounds)

/-- The content behind an accepted item review. -/
def reviewItem (content : ResumeContentV1) (itemId : UUID) : Except StoreError ResumeContentV1 :=
  if itemId = content.data.displayNameId then .ok content.markNameReviewed
  else if itemId ∉ content.data.contact.map ContactField.id ++
      content.data.education.map EducationEntry.id ++ content.data.projects.map ProjectEntry.id ++
      content.data.skills.map SkillCategory.id then .error .notFound
  else .ok (content.markReviewed itemId)

/-- The confirmed fact versions among `ids` that belong to a fact set of the project. -/
def confirmedVersions (materials : MaterialDb) (workspaceId projectId : UUID) (ids : List UUID) :
    List MaterialFactVersion :=
  materials.factVersions.filter fun version =>
    version.workspaceId == workspaceId && ids.contains version.id &&
      version.reviewStatus == .confirmed &&
      materials.facts.any fun fact => fact.workspaceId == workspaceId && fact.id == version.factId &&
        materials.factSets.any fun factSet => factSet.workspaceId == workspaceId &&
          factSet.id == fact.factSetId && factSet.projectId == projectId

/-- The checks of a claim review's references. -/
def checkReferences (materials : MaterialDb) (tenant : TenantContext) (payload : ClaimReviewV1) :
    Except StoreError Unit :=
  if payload.decision = .linked then
    match payload.projectId with
    | none => .error (.validation "linked claim requires distinct confirmed facts")
    | some projectId =>
      if payload.factVersionIds = [] ∨ ¬ payload.factVersionIds.Nodup then
        .error (.validation "linked claim requires distinct confirmed facts")
      else match projectAccess materials tenant projectId with
      | .error reason => .error reason
      | .ok () =>
        if (confirmedVersions materials tenant.workspaceId projectId
            payload.factVersionIds).length ≠ payload.factVersionIds.length then
          .error (.validation "linked fact is not confirmed in this project")
        else .ok ()
  else if payload.projectId.isSome ∨ payload.factVersionIds ≠ [] then
    .error (.validation "unlinked claim cannot carry fact references")
  else .ok ()

/-- The claim behind an accepted review. -/
def ClaimRows.addReview (rows : ClaimRows) (payload : ClaimReviewV1) (reviewId actorUserId : UUID) :
    ClaimRows where
  claim := { rows.claim with reviewVersion := rows.claim.reviewVersion + 1 }
  reviews := rows.reviews ++ [⟨reviewId, rows.claim.reviewVersion + 1, payload.decision,
    payload.projectId, actorUserId, payload.factVersionIds⟩]

/-- The branch of `resume_claim_review`. -/
def reviewClaim (materials : MaterialDb) (tenant : TenantContext) (rows : ProfileRows chars)
    (payload : ClaimReviewV1) (reviewId : UUID) : Except StoreError (ProfileRows chars) :=
  match rows.claims.get payload.claimId with
  | none => .error .notFound
  | some claim =>
    if claim.claim.reviewVersion ≠ payload.expectedReviewVersion then
      .error (.conflict "claim review is stale")
    else (checkReferences materials tenant payload).map fun _ =>
      { rows with
        claims := rows.claims.put payload.claimId
          (claim.addReview payload reviewId tenant.actorUserId) }

/-- The branches that write to an existing profile. -/
def editProfile (materials : MaterialDb) (tenant : TenantContext) (rows : ProfileRows chars)
    (facts : ProfileFacts) : ProfilePayload chars → Except StoreError (ProfileRows chars)
  | .profileImport _ => .error (.value "AssertionError")
  | .claimReview payload =>
    match rows.currentVersion with
    | none => .error .notFound
    | some _ => reviewClaim materials tenant rows payload facts.reviewId
  | .contactEdit payload =>
    match rows.currentVersion with
    | none => .error .notFound
    | some old =>
      if payload.expectedVersion ≠ rows.profile.currentVersion then
        .error (.conflict "profile version is stale")
      else (editContact old.content payload).map rows.newVersion
  | .itemReview expectedVersion itemId =>
    match rows.currentVersion with
    | none => .error .notFound
    | some old =>
      if expectedVersion ≠ rows.profile.currentVersion then
        .error (.conflict "profile version is stale")
      else (reviewItem old.content itemId).map rows.newVersion
  | .preferenceUpdate expectedVersion preferences =>
    match rows.currentVersion with
    | none => .error .notFound
    | some old =>
      if expectedVersion ≠ rows.profile.currentPreferenceVersion then
        .error (.conflict "preference version is stale")
      else (validatePreferenceTargets old.content.data preferences).map fun _ =>
        rows.newPreference preferences

/-- The resource a receipt names. -/
def ProfilePayload.resource (profileId : UUID) (facts : ProfileFacts) :
    ProfilePayload chars → UUID
  | .profileImport _ => facts.profileId
  | .claimReview _ => facts.reviewId
  | .contactEdit _ | .itemReview .. | .preferenceUpdate .. => profileId

/-- `_ProfileWriter`. -/
def profileWriter (facts : ProfileFacts) :
    ResumeCommandWriter (ProfileDb chars) (ProfilePayload chars) where
  authorizeAndLock tables tenant request :=
    match request.payload, request.targetId with
    | .profileImport _, _ => if tenant.role = .reviewer then .error .notFound else .ok none
    | _, none => .error (.value "AssertionError")
    | _, some profileId => (findProfile tables tenant profileId true).map fun _ => none
  apply tables tenant request commandId :=
    match request.payload, request.targetId with
    | .profileImport preview, _ =>
      (importProfile tables tenant preview facts).map fun after =>
        (after, ⟨commandId, none, some facts.profileId, false⟩)
    | _, none => .error (.value "AssertionError")
    | payload, some profileId =>
      match findProfile tables tenant profileId true with
      | .error reason => .error reason
      | .ok rows => (editProfile tables.materials tenant rows facts payload).map fun after =>
          (tables.putProfile profileId after,
            ⟨commandId, none, some (payload.resource profileId facts), false⟩)

end Pathfinder
