import Pathfinder.Db.ResumeFacts
import Pathfinder.Db.ResumeSessions

/-!
# Rows of profiles, claims and materials

The tables of `db/models.py` behind profiles, their preferences and the review of
their claims. The rows under one profile are kept with it: a profile has one
import, every version carries it on, and `(profile_id, version)` is the unique
key of both kinds of version rows, so it stands for their id.
-/
namespace Pathfinder
open KeyedTable

/-- The id of a row of `resume_profile_versions` or `resume_preference_versions`. -/
structure ProfileVersionId where
  profileId : UUID
  version : Nat
  deriving DecidableEq, Repr

/-- A row of `resume_profiles`. -/
structure ResumeProfile where
  workspaceId : UUID
  ownerUserId : UUID
  currentVersion : Nat
  currentPreferenceVersion : Nat
  deriving DecidableEq, Repr

/-- A row of `resume_profile_versions`. -/
structure ResumeProfileVersion where
  version : Nat
  content : ResumeContentV1
  deriving DecidableEq

/-- A row of `resume_preference_versions`. -/
structure ResumePreferenceVersion (chars : CharacterTables) where
  version : Nat
  preferences : ResumePreferencesV1 chars

inductive ClaimField where
  | title | period | technologies | summary | bullet
  deriving DecidableEq, Repr

/-- `ResumeClaimV1` as the import stores it, with its review counter. -/
structure ResumeSourceClaim where
  projectItemId : UUID
  itemId : UUID
  field : ClaimField
  claimText : Text
  reviewVersion : Nat
  deriving DecidableEq, Repr

inductive ClaimDecision where
  | linked | needsEvidence | excluded
  deriving DecidableEq, Repr

/-- A row of `resume_claim_reviews` with the rows of `resume_claim_fact_links` it has. -/
structure ResumeClaimReview where
  id : UUID
  version : Nat
  decision : ClaimDecision
  projectId : Option UUID
  actorUserId : UUID
  factVersionIds : List UUID
  deriving DecidableEq, Repr

/-- A claim and its reviews. -/
structure ClaimRows where
  claim : ResumeSourceClaim
  reviews : List ResumeClaimReview
  deriving DecidableEq, Repr

/-- The rows that carry one `profile_id`. -/
structure ProfileRows (chars : CharacterTables) where
  profile : ResumeProfile
  versions : List ResumeProfileVersion
  preferences : List (ResumePreferenceVersion chars)
  claims : Table UUID ClaimRows

/-- A row of `material_projects`. -/
structure MaterialProject where
  id : UUID
  workspaceId : UUID
  createdByUserId : UUID
  deriving DecidableEq, Repr

/-- The tables of the material store that a claim review reads. -/
structure MaterialDb where
  projects : List MaterialProject
  factSets : List MaterialFactSet
  facts : List MaterialFact
  factVersions : List MaterialFactVersion

/-- The columns of `resume_sessions` that fix its profile and preferences, its
projects, and the rows of `resume_session_preference_versions`. -/
structure SessionProfile where
  profileVersionId : ProfileVersionId
  preferenceVersionId : ProfileVersionId
  override : ValidOverride
  projectIds : List UUID
  preferences : List ResumeSessionPreferenceVersion

/-- The tables of sessions and profiles. -/
structure ProfileDb (chars : CharacterTables) where
  resume : ResumeDb
  materials : MaterialDb
  profiles : Table UUID (ProfileRows chars)
  sessionProfiles : Table UUID SessionProfile

variable {chars : CharacterTables}

def profileTables : CommandTables (ProfileDb chars) where
  memberships tables := tables.resume.db.memberships
  runs tables := tables.resume.db.runs
  commands tables := tables.resume.commands
  record row tables :=
    { tables with resume := { tables.resume with commands := tables.resume.commands ++ [row] } }

def ProfileDb.putProfile (tables : ProfileDb chars) (profileId : UUID) (rows : ProfileRows chars) :
    ProfileDb chars :=
  { tables with profiles := tables.profiles.put profileId rows }

def ProfileDb.putSessionProfile (tables : ProfileDb chars) (sessionId : UUID)
    (session : SessionProfile) : ProfileDb chars :=
  { tables with sessionProfiles := tables.sessionProfiles.put sessionId session }

/-- The version row `profile.current_version` names. -/
def ProfileRows.currentVersion (rows : ProfileRows chars) : Option ResumeProfileVersion :=
  rows.versions.find? fun row => row.version == rows.profile.currentVersion

/-- The preference row `profile.current_preference_version` names. -/
def ProfileRows.currentPreference (rows : ProfileRows chars) :
    Option (ResumePreferenceVersion chars) :=
  rows.preferences.find? fun row => row.version == rows.profile.currentPreferenceVersion

/-- The latest review of a claim, as `get_profile` and `execution_inputs` find it. -/
def ClaimRows.latestReview (rows : ClaimRows) : Option ResumeClaimReview :=
  rows.reviews.foldl (fun latest review => match latest with
    | none => some review
    | some found => if found.version < review.version then some review else some found) none

/-- The material project a claim is linked to. -/
def ClaimRows.linkedProject (rows : ClaimRows) : Option UUID :=
  match rows.latestReview with
  | none => none
  | some review => if review.decision = .linked then review.projectId else none

/-- `_project_access`. -/
def projectAccess (materials : MaterialDb) (tenant : TenantContext) (projectId : UUID) :
    Except StoreError Unit :=
  match materials.projects.find? fun project =>
      project.workspaceId == tenant.workspaceId && project.id == projectId with
  | none => .error .notFound
  | some project =>
    if project.createdByUserId ≠ tenant.actorUserId ∧ tenant.role ≠ .admin then .error .notFound
    else .ok ()

/-- `validate_preference_targets`. -/
def validatePreferenceTargets (content : ResumeContent) (preferences : ResumePreferencesV1 chars) :
    Except StoreError Unit :=
  let values := preferences.values
  if (values.excludedFieldIds ++ values.lockedItemIds).any fun item =>
      decide (item ∉ content.itemIds) then
    .error (.validation "preference target is not in the current profile")
  else if values.excludedProjectIds.any fun item =>
      decide (item ∉ content.projects.map ProjectEntry.id) then
    .error (.validation "excluded project is not in the current profile")
  else .ok ()

end Pathfinder
