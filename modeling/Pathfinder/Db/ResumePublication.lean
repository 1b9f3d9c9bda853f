import Pathfinder.Domain.ResumeRevision
import Pathfinder.Domain.TemplateRender
import Pathfinder.Library.LastWriter

/-!
# From a revision candidate to a version

`agents/resume_revision.py` as far as it decides a candidate,
`ResumeRevisionPublisher.publish` as far as it refuses one, and
`SqlAlchemyResumeArtifactStore.stage`. Which texts a JSON column of the database
takes is a parameter; the rows that no refusal depends on are left out.
-/
namespace Pathfinder
variable {chars : CharacterTables}

/-- `ResumePreferencesV1()`. -/
def defaultPreferences : ResumePreferencesV1 chars :=
  ⟨⟨[], [], [], none, [.education, .projects, .skills], [], .one, []⟩, rfl⟩

/-- What `publish` looks at in a request that a draft can come from. -/
inductive RevisionRequest where
  | content (targetItemIds : List UUID)
  | preference
  deriving DecidableEq, Repr

/-- `RevisionCandidateV1` with a content. -/
structure RevisionCandidateV1 (chars : CharacterTables) where
  content : ResumeContentV1
  patches : List (PatchV1 chars)
  diff : List Change
  impact : List Text

/-- The texts of `content_json`. -/
def ResumeContent.texts (content : ResumeContent) : List Text :=
  content.displayName :: content.contact.flatMap (fun field => [field.label, field.value]) ++
    content.education.flatMap (fun entry =>
      [entry.institution.text, entry.qualification.text, entry.period.text]) ++
    content.projects.flatMap (fun entry =>
      entry.title.text :: entry.period.text :: entry.summary.text :: entry.technologies ++
        entry.bullets.map fun bullet => bullet.styled.text) ++
    content.skills.flatMap fun entry => entry.label :: entry.items

/-- The texts of a member of `normalized_json["patches"]`. -/
def PatchV1.texts (patch : PatchV1 chars) : List Text :=
  match patch.operation with
  | .replaceText _ text _ => [text]
  | .replaceItems _ items _ => items
  | .remove | .move _ | .emphasize _ _ => []

/-- Writing JSON with these texts. -/
def storeJson (storable : Text → Bool) (texts : List Text) : Except StoreError Unit :=
  if texts.all storable then .ok () else .error (.value "DBAPIError")

/-- The worker's own check behind `apply_scoped_patches`, which `publish` repeats. -/
def requireProtected (profileContent content : ResumeContent) : Except StoreError Unit :=
  if content.displayName ≠ profileContent.displayName ∨
      content.contact ≠ profileContent.contact then
    .error (.validation "protected personal fields changed")
  else .ok ()

/-- `_revise` on one proposal; an error is a candidate without content. -/
def revise (profileContent : ResumeContent) (base : ResumeContentV1)
    (preferences : ResumePreferencesV1 chars) (permittedFactIds : List UUID)
    (factClaims : UUID → Option FactClaim) (patches : List (PatchV1 chars)) :
    RevisionRequest → Except StoreError (RevisionCandidateV1 chars)
  | .preference =>
    if hardConstraintIssues base.data preferences ≠ [] then
      .error (.validation "preference_conflicts_with_current_content_choose_local_edits")
    else .ok ⟨base, [], [], ["Preference applied to this version.".toList]⟩
  | .content targetItemIds => do
    let (content, summary) ← applyScopedPatches base patches targetItemIds preferences
      permittedFactIds factClaims
    requireProtected profileContent content.data
    pure ⟨content, patches, summary.changes, summary.impact⟩

/-- The comparison of a candidate with its request. -/
def requireRequested (base : ResumeContentV1) (preferences : ResumePreferencesV1 chars)
    (permittedFactIds : List UUID) (factClaims : UUID → Option FactClaim)
    (candidate : RevisionCandidateV1 chars) : RevisionRequest → Except StoreError Unit
  | .content targetItemIds => do
    let (expected, diff) ← applyScopedPatches base candidate.patches targetItemIds preferences
      permittedFactIds factClaims
    if expected ≠ candidate.content ∨ candidate.diff ≠ diff.changes ∨
        candidate.impact ≠ diff.impact then
      .error (.validation "revision candidate differs from scoped patch")
    else pure ()
  | .preference =>
    if candidate.content ≠ base ∨ candidate.patches ≠ [] then
      .error (.validation "preference revision changed content without a patch")
    else .ok ()

/-- `stage` with `lock_base_content`, up to the TeX of the artifact. -/
def stageRevision (template : Template) (profileContent lockBaseContent content : ResumeContent)
    (preferences : ResumePreferencesV1 chars) : Except StoreError Text := do
  requireLockedItemsUnchanged profileContent lockBaseContent
    (defaultPreferences : ResumePreferencesV1 chars)
  renderResumeTex template lockBaseContent content preferences

/-- `publish` of a candidate while its run is the latest and its base current. -/
def publishRevision (storable : Text → Bool) (template : Template)
    (profileContent : ResumeContent) (base : ResumeContentV1) (request : RevisionRequest)
    (preferences : ResumePreferencesV1 chars) (permittedFactIds : List UUID)
    (factClaims : UUID → Option FactClaim) (candidate : RevisionCandidateV1 chars) :
    Except StoreError Text := do
  requireRequested base preferences permittedFactIds factClaims candidate request
  requireProtected profileContent candidate.content.data
  if hardConstraintIssues candidate.content.data preferences ≠ [] then
    .error (.validation "revision violates hard constraints")
  else do
    let tex ← stageRevision template profileContent base.data candidate.content.data preferences
    storeJson storable (candidate.patches.flatMap PatchV1.texts ++ candidate.content.data.texts)
    pure tex

end Pathfinder

/-!
## Coverage of a revision

The rows of `requirement_coverage` that `ResumeRevisionPublisher.publish` writes for a
new version, each with its rows in the two tables of fact references.
-/
namespace Pathfinder
open LastWriter

variable {chars : CharacterTables}

/-- The values of `support`; `partly` is `"partial"`. -/
inductive CoverageSupport where
  | supported | partly | noSupportFound
  deriving DecidableEq, Repr

inductive CoverageVerification where
  | needsHumanReview | confirmedGap | materialInsufficient | unchecked
  deriving DecidableEq, Repr

/-- A row of `requirement_coverage` with the fact versions that
`requirement_coverage_facts` and `requirement_coverage_user_facts` hold under it. -/
structure RequirementCoverage where
  requirementId : UUID
  support : CoverageSupport
  verification : CoverageVerification
  reason : String
  itemIds : List UUID
  materialFacts : List UUID
  userFacts : List UUID
  deriving DecidableEq, Repr

/-- The patch is a `replace_text` or a `replace_items` on the item. -/
def PatchV1.replaces (patch : PatchV1 chars) (itemId : UUID) : Bool :=
  match patch.operation with
  | .replaceText .. | .replaceItems .. => decide (patch.itemId = itemId)
  | .remove | .move _ | .emphasize .. => false

def factRefsEffect (patch : PatchV1 chars) (itemId : UUID) : Effect (List UUID) :=
  if patch.replaces itemId then .store patch.operation.factVersionIds else .keep

/-- The dictionary `changed_fact_refs`: of several patches on an item the last counts. -/
def changedFactRefs (patches : List (PatchV1 chars)) : UUID → Option (List UUID) :=
  replay factRefsEffect (fun _ => none) patches

/-- `kept_items`. -/
def RequirementCoverage.keptItems (content : ResumeContent) (previous : RequirementCoverage) :
    List UUID :=
  previous.itemIds.filter fun id => decide (id ∈ content.itemIds)

/-- The row written for `previous`, with the references added under it. -/
def revisedCoverage (material user : List UUID) (candidate : RevisionCandidateV1 chars)
    (previous : RequirementCoverage) : RequirementCoverage :=
  let keptItems := previous.keptItems candidate.content.data
  let factRefs := changedFactRefs candidate.patches
  let changedRefs := keptItems.flatMap fun id => (factRefs id).getD []
  let changedCoverage := keptItems.any fun id => (factRefs id).isSome
  { requirementId := previous.requirementId
    support :=
      if changedCoverage ∧ changedRefs ≠ [] then .partly
      else if changedCoverage ∨ keptItems = [] then .noSupportFound
      else previous.support
    verification := if keptItems ≠ [] then .needsHumanReview else .unchecked
    reason :=
      if changedCoverage then "Revised wording; cited facts and JD coverage need human review."
      else if keptItems ≠ [] then "Revised content; fact support needs human review."
      else "Referenced content was removed in this revision."
    itemIds := keptItems
    materialFacts := material.filter fun fact =>
      decide (fact ∈ if changedCoverage then changedRefs else previous.materialFacts)
    userFacts := user.filter fun fact =>
      decide (fact ∈ if changedCoverage then changedRefs else previous.userFacts) }

/-- `publish` with the coverage it writes; `material` and `user` are the bound facts. -/
def publishRevisionCoverage (storable : Text → Bool) (template : Template)
    (profileContent : ResumeContent) (base : ResumeContentV1) (request : RevisionRequest)
    (preferences : ResumePreferencesV1 chars) (material user : List UUID)
    (factClaims : UUID → Option FactClaim) (oldCoverage : List RequirementCoverage)
    (candidate : RevisionCandidateV1 chars) :
    Except StoreError (Text × List RequirementCoverage) := do
  let tex ← publishRevision storable template profileContent base request preferences
    (material ++ user) factClaims candidate
  pure (tex, oldCoverage.map (revisedCoverage material user candidate))

end Pathfinder
