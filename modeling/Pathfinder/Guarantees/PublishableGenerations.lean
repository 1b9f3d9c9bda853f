import Pathfinder.Db.GenerationPublication
import Pathfinder.Guarantees.CandidateCoherence
import Pathfinder.Guarantees.PublishableRevisions
import Pathfinder.Guarantees.RequirementGrounding

/-!
# Which first drafts can be published

The graph and its publisher check a candidate by two sets of rules. None of the publisher's
rules refuses a candidate of the graph; what can stand in the way is the renderer, where a shown
text has no TeX form, ids meet or the document is too long, and the database, where the model
wrote a text it does not take. What is published is the profile's and the facts' own text.
-/
namespace Pathfinder
open Conditional

variable {chars : CharacterTables} {uuid5 : UUID → Text → UUID} {inputs : DraftInputs chars}
  {graph : GenerationGraph} {session : GenerationSession chars}
  {candidate : GenerationCandidateV1} {analysis : RequirementExtractionV1}
  {selection : DraftSelectionV1} {corrected : Bool} {drafted : ResumeContentV1}

/-! ## The two sets of rules -/

/-- The session is as it was when the inputs were read. -/
structure Unchanged (session : GenerationSession chars) (inputs : DraftInputs chars) : Prop where
  jobText : session.jobText = inputs.jobText
  facts : ∀ fact ∈ inputs.facts, fact.versionId ∈ session.permittedFacts
  unpublished : session.currentVersionId = none
  profileContent : session.profileContent = inputs.content.data
  preferences : session.preferences = inputs.preferences

theorem sameSet_refl {α : Type} [DecidableEq α] (values : List α) :
    sameSet values values = true := by
  simp [sameSet]

namespace CandidateParts

theorem coverage_length (parts : CandidateParts uuid5 inputs analysis selection candidate) :
    candidate.coverage.length = candidate.requirements.length := by
  rw [← List.length_map CoverageV1.requirementOrdinal, parts.rows, List.length_range]

/-- A row names facts of the input. -/
theorem covered_given (parts : CandidateParts uuid5 inputs analysis selection candidate)
    {item : CoverageV1} (member : item ∈ candidate.coverage) {versionId : UUID}
    (named : versionId ∈ item.factVersionIds) :
    ∃ fact ∈ inputs.facts, fact.versionId = versionId := by
  obtain ⟨ordinal, -, rfl⟩ := parts.row_of member
  obtain ⟨bullet, picked, -, rfl⟩ := mem_factVersionIds.mp named
  split at picked
  · exact absurd picked List.not_mem_nil
  · exact (valid_placed (selected_valid picked)).1

/-- The checks of references pass. -/
theorem checked {given : RequirementExtractionV1}
    (parts : CandidateParts uuid5 inputs analysis selection candidate)
    (grounded : groundRequirements inputs.jobText given = some analysis)
    (same : Unchanged session inputs) : checkGeneration session candidate = .ok () := by
  have placed : candidate.requirements.all (requirementPlaced session.jobText) = true := by
    rw [parts.requirements, same.jobText]
    unfold groundRequirements at grounded
    split at grounded
    · cases grounded
    split at grounded
    next placed =>
      cases grounded
      exact placed
    · cases grounded
  have covered : (candidate.coverage.any fun item =>
      !decide (item.factVersionIds ⊆ session.permittedFacts)) = false := by
    refine List.any_eq_false.mpr fun item member => ?_
    have inside : item.factVersionIds ⊆ session.permittedFacts := by
      intro versionId named
      obtain ⟨fact, given, rfl⟩ := parts.covered_given member named
      exact same.facts fact given
    simpa using inside
  have omitted : candidate.omittedFactVersionIds ⊆ session.permittedFacts := by
    intro versionId member
    obtain ⟨⟨fact, given, rfl⟩, -⟩ := parts.omitted_iff.mp member
    exact same.facts fact given
  unfold checkGeneration
  rw [placed, parts.rows, covered, parts.omitted]
  rw [parts.omitted] at omitted
  simp [parts.coverage_length, sameSet_refl, omitted]

/-- The items of a row are bullets of the draft. -/
theorem covered_shown (parts : CandidateParts uuid5 inputs analysis selection candidate)
    (shown : candidate.content = some drafted) {item : CoverageV1}
    (member : item ∈ candidate.coverage) : item.itemIds ⊆ drafted.data.bulletIds := by
  obtain ⟨shown', same, -, made⟩ | ⟨absent, -⟩ := content_ok parts.drafted
  case inr => cases shown.symm.trans absent
  obtain rfl : drafted = shown' := Option.some.inj (shown.symm.trans same)
  obtain ⟨ordinal, -, rfl⟩ := parts.row_of member
  rw [shown, if_neg (Option.some_ne_none _)]
  intro id listed
  obtain ⟨bullet, named, rfl⟩ := List.mem_map.mp listed
  obtain ⟨project, inside, shows⟩ := mem_shownProjects selected_placed |>.mpr
    ⟨bullet, (List.mem_filter.mp named).1, rfl⟩
  rw [ResumeContent.bulletIds, made]
  exact List.mem_flatMap.mpr ⟨project, inside, List.mem_map_of_mem shows⟩

/-- The selected facts of a row are distinct. -/
theorem covered_nodup (parts : CandidateParts uuid5 inputs analysis selection candidate)
    {item : CoverageV1} (member : item ∈ candidate.coverage) : item.factVersionIds.Nodup := by
  obtain ⟨ordinal, -, rfl⟩ := parts.row_of member
  split
  · exact List.nodup_nil
  · exact (List.Sublist.map _ List.filter_sublist).nodup KeyedList.nodup_firsts

end CandidateParts

/-! ## Rendering a draft -/

section Draft
variable {bullets : List DraftBulletV1}

/-- The content a draft of these bullets has. -/
def draftOf (uuid5 : UUID → Text → UUID) (inputs : DraftInputs chars)
    (bullets : List DraftBulletV1) : ResumeContent :=
  draftContent inputs (shownProjects uuid5 inputs bullets inputs.content.data.projects)

/-- Every text that a draft of these bullets shows has a TeX form: those that stay from the
profile, and the claims. -/
structure DraftRenders (inputs : DraftInputs chars) (bullets : List DraftBulletV1) : Prop where
  header : HeaderRenders inputs.content.data
  education : ∀ entry ∈ (draftContent inputs []).education, entry.Renders
  skills : ∀ entry ∈ (draftContent inputs []).skills, entry.Renders
  projects : ∀ original ∈ inputs.content.data.projects, chosenFor bullets original ≠ [] →
    representable original.title.text = true ∧ representable original.period.text = true ∧
      ∀ value ∈ mentioned chars original.technologies
        ((chosenFor bullets original).map (claimOf inputs)), representable value = true
  claims : ∀ bullet ∈ bullets, representable (claimOf inputs bullet) = true

/-- A project with chosen bullets renders if its own texts and the claims do. -/
theorem shownProject_renders {original : ProjectEntry} {chosen : List DraftBulletV1}
    (filled : chosen ≠ []) :
    (shownProject uuid5 inputs original chosen).Renders ↔
      (representable original.title.text = true ∧ representable original.period.text = true ∧
        ∀ value ∈ mentioned chars original.technologies (chosen.map (claimOf inputs)),
          representable value = true) ∧
      ∀ bullet ∈ chosen, representable (claimOf inputs bullet) = true := by
  obtain ⟨first, rest, rfl⟩ := List.exists_cons_of_ne_nil filled
  have claims : (∀ bullet ∈ (shownProject uuid5 inputs original (first :: rest)).bullets,
      representable bullet.styled.text = true) ↔
      ∀ bullet ∈ first :: rest, representable (claimOf inputs bullet) = true := by
    simp [shownProject, shownBullet]
  unfold ProjectEntry.Renders
  rw [claims]
  constructor
  · rintro ⟨-, technologies, title, period, -, each⟩
    exact ⟨⟨title, period, technologies⟩, each⟩
  · rintro ⟨⟨title, period, technologies⟩, each⟩
    exact ⟨List.cons_ne_nil _ _, technologies, title, period, each first List.mem_cons_self, each⟩

variable (uuid5) in
theorem draft_sections (placed : ∀ bullet ∈ bullets, ∃ project ∈ inputs.content.data.projects,
      project.id = bullet.projectItemId) :
    (HeaderRenders inputs.content.data ∧ ∀ part, SectionRenders (draftOf uuid5 inputs bullets) part) ↔
      DraftRenders inputs bullets := by
  constructor
  · rintro ⟨header, sections⟩
    have shown (original : ProjectEntry) (member : original ∈ inputs.content.data.projects)
        (filled : chosenFor bullets original ≠ []) :
        (shownProject uuid5 inputs original (chosenFor bullets original)).Renders :=
      sections .projects _
        (List.mem_map_of_mem (List.mem_filter.mpr ⟨member, by simpa using filled⟩))
    refine ⟨header, sections .education, sections .skills, fun original member filled =>
      ((shownProject_renders filled).mp (shown original member filled)).1, ?_⟩
    intro bullet picked
    obtain ⟨original, member, same⟩ := placed bullet picked
    have chosen : bullet ∈ chosenFor bullets original :=
      List.mem_filter.mpr ⟨picked, by simpa using same.symm⟩
    have filled := List.ne_nil_of_mem chosen
    exact ((shownProject_renders filled).mp (shown original member filled)).2 bullet chosen
  · intro renders
    refine ⟨renders.header, fun part => ?_⟩
    cases part with
    | education => exact renders.education
    | skills => exact renders.skills
    | projects =>
      intro project listed
      obtain ⟨original, kept, rfl⟩ := List.mem_map.mp listed
      obtain ⟨member, filled⟩ := List.mem_filter.mp kept
      have filled : chosenFor bullets original ≠ [] := by simpa using filled
      refine (shownProject_renders filled).mpr ⟨renders.projects original member filled, ?_⟩
      exact fun bullet chosen => renders.claims bullet (List.mem_filter.mp chosen).1

/-- What a draft needs to be rendered. -/
theorem draft_render_iff (parts : TemplateParts)
    (placed : ∀ bullet ∈ bullets, ∃ project ∈ inputs.content.data.projects,
      project.id = bullet.projectItemId)
    (draftable : Draftable uuid5 inputs bullets) (made : drafted.data = draftOf uuid5 inputs bullets) :
    (∃ tex, renderResumeTex (.ok parts) inputs.content.data drafted.data inputs.preferences =
      .ok tex) ↔
      DraftRenders inputs bullets ∧ drafted.data.itemIds.Nodup ∧
        utf8Length (resumeTex parts inputs.content.data drafted.data
          inputs.preferences.values.sectionOrder) ≤ maxTexBytes := by
  have filled : ∀ project ∈ drafted.data.projects, project.bullets ≠ [] := by
    rw [made]
    intro project listed
    obtain ⟨original, kept, rfl⟩ := List.mem_map.mp listed
    have chosen : chosenFor bullets original ≠ [] := by simpa using (List.mem_filter.mp kept).2
    simpa [shownProject] using chosen
  have validated : validateRenderContent inputs.content.data drafted.data inputs.preferences = .ok () ↔
      drafted.data.itemIds.Nodup := by
    have unchanged := draftable.unchanged
    have allowed := draftable.allowed
    rw [← draftOf, ← made] at unchanged allowed
    rw [validateRenderContent_ok, (renderIds_perm _).nodup_iff]
    exact ⟨fun checked => checked.2.2.2, fun distinct => ⟨unchanged, allowed, filled, distinct⟩⟩
  rw [(renderResumeTex_yields parts inputs.content.data drafted.valid
    inputs.preferences).succeeds_iff, validated, ← draft_sections uuid5 placed, ← made]
  constructor
  · rintro ⟨distinct, header, sections, size⟩
    exact ⟨⟨header, sections⟩, distinct, size⟩
  · rintro ⟨⟨header, sections⟩, distinct, size⟩
    exact ⟨distinct, header, sections, size⟩

end Draft

/-! ## Publication -/

/-- What stands in the way of a draft: a text without a TeX form, ids that meet, a document
that is too long, or a text of the model that the database does not take. -/
structure PublishableDraft (storable : Text → Bool) (parts : TemplateParts)
    (inputs : DraftInputs chars) (bullets : List DraftBulletV1)
    (candidate : GenerationCandidateV1) (drafted : ResumeContentV1) : Prop where
  renders : DraftRenders inputs bullets
  distinct : drafted.data.itemIds.Nodup
  size : utf8Length (resumeTex parts inputs.content.data drafted.data
    inputs.preferences.values.sectionOrder) ≤ maxTexBytes
  stored : ∀ text ∈ candidate.validationTexts, storable text = true

theorem coverageRow_representable (bullets : List DraftBulletV1) (ordinal : Nat) :
    representable (coverageRow uuid5 inputs bullets ordinal).reason = true := by
  simp only [coverageRow]
  split <;> decide

theorem coverage_reasons {storable : Text → Bool}
    (stores : ∀ text, representable text = true → storable text = true)
    (parts : CandidateParts uuid5 inputs analysis selection candidate) :
    ∀ item ∈ candidate.coverage, storable item.reason = true := by
  intro item member
  obtain ⟨ordinal, -, rfl⟩ := parts.row_of member
  exact stores _ (coverageRow_representable _ _)

/-- A row refers to each fact at most once. -/
def RefersOnce (session : GenerationSession chars) (item : CoverageV1) : Prop :=
  (item.factVersionIds.filter (· ∈ session.material)).Nodup ∧
    (item.factVersionIds.filter (· ∈ session.user)).Nodup

theorem storeJson_yields (storable : Text → Bool) (texts : List Text) :
    Yields (storeJson storable texts) (∀ text ∈ texts, storable text = true) () :=
  (Yields.self _).congr storeJson_ok

theorem storeCoverage_yields (storable : Text → Bool) (requirementIds : Nat → UUID)
    (coverage : List CoverageV1) :
    Yields (storeCoverage storable session requirementIds coverage)
      ((∀ item ∈ coverage, storable item.reason = true) ∧
        ∀ item ∈ coverage, RefersOnce session item)
      (coverage.map (firstCoverage session requirementIds)) := by
  refine Yields.congr (Yields.bind (storeJson_yields _ _) (Yields.guarded (Yields.pure _))) ?_
  have once (item : CoverageV1) : (!decide (firstCoverage session requirementIds
      item).materialFacts.Nodup || !decide (firstCoverage session requirementIds
        item).userFacts.Nodup) = true ↔ ¬ RefersOnce session item := by
    rw [Bool.or_eq_true, Bool.not_eq_true', decide_eq_false_iff_not, Bool.not_eq_true',
      decide_eq_false_iff_not, ← not_and_or]
    rfl
  simp only [List.forall_mem_map, List.any_map, List.any_eq_true, Function.comp_apply, once,
    not_exists, not_and, not_not, and_true]

/-- Version 1 of any candidate. -/
theorem publishFirst_yields (storable : Text → Bool) (parts : TemplateParts)
    (requirementIds : Nat → UUID) (candidate : GenerationCandidateV1) (content : ResumeContentV1) :
    Yields (publishFirst storable (.ok parts) requirementIds session candidate content)
      (checkDraft session candidate.coverage content.data = .ok () ∧
        (validateRenderContent session.profileContent content.data session.preferences = .ok () ∧
          HeaderRenders session.profileContent ∧ (∀ part, SectionRenders content.data part) ∧
          utf8Length (resumeTex parts session.profileContent content.data
            session.preferences.values.sectionOrder) ≤ maxTexBytes) ∧
        (∀ text ∈ content.data.texts ++ candidate.validationTexts, storable text = true) ∧
        (∀ item ∈ candidate.coverage, storable item.reason = true) ∧
        ∀ item ∈ candidate.coverage, RefersOnce session item)
      { tex := resumeTex parts session.profileContent content.data
          session.preferences.values.sectionOrder
        content := content
        coverage := candidate.coverage.map (firstCoverage session requirementIds)
        materialFacts := session.material
        userFacts := session.user } := by
  refine Yields.congr (Yields.bind (Yields.self _) (Yields.bind
    (renderResumeTex_yields parts session.profileContent content.valid session.preferences)
    (Yields.bind (storeJson_yields _ _) (Yields.bind (storeCoverage_yields storable requirementIds _)
      (Yields.pure _))))) ?_
  simp only [and_true]

theorem checkDraft_iff {coverage : List CoverageV1} {content : ResumeContent} :
    checkDraft session coverage content = .ok () ↔
      requireLockedItemsUnchanged session.profileContent content session.preferences = .ok () ∧
        hardConstraintIssues content session.preferences = [] ∧
        ∀ item ∈ coverage, item.itemIds ⊆ content.itemIds := by
  unfold checkDraft
  rw [(Yields.bind (Yields.self _) (Yields.guarded (Yields.guarded (Yields.pure ())))).iff_ok]
  simp

/-- The checks of a draft pass: what it locks and allows, and the items of its rows. -/
theorem CandidateParts.draft_checked
    (made : CandidateParts uuid5 inputs analysis selection candidate)
    (same : Unchanged session inputs) (shown : candidate.content = some drafted) :
    checkDraft session candidate.coverage drafted.data = .ok () := by
  obtain ⟨shown', same', draftable, made'⟩ | ⟨absent, -⟩ := content_ok made.drafted
  case inr => cases shown.symm.trans absent
  obtain rfl : drafted = shown' := Option.some.inj (shown.symm.trans same')
  have unchanged := draftable.unchanged
  have allowed := draftable.allowed
  rw [← made'] at unchanged allowed
  refine checkDraft_iff.mpr ⟨?_, ?_, ?_⟩
  · rw [same.profileContent, same.preferences, unchanged]
  · rw [same.preferences, allowed]
  · intro item member id listed
    have bullet := made.covered_shown shown member listed
    simp [ResumeContent.itemIds, bullet]

theorem publishFirst_iff {storable : Text → Bool} {parts : TemplateParts}
    {requirementIds : Nat → UUID}
    (stores : ∀ text, representable text = true → storable text = true)
    (made : CandidateParts uuid5 inputs analysis selection candidate)
    (same : Unchanged session inputs) (shown : candidate.content = some drafted) :
    (∃ version, publishFirst storable (.ok parts) requirementIds session candidate drafted =
      .ok version) ↔
      PublishableDraft storable parts inputs (selectedBullets inputs analysis selection) candidate
        drafted := by
  obtain ⟨shown', same', draftable, made'⟩ | ⟨absent, -⟩ := content_ok made.drafted
  case inr => cases shown.symm.trans absent
  obtain rfl : drafted = shown' := Option.some.inj (shown.symm.trans same')
  have rendered := draft_render_iff parts selected_placed draftable made'
  rw [(renderResumeTex_yields parts inputs.content.data drafted.valid
    inputs.preferences).succeeds_iff] at rendered
  have checked := made.draft_checked same shown
  have reasons := coverage_reasons stores made
  have once : ∀ item ∈ candidate.coverage, RefersOnce session item := fun item member =>
    ⟨(made.covered_nodup member).filter _, (made.covered_nodup member).filter _⟩
  rw [(publishFirst_yields storable parts requirementIds candidate drafted).succeeds_iff,
    same.profileContent, same.preferences, rendered]
  constructor
  · rintro ⟨-, ⟨renders, distinct, size⟩, stored, -⟩
    exact ⟨renders, distinct, size, fun text member => stored text (List.mem_append_right _ member)⟩
  · intro publishable
    refine ⟨checked, ⟨publishable.renders, publishable.distinct, publishable.size⟩, ?_, reasons, once⟩
    intro text member
    rcases List.mem_append.mp member with text_ | validation
    · obtain ⟨header, sections⟩ := (draft_sections uuid5 selected_placed).mpr publishable.renders
      refine stores text (texts_representable ?_ ?_ text text_)
      · rw [made']
        exact header
      · rw [made']
        exact sections
    · exact publishable.stored text validation

theorem draftAnswers_grounded {σ : Type} {ports : GenerationPorts σ} {models : AnswerModels}
    {state state' : σ}
    (read : draftAnswers ports models inputs state =
      .ok ((analysis, selection, corrected), state')) :
    ∃ given, groundRequirements inputs.jobText given = some analysis := by
  obtain ⟨⟨analysis', early⟩, between, analyzed, read⟩ := runBind_ok.mp read
  obtain ⟨⟨selection', late⟩, between', -, read⟩ := runBind_ok.mp read
  cases read
  obtain ⟨-, given, -, grounded⟩ := analyze_grounded ports models inputs analyzed
  exact ⟨given.1, grounded⟩

/-- Behind its checks of references a session without a version stores the requirements, and
then the version. -/
theorem publishGeneration_iff {storable : Text → Bool} {template : Template}
    {requirementIds : Nat → UUID} (checked : checkGeneration session candidate = .ok ())
    (unpublished : session.currentVersionId = none) :
    (∃ result, publishGeneration storable template requirementIds session candidate =
      .ok result) ↔
      (∀ requirement ∈ candidate.requirements, ∀ text ∈ requirement.texts, storable text = true) ∧
        ∀ drafted, candidate.content = some drafted → ∃ version,
          publishFirst storable template requirementIds session candidate drafted = .ok version := by
  have stored : storeJson storable (candidate.requirements.flatMap JobRequirementV1.texts) = .ok () ↔
      ∀ requirement ∈ candidate.requirements, ∀ text ∈ requirement.texts,
        storable text = true := by
    rw [storeJson_ok, List.forall_mem_flatMap]
  rw [← stored]
  simp only [publishGeneration, checked, unpublished]
  cases storeJson storable (candidate.requirements.flatMap JobRequirementV1.texts) with
  | error reason => simp [bind, Except.bind]
  | ok done =>
    cases candidate.content with
    | none => simp [bind, Except.bind, pure, Except.pure]
    | some content =>
      cases ran : publishFirst storable template requirementIds session candidate content with
      | error reason => simp [bind, Except.bind, ran]
      | ok version => simp [bind, Except.bind, pure, Except.pure, ran]

/-- Every run of the graph that returns a candidate: the publisher's checks of references, locks,
preferences and coverage accept it, and its publication succeeds exactly where the database takes
the quotes and bases of its requirements and, if it has a content, nothing of
`PublishableDraft` stands in the way. -/
theorem generations_publishable_iff {σ : Type} {ports : GenerationPorts σ} {models : AnswerModels}
    {state state' : σ} {storable : Text → Bool} {parts : TemplateParts}
    {requirementIds : Nat → UUID}
    (stores : ∀ text, representable text = true → storable text = true)
    (same : Unchanged session inputs)
    (returned : generate ports models inputs uuid5 graph state = .ok (candidate, state')) :
    ∃ analysis selection corrected, draftAnswers ports models inputs state =
        .ok ((analysis, selection, corrected), state') ∧
      checkGeneration session candidate = .ok () ∧
      (∀ drafted, candidate.content = some drafted →
        checkDraft session candidate.coverage drafted.data = .ok ()) ∧
      ((∃ result, publishGeneration storable (.ok parts) requirementIds session candidate =
          .ok result) ↔
        (∀ requirement ∈ candidate.requirements, ∀ text ∈ requirement.texts,
          storable text = true) ∧
        ∀ drafted, candidate.content = some drafted →
          PublishableDraft storable parts inputs (selectedBullets inputs analysis selection)
            candidate drafted) := by
  obtain ⟨analysis, selection, corrected, read, made⟩ := generate_ok returned
  have made := draftCandidate_parts made
  obtain ⟨given, grounded⟩ := draftAnswers_grounded read
  have checked := made.checked grounded same
  refine ⟨analysis, selection, corrected, read, checked,
    fun drafted shown => made.draft_checked same shown, ?_⟩
  rw [publishGeneration_iff checked same.unpublished]
  refine and_congr_right fun _ => forall₂_congr fun drafted shown => ?_
  exact publishFirst_iff stores made same shown

/-! ## What is published -/

/-- The content is the profile's, with claims of bound facts for bullets: nothing else is
shown, whatever the model answered. -/
structure SourcedDraft (uuid5 : UUID → Text → UUID) (inputs : DraftInputs chars)
    (content : ResumeContent) : Prop where
  personal : content.displayName = inputs.content.data.displayName ∧
    content.contact = inputs.content.data.contact
  education : ∀ entry ∈ content.education, entry ∈ inputs.content.data.education ∧
    (entry.reviewStatus = .reviewed ∨ entry.id ∈ inputs.preferences.values.lockedItemIds)
  skills : ∀ entry ∈ content.skills, entry ∈ inputs.content.data.skills ∧
    (entry.reviewStatus = .reviewed ∨ entry.id ∈ inputs.preferences.values.lockedItemIds)
  projects : ∀ project ∈ content.projects, ∃ original ∈ inputs.content.data.projects,
    original.reviewStatus = .reviewed ∧ project.id = original.id ∧
      project.title = original.title ∧ project.period = original.period ∧
      project.technologies ⊆ original.technologies ∧
      ∃ first ∈ project.bullets, project.summary = first.styled
  bullets : ∀ project ∈ content.projects, ∀ bullet ∈ project.bullets, ∃ fact ∈ inputs.facts,
    bullet.id = bulletId uuid5 inputs fact.versionId ∧ bullet.styled = ⟨fact.claim, []⟩ ∧
      inputs.projectMap project.id = some fact.projectId ∧ fact.kind ≠ .plan ∧
      (fact.kind = .experiment → experimentStated chars fact = true)

/-- What `_valid_bullet` looked at. -/
theorem validBullet_found {count : Nat} {bullet : DraftBulletV1}
    (valid : validBullet inputs count bullet = true) :
    ∃ fact ∈ inputs.facts, ∃ project ∈ inputs.content.data.projects,
      fact.versionId = bullet.factVersionId ∧ project.id = bullet.projectItemId ∧
      project.reviewStatus = .reviewed ∧ inputs.projectMap project.id = some fact.projectId ∧
      fact.kind ≠ .plan ∧ (fact.kind = .experiment → experimentStated chars fact = true) := by
  rw [validBullet] at valid
  split at valid
  next fact project known placed =>
    simp only [Bool.and_eq_true, Bool.or_eq_true, beq_iff_eq, bne_iff_ne, ne_eq] at valid
    obtain ⟨⟨⟨⟨⟨reviewed, mapped⟩, published⟩, stated⟩, -⟩, -⟩ := valid
    refine ⟨fact, List.mem_of_find?_eq_some known, project, List.mem_of_find?_eq_some placed,
      by simpa using List.find?_some known, by simpa using List.find?_some placed, reviewed,
      mapped, published, fun experiment => ?_⟩
    exact stated.resolve_left fun other => other experiment
  · cases valid

theorem CandidateParts.sourced (made : CandidateParts uuid5 inputs analysis selection candidate)
    (known : (inputs.facts.map FixedFact.versionId).Nodup)
    (shown : candidate.content = some drafted) (distinct : drafted.data.itemIds.Nodup) :
    SourcedDraft uuid5 inputs drafted.data := by
  obtain ⟨shown', same, -, made'⟩ | ⟨absent, -⟩ := content_ok made.drafted
  case inr => cases shown.symm.trans absent
  obtain rfl : drafted = shown' := Option.some.inj (shown.symm.trans same)
  have projects := (separated (ResumeContent.items_unique distinct)).projects
  rw [made'] at projects ⊢
  -- two projects of one id would both be shown
  have unique : ((inputs.content.data.projects.filter fun original =>
      chosenFor (selectedBullets inputs analysis selection) original ≠ []).map
        ProjectEntry.id).Nodup := by
    simpa [draftContent, shownProjects, Function.comp_def, shownProject] using projects
  have sourced (original : ProjectEntry) (listed : original ∈ inputs.content.data.projects)
      (bullet : DraftBulletV1)
      (chosen : bullet ∈ chosenFor (selectedBullets inputs analysis selection) original) :
      original.reviewStatus = .reviewed ∧ ∃ fact ∈ inputs.facts,
        bullet.factVersionId = fact.versionId ∧ claimOf inputs bullet = fact.claim ∧
        inputs.projectMap original.id = some fact.projectId ∧ fact.kind ≠ .plan ∧
        (fact.kind = .experiment → experimentStated chars fact = true) := by
    obtain ⟨picked, placed⟩ := List.mem_filter.mp chosen
    have placed : bullet.projectItemId = original.id := by simpa using placed
    obtain ⟨fact, given, project, member, named, held, reviewed, mapped, rest⟩ :=
      validBullet_found (List.mem_filter.mp (selected_valid picked)).2
    have shows (entry : ProjectEntry) (placed : bullet.projectItemId = entry.id) :
        chosenFor (selectedBullets inputs analysis selection) entry ≠ [] :=
      List.ne_nil_of_mem (List.mem_filter.mpr ⟨picked, by simpa using placed⟩)
    obtain rfl : project = original := by
      refine KeyedList.eq_of_key unique ?_ ?_ (held.trans placed)
      · exact List.mem_filter.mpr ⟨member, by simpa using shows project held.symm⟩
      · exact List.mem_filter.mpr ⟨listed, by simpa using shows original placed⟩
    refine ⟨reviewed, fact, given, named.symm, ?_, mapped, rest⟩
    obtain ⟨other, given', found, named'⟩ := byFact_some given named
    obtain rfl : other = fact := KeyedList.eq_of_key known given' given (named'.trans named.symm)
    rw [claimOf, found]
    rfl
  refine ⟨⟨rfl, rfl⟩, ?_, ?_, ?_, ?_⟩
  · intro entry listed
    simpa [draftContent] using listed
  · intro entry listed
    simpa [draftContent] using listed
  · intro project listed
    obtain ⟨original, kept, rfl⟩ := List.mem_map.mp listed
    obtain ⟨member, filled⟩ := List.mem_filter.mp kept
    obtain ⟨first, rest, chosen⟩ := List.exists_cons_of_ne_nil (by simpa using filled)
    have picked : first ∈ chosenFor (selectedBullets inputs analysis selection) original := by
      rw [chosen]
      exact List.mem_cons_self
    refine ⟨original, member, (sourced original member first picked).1, rfl, rfl, rfl,
      fun _ member => (List.mem_filter.mp member).1, shownBullet uuid5 inputs first,
      List.mem_map_of_mem picked, ?_⟩
    simp only [shownProject, shownBullet, chosen, List.map_cons, List.headD_cons]
  · intro project listed bullet inside
    obtain ⟨original, kept, rfl⟩ := List.mem_map.mp listed
    obtain ⟨chosen, picked, rfl⟩ := List.mem_map.mp inside
    obtain ⟨-, fact, given, named, claim, rest⟩ :=
      sourced original (List.mem_filter.mp kept).1 chosen picked
    exact ⟨fact, given, congrArg (bulletId uuid5 inputs) named, by rw [shownBullet, claim], rest⟩

/-- The ids of the selected bullets are apart where those of the draft are. -/
theorem CandidateParts.bullets_apart
    (made : CandidateParts uuid5 inputs analysis selection candidate)
    (shown : candidate.content = some drafted) (distinct : drafted.data.itemIds.Nodup)
    {first second : DraftBulletV1} (inFirst : first ∈ selectedBullets inputs analysis selection)
    (inSecond : second ∈ selectedBullets inputs analysis selection)
    (same : bulletId uuid5 inputs first.factVersionId =
      bulletId uuid5 inputs second.factVersionId) : first = second := by
  obtain ⟨shown', same', -, made'⟩ | ⟨absent, -⟩ := content_ok made.drafted
  case inr => cases shown.symm.trans absent
  obtain rfl : drafted = shown' := Option.some.inj (shown.symm.trans same')
  have bullets : drafted.data.bulletIds.Nodup :=
    (List.nodup_append.mp (List.nodup_append.mp distinct).1).2.1
  rw [made'] at bullets
  have unique : (((inputs.content.data.projects.filter fun original =>
      chosenFor (selectedBullets inputs analysis selection) original ≠ []).flatMap
        (chosenFor (selectedBullets inputs analysis selection))).map fun bullet =>
          bulletId uuid5 inputs bullet.factVersionId).Nodup := by
    simpa [draftContent, shownProjects, shownProject, shownBullet, ResumeContent.bulletIds,
      ProjectEntry.bulletIds, List.flatMap_map, List.map_flatMap, Function.comp_def] using bullets
  -- each of the two is shown under the project it names
  have listed {bullet : DraftBulletV1}
      (picked : bullet ∈ selectedBullets inputs analysis selection) :
      bullet ∈ (inputs.content.data.projects.filter fun original =>
        chosenFor (selectedBullets inputs analysis selection) original ≠ []).flatMap
          (chosenFor (selectedBullets inputs analysis selection)) := by
    obtain ⟨original, member, held⟩ := selected_placed bullet picked
    have chosen : bullet ∈ chosenFor (selectedBullets inputs analysis selection) original :=
      List.mem_filter.mpr ⟨picked, by simpa using held.symm⟩
    refine List.mem_flatMap.mpr ⟨original, List.mem_filter.mpr ⟨member, ?_⟩, chosen⟩
    simpa using List.ne_nil_of_mem chosen
  exact KeyedList.eq_of_key unique (listed inFirst) (listed inSecond) same

/-- A row names each item of the draft once. -/
theorem CandidateParts.items_nodup
    (made : CandidateParts uuid5 inputs analysis selection candidate)
    (shown : candidate.content = some drafted) (distinct : drafted.data.itemIds.Nodup)
    {item : CoverageV1} (member : item ∈ candidate.coverage) : item.itemIds.Nodup := by
  obtain ⟨ordinal, -, rfl⟩ := made.row_of member
  rw [shown, if_neg (Option.some_ne_none _)]
  have selected : (selectedBullets inputs analysis selection).Nodup :=
    List.Nodup.of_map _ KeyedList.nodup_firsts
  refine List.Nodup.map_on ?_ (selected.filter _)
  intro first inFirst second inSecond same
  exact made.bullets_apart shown distinct (List.mem_filter.mp inFirst).1
    (List.mem_filter.mp inSecond).1 same

theorem publishFirst_ok {storable : Text → Bool} {template : Template}
    {requirementIds : Nat → UUID} {content : ResumeContentV1} {version : FirstVersion}
    (published : publishFirst storable template requirementIds session candidate content =
      .ok version) :
    version.content = content ∧ checkDraft session candidate.coverage content.data = .ok () ∧
      renderResumeTex template session.profileContent content.data session.preferences =
        .ok version.tex ∧
      version.coverage = candidate.coverage.map (firstCoverage session requirementIds) ∧
      ∀ item ∈ candidate.coverage, RefersOnce session item := by
  obtain ⟨done, checked, published⟩ := bind_ok.mp published
  obtain ⟨tex, rendered, published⟩ := bind_ok.mp published
  obtain ⟨-, -, published⟩ := bind_ok.mp published
  obtain ⟨coverage, stored, published⟩ := bind_ok.mp published
  cases published
  obtain ⟨⟨-, once⟩, rows⟩ := ((storeCoverage_yields storable requirementIds _).iff_ok _).mp stored
  exact ⟨rfl, checked, rendered, rows.symm, once⟩

/-- A version is published behind the checks of references. -/
theorem publishGeneration_draft {storable : Text → Bool} {template : Template}
    {requirementIds : Nat → UUID} {version : FirstVersion} {questions : List Text}
    (published : publishGeneration storable template requirementIds session candidate =
      .ok ⟨.draft version, questions⟩) :
    checkGeneration session candidate = .ok () ∧ session.currentVersionId = none ∧
      questions = candidate.questions ∧ ∃ content, candidate.content = some content ∧
        publishFirst storable template requirementIds session candidate content = .ok version := by
  obtain ⟨done, checked, published⟩ := bind_ok.mp published
  refine ⟨checked, ?_⟩
  cases current : session.currentVersionId with
  | some versionId =>
    rw [current] at published
    cases published
  | none =>
    rw [current] at published
    obtain ⟨stored, -, published⟩ := bind_ok.mp published
    cases shown : candidate.content with
    | none =>
      rw [shown] at published
      cases published
    | some content =>
      rw [shown] at published
      obtain ⟨made, first, published⟩ := bind_ok.mp published
      cases published
      exact ⟨rfl, rfl, content, rfl, first⟩

/-- A rendered content names each of its items once. -/
theorem rendered_distinct {template : Template} {profile content : ResumeContent}
    {preferences : ResumePreferencesV1 chars} {tex : Text}
    (rendered : renderResumeTex template profile content preferences = .ok tex) :
    content.itemIds.Nodup := by
  obtain ⟨done, validated, -⟩ := bind_ok.mp rendered
  exact (renderIds_perm content).nodup_iff.mp (validateRenderContent_ok.mp validated).2.2.2

/-- The checks of references. -/
theorem checkGeneration_iff : checkGeneration session candidate = .ok () ↔
    candidate.requirements.all (requirementPlaced session.jobText) = true ∧
      candidate.coverage.length = candidate.requirements.length ∧
      sameSet (candidate.coverage.map CoverageV1.requirementOrdinal)
        (List.range candidate.requirements.length) = true ∧
      (∀ item ∈ candidate.coverage, item.factVersionIds ⊆ session.permittedFacts) ∧
      candidate.omittedFactVersionIds ⊆ session.permittedFacts ∧
      sameSet (candidate.omissionReasons.map Prod.fst) candidate.omittedFactVersionIds = true := by
  unfold checkGeneration
  rw [(Yields.guarded (Yields.guarded (Yields.guarded (Yields.guarded (Yields.guarded
    (Yields.guarded (Yields.self (.ok ())))))))).iff_ok]
  simp

/-- Rows that name every requirement, as many as there are: each requirement has one. -/
theorem checkGeneration_rows (checked : checkGeneration session candidate = .ok ()) :
    (candidate.coverage.map CoverageV1.requirementOrdinal).Perm
      (List.range candidate.requirements.length) := by
  obtain ⟨-, same, covers, -⟩ := checkGeneration_iff.mp checked
  simp only [sameSet, Bool.and_eq_true, decide_eq_true_eq] at covers
  have inside : (List.range candidate.requirements.length).Subperm
      (candidate.coverage.map CoverageV1.requirementOrdinal) :=
    List.subperm_of_subset List.nodup_range covers.2
  refine (inside.perm_of_length_le ?_).symm
  rw [List.length_map, List.length_range, same]

/-- Every version 1 that a run of the graph can end in, whatever the model answered: it shows
the profile's texts and the claims of bound facts, keeps what the session locks, fits its
preferences and is the TeX of its own content; each requirement has one coverage row, of
bound facts and items of the content. -/
theorem published_drafts_sourced {σ : Type} {ports : GenerationPorts σ} {models : AnswerModels}
    {state state' : σ} {storable : Text → Bool} {template : Template}
    {requirementIds : Nat → UUID} {version : FirstVersion} {questions : List Text}
    (known : (inputs.facts.map FixedFact.versionId).Nodup)
    (returned : generate ports models inputs uuid5 graph state = .ok (candidate, state'))
    (published : publishGeneration storable template requirementIds session candidate =
      .ok ⟨.draft version, questions⟩) :
    SourcedDraft uuid5 inputs version.content.data ∧
      (requireLockedItemsUnchanged session.profileContent version.content.data
          session.preferences = .ok () ∧
        hardConstraintIssues version.content.data session.preferences = [] ∧
        renderResumeTex template session.profileContent version.content.data session.preferences =
          .ok version.tex) ∧
      version.content.data.itemIds.Nodup ∧
      (version.coverage.map RequirementCoverage.requirementId).Perm
        ((List.range candidate.requirements.length).map requirementIds) ∧
      ∀ row ∈ version.coverage, row.itemIds ⊆ version.content.data.itemIds ∧ row.itemIds.Nodup ∧
        row.materialFacts ⊆ session.material ∧ row.userFacts ⊆ session.user ∧
        row.materialFacts.Nodup ∧ row.userFacts.Nodup := by
  obtain ⟨analysis, selection, corrected, -, made⟩ := generate_ok returned
  obtain ⟨references, -, -, content, shown, first⟩ := publishGeneration_draft published
  obtain ⟨rfl, checked, rendered, covered, once⟩ := publishFirst_ok first
  obtain ⟨locked, allowed, items⟩ := checkDraft_iff.mp checked
  have distinct := rendered_distinct rendered
  have made := draftCandidate_parts made
  refine ⟨made.sourced known shown distinct, ⟨locked, allowed, rendered⟩, distinct, ?_, ?_⟩
  · have rows := (checkGeneration_rows references).map requirementIds
    rw [covered, List.map_map]
    rwa [List.map_map] at rows
  · intro row written
    rw [covered] at written
    obtain ⟨item, member, rfl⟩ := List.mem_map.mp written
    refine ⟨items item member, made.items_nodup shown distinct member, ?_, ?_, once item member⟩
    · exact fun fact bound => by simpa using (List.mem_filter.mp bound).2
    · exact fun fact bound => by simpa using (List.mem_filter.mp bound).2

/-! ## Runs -/

namespace Sample

def draftParts : TemplateParts := ⟨[], fun _ => [], []⟩

/-- The session of the draft's inputs. -/
def draftSession : GenerationSession asciiTables where
  jobText := "Build search".toList
  material := [12]
  user := [13]
  currentVersionId := none
  profileContent := (draftInputs samplePreferences).content.data
  preferences := samplePreferences

theorem draftSession_unchanged : Unchanged draftSession (draftInputs samplePreferences) where
  jobText := rfl
  facts := by decide
  unpublished := rfl
  profileContent := rfl
  preferences := rfl

/-- The run returns a candidate, and publishing it makes a version 1. -/
def publishesDraft (run : Except GenerationFailure (GenerationCandidateV1 × Unit)) : Bool :=
  match run with
  | .ok (candidate, _) =>
    match publishGeneration withoutNul (.ok draftParts) (100 + ·) draftSession candidate with
    | .ok ⟨.draft _, _⟩ => true
    | _ => false
  | .error _ => false

theorem indexDraft_published : ∃ candidate version questions,
    generate silentPorts (selectingModels 12) (draftInputs samplePreferences) sampleUuid5 draftGraph
      () = .ok (candidate, ()) ∧
    publishGeneration withoutNul (.ok draftParts) (100 + ·) draftSession candidate =
      .ok ⟨.draft version, questions⟩ := by
  have published : publishesDraft (generate silentPorts (selectingModels 12)
      (draftInputs samplePreferences) sampleUuid5 draftGraph ()) = true := by
    decide +kernel
  unfold publishesDraft at published
  split at published
  next candidate _ returned =>
    split at published
    next version questions made => exact ⟨candidate, version, questions, returned, made⟩
    · cases published
  · cases published

/-- Nothing stands in the way of the index draft. -/
theorem indexDraft_publishable : ∃ candidate result,
    generate silentPorts (selectingModels 12) (draftInputs samplePreferences) sampleUuid5 draftGraph
      () = .ok (candidate, ()) ∧
    publishGeneration withoutNul (.ok draftParts) (100 + ·) draftSession candidate = .ok result ∧
    ∃ analysis selection, ∀ drafted, candidate.content = some drafted →
      PublishableDraft withoutNul draftParts (draftInputs samplePreferences)
        (selectedBullets (draftInputs samplePreferences) analysis selection) candidate drafted := by
  obtain ⟨candidate, version, questions, returned, published⟩ := indexDraft_published
  obtain ⟨analysis, selection, -, -, -, -, exactly⟩ :=
    generations_publishable_iff withoutNul_stores draftSession_unchanged returned
  exact ⟨candidate, _, returned, published, analysis, selection, (exactly.mp ⟨_, published⟩).2⟩

/-- The index draft is published with its sources. -/
theorem indexDraft_sourced : ∃ version : FirstVersion,
    SourcedDraft sampleUuid5 (draftInputs samplePreferences) version.content.data ∧
      version.content.data.itemIds.Nodup := by
  obtain ⟨candidate, version, questions, returned, published⟩ := indexDraft_published
  obtain ⟨sourced, -, distinct, -⟩ := published_drafts_sourced (by decide) returned published
  exact ⟨version, sourced, distinct⟩

end Sample
end Pathfinder
