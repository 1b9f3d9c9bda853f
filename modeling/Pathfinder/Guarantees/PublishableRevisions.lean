import Pathfinder.Guarantees.AttributionExact
import Pathfinder.Resume.Publishable

/-!
# Which accepted revisions can be published

The worker accepts a candidate by the rules of `apply_scoped_patches`. The
renderer inside the publishing transaction has rules of its own: a project needs
a bullet, a text needs a TeX form, the document has a size limit.
-/
namespace Pathfinder
open LastWriter Conditional

/-- What the base and the patches need for the result to be published. -/
structure Publishable {chars : CharacterTables} (storable : Text → Bool) (parts : TemplateParts)
    (base : ResumeContent) (patches : List (PatchV1 chars)) : Prop where
  bullets : KeepsBullets patches base
  texts : StoresRepresentable patches base
  size : frameSize parts base + ((outcome patches base).map Item.size).sum ≤ maxTexBytes
  stored : ∀ patch ∈ patches, ∀ text ∈ patch.texts, storable text = true

section
variable {chars : CharacterTables} {parts : TemplateParts} {profile profile' : ResumeContent}
  {base : ResumeContentV1} {preferences preferences' : ResumePreferencesV1 chars}
  {permitted : List UUID} {claims : UUID → Option FactClaim} {patches : List (PatchV1 chars)}
  {request : RevisionRequest} {candidate : RevisionCandidateV1 chars} {tex : Text}

theorem validateRenderContent_ok {content : ResumeContent} :
    validateRenderContent profile content preferences = .ok () ↔
      requireLockedItemsUnchanged profile content preferences = .ok () ∧
        hardConstraintIssues content preferences = [] ∧
        (∀ project ∈ content.projects, project.bullets ≠ []) ∧ (renderIds content).Nodup := by
  unfold validateRenderContent
  cases requireLockedItemsUnchanged profile content preferences with
  | error reason => simp
  | ok done =>
    by_cases constrained : hardConstraintIssues content preferences = []
    · by_cases empty : (content.projects.any fun project => project.bullets = []) = true
      · obtain ⟨project, member, none⟩ : ∃ project ∈ content.projects, project.bullets = [] := by
          simpa using empty
        have notAll : ¬ ∀ project ∈ content.projects, project.bullets ≠ [] :=
          fun all => all project member none
        simp only [constrained, empty, notAll, false_and, and_false, iff_false, if_true, ne_eq,
          not_true_eq_false, if_false]
        simp
      · have none : ∀ project ∈ content.projects, project.bullets ≠ [] := by simpa using empty
        by_cases distinct : (renderIds content).Nodup
        · simp [constrained, distinct]
        · simp [constrained, distinct, empty]
    · simp [constrained]

theorem requireLockedItemsUnchanged_ok {original content : ResumeContent}
    (checked : requireLockedItemsUnchanged original content preferences = .ok ()) :
    original.displayName = content.displayName ∧ original.contact = content.contact := by
  unfold requireLockedItemsUnchanged at checked
  split at checked
  · cases checked
  next same => simpa [not_or] using same

theorem requireLockedItemsUnchanged_self (content : ResumeContent) :
    requireLockedItemsUnchanged content content preferences = .ok () := by
  simp [requireLockedItemsUnchanged]

variable (chars) in
/-- Without locked ids only the personal fields are compared. -/
theorem requireLockedItemsUnchanged_default {original content : ResumeContent}
    (name : original.displayName = content.displayName)
    (contact : original.contact = content.contact) :
    requireLockedItemsUnchanged original content
      (defaultPreferences : ResumePreferencesV1 chars) = .ok () := by
  simp [requireLockedItemsUnchanged, name, contact, defaultPreferences]

theorem requireProtected_ok {content : ResumeContent} :
    requireProtected profile content = .ok () ↔
      content.displayName = profile.displayName ∧ content.contact = profile.contact := by
  unfold requireProtected
  split
  next changed =>
    simp only [reduceCtorEq, false_iff]
    rintro ⟨name, contact⟩
    exact changed.elim (fun other => other name) fun other => other contact
  next same => simpa [not_or] using same

/-- The checks that an accepted candidate has passed. -/
structure RevisionAccepted (profile : ResumeContent) (base : ResumeContentV1)
    (preferences : ResumePreferencesV1 chars) (permitted : List UUID)
    (claims : UUID → Option FactClaim) (request : RevisionRequest)
    (candidate : RevisionCandidateV1 chars) : Prop where
  requested : requireRequested base preferences permitted claims candidate request = .ok ()
  named : requireProtected profile candidate.content.data = .ok ()
  unconstrained : hardConstraintIssues candidate.content.data preferences = []
  unlocked :
    requireLockedItemsUnchanged base.data candidate.content.data preferences = .ok ()
  applied : Applied permitted claims base.data candidate.patches candidate.content.data

theorem applyScopedPatches_checked {targets : List UUID} {content : ResumeContentV1}
    {diff : RevisionDiff}
    (ran : applyScopedPatches base patches targets preferences permitted claims =
      .ok (content, diff)) :
    requireLockedItemsUnchanged base.data content.data preferences = .ok () ∧
      hardConstraintIssues content.data preferences = [] := by
  unfold applyScopedPatches at ran
  split at ran
  · cases ran
  split at ran
  · cases ran
  split at ran
  · cases ran
  split at ran
  · cases ran
  next unlocked =>
  split at ran
  · cases ran
  next unconstrained =>
  cases ran
  exact ⟨unlocked, not_not.mp unconstrained⟩

theorem revise_ok (unique : (base.data.items.map Item.id).Nodup)
    (bound : requireProtected profile base.data = .ok ())
    (accepted : revise profile base preferences permitted claims patches request =
      .ok candidate) :
    RevisionAccepted profile base preferences permitted claims request candidate := by
  cases request with
  | preference =>
    simp only [revise] at accepted
    split at accepted
    · cases accepted
    next unconstrained =>
      cases accepted
      exact ⟨by simp [requireRequested], bound, not_not.mp unconstrained,
        requireLockedItemsUnchanged_self _, .nil _⟩
  | content targets =>
    simp only [revise] at accepted
    cases ran : applyScopedPatches base patches targets preferences permitted claims with
    | error reason =>
      rw [ran] at accepted
      cases accepted
    | ok result =>
      obtain ⟨content, summary⟩ := result
      rw [ran] at accepted
      cases named : requireProtected profile content.data with
      | error reason =>
        simp only [bind, Except.bind, named] at accepted
        cases accepted
      | ok done =>
        simp only [bind, Except.bind, named] at accepted
        cases accepted
        obtain ⟨unlocked, unconstrained⟩ := applyScopedPatches_checked ran
        refine ⟨?_, named, unconstrained, unlocked, (applyScopedPatches_ok unique ran).2⟩
        simp [requireRequested, ran, bind, Except.bind, pure, Except.pure]

/-- What the rendering of the base says about it. -/
structure BaseRendered (base : ResumeContent) : Prop where
  distinct : base.itemIds.Nodup
  header : HeaderRenders base
  items : ∀ item ∈ base.items, item.Renders

theorem baseRendered
    (rendered : renderResumeTex (.ok parts) profile' base.data preferences' = .ok tex) :
    BaseRendered base.data := by
  obtain ⟨⟨validated, header, sections, -⟩, -⟩ :=
    ((renderResumeTex_yields parts profile' base.valid preferences').iff_ok tex).mp rendered
  obtain ⟨unlocked, -, -, distinct⟩ := validateRenderContent_ok.mp validated
  obtain ⟨name, contact⟩ := requireLockedItemsUnchanged_ok unlocked
  refine ⟨(renderIds_perm _).nodup_iff.mp distinct, ?_, ((sections_render _).mp sections).2⟩
  rwa [HeaderRenders, ← name, ← contact]

/-- Every text of a content that renders has a TeX form. -/
theorem texts_representable {content : ResumeContent} (header : HeaderRenders content)
    (sections : ∀ part, SectionRenders content part) :
    ∀ text ∈ content.texts, representable text = true := by
  intro text listed
  simp only [ResumeContent.texts, List.cons_append, List.mem_cons, List.mem_append,
    List.mem_flatMap, List.mem_map, List.not_mem_nil, or_false] at listed
  rcases listed with rfl | ((⟨field, member, inside⟩ | ⟨entry, member, inside⟩) |
    ⟨entry, member, inside⟩) | ⟨entry, member, inside⟩
  · exact header.1
  · rcases inside with rfl | rfl
    · exact (header.2 field member).1
    · exact (header.2 field member).2
  · obtain ⟨institution, qualification, period⟩ := sections .education entry member
    rcases inside with rfl | rfl | rfl
    · exact institution
    · exact qualification
    · exact period
  · obtain ⟨-, technologies, title, period, summary, bullets⟩ := sections .projects entry member
    rcases inside with rfl | rfl | rfl | technology | ⟨bullet, within, rfl⟩
    · exact title
    · exact period
    · exact summary
    · exact technologies text technology
    · exact bullets bullet within
  · obtain ⟨items, label⟩ := sections .skills entry member
    rcases inside with rfl | item
    · exact label
    · exact items text item

/-- An accepted candidate passes the renderer's validation if projects keep bullets. -/
theorem RevisionAccepted.validate_iff
    (accepted : RevisionAccepted profile base preferences permitted claims request candidate)
    (rendered : BaseRendered base.data) :
    validateRenderContent base.data candidate.content.data preferences = .ok () ↔
      KeepsBullets candidate.patches base.data := by
  have distinct : (renderIds candidate.content.data).Nodup :=
    (renderIds_perm _).nodup_iff.mpr (accepted.applied.itemIds rendered.distinct)
  rw [validateRenderContent_ok,
    accepted.applied.bullets_iff (ResumeContent.items_unique rendered.distinct)]
  simp [accepted.unlocked, accepted.unconstrained, distinct]

theorem RevisionAccepted.render_iff
    (accepted : RevisionAccepted profile base preferences permitted claims request candidate)
    (rendered : BaseRendered base.data) :
    (∃ tex, renderResumeTex (.ok parts) base.data candidate.content.data preferences = .ok tex) ↔
      KeepsBullets candidate.patches base.data ∧ StoresRepresentable candidate.patches base.data ∧
        frameSize parts base.data + ((outcome candidate.patches base.data).map Item.size).sum ≤
          maxTexBytes := by
  have unique := ResumeContent.items_unique rendered.distinct
  rw [(renderResumeTex_yields parts base.data candidate.content.valid preferences).succeeds_iff,
    accepted.validate_iff rendered, accepted.applied.sections_render_iff unique rendered.items,
    accepted.applied.size_eq unique parts base.data candidate.content.valid preferences]
  constructor
  · rintro ⟨bullets, -, ⟨-, texts⟩, size⟩
    exact ⟨bullets, texts, size⟩
  · rintro ⟨bullets, texts, size⟩
    exact ⟨bullets, rendered.header, ⟨bullets, texts⟩, size⟩

theorem storeJson_ok {storable : Text → Bool} {texts : List Text} :
    storeJson storable texts = .ok () ↔ ∀ text ∈ texts, storable text = true := by
  simp [storeJson]

/-- Publication of an accepted candidate only renders it and stores its texts. -/
theorem RevisionAccepted.publish_iff {storable : Text → Bool}
    (accepted : RevisionAccepted profile base preferences permitted claims request candidate) :
    (∃ tex, publishRevision storable (.ok parts) profile base request preferences permitted claims
        candidate = .ok tex) ↔
      (∃ tex, renderResumeTex (.ok parts) base.data candidate.content.data preferences = .ok tex) ∧
        (∀ patch ∈ candidate.patches, ∀ text ∈ patch.texts, storable text = true) ∧
          ∀ text ∈ candidate.content.data.texts, storable text = true := by
  obtain ⟨name, contact⟩ := requireProtected_ok.mp accepted.named
  obtain ⟨baseName, baseContact⟩ := requireLockedItemsUnchanged_ok accepted.unlocked
  have staged : stageRevision (.ok parts) profile base.data candidate.content.data preferences =
      renderResumeTex (.ok parts) base.data candidate.content.data preferences := by
    have same := requireLockedItemsUnchanged_default chars
      (name.symm.trans baseName.symm) (contact.symm.trans baseContact.symm)
    simp only [stageRevision, same]
    rfl
  have stored : storeJson storable (candidate.patches.flatMap PatchV1.texts ++
      candidate.content.data.texts) = .ok () ↔
      (∀ patch ∈ candidate.patches, ∀ text ∈ patch.texts, storable text = true) ∧
        ∀ text ∈ candidate.content.data.texts, storable text = true := by
    simp only [storeJson_ok, List.forall_mem_append, List.forall_mem_flatMap]
  rw [← stored]
  simp only [publishRevision, accepted.requested, accepted.named, accepted.unconstrained, staged,
    ne_eq, not_true_eq_false, if_false, bind, Except.bind, pure, Except.pure]
  cases renderResumeTex (.ok parts) base.data candidate.content.data preferences with
  | error reason => simp
  | ok tex =>
    cases storeJson storable (candidate.patches.flatMap PatchV1.texts ++
      candidate.content.data.texts) with
    | error reason => simp
    | ok done => simp

/-- An accepted candidate renders and is published if every project that stays
keeps a bullet, the texts last stored have TeX forms, the document they leave is
within the limit and the texts of the patches can be stored. -/
theorem publishable_iff {storable : Text → Bool}
    (stores : ∀ text, representable text = true → storable text = true)
    (rendered : renderResumeTex (.ok parts) profile' base.data preferences' = .ok tex)
    (bound : requireProtected profile base.data = .ok ())
    (accepted : revise profile base preferences permitted claims patches request =
      .ok candidate) :
    (validateRenderContent base.data candidate.content.data preferences = .ok () ∧
      (∃ tex, renderResumeTex (.ok parts) base.data candidate.content.data preferences =
        .ok tex) ∧
      ∃ tex, publishRevision storable (.ok parts) profile base request preferences permitted claims
        candidate = .ok tex) ↔
      Publishable storable parts base.data candidate.patches := by
  have before := baseRendered rendered
  have passed := revise_ok (ResumeContent.items_unique before.distinct) bound accepted
  rw [passed.publish_iff, passed.validate_iff before, passed.render_iff before]
  constructor
  · rintro ⟨-, -, ⟨bullets, texts, size⟩, stored, -⟩
    exact ⟨bullets, texts, size, stored⟩
  · rintro ⟨bullets, texts, size, stored⟩
    have sections := (passed.applied.sections_render_iff
      (ResumeContent.items_unique before.distinct) before.items).mpr ⟨bullets, texts⟩
    obtain ⟨name, contact⟩ := requireLockedItemsUnchanged_ok passed.unlocked
    have header : HeaderRenders candidate.content.data := by
      rw [HeaderRenders, ← name, ← contact]
      exact before.header
    refine ⟨bullets, ⟨bullets, texts, size⟩, ⟨bullets, texts, size⟩, stored, ?_⟩
    exact fun text member => stores text (texts_representable header sections text member)

end
/-! ## A project without bullets -/

def sampleTemplate : TemplateParts := ⟨[], fun _ => [], []⟩

def sampleClaims (id : UUID) : Option FactClaim :=
  if id ∈ [11, 12, 13] then sampleFacts id else none

/-- The database refuses a text with the character zero. -/
def withoutNul (text : Text) : Bool := text.all fun c => c ≠ '\x00'

theorem withoutNul_stores (text : Text) (shown : representable text = true) :
    withoutNul text = true := by
  simp only [withoutNul, representable, List.all_eq_true] at shown ⊢
  intro c member
  have here := shown c member
  by_contra zero
  obtain rfl : c = '\x00' := by simpa using zero
  revert here
  decide

theorem sampleGenerated_rendered : ∃ tex, renderResumeTex (.ok sampleTemplate)
    sampleGenerated.data sampleGenerated.data samplePreferences = .ok tex := by
  refine (renderResumeTex_yields sampleTemplate _ sampleGenerated.valid
    samplePreferences).succeeds_iff.mpr ⟨rfl, ⟨by decide, by decide⟩, ?_, ?_⟩
  · intro part
    cases part <;> decide
  · rw [utf8Length_resumeTex _ _ sampleGenerated.valid,
      texSize_items _ _ _
        (show sectionOrderValid samplePreferences.values.sectionOrder = true from rfl)]
    decide +kernel

def rewordedPatches : List (PatchV1 asciiTables) :=
  [⟨sampleUuid5 7 (uuidText 12), .replaceText .bullet "Served 9 teams".toList [13], served_valid⟩]

/-- Take the only bullet of the first project out. -/
def emptyingPatches : List (PatchV1 asciiTables) :=
  [⟨sampleUuid5 7 (uuidText 11), .remove, PatchOperation.remove_valid asciiTables⟩]

theorem rewording_publishable :
    Publishable withoutNul sampleTemplate sampleGenerated.data rewordedPatches where
  bullets := by decide
  texts := by
    rintro key texts ⟨before, patch, later, split, stored, -⟩ -
    have member : patch ∈ rewordedPatches := by simp [split]
    obtain rfl := List.mem_singleton.mp member
    simp only [Reading.effect] at stored
    split at stored
    · cases stored
      decide
    · cases stored
  size := by decide +kernel
  stored := by decide

/-- Rewording a bullet is accepted and published. -/
theorem rewording_published : ∃ candidate tex,
    revise sampleGenerated.data sampleGenerated samplePreferences [11, 12, 13] sampleClaims
      rewordedPatches (.content [sampleUuid5 7 (uuidText 12)]) = .ok candidate ∧
    publishRevision withoutNul (.ok sampleTemplate) sampleGenerated.data sampleGenerated
      (.content [sampleUuid5 7 (uuidText 12)]) samplePreferences [11, 12, 13] sampleClaims
      candidate = .ok tex := by
  obtain ⟨tex, rendered⟩ := sampleGenerated_rendered
  have accepted : revise sampleGenerated.data sampleGenerated samplePreferences [11, 12, 13]
      sampleClaims rewordedPatches (.content [sampleUuid5 7 (uuidText 12)]) = .ok _ := rfl
  obtain ⟨-, -, published, stored⟩ :=
    (publishable_iff withoutNul_stores rendered rfl accepted).mpr rewording_publishable
  exact ⟨_, published, accepted, stored⟩

/-- Removing the only bullet of a project is accepted and cannot be published. -/
theorem accepted_not_publishable : ¬ ∀ (storable : Text → Bool) (parts : TemplateParts)
    (profile profile' : ResumeContent) (base : ResumeContentV1)
    (preferences preferences' : ResumePreferencesV1 asciiTables) (permitted : List UUID)
    (claims : UUID → Option FactClaim) (patches : List (PatchV1 asciiTables))
    (request : RevisionRequest) (candidate : RevisionCandidateV1 asciiTables) (tex : Text),
    (∀ text, representable text = true → storable text = true) →
    renderResumeTex (.ok parts) profile' base.data preferences' = .ok tex →
    requireProtected profile base.data = .ok () →
    revise profile base preferences permitted claims patches request = .ok candidate →
    validateRenderContent base.data candidate.content.data preferences = .ok () ∧
      (∃ tex, renderResumeTex (.ok parts) base.data candidate.content.data preferences =
        .ok tex) ∧
      ∃ tex, publishRevision storable (.ok parts) profile base request preferences permitted claims
        candidate = .ok tex := by
  intro published
  obtain ⟨tex, rendered⟩ := sampleGenerated_rendered
  have accepted : revise sampleGenerated.data sampleGenerated samplePreferences [11, 12, 13]
      sampleClaims emptyingPatches (.content [sampleUuid5 7 (uuidText 11)]) = .ok _ := rfl
  have validated := (published withoutNul sampleTemplate _ _ sampleGenerated _ samplePreferences _ _
    _ _ _ tex withoutNul_stores rendered rfl accepted).1
  revert validated
  decide

end Pathfinder
