import Pathfinder.Db.ResumePublication
import Pathfinder.Guarantees.PublishableRevisions

/-!
# Coverage follows a revision

Each coverage row of the base version leaves one row of the new version. Its references
are right unless an earlier patch on a kept item cites what no last one does, or the row
loses all its items while its references are still bound.
-/
namespace Pathfinder
open LastWriter Conditional

variable {chars : CharacterTables}

/-- Some replacing patch wrote one of the items. -/
def Rewritten (patches : List (PatchV1 chars)) (items : List UUID) : Prop :=
  ∃ id ∈ items, ∃ patch ∈ patches, patch.replaces id = true

/-- A replacing patch on one of the items cites the fact. -/
def CitedOn (patches : List (PatchV1 chars)) (items : List UUID) (fact : UUID) : Prop :=
  ∃ id ∈ items, ∃ patch ∈ patches, patch.replaces id = true ∧
    fact ∈ patch.operation.factVersionIds

/-- The last replacing patch on one of the items cites the fact. -/
def LastCitedOn (patches : List (PatchV1 chars)) (items : List UUID) (fact : UUID) : Prop :=
  ∃ id ∈ items, ∃ before patch later, patches = before ++ patch :: later ∧
    patch.replaces id = true ∧ fact ∈ patch.operation.factVersionIds ∧
      ∀ next ∈ later, next.replaces id = false

/-- What a row of the new version owes to the base row it comes from. -/
structure CoverageFollows (material user : List UUID) (patches : List (PatchV1 chars))
    (content : ResumeContent) (previous row : RequirementCoverage) : Prop where
  requirement : row.requirementId = previous.requirementId
  items : row.itemIds = previous.itemIds.filter fun id => decide (id ∈ content.itemIds)
  rewritten : Rewritten patches row.itemIds → ∀ fact,
    (fact ∈ row.materialFacts ↔ fact ∈ material ∧ CitedOn patches row.itemIds fact) ∧
      (fact ∈ row.userFacts ↔ fact ∈ user ∧ CitedOn patches row.itemIds fact)
  kept : row.itemIds ≠ [] → ¬ Rewritten patches row.itemIds → ∀ fact,
    (fact ∈ row.materialFacts ↔ fact ∈ material ∧ fact ∈ previous.materialFacts) ∧
      (fact ∈ row.userFacts ↔ fact ∈ user ∧ fact ∈ previous.userFacts)
  dropped : row.itemIds = [] →
    row.support = .noSupportFound ∧ row.materialFacts = [] ∧ row.userFacts = []

/-- No reference of the row is lost to a later patch on its item, and none outlives
its items. -/
structure CoverageTraceable (material user : List UUID) (patches : List (PatchV1 chars))
    (content : ResumeContent) (previous : RequirementCoverage) : Prop where
  cited : ∀ fact, fact ∈ material ∨ fact ∈ user →
    CitedOn patches (previous.keptItems content) fact →
      LastCitedOn patches (previous.keptItems content) fact
  dropped : previous.keptItems content = [] →
    (∀ fact ∈ previous.materialFacts, fact ∉ material) ∧ ∀ fact ∈ previous.userFacts, fact ∉ user

section Rows
variable {material user : List UUID} {patches : List (PatchV1 chars)} {items : List UUID}

theorem factRefsEffect_keep {patch : PatchV1 chars} {id : UUID} :
    factRefsEffect patch id = .keep ↔ patch.replaces id = false := by
  unfold factRefsEffect
  cases patch.replaces id <;> simp

theorem factRefsEffect_store {patch : PatchV1 chars} {id : UUID} {facts : List UUID} :
    factRefsEffect patch id = .store facts ↔
      patch.replaces id = true ∧ patch.operation.factVersionIds = facts := by
  unfold factRefsEffect
  cases patch.replaces id <;> simp

/-- The dictionary holds the facts of the last replacing patch. -/
theorem changedFactRefs_some {id : UUID} {facts : List UUID} :
    changedFactRefs patches id = some facts ↔ ∃ before patch later,
      patches = before ++ patch :: later ∧ patch.replaces id = true ∧
        patch.operation.factVersionIds = facts ∧ ∀ next ∈ later, next.replaces id = false := by
  unfold changedFactRefs
  rw [replay_eq_some]
  simp only [LastStored, factRefsEffect_store, factRefsEffect_keep, reduceCtorEq, false_and,
    or_false, and_assoc]

theorem changedFactRefs_isSome {id : UUID} :
    (changedFactRefs patches id).isSome = true ↔
      ∃ patch ∈ patches, patch.replaces id = true := by
  have uncleared : ∀ patch ∈ patches, factRefsEffect patch id ≠ .clear := by
    intro patch _
    unfold factRefsEffect
    split <;> exact nofun
  unfold changedFactRefs
  rw [replay_isSome _ uncleared]
  simp [factRefsEffect_keep]

/-- `changed_coverage`. -/
theorem changedCoverage_iff :
    (items.any fun id => (changedFactRefs patches id).isSome) = true ↔
      Rewritten patches items := by
  simp only [List.any_eq_true, changedFactRefs_isSome, Rewritten]

/-- `changed_refs`. -/
theorem mem_changedRefs {fact : UUID} :
    fact ∈ items.flatMap (fun id => (changedFactRefs patches id).getD []) ↔
      LastCitedOn patches items fact := by
  simp only [List.mem_flatMap, LastCitedOn]
  constructor
  · rintro ⟨id, member, cited⟩
    cases held : changedFactRefs patches id with
    | none =>
      rw [held] at cited
      cases cited
    | some facts =>
      rw [held] at cited
      obtain ⟨before, patch, later, split, replaces, rfl, last⟩ := changedFactRefs_some.mp held
      exact ⟨id, member, before, patch, later, split, replaces, cited, last⟩
  · rintro ⟨id, member, before, patch, later, split, replaces, cited, last⟩
    have held := changedFactRefs_some.mpr ⟨before, patch, later, split, replaces, rfl, last⟩
    refine ⟨id, member, ?_⟩
    rw [held]
    exact cited

theorem LastCitedOn.cited {fact : UUID} (last : LastCitedOn patches items fact) :
    CitedOn patches items fact := by
  obtain ⟨id, member, before, patch, later, rfl, replaces, cites, -⟩ := last
  exact ⟨id, member, patch, List.mem_append_right _ List.mem_cons_self, replaces, cites⟩

theorem CitedOn.rewritten {fact : UUID} (cited : CitedOn patches items fact) :
    Rewritten patches items := by
  obtain ⟨id, member, patch, listed, replaces, -⟩ := cited
  exact ⟨id, member, patch, listed, replaces⟩

section Row
variable {candidate : RevisionCandidateV1 chars} {previous : RequirementCoverage} {fact : UUID}

/-- The references of a rewritten row are those of the last patches. -/
theorem revisedCoverage_rewritten (material user : List UUID) (fact : UUID)
    (rewritten : Rewritten candidate.patches (previous.keptItems candidate.content.data)) :
    (fact ∈ (revisedCoverage material user candidate previous).materialFacts ↔
      fact ∈ material ∧
        LastCitedOn candidate.patches (previous.keptItems candidate.content.data) fact) ∧
    (fact ∈ (revisedCoverage material user candidate previous).userFacts ↔
      fact ∈ user ∧
        LastCitedOn candidate.patches (previous.keptItems candidate.content.data) fact) := by
  unfold revisedCoverage
  dsimp only
  rw [changedCoverage_iff.mpr rewritten]
  simp only [if_true, List.mem_filter, decide_eq_true_eq, mem_changedRefs, and_self]

/-- Those of another row are the ones it had. -/
theorem revisedCoverage_unwritten (material user : List UUID) (fact : UUID)
    (unwritten : ¬ Rewritten candidate.patches (previous.keptItems candidate.content.data)) :
    (fact ∈ (revisedCoverage material user candidate previous).materialFacts ↔
      fact ∈ material ∧ fact ∈ previous.materialFacts) ∧
    (fact ∈ (revisedCoverage material user candidate previous).userFacts ↔
      fact ∈ user ∧ fact ∈ previous.userFacts) := by
  unfold revisedCoverage
  dsimp only
  rw [Bool.eq_false_iff.mpr fun changed => unwritten (changedCoverage_iff.mp changed)]
  simp [List.mem_filter]

theorem revisedCoverage_dropped (dropped : previous.keptItems candidate.content.data = []) :
    (revisedCoverage material user candidate previous).support = .noSupportFound := by
  simp [revisedCoverage, dropped]

theorem not_rewritten_nil : ¬ Rewritten patches [] := by
  rintro ⟨id, member, -⟩
  cases member

/-- A row follows its base row exactly if its references are traceable. -/
theorem revisedCoverage_follows :
    CoverageFollows material user candidate.patches candidate.content.data previous
        (revisedCoverage material user candidate previous) ↔
      CoverageTraceable material user candidate.patches candidate.content.data previous := by
  have items : (revisedCoverage material user candidate previous).itemIds =
      previous.keptItems candidate.content.data := rfl
  constructor
  · intro follows
    refine ⟨fun fact bound cited => ?_, fun empty => ?_⟩
    · have owed := follows.rewritten cited.rewritten fact
      have last := revisedCoverage_rewritten material user fact cited.rewritten
      rcases bound with held | held
      · exact (last.1.mp (owed.1.mpr ⟨held, cited⟩)).2
      · exact (last.2.mp (owed.2.mpr ⟨held, cited⟩)).2
    · obtain ⟨-, noMaterial, noUser⟩ := follows.dropped (items.trans empty)
      have unwritten : ¬ Rewritten candidate.patches
          (previous.keptItems candidate.content.data) := by
        rw [empty]
        exact not_rewritten_nil
      refine ⟨fun fact prior bound => ?_, fun fact prior bound => ?_⟩
      · have kept := (revisedCoverage_unwritten material user fact unwritten).1.mpr ⟨bound, prior⟩
        rw [noMaterial] at kept
        cases kept
      · have kept := (revisedCoverage_unwritten material user fact unwritten).2.mpr ⟨bound, prior⟩
        rw [noUser] at kept
        cases kept
  · intro traceable
    refine ⟨rfl, rfl, fun rewritten fact => ?_, fun _ unwritten fact => ?_, fun empty => ?_⟩
    · have last := revisedCoverage_rewritten material user fact rewritten
      rw [last.1, last.2, items]
      exact ⟨and_congr_right fun held => ⟨LastCitedOn.cited, traceable.cited fact (.inl held)⟩,
        and_congr_right fun held => ⟨LastCitedOn.cited, traceable.cited fact (.inr held)⟩⟩
    · exact revisedCoverage_unwritten material user fact unwritten
    · have unwritten : ¬ Rewritten candidate.patches
          (previous.keptItems candidate.content.data) := by
        rw [← items, empty]
        exact not_rewritten_nil
      obtain ⟨noMaterial, noUser⟩ := traceable.dropped (items.symm.trans empty)
      refine ⟨revisedCoverage_dropped (items.symm.trans empty), ?_, ?_⟩
      · refine List.eq_nil_iff_forall_not_mem.mpr fun fact kept => ?_
        obtain ⟨bound, prior⟩ := (revisedCoverage_unwritten material user fact unwritten).1.mp kept
        exact noMaterial fact prior bound
      · refine List.eq_nil_iff_forall_not_mem.mpr fun fact kept => ?_
        obtain ⟨bound, prior⟩ := (revisedCoverage_unwritten material user fact unwritten).2.mp kept
        exact noUser fact prior bound

end Row
end Rows

/-- In a published revision every coverage row follows its base row if and only if no
bound fact cited on a row's kept items is cited by overwritten patches alone, and no row
loses all its items while a fact it refers to is still bound. -/
theorem coverage_follows_iff {storable : Text → Bool} {template : Template}
    {profileContent : ResumeContent} {base : ResumeContentV1} {request : RevisionRequest}
    {preferences : ResumePreferencesV1 chars} {material user : List UUID}
    {factClaims : UUID → Option FactClaim} {oldCoverage : List RequirementCoverage}
    {candidate : RevisionCandidateV1 chars} {tex : Text} {coverage : List RequirementCoverage}
    (published : publishRevisionCoverage storable template profileContent base request preferences
      material user factClaims oldCoverage candidate = .ok (tex, coverage)) :
    List.Forall₂ (CoverageFollows material user candidate.patches candidate.content.data)
        oldCoverage coverage ↔
      ∀ previous ∈ oldCoverage,
        CoverageTraceable material user candidate.patches candidate.content.data previous := by
  have written : coverage = oldCoverage.map (revisedCoverage material user candidate) := by
    obtain ⟨tex, -, published⟩ := bind_ok.mp published
    cases published
    rfl
  rw [written, List.forall₂_map_right_iff, List.forall₂_same]
  exact forall₂_congr fun _ _ => revisedCoverage_follows

/-! ## A reworded bullet -/

namespace Sample

/-- What publishing the proposal on the sample base takes. -/
theorem coverage_published {patches : List (PatchV1 asciiTables)} {targets : List UUID}
    {candidate : RevisionCandidateV1 asciiTables}
    (accepted : revise sampleGenerated.data sampleGenerated samplePreferences [11, 12, 13]
      sampleClaims patches (.content targets) = .ok candidate)
    (rendered : ∃ tex, renderResumeTex (.ok sampleTemplate) sampleGenerated.data
      candidate.content.data samplePreferences = .ok tex)
    (stored : (∀ patch ∈ candidate.patches, ∀ text ∈ patch.texts, withoutNul text = true) ∧
      ∀ text ∈ candidate.content.data.texts, withoutNul text = true)
    (oldCoverage : List RequirementCoverage) :
    ∃ tex, publishRevisionCoverage withoutNul (.ok sampleTemplate) sampleGenerated.data
      sampleGenerated (.content targets) samplePreferences [11, 12] [13] sampleClaims oldCoverage
        candidate =
      .ok (tex, oldCoverage.map (revisedCoverage [11, 12] [13] candidate)) := by
  have distinct : sampleGenerated.data.itemIds.Nodup := by decide
  have passed := revise_ok (ResumeContent.items_unique distinct) rfl accepted
  obtain ⟨tex, published⟩ := passed.publish_iff.mpr ⟨rendered, stored⟩
  refine ⟨tex, ?_⟩
  unfold publishRevisionCoverage
  rw [show [11, 12] ++ [13] = [11, 12, 13] from rfl, published]
  rfl

/-- Coverage of the two bullets by one row, and of the second project by another. -/
def bulletCoverage : List RequirementCoverage :=
  [⟨71, .supported, .needsHumanReview, "two bullets",
      [sampleUuid5 7 (uuidText 11), sampleUuid5 7 (uuidText 12)], [11, 12], []⟩,
    ⟨72, .supported, .needsHumanReview, "a project", [30], [12], []⟩]

def rewordedContent : ResumeContentV1 :=
  ⟨sampleResume [sampleProject 20 11 "Cut latency by 40%",
    { sampleProject 30 12 "Built the index" with
      bullets := [⟨sampleUuid5 7 (uuidText 12), plainText "Served 9 teams"⟩] }], by decide⟩

def rewordedCandidate : RevisionCandidateV1 asciiTables :=
  let diff := [Change.updated (sampleUuid5 7 (uuidText 12))
    (.replaceText .bullet "Served 9 teams".toList [13])]
  ⟨rewordedContent, rewordedPatches, diff, diff.map Change.impact⟩

theorem reworded_rendered : ∃ tex, renderResumeTex (.ok sampleTemplate)
    sampleGenerated.data rewordedContent.data samplePreferences = .ok tex := by
  refine (renderResumeTex_yields sampleTemplate _ rewordedContent.valid
    samplePreferences).succeeds_iff.mpr ⟨rfl, ⟨by decide, by decide⟩, ?_, ?_⟩
  · intro part
    cases part <;> decide
  · rw [utf8Length_resumeTex _ _ rewordedContent.valid, texSize_items _ _ _
      (show sectionOrderValid samplePreferences.values.sectionOrder = true from rfl)]
    decide +kernel

/-- A single patch is the last one on its item. -/
theorem lastCited_single {patch : PatchV1 asciiTables} {items : List UUID} {fact : UUID}
    (cited : CitedOn [patch] items fact) : LastCitedOn [patch] items fact := by
  obtain ⟨id, member, other, listed, replaces, cites⟩ := cited
  cases List.mem_singleton.mp listed
  exact ⟨id, member, [], patch, [], rfl, replaces, cites,
    fun _ none => (List.not_mem_nil none).elim⟩

end Sample

/-- The bullet keeps the fact it now cites, the other project its own. -/
theorem coverage_followed : ∃ tex coverage,
    publishRevisionCoverage withoutNul (.ok sampleTemplate) sampleGenerated.data sampleGenerated
      (.content [sampleUuid5 7 (uuidText 12)]) samplePreferences [11, 12] [13] sampleClaims
      Sample.bulletCoverage Sample.rewordedCandidate = .ok (tex, coverage) ∧
      List.Forall₂ (CoverageFollows [11, 12] [13] rewordedPatches Sample.rewordedContent.data)
        Sample.bulletCoverage coverage := by
  have accepted : revise sampleGenerated.data sampleGenerated samplePreferences [11, 12, 13]
      sampleClaims rewordedPatches (.content [sampleUuid5 7 (uuidText 12)]) =
        .ok Sample.rewordedCandidate := rfl
  obtain ⟨tex, published⟩ := Sample.coverage_published accepted Sample.reworded_rendered
    ⟨by decide, by decide⟩ Sample.bulletCoverage
  refine ⟨tex, _, published, (coverage_follows_iff published).mpr fun previous member => ?_⟩
  refine ⟨fun fact _ cited => Sample.lastCited_single cited, fun empty => ?_⟩
  have kept : ∀ row ∈ Sample.bulletCoverage,
      row.keptItems Sample.rewordedContent.data ≠ [] := by decide
  exact absurd empty (kept previous member)

/-! ## Two fields of one project -/

namespace Sample

/-- The title cites the first fact, the summary the second. -/
def doublePatches : List (PatchV1 asciiTables) :=
  [⟨20, .replaceText .title "Latency".toList [11], by decide⟩,
    ⟨20, .replaceText .summary "Index".toList [12], by decide⟩]

def doubleContent : ResumeContentV1 :=
  ⟨sampleResume [{ sampleProject 20 11 "Cut latency by 40%" with
      title := plainText "Latency"
      summary := plainText "Index" }, sampleProject 30 12 "Built the index"], by decide⟩

def doubleCandidate : RevisionCandidateV1 asciiTables :=
  let diff := doublePatches.map fun patch => Change.updated patch.itemId patch.operation
  ⟨doubleContent, doublePatches, diff, diff.map Change.impact⟩

def projectCoverage : List RequirementCoverage :=
  [⟨71, .supported, .needsHumanReview, "a project", [20], [11], []⟩]

theorem double_rendered : ∃ tex, renderResumeTex (.ok sampleTemplate)
    sampleGenerated.data doubleContent.data samplePreferences = .ok tex := by
  refine (renderResumeTex_yields sampleTemplate _ doubleContent.valid
    samplePreferences).succeeds_iff.mpr ⟨rfl, ⟨by decide, by decide⟩, ?_, ?_⟩
  · intro part
    cases part <;> decide
  · rw [utf8Length_resumeTex _ _ doubleContent.valid, texSize_items _ _ _
      (show sectionOrderValid samplePreferences.values.sectionOrder = true from rfl)]
    decide +kernel

end Sample

/-- The new row refers to what the summary cites, and not to what the title cites. -/
theorem coverage_lost : ¬ ∀ (preferences : ResumePreferencesV1 asciiTables)
    (profileContent : ResumeContent) (base : ResumeContentV1) (request : RevisionRequest)
    (material user : List UUID) (factClaims : UUID → Option FactClaim)
    (oldCoverage : List RequirementCoverage) (candidate : RevisionCandidateV1 asciiTables)
    (tex : Text) (coverage : List RequirementCoverage),
    publishRevisionCoverage withoutNul (.ok sampleTemplate) profileContent base request preferences
      material user factClaims oldCoverage candidate = .ok (tex, coverage) →
    List.Forall₂ (CoverageFollows material user candidate.patches candidate.content.data)
      oldCoverage coverage := by
  intro all
  have accepted : revise sampleGenerated.data sampleGenerated samplePreferences [11, 12, 13]
      sampleClaims Sample.doublePatches (.content [20]) = .ok Sample.doubleCandidate := rfl
  obtain ⟨tex, published⟩ := Sample.coverage_published accepted Sample.double_rendered
    ⟨by decide, by decide⟩ Sample.projectCoverage
  have follows := all _ _ _ _ _ _ _ _ _ _ _ published
  cases follows with
  | cons row _ =>
    have rewritten : Rewritten Sample.doublePatches [20] :=
      ⟨20, List.mem_cons_self, _, List.mem_cons_self, rfl⟩
    have owed : 11 ∈ ([12] : List UUID) :=
      (row.rewritten rewritten 11).1.mpr ⟨List.mem_cons_self, 20, List.mem_cons_self, _,
        List.mem_cons_self, rfl, List.mem_cons_self⟩
    revert owed
    decide

end Pathfinder
