import Pathfinder.Resume.Numbers
import Pathfinder.Guarantees.AttributionExact

/-!
# Numbers and the facts attributed to them

A replacement may keep the numbers of the text it overwrites, but it replaces
the citation. A number is covered by the attributed facts unless the last
replacement of its text kept it from the old text and cites no fact with it.
-/
namespace Pathfinder

section
variable {chars : CharacterTables} {uuid5 : UUID → Text → UUID} {db : FactDb chars}
  {tenant : TenantContext} {facts : UUID → Option FactClaim} {row : ResumeVersion}
  {lineage : SessionLineage chars}

/-- The number is in the claim of a fact that `uses` attributes to the item. -/
def NumberAttributed (chars : CharacterTables) (facts : UUID → Option FactClaim)
    (uses : FactUses) (item : UUID) (number : Text) : Prop :=
  ∃ field cited, ((item, field), cited) ∈ uses ∧ Supports chars facts cited number

/-- The number is in the claim of a fact cited by the last writer of a field of the item. -/
def NumberCited (facts : UUID → Option FactClaim) (lineage : SessionLineage chars) (item : UUID)
    (number : Text) : Prop :=
  ∃ field cited, lineage.lastCitation (item, field) = some cited ∧
    Supports chars facts cited number

theorem numberAttributed_iff (recorded : lineage.Recorded db tenant row.sessionId row)
    (accepted : lineage.Accepted uuid5 row.sessionId facts) {uses : FactUses}
    (ran : attributedUses uuid5 db tenant row = .ok uses) {item : Item}
    (present : item ∈ lineage.content.data.items) (number : Text) :
    NumberAttributed chars facts uses item.id number ↔
      NumberCited facts lineage item.id number := by
  have held := recorded.attributedUses_holds accepted ran
  unfold NumberAttributed NumberCited
  refine exists_congr fun field => exists_congr fun cited => and_congr_left fun _ => ?_
  rw [held (item.id, field) cited, accepted.attribution_present present field]

/-- Every number of a bullet or summary is in the claim of a fact attributed to
its item if every number which the last replacement of such a text kept from the
text before it is in the claim of a fact cited for that item. -/
theorem numbers_attributed_iff (recorded : lineage.Recorded db tenant row.sessionId row)
    (accepted : lineage.Accepted uuid5 row.sessionId facts) {uses : FactUses}
    (ran : attributedUses uuid5 db tenant row = .ok uses) :
    (∀ item ∈ lineage.content.data.items, ∀ field, field = .bullet ∨ field = .summary →
      ∀ text, item.text field = some text → ∀ number ∈ numericTokens chars text,
        NumberAttributed chars facts uses item.id number) ↔
    ∀ item ∈ lineage.content.data.items, ∀ field, field = .bullet ∨ field = .summary →
      ∀ old new, lineage.LastReplaced (item.id, field) old new →
        ∀ number ∈ numericTokens chars new, number ∈ numericTokens chars old →
          NumberCited facts lineage item.id number := by
  constructor
  · intro attributed item present field written old new replaced number listed _
    rw [← numberAttributed_iff recorded accepted ran present]
    have text : item.text field = some new :=
      (accepted.textsKnown item present field).trans replaced.lastText
    exact attributed item present field written new text number listed
  · intro kept item present field written text held number listed
    rw [numberAttributed_iff recorded accepted ran present]
    obtain ⟨cited, stored, generated | ⟨old, replaced, numbers⟩⟩ :=
      accepted.explained present written held
    · exact ⟨field, cited, stored, generated number listed⟩
    · rcases numbers number listed with inherited | supported
      · exact kept item present field written old text replaced number listed inherited
      · exact ⟨field, cited, stored, supported⟩

end

/-- What `_actual_fact_uses` reports for the generated version. -/
def sampleBaseUses : FactUses :=
  [((sampleUuid5 7 (uuidText 11), .bullet), [11]), ((20, .summary), [11]),
    ((sampleUuid5 7 (uuidText 12), .bullet), [12]), ((30, .summary), [12])]

/-- The generated version has replaced nothing, so its numbers are attributed. -/
theorem sampleBase_numbers_attributed :
    attributedUses sampleUuid5 orphanedDb sampleTenant sampleFirstVersion = .ok sampleBaseUses ∧
    ∀ item ∈ sampleBase.content.data.items, ∀ field, field = .bullet ∨ field = .summary →
      ∀ text, item.text field = some text → ∀ number ∈ numericTokens asciiTables text,
        NumberAttributed asciiTables sampleFacts sampleBaseUses item.id number := by
  have ran : attributedUses sampleUuid5 orphanedDb sampleTenant sampleFirstVersion =
    .ok sampleBaseUses := rfl
  refine ⟨ran, (numbers_attributed_iff sampleBase_recorded sampleBase_accepted ran).mpr ?_⟩
  intro item _ field _ old new replaced
  cases replaced

/-! ## A number that lost its fact -/

/-- Keep "40%", add "9", and cite only the fact that says "9". -/
def inheritingPatches : List (PatchV1 asciiTables) :=
  [⟨sampleUuid5 7 (uuidText 11),
    .replaceText .bullet "Cut latency by 40% for 9 teams".toList [13], by decide⟩]

def inheritedProject : ProjectEntry :=
  { sampleProject 20 11 "Cut latency by 40%" with
    bullets := [⟨sampleUuid5 7 (uuidText 11), plainText "Cut latency by 40% for 9 teams"⟩] }

def sampleInherited : ResumeContentV1 :=
  ⟨sampleResume [inheritedProject, sampleProject 30 12 "Built the index"], by decide⟩

def inheritedSession : SessionLineage asciiTables :=
  .revised sampleBase inheritingPatches sampleInherited [11, 12, 13]

theorem inheritedSession_accepted : inheritedSession.Accepted sampleUuid5 7 sampleFacts :=
  have applied : applyScopedPatches sampleGenerated inheritingPatches
      [sampleUuid5 7 (uuidText 11)] samplePreferences [11, 12, 13]
      (fun id => if id ∈ [11, 12, 13] then sampleFacts id else none) =
      .ok (sampleInherited, _) := rfl
  .revised sampleBase_accepted applied

def inheritedDb : FactDb asciiTables :=
  { orphanedDb with
    versions := [sampleFirstVersion, sampleSecondVersion sampleInherited]
    feedback := [⟨301, 3, 7, some inheritingPatches⟩] }

theorem inheritedSession_recorded : inheritedSession.Recorded inheritedDb sampleTenant 7
    (sampleSecondVersion sampleInherited) :=
  have first : sampleBase.Recorded inheritedDb sampleTenant 7 sampleFirstVersion :=
    .generated rfl rfl
  .revised first rfl rfl rfl rfl

/-- What `_actual_fact_uses` reports for the inheriting version. -/
def inheritedUses : FactUses :=
  [((20, .summary), [11]), ((sampleUuid5 7 (uuidText 12), .bullet), [12]), ((30, .summary), [12]),
    ((sampleUuid5 7 (uuidText 11), .bullet), [13])]

theorem inheritedSession_uses : attributedUses sampleUuid5 inheritedDb sampleTenant
    (sampleSecondVersion sampleInherited) = .ok inheritedUses := rfl

/-- Nothing attributed to the bullet that says "40%" says "40%". -/
theorem numbers_not_attributed : ¬ ∀ (uuid5 : UUID → Text → UUID) (db : FactDb asciiTables)
    (tenant : TenantContext) (facts : UUID → Option FactClaim) (row : ResumeVersion)
    (lineage : SessionLineage asciiTables) (uses : FactUses),
    lineage.Recorded db tenant row.sessionId row → lineage.Accepted uuid5 row.sessionId facts →
    attributedUses uuid5 db tenant row = .ok uses →
    ∀ item ∈ lineage.content.data.items, ∀ field, field = .bullet ∨ field = .summary →
      ∀ text, item.text field = some text → ∀ number ∈ numericTokens asciiTables text,
        NumberAttributed asciiTables facts uses item.id number := by
  intro attributed
  have project : inheritedProject ∈ sampleInherited.data.projects := by decide
  have bullet : (⟨sampleUuid5 7 (uuidText 11), plainText "Cut latency by 40% for 9 teams"⟩ :
      Bullet) ∈ inheritedProject.bullets := by decide
  obtain ⟨field, cited, listed, fact, member, claim, known, inside⟩ := attributed sampleUuid5
    inheritedDb sampleTenant sampleFacts (sampleSecondVersion sampleInherited) inheritedSession _
    inheritedSession_recorded inheritedSession_accepted inheritedSession_uses _
    (ResumeContent.bullet_mem_items project bullet) .bullet (.inl rfl)
    "Cut latency by 40% for 9 teams".toList rfl "40%".toList (by decide)
  have only : ∀ entry ∈ inheritedUses, entry.1.1 = sampleUuid5 7 (uuidText 11) →
    entry.2 = [13] := by decide
  cases only _ listed rfl
  cases List.mem_singleton.mp member
  cases known
  exact absurd inside (by decide)

end Pathfinder
