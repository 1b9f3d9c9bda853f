import Pathfinder.Agents.ResumeGeneration
import Pathfinder.Guarantees.AttributionExact
import Pathfinder.Library.Conditional

/-!
# What a first draft shows, omits and covers

A candidate is coherent when its content, its omissions and its coverage speak of the same
facts. They do unless a draft is given up after facts were selected for it, or a fact is
selected twice for different requirements.
-/
namespace Pathfinder
open Conditional

variable {chars : CharacterTables}

/-! ## The content -/

section Content
variable (uuid5 : UUID → Text → UUID) (inputs : DraftInputs chars)

/-- The claim a bullet shows. -/
def claimOf (bullet : DraftBulletV1) : Text :=
  ((byFact inputs bullet.factVersionId).map FixedFact.claim).getD []

/-- The bullet a project gets for a selected one. -/
def shownBullet (bullet : DraftBulletV1) : Bullet :=
  ⟨bulletId uuid5 inputs bullet.factVersionId, ⟨claimOf inputs bullet, []⟩⟩

/-- A profile project with its selected bullets. -/
def shownProject (original : ProjectEntry) (chosen : List DraftBulletV1) : ProjectEntry :=
  { original with
    summary := ⟨(chosen.map (claimOf inputs)).headD [], []⟩
    technologies := mentioned chars original.technologies (chosen.map (claimOf inputs))
    bullets := chosen.map (shownBullet uuid5 inputs) }

/-- The projects with a selected bullet. -/
def shownProjects (bullets : List DraftBulletV1) (originals : List ProjectEntry) :
    List ProjectEntry :=
  (originals.filter fun original => chosenFor bullets original ≠ []).map fun original =>
    shownProject uuid5 inputs original (chosenFor bullets original)

/-- The selected bullets make a content that keeps what is locked and the preferences allow. -/
structure Draftable (bullets : List DraftBulletV1) : Prop where
  locked : ∀ original ∈ inputs.content.data.projects,
    original.id ∈ inputs.preferences.values.lockedItemIds → chosenFor bullets original ≠ []
  unchanged : requireLockedItemsUnchanged inputs.content.data
    (draftContent inputs (shownProjects uuid5 inputs bullets inputs.content.data.projects))
      inputs.preferences = .ok ()
  allowed : hardConstraintIssues
    (draftContent inputs (shownProjects uuid5 inputs bullets inputs.content.data.projects))
      inputs.preferences = []

end Content

variable {uuid5 : UUID → Text → UUID} {inputs : DraftInputs chars}

theorem factText_ok {bullet : DraftBulletV1} {text : Text}
    (read : factText inputs bullet = .ok text) : text = claimOf inputs bullet := by
  rw [factText] at read
  rw [claimOf]
  split at read
  · cases read
  next fact found =>
    cases read
    rw [found]
    rfl

theorem styledText_ok {text : Text} {styled : StyledText} (made : styledText text = .ok styled) :
    styled = ⟨text, []⟩ := by
  rw [styledText] at made
  split at made
  · cases made
    rfl
  · cases made

/-- What every element gives is what the list gives. -/
theorem mapM_ok {α β : Type} {step : α → Except GenerationFailure β} {value : α → β}
    (each : ∀ item result, step item = .ok result → result = value item) {items : List α}
    {results : List β} (done : items.mapM step = .ok results) : results = items.map value := by
  induction items generalizing results with
  | nil =>
    cases done
    rfl
  | cons item rest ih =>
    rw [List.mapM_cons] at done
    obtain ⟨result, first, done⟩ := bind_ok.mp done
    obtain ⟨tail, others, done⟩ := bind_ok.mp done
    obtain rfl := pure_ok.mp done
    rw [each item result first, ih others, List.map_cons]

theorem draftProject_ok {original project : ProjectEntry} {chosen : List DraftBulletV1}
    (drafted : draftProject uuid5 inputs original chosen = .ok project) :
    project = shownProject uuid5 inputs original chosen := by
  obtain ⟨factTexts, texts, drafted⟩ := bind_ok.mp drafted
  obtain ⟨first, summary, drafted⟩ := bind_ok.mp drafted
  obtain ⟨texts', styled, drafted⟩ := bind_ok.mp drafted
  obtain rfl := pure_ok.mp drafted
  obtain rfl := mapM_ok (fun _ _ => factText_ok) texts
  obtain rfl := styledText_ok summary
  obtain rfl := mapM_ok (fun _ _ => styledText_ok) styled
  rw [shownProject, List.map_map, List.zipWith_map_right, List.zipWith_self]
  rfl

theorem draftProjects_ok {bullets : List DraftBulletV1} {originals : List ProjectEntry}
    {drafted : Option (List ProjectEntry)}
    (done : draftProjects uuid5 inputs bullets originals = .ok drafted) :
    (drafted = some (shownProjects uuid5 inputs bullets originals) ∧
      ∀ original ∈ originals, original.id ∈ inputs.preferences.values.lockedItemIds →
        chosenFor bullets original ≠ []) ∨
    (drafted = none ∧ ∃ original ∈ originals,
      original.id ∈ inputs.preferences.values.lockedItemIds ∧ chosenFor bullets original = []) := by
  induction originals generalizing drafted with
  | nil =>
    cases done
    exact .inl ⟨rfl, fun _ member => absurd member List.not_mem_nil⟩
  | cons original rest ih =>
    rw [draftProjects] at done
    split at done
    next empty =>
      split at done
      next locked =>
        cases done
        exact .inr ⟨rfl, original, List.mem_cons_self, locked, empty⟩
      next unlocked =>
        obtain ⟨rfl, kept⟩ | ⟨rfl, other, member, locked, unchosen⟩ := ih done
        · refine .inl ⟨by simp [shownProjects, empty], ?_⟩
          intro other member locked
          obtain rfl | later := List.mem_cons.mp member
          · exact absurd locked unlocked
          · exact kept other later locked
        · exact .inr ⟨rfl, other, List.mem_cons_of_mem _ member, locked, unchosen⟩
    next chosen filled =>
      obtain ⟨shown, project, done⟩ := bind_ok.mp done
      obtain ⟨tail, others, done⟩ := bind_ok.mp done
      obtain rfl := pure_ok.mp done
      obtain rfl := draftProject_ok project
      obtain ⟨rfl, kept⟩ | ⟨rfl, other, member, locked, unchosen⟩ := ih others
      · have shows : chosenFor bullets original ≠ [] := filled
        refine .inl ⟨by simp [shownProjects, shows], ?_⟩
        intro other member locked
        obtain rfl | later := List.mem_cons.mp member
        · exact shows
        · exact kept other later locked
      · exact .inr ⟨rfl, other, List.mem_cons_of_mem _ member, locked, unchosen⟩

/-- A content is drafted exactly where the selected bullets allow one. -/
theorem content_ok {bullets : List DraftBulletV1} {drafted : Option ResumeContentV1}
    (done : content uuid5 inputs bullets = .ok drafted) :
    (∃ shown, drafted = some shown ∧ Draftable uuid5 inputs bullets ∧ shown.data =
      draftContent inputs (shownProjects uuid5 inputs bullets inputs.content.data.projects)) ∨
    (drafted = none ∧ (Draftable uuid5 inputs bullets →
      shownProjects uuid5 inputs bullets inputs.content.data.projects = [])) := by
  rw [content] at done
  split at done
  · cases done
  next given =>
    cases done
    refine .inr ⟨rfl, fun draftable => ?_⟩
    obtain ⟨same, -⟩ | ⟨-, original, member, locked, unchosen⟩ := draftProjects_ok given
    · cases same
    · exact absurd unchosen (draftable.locked original member locked)
  next empty =>
    cases done
    obtain ⟨same, -⟩ | ⟨same, -⟩ := draftProjects_ok empty
    · exact .inr ⟨rfl, fun _ => (Option.some.inj same).symm⟩
    · cases same
  next first rest given =>
    obtain ⟨same, kept⟩ | ⟨same, -⟩ := draftProjects_ok given
    case inr => cases same
    have listed := Option.some.inj same
    rw [ResumeContentV1.modelValidate] at done
    split at done
    · cases done
    next shown validated =>
      split at validated
      case isFalse => cases validated
      cases validated
      split at done
      next reason refused =>
        cases done
        refine .inr ⟨rfl, fun draftable => ?_⟩
        have unchanged := draftable.unchanged
        rw [← listed, refused] at unchanged
        cases unchanged
      next unchanged =>
        split at done
        next allowed =>
          cases done
          exact .inl ⟨_, rfl, ⟨kept, listed ▸ unchanged, listed ▸ allowed⟩,
            congrArg (draftContent inputs) listed⟩
        next refused =>
          cases done
          refine .inr ⟨rfl, fun draftable => ?_⟩
          have allowed := draftable.allowed
          rw [← listed] at allowed
          exact absurd allowed refused

/-! ## Coherence -/

/-- The content shows the fact: one of its bullets has the id made from it. -/
def Shown (uuid5 : UUID → Text → UUID) (inputs : DraftInputs chars)
    (candidate : GenerationCandidateV1) (versionId : UUID) : Prop :=
  ∃ shown, candidate.content = some shown ∧ bulletId uuid5 inputs versionId ∈ shown.data.bulletIds

/-- The ids of the content's bullets tell the facts of the input apart. -/
def DistinctIds (uuid5 : UUID → Text → UUID) (inputs : DraftInputs chars) : Prop :=
  ∀ fact ∈ inputs.facts, ∀ other ∈ inputs.facts,
    bulletId uuid5 inputs fact.versionId = bulletId uuid5 inputs other.versionId →
      fact.versionId = other.versionId

/-- One of the bullets names the requirement, and its fact is shown. -/
def NamedAndShown (uuid5 : UUID → Text → UUID) (inputs : DraftInputs chars)
    (candidate : GenerationCandidateV1) (bullets : List DraftBulletV1) (ordinal : Nat)
    (versionId : UUID) : Prop :=
  ∃ bullet ∈ bullets, (ordinal : Int) ∈ bullet.requirementOrdinals ∧
    bullet.factVersionId = versionId ∧ Shown uuid5 inputs candidate versionId

/-- Content, omissions and coverage of a candidate agree, where `bullets` are the valid bullets
of the selection. -/
structure CoherentDraft (uuid5 : UUID → Text → UUID) (inputs : DraftInputs chars)
    (bullets : List DraftBulletV1) (candidate : GenerationCandidateV1) : Prop where
  partition : ∀ fact ∈ inputs.facts,
    Xor (Shown uuid5 inputs candidate fact.versionId)
      (fact.versionId ∈ candidate.omittedFactVersionIds)
  omitted : ∀ versionId ∈ candidate.omittedFactVersionIds,
    (∃ fact ∈ inputs.facts, fact.versionId = versionId) ∧
      ∃ reason, (versionId, reason) ∈ candidate.omissionReasons
  rows : candidate.coverage.map CoverageV1.requirementOrdinal =
    List.range candidate.requirements.length
  supported : ∀ row ∈ candidate.coverage, row.support = .supported ↔
    ∃ versionId, NamedAndShown uuid5 inputs candidate bullets row.requirementOrdinal versionId
  listed : ∀ row ∈ candidate.coverage, row.support = .supported →
    (∀ versionId, versionId ∈ row.factVersionIds ↔
      NamedAndShown uuid5 inputs candidate bullets row.requirementOrdinal versionId) ∧
    row.itemIds = row.factVersionIds.map (bulletId uuid5 inputs)
  claims : ∀ shown, candidate.content = some shown → ∀ project ∈ shown.data.projects,
    ∀ bullet ∈ project.bullets, ∃ fact ∈ inputs.facts,
      bullet.id = bulletId uuid5 inputs fact.versionId ∧ bullet.styled.text = fact.claim

/-- The first valid bullet of a fact names every requirement that another one names. -/
def RepeatsAgree (bullets : List DraftBulletV1) : Prop :=
  ∀ bullet ∈ bullets, ∀ first,
    bullets.find? (fun other => other.factVersionId = bullet.factVersionId) = some first →
      bullet.requirementOrdinals ⊆ first.requirementOrdinals

/-! ## Valid bullets -/

theorem validBullet_placed {count : Nat} {bullet : DraftBulletV1}
    (valid : validBullet inputs count bullet = true) :
    (∃ fact ∈ inputs.facts, fact.versionId = bullet.factVersionId) ∧
    (∃ project ∈ inputs.content.data.projects, project.id = bullet.projectItemId) ∧
    ∀ value ∈ bullet.requirementOrdinals, 0 ≤ value ∧ value < count := by
  rw [validBullet] at valid
  split at valid
  next fact project known placed =>
    simp only [Bool.and_eq_true, List.all_eq_true, decide_eq_true_eq] at valid
    exact ⟨⟨fact, List.mem_of_find?_eq_some known, by simpa using List.find?_some known⟩,
      ⟨project, List.mem_of_find?_eq_some placed, by simpa using List.find?_some placed⟩, valid.2⟩
  · cases valid

theorem byFact_some {versionId : UUID} {fact : FixedFact} (member : fact ∈ inputs.facts)
    (same : fact.versionId = versionId) :
    ∃ known ∈ inputs.facts, byFact inputs versionId = some known ∧ known.versionId = versionId := by
  rw [byFact]
  cases found : inputs.facts.reverse.find? fun fact => fact.versionId = versionId with
  | none =>
    have absent := List.find?_eq_none.mp found fact (List.mem_reverse.mpr member)
    exact absurd same (by simpa using absent)
  | some known =>
    exact ⟨known, List.mem_reverse.mp (List.mem_of_find?_eq_some found), rfl,
      by simpa using List.find?_some found⟩

variable {analysis : RequirementExtractionV1} {selection : DraftSelectionV1}

theorem mem_selected {bullet : DraftBulletV1} :
    bullet ∈ selectedBullets inputs analysis selection ↔
      (validBullets inputs analysis selection).find?
        (fun other => other.factVersionId = bullet.factVersionId) = some bullet := by
  rw [selectedBullets, KeyedList.mem_firsts]
  exact ⟨fun first => first.2, fun first => ⟨List.not_mem_nil, first⟩⟩

theorem selected_valid {bullet : DraftBulletV1}
    (member : bullet ∈ selectedBullets inputs analysis selection) :
    bullet ∈ validBullets inputs analysis selection :=
  List.mem_of_find?_eq_some (mem_selected.mp member)

theorem valid_placed {bullet : DraftBulletV1}
    (member : bullet ∈ validBullets inputs analysis selection) :
    (∃ fact ∈ inputs.facts, fact.versionId = bullet.factVersionId) ∧
    (∃ project ∈ inputs.content.data.projects, project.id = bullet.projectItemId) ∧
    ∀ value ∈ bullet.requirementOrdinals, 0 ≤ value ∧ value < analysis.requirements.length :=
  validBullet_placed (List.mem_filter.mp member).2

/-- Every selected bullet belongs to a project of the profile. -/
theorem selected_placed : ∀ bullet ∈ selectedBullets inputs analysis selection,
    ∃ project ∈ inputs.content.data.projects, project.id = bullet.projectItemId :=
  fun _ member => (valid_placed (selected_valid member)).2.1

/-- The bullets of the drafted projects are those of the selected bullets. -/
theorem mem_shownProjects {bullets : List DraftBulletV1} {bullet : Bullet}
    (placed : ∀ chosen ∈ bullets, ∃ project ∈ inputs.content.data.projects,
      project.id = chosen.projectItemId) :
    (∃ project ∈ shownProjects uuid5 inputs bullets inputs.content.data.projects,
      bullet ∈ project.bullets) ↔ ∃ chosen ∈ bullets, shownBullet uuid5 inputs chosen = bullet := by
  constructor
  · rintro ⟨project, member, inside⟩
    obtain ⟨original, -, rfl⟩ := List.mem_map.mp member
    obtain ⟨chosen, picked, rfl⟩ := List.mem_map.mp inside
    exact ⟨chosen, (List.mem_filter.mp picked).1, rfl⟩
  · rintro ⟨chosen, member, rfl⟩
    obtain ⟨original, listed, same⟩ := placed chosen member
    have picked : chosen ∈ chosenFor bullets original :=
      List.mem_filter.mpr ⟨member, by simpa using same.symm⟩
    refine ⟨_, List.mem_map.mpr ⟨original, List.mem_filter.mpr ⟨listed, ?_⟩, rfl⟩,
      List.mem_map_of_mem picked⟩
    simpa using List.ne_nil_of_mem picked

/-! ## Omissions -/

theorem entryOf_some {entries : List (UUID × Text)} {entry : UUID × Text}
    (member : entry ∈ entries) : ∃ value, entryOf entries entry.1 = some value := by
  rw [entryOf]
  cases found : entries.reverse.find? fun other => other.1 = entry.1 with
  | none =>
    have absent := List.find?_eq_none.mp found entry (List.mem_reverse.mpr member)
    exact absurd (decide_eq_true rfl) absent
  | some other => exact ⟨other.2, rfl⟩

theorem mem_dictionary {entries : List (UUID × Text)} {key : UUID} :
    key ∈ (dictionary entries).map Prod.fst ↔ ∃ entry ∈ entries, entry.1 = key := by
  constructor
  · intro member
    obtain ⟨pair, inside, rfl⟩ := List.mem_map.mp member
    obtain ⟨key, listed, made⟩ := List.mem_filterMap.mp inside
    obtain ⟨value, -, rfl⟩ := Option.map_eq_some_iff.mp made
    exact List.mem_map.mp (mem_fromKeys.mp listed)
  · rintro ⟨entry, member, rfl⟩
    obtain ⟨value, found⟩ := entryOf_some member
    have listed : entry.1 ∈ fromKeys (entries.map Prod.fst) :=
      mem_fromKeys.mpr (List.mem_map_of_mem member)
    exact List.mem_map.mpr ⟨(entry.1, value),
      List.mem_filterMap.mpr ⟨entry.1, listed, by rw [found]; rfl⟩, rfl⟩

theorem mem_omissions {selectedIds : List UUID} {versionId : UUID} :
    (∃ entry ∈ omissions inputs selection selectedIds, entry.1 = versionId) ↔
      (∃ fact ∈ inputs.facts, fact.versionId = versionId) ∧ versionId ∉ selectedIds := by
  constructor
  · rintro ⟨entry, member, rfl⟩
    obtain ⟨fact, kept, rfl⟩ := List.mem_map.mp member
    obtain ⟨listed, apart⟩ := List.mem_filter.mp kept
    exact ⟨⟨fact, listed, rfl⟩, by simpa using apart⟩
  · rintro ⟨⟨fact, listed, rfl⟩, apart⟩
    exact ⟨_, List.mem_map_of_mem (List.mem_filter.mpr ⟨listed, by simpa using apart⟩), rfl⟩

/-! ## The candidate -/

variable {graph : GenerationGraph} {corrected : Bool} {candidate : GenerationCandidateV1}

/-- What the parts of a candidate are made from. -/
structure CandidateParts (uuid5 : UUID → Text → UUID) (inputs : DraftInputs chars)
    (analysis : RequirementExtractionV1) (selection : DraftSelectionV1)
    (candidate : GenerationCandidateV1) : Prop where
  drafted : content uuid5 inputs (selectedBullets inputs analysis selection) =
    .ok candidate.content
  requirements : candidate.requirements = analysis.requirements
  covered : candidate.coverage = coverage uuid5 inputs
    (if candidate.content = none then [] else selectedBullets inputs analysis selection)
    analysis.requirements.length
  reasons : candidate.omissionReasons = dictionary (omissions inputs selection
    ((selectedBullets inputs analysis selection).map DraftBulletV1.factVersionId))
  omitted : candidate.omittedFactVersionIds = candidate.omissionReasons.map Prod.fst

theorem draftCandidate_parts
    (made : draftCandidate uuid5 graph inputs analysis selection corrected = .ok candidate) :
    CandidateParts uuid5 inputs analysis selection candidate := by
  rw [draftCandidate] at made
  split at made
  · cases made
  next drafted built =>
    cases made
    exact ⟨built, rfl, rfl, rfl, rfl⟩

namespace CandidateParts
variable (parts : CandidateParts uuid5 inputs analysis selection candidate)
include parts

/-- What is omitted are the facts that were not selected. -/
theorem omitted_iff {versionId : UUID} : versionId ∈ candidate.omittedFactVersionIds ↔
    (∃ fact ∈ inputs.facts, fact.versionId = versionId) ∧
      ∀ bullet ∈ selectedBullets inputs analysis selection, bullet.factVersionId ≠ versionId := by
  rw [parts.omitted, parts.reasons, mem_dictionary, mem_omissions]
  simp only [List.mem_map, not_exists, not_and, ne_eq]

theorem omitted_reason {versionId : UUID} (member : versionId ∈ candidate.omittedFactVersionIds) :
    ∃ reason, (versionId, reason) ∈ candidate.omissionReasons := by
  rw [parts.omitted] at member
  obtain ⟨⟨key, reason⟩, inside, rfl⟩ := List.mem_map.mp member
  exact ⟨reason, inside⟩

theorem rows : candidate.coverage.map CoverageV1.requirementOrdinal =
    List.range candidate.requirements.length := by
  rw [parts.covered, parts.requirements, coverage, List.map_map]
  exact List.map_id _

/-- Where a content is drafted it shows the selected facts. -/
theorem shown_iff (distinct : DistinctIds uuid5 inputs) {shown : ResumeContentV1}
    (drafted : candidate.content = some shown) {fact : FixedFact} (member : fact ∈ inputs.facts) :
    Shown uuid5 inputs candidate fact.versionId ↔
      ∃ bullet ∈ selectedBullets inputs analysis selection,
        bullet.factVersionId = fact.versionId := by
  obtain ⟨shown', same, -, made⟩ | ⟨absent, -⟩ := content_ok parts.drafted
  case inr => cases drafted.symm.trans absent
  obtain rfl : shown = shown' := Option.some.inj (drafted.symm.trans same)
  constructor
  · rintro ⟨shown', same, inside⟩
    obtain rfl : shown = shown' := Option.some.inj (drafted.symm.trans same)
    obtain ⟨project, listed, within⟩ := List.mem_flatMap.mp inside
    obtain ⟨bullet, shows, named⟩ := List.mem_map.mp within
    rw [made] at listed
    obtain ⟨chosen, picked, rfl⟩ := (mem_shownProjects selected_placed).mp ⟨project, listed, shows⟩
    obtain ⟨known, given, same⟩ := (valid_placed (selected_valid picked)).1
    refine ⟨chosen, picked, ?_⟩
    rw [← same]
    exact distinct known given fact member (by rw [same]; exact named)
  · rintro ⟨chosen, picked, same⟩
    obtain ⟨project, listed, shows⟩ := (mem_shownProjects selected_placed).mpr ⟨chosen, picked, rfl⟩
    refine ⟨shown, drafted, List.mem_flatMap.mpr ⟨project, by rw [made]; exact listed, ?_⟩⟩
    exact List.mem_map.mpr ⟨_, shows, by rw [← same]; rfl⟩

/-- A row lists the selected bullets that name its requirement. -/
theorem row_of {row : CoverageV1} (member : row ∈ candidate.coverage) :
    ∃ ordinal < analysis.requirements.length, row = coverageRow uuid5 inputs
      (if candidate.content = none then [] else selectedBullets inputs analysis selection)
      ordinal := by
  rw [parts.covered] at member
  obtain ⟨ordinal, inside, rfl⟩ := List.mem_map.mp member
  exact ⟨ordinal, List.mem_range.mp inside, rfl⟩

theorem mem_coverage {ordinal : Nat} (inside : ordinal < analysis.requirements.length) :
    coverageRow uuid5 inputs
      (if candidate.content = none then [] else selectedBullets inputs analysis selection)
      ordinal ∈ candidate.coverage := by
  rw [parts.covered]
  exact List.mem_map_of_mem (List.mem_range.mpr inside)

end CandidateParts

/-- The facts a row lists are those of the selected bullets that name its requirement. -/
theorem mem_factVersionIds {bullets : List DraftBulletV1} {ordinal : Nat} {versionId : UUID} :
    versionId ∈ (coverageRow uuid5 inputs bullets ordinal).factVersionIds ↔
      ∃ bullet ∈ bullets, (ordinal : Int) ∈ bullet.requirementOrdinals ∧
        bullet.factVersionId = versionId := by
  constructor
  · intro member
    obtain ⟨bullet, kept, rfl⟩ := List.mem_map.mp member
    obtain ⟨listed, names⟩ := List.mem_filter.mp kept
    exact ⟨bullet, listed, by simpa using names, rfl⟩
  · rintro ⟨bullet, listed, names, rfl⟩
    exact List.mem_map_of_mem (List.mem_filter.mpr ⟨listed, by simpa using names⟩)

theorem row_supported {bullets : List DraftBulletV1} {ordinal : Nat} :
    (coverageRow uuid5 inputs bullets ordinal).support = .supported ↔
      ∃ versionId, versionId ∈ (coverageRow uuid5 inputs bullets ordinal).factVersionIds := by
  simp only [coverageRow]
  split
  next none_ => simp [none_]
  next some_ =>
    obtain ⟨bullet, member⟩ := List.exists_mem_of_ne_nil _ some_
    exact ⟨fun _ => ⟨_, List.mem_map_of_mem member⟩, fun _ => rfl⟩

theorem row_itemIds (bullets : List DraftBulletV1) (ordinal : Nat) :
    (coverageRow uuid5 inputs bullets ordinal).itemIds =
      (coverageRow uuid5 inputs bullets ordinal).factVersionIds.map (bulletId uuid5 inputs) := by
  rw [coverageRow, List.map_map]
  rfl

/-- A selected bullet stands for every valid one of its fact. -/
theorem exists_selected {bullet : DraftBulletV1}
    (member : bullet ∈ validBullets inputs analysis selection) :
    ∃ first ∈ selectedBullets inputs analysis selection,
      first.factVersionId = bullet.factVersionId ∧
      (validBullets inputs analysis selection).find?
        (fun other => other.factVersionId = bullet.factVersionId) = some first := by
  obtain ⟨first, picked, same⟩ :
      ∃ first ∈ selectedBullets inputs analysis selection,
        first.factVersionId = bullet.factVersionId := KeyedList.exists_firsts member
  exact ⟨first, picked, same, by rw [← same]; exact mem_selected.mp picked⟩

/-- A candidate without content is coherent only if no bullet was valid. -/
theorem coherent_without_content (parts : CandidateParts uuid5 inputs analysis selection candidate)
    (empty : candidate.content = none) :
    CoherentDraft uuid5 inputs (validBullets inputs analysis selection) candidate ↔
      validBullets inputs analysis selection = [] := by
  have hidden (versionId : UUID) : ¬Shown uuid5 inputs candidate versionId := by
    rintro ⟨shown, same, -⟩
    cases empty.symm.trans same
  constructor
  · intro coherent
    refine List.eq_nil_iff_forall_not_mem.mpr fun bullet member => ?_
    obtain ⟨⟨fact, listed, same⟩, -⟩ := valid_placed member
    obtain ⟨first, picked, named, -⟩ := exists_selected member
    obtain ⟨shows, -⟩ | ⟨omitted, -⟩ := coherent.partition fact listed
    · exact hidden _ shows
    · exact (parts.omitted_iff.mp omitted).2 first picked (named.trans same.symm)
  · intro nothing
    have unselected (bullet : DraftBulletV1) :
        bullet ∉ selectedBullets inputs analysis selection := fun picked =>
      absurd (nothing ▸ selected_valid picked) List.not_mem_nil
    constructor
    case partition =>
      intro fact listed
      exact .inr ⟨parts.omitted_iff.mpr ⟨⟨fact, listed, rfl⟩,
        fun bullet picked => absurd picked (unselected bullet)⟩, hidden _⟩
    case omitted =>
      intro versionId member
      exact ⟨(parts.omitted_iff.mp member).1, parts.omitted_reason member⟩
    case rows => exact parts.rows
    case supported =>
      intro row member
      obtain ⟨ordinal, -, rfl⟩ := parts.row_of member
      rw [if_pos empty, row_supported]
      constructor
      · rintro ⟨versionId, inside⟩
        obtain ⟨bullet, listed, -⟩ := mem_factVersionIds.mp inside
        exact absurd listed List.not_mem_nil
      · rintro ⟨versionId, bullet, -, -, -, shows⟩
        exact absurd shows (hidden _)
    case listed =>
      intro row member supported
      obtain ⟨ordinal, -, rfl⟩ := parts.row_of member
      rw [if_pos empty, row_supported] at supported
      obtain ⟨versionId, inside⟩ := supported
      obtain ⟨bullet, listed, -⟩ := mem_factVersionIds.mp inside
      exact absurd listed List.not_mem_nil
    case claims =>
      intro shown same
      cases empty.symm.trans same

/-- A candidate with a content is coherent exactly where repeated facts agree. -/
theorem coherent_with_content (distinct : DistinctIds uuid5 inputs)
    (parts : CandidateParts uuid5 inputs analysis selection candidate) {shown : ResumeContentV1}
    (drafted : candidate.content = some shown) :
    CoherentDraft uuid5 inputs (validBullets inputs analysis selection) candidate ↔
      RepeatsAgree (validBullets inputs analysis selection) := by
  have filled : candidate.content ≠ none := by
    rw [drafted]
    exact Option.some_ne_none shown
  have appears (bullet : DraftBulletV1)
      (member : bullet ∈ validBullets inputs analysis selection) :
      Shown uuid5 inputs candidate bullet.factVersionId := by
    obtain ⟨⟨fact, listed, same⟩, -⟩ := valid_placed member
    obtain ⟨first, picked, named, -⟩ := exists_selected member
    rw [← same]
    exact (parts.shown_iff distinct drafted listed).mpr ⟨first, picked, named.trans same.symm⟩
  constructor
  · intro coherent bullet member first found ordinal names
    obtain ⟨first', picked, same, found'⟩ := exists_selected member
    obtain rfl : first = first' := Option.some.inj (found.symm.trans found')
    obtain ⟨positive, below⟩ := (valid_placed member).2.2 ordinal names
    obtain ⟨place, rfl⟩ := Int.eq_ofNat_of_zero_le positive
    have supports : NamedAndShown uuid5 inputs candidate (validBullets inputs analysis selection) place
        bullet.factVersionId := ⟨bullet, member, names, rfl, appears bullet member⟩
    have row := parts.mem_coverage (by omega : place < analysis.requirements.length)
    have supported := (coherent.supported _ row).mpr ⟨_, supports⟩
    have inside := ((coherent.listed _ row supported).1 _).mpr supports
    rw [if_neg filled] at inside
    obtain ⟨other, chosen, names', named⟩ := mem_factVersionIds.mp inside
    have once := mem_selected.mp chosen
    rw [named, found'] at once
    rw [Option.some.inj once]
    exact names'
  · intro agree
    have lists (ordinal : Nat) (versionId : UUID) :
        versionId ∈ (coverageRow uuid5 inputs (selectedBullets inputs analysis selection)
          ordinal).factVersionIds ↔
        NamedAndShown uuid5 inputs candidate (validBullets inputs analysis selection) ordinal
          versionId := by
      rw [mem_factVersionIds]
      constructor
      · rintro ⟨bullet, picked, names, rfl⟩
        have valid := selected_valid picked
        exact ⟨bullet, valid, names, rfl, appears bullet valid⟩
      · rintro ⟨bullet, member, names, rfl, -⟩
        obtain ⟨first, picked, same, found⟩ := exists_selected member
        exact ⟨first, picked, agree bullet member first found names, same⟩
    constructor
    case partition =>
      intro fact listed
      by_cases picked : ∃ bullet ∈ selectedBullets inputs analysis selection,
          bullet.factVersionId = fact.versionId
      · refine .inl ⟨(parts.shown_iff distinct drafted listed).mpr picked, fun omitted => ?_⟩
        obtain ⟨bullet, member, same⟩ := picked
        exact (parts.omitted_iff.mp omitted).2 bullet member same
      · refine .inr ⟨parts.omitted_iff.mpr ⟨⟨fact, listed, rfl⟩, fun bullet member same =>
          picked ⟨bullet, member, same⟩⟩, fun shows => ?_⟩
        exact picked ((parts.shown_iff distinct drafted listed).mp shows)
    case omitted =>
      intro versionId member
      exact ⟨(parts.omitted_iff.mp member).1, parts.omitted_reason member⟩
    case rows => exact parts.rows
    case supported =>
      intro row member
      obtain ⟨ordinal, -, rfl⟩ := parts.row_of member
      rw [if_neg filled, row_supported]
      exact exists_congr (lists ordinal)
    case listed =>
      intro row member supported
      obtain ⟨ordinal, -, rfl⟩ := parts.row_of member
      rw [if_neg filled]
      exact ⟨lists ordinal, row_itemIds _ _⟩
    case claims =>
      intro shown' same project listed bullet inside
      obtain ⟨shown'', same', -, made⟩ | ⟨absent, -⟩ := content_ok parts.drafted
      case inr => cases drafted.symm.trans absent
      obtain rfl : shown' = shown'' := Option.some.inj (same.symm.trans same')
      rw [made] at listed
      obtain ⟨chosen, picked, rfl⟩ := (mem_shownProjects selected_placed).mp
        ⟨project, listed, inside⟩
      obtain ⟨⟨fact, given, named⟩, -⟩ := valid_placed (selected_valid picked)
      obtain ⟨known, given', found, named'⟩ := byFact_some given named
      refine ⟨known, given', by rw [named']; rfl, ?_⟩
      simp only [shownBullet, claimOf, found, Option.map_some, Option.getD_some]

/-- A candidate is coherent exactly where no bullet was valid, or a content is drafted and
repeated facts agree. -/
theorem coherent_iff (distinct : DistinctIds uuid5 inputs)
    (parts : CandidateParts uuid5 inputs analysis selection candidate) :
    CoherentDraft uuid5 inputs (validBullets inputs analysis selection) candidate ↔
      validBullets inputs analysis selection = [] ∨
      (Draftable uuid5 inputs (selectedBullets inputs analysis selection) ∧
        RepeatsAgree (validBullets inputs analysis selection)) := by
  obtain ⟨shown, drafted, draftable, -⟩ | ⟨empty, given⟩ := content_ok parts.drafted
  · rw [coherent_with_content distinct parts drafted]
    constructor
    · exact fun agree => .inr ⟨draftable, agree⟩
    · rintro (nothing | ⟨-, agree⟩)
      · intro bullet member
        exact absurd (nothing ▸ member) List.not_mem_nil
      · exact agree
  · rw [coherent_without_content parts empty]
    constructor
    · exact Or.inl
    · rintro (nothing | ⟨draftable, -⟩)
      · exact nothing
      · refine List.eq_nil_iff_forall_not_mem.mpr fun bullet member => ?_
        obtain ⟨first, picked, -⟩ := exists_selected member
        obtain ⟨project, listed, -⟩ := (mem_shownProjects selected_placed).mpr
          ⟨first, picked, rfl⟩
        rw [given draftable] at listed
        exact absurd listed List.not_mem_nil

/-! ## Every run -/

section Runs
variable {σ : Type} {ports : GenerationPorts σ} {models : AnswerModels} {state state' : σ}

/-- A candidate is drafted from the answers the run read last. -/
theorem generate_ok
    (returned : generate ports models inputs uuid5 graph state = .ok (candidate, state')) :
    ∃ analysis selection corrected, draftAnswers ports models inputs state =
        .ok ((analysis, selection, corrected), state') ∧
      draftCandidate uuid5 graph inputs analysis selection corrected = .ok candidate := by
  simp only [generate, bind, StateT.bind, Except.bind] at returned
  split at returned
  · cases returned
  next answers read =>
    obtain ⟨⟨analysis, selection, corrected⟩, after⟩ := answers
    simp only [StateT.lift, bind, Except.bind] at returned
    split at returned
    · cases returned
    next made drafted =>
      cases returned
      exact ⟨analysis, selection, corrected, read, drafted⟩

/-- In every run that returns a candidate, it is coherent exactly where nothing valid was
selected, or a content is drafted and repeated facts agree. -/
theorem candidate_coherent_iff (distinct : DistinctIds uuid5 inputs)
    (returned : generate ports models inputs uuid5 graph state = .ok (candidate, state')) :
    ∃ analysis selection corrected, draftAnswers ports models inputs state =
        .ok ((analysis, selection, corrected), state') ∧
      (CoherentDraft uuid5 inputs (validBullets inputs analysis selection) candidate ↔
        validBullets inputs analysis selection = [] ∨
        (Draftable uuid5 inputs (selectedBullets inputs analysis selection) ∧
          RepeatsAgree (validBullets inputs analysis selection))) := by
  obtain ⟨analysis, selection, corrected, read, made⟩ := generate_ok returned
  exact ⟨analysis, selection, corrected, read, coherent_iff distinct (draftCandidate_parts made)⟩

end Runs

/-! ## Two drafts -/

namespace Sample

def searchJob : RequirementExtractionV1 :=
  ⟨[⟨.explicit, 6, 12, "search".toList, none⟩], []⟩

theorem searchJob_valid : searchJob.valid = true := by decide

/-- The model selects this fact for the first requirement. -/
def selecting (versionId : UUID) : DraftSelectionV1 := ⟨[⟨20, versionId, [0]⟩], [], []⟩

theorem selecting_valid (versionId : UUID) : (selecting versionId).valid = true := rfl

def selectingModels (versionId : UUID) : AnswerModels :=
  ⟨fun _ => some ⟨searchJob, searchJob_valid⟩,
    fun _ => some ⟨selecting versionId, selecting_valid versionId⟩⟩

def silentPorts : GenerationPorts Unit := ⟨fun _ => pure none, pure false⟩

def draftGraph : GenerationGraph := ⟨"sha256:prompts".toList, "model".toList, "sha256:tools".toList⟩

def unconditioned : FactConditions := ⟨none, none, none⟩

theorem draftProfile_valid :
    (sampleResume [sampleProject 20 11 "Cut latency by 40%"]).valid = true := by decide

/-- One project with two facts. -/
def draftInputs (preferences : ResumePreferencesV1 asciiTables) : DraftInputs asciiTables where
  content := ⟨sampleResume [sampleProject 20 11 "Cut latency by 40%"], draftProfile_valid⟩
  preferences := preferences
  projectMap id := if id = 20 then some 5 else none
  sessionId := 7
  jobText := "Build search".toList
  facts := [⟨12, 5, "Built the index".toList, .implementation, unconditioned⟩,
    ⟨13, 5, "Served 9 teams".toList, .implementation, unconditioned⟩]

theorem draftInputs_distinct (preferences : ResumePreferencesV1 asciiTables) :
    DistinctIds sampleUuid5 (draftInputs preferences) := by
  have apart : sampleUuid5 7 (uuidText 12) ≠ sampleUuid5 7 (uuidText 13) := by decide
  intro fact member other member' same
  simp only [draftInputs, List.mem_cons, List.not_mem_nil, or_false] at member member'
  obtain rfl | rfl := member
  · obtain rfl | rfl := member'
    · rfl
    · exact absurd same apart
  · obtain rfl | rfl := member'
    · exact absurd same.symm apart
    · rfl

/-- The first run shows a fact and omits the other. -/
theorem indexDraft_coherent : ∃ candidate,
    generate silentPorts (selectingModels 12) (draftInputs samplePreferences) sampleUuid5 draftGraph
      () = .ok (candidate, ()) ∧
    Shown sampleUuid5 (draftInputs samplePreferences) candidate 12 ∧
    13 ∈ candidate.omittedFactVersionIds ∧
    ∃ analysis selection corrected,
      draftAnswers silentPorts (selectingModels 12) (draftInputs samplePreferences) () =
        .ok ((analysis, selection, corrected), ()) ∧
      CoherentDraft sampleUuid5 (draftInputs samplePreferences)
        (validBullets (draftInputs samplePreferences) analysis selection) candidate := by
  have shows : (generate silentPorts (selectingModels 12) (draftInputs samplePreferences) sampleUuid5
      draftGraph ()).toOption.any (fun result => decide (13 ∈ result.1.omittedFactVersionIds) &&
        result.1.content.any fun shown => decide (bulletId sampleUuid5
          (draftInputs samplePreferences) 12 ∈ shown.data.bulletIds)) = true := by
    decide +kernel
  have answers : draftAnswers silentPorts (selectingModels 12) (draftInputs samplePreferences) () =
      .ok ((searchJob, selecting 12, false), ()) := rfl
  obtain ⟨⟨candidate, ⟨⟩⟩, made, shows⟩ := (Option.any_eq_true _ _).mp shows
  have returned : generate silentPorts (selectingModels 12) (draftInputs samplePreferences)
      sampleUuid5 draftGraph () = .ok (candidate, ()) := by
    cases run : generate silentPorts (selectingModels 12) (draftInputs samplePreferences)
        sampleUuid5 draftGraph () with
    | error failure =>
      rw [run] at made
      cases made
    | ok result =>
      rw [run] at made
      exact congrArg Except.ok (Option.some.inj made)
  simp only [Bool.and_eq_true, decide_eq_true_eq, Option.any_eq_true] at shows
  obtain ⟨omitted, shown, drafted, inside⟩ := shows
  obtain ⟨analysis, selection, corrected, read, exactly⟩ :=
    candidate_coherent_iff (draftInputs_distinct _) returned
  cases answers.symm.trans read
  refine ⟨candidate, returned, ⟨shown, drafted, inside⟩, omitted, _, _, _, answers,
    exactly.mpr (.inr ⟨⟨by decide +kernel, by decide +kernel, by decide +kernel⟩, ?_⟩)⟩
  have one : validBullets (draftInputs samplePreferences) searchJob (selecting 12) =
      [⟨20, 12, [0]⟩] := by decide +kernel
  rw [one]
  intro bullet member first found
  rw [List.mem_singleton.mp member, List.mem_singleton.mp (List.mem_of_find?_eq_some found)]
  exact List.Subset.refl _

theorem lockedPreferences_valid :
    (⟨[], [], [], none, [.education, .projects, .skills], [20], .one, []⟩ :
      PreferenceValues).valid asciiTables = true := by decide

/-- The project is locked. -/
def lockedPreferences : ResumePreferencesV1 asciiTables := ⟨_, lockedPreferences_valid⟩

/-- The draft of a locked project is given up, and its fact is neither shown nor omitted. -/
theorem lockedDraft_losesFact :
    ¬ ∀ (inputs : DraftInputs asciiTables) (candidate : GenerationCandidateV1)
      (analysis : RequirementExtractionV1) (selection : DraftSelectionV1) (corrected : Bool),
      DistinctIds sampleUuid5 inputs →
      generate silentPorts (selectingModels 12) inputs sampleUuid5 draftGraph () =
        .ok (candidate, ()) →
      draftAnswers silentPorts (selectingModels 12) inputs () =
        .ok ((analysis, selection, corrected), ()) →
      CoherentDraft sampleUuid5 inputs (validBullets inputs analysis selection) candidate := by
  intro all
  have coherent := all (draftInputs lockedPreferences) _ _ _ _ (draftInputs_distinct _) rfl rfl
  obtain ⟨⟨shown, drafted, -⟩, -⟩ | ⟨omitted, -⟩ := coherent.partition
    ⟨12, 5, "Built the index".toList, .implementation, unconditioned⟩ List.mem_cons_self
  · revert drafted
    exact nofun
  · revert omitted
    decide +kernel

end Sample
end Pathfinder
