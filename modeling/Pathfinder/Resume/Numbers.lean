import Pathfinder.Resume.Attribution

/-!
# Texts and their last replacement

The text of every field, tracked along a lineage by the same replay as its
citation, and what the fact rules demand of the replacement that wrote it last.
-/
namespace Pathfinder
open LastWriter
variable {chars : CharacterTables}

/-- The text of a field that holds one. -/
def textReading : Reading Text where
  read
    | .styled value => some value.text
    | .label _ | .items _ => none
  plain _ _ := rfl

/-- The text of a field. -/
abbrev Item.text (item : Item) (field : PatchField) : Option Text := textReading.of item field

theorem Item.field_of_text {item : Item} {field : PatchField} {text : Text}
    (held : item.text field = some text) : (item.fields field).isSome := by
  obtain ⟨value, stored, -⟩ := Option.bind_eq_some_iff.mp held
  simp [stored]

/-- The text a patch stores in a field. -/
abbrev textEffect (patch : PatchV1 chars) (key : FieldKey) : Effect Text :=
  textReading.effect patch key

namespace SessionLineage

/-- The text the last generation or replacement wrote into a field. -/
def lastText : SessionLineage chars → FieldKey → Option Text
  | generated content _ _ => textReading.shown content.data
  | revised base patches _ _ => replay textEffect base.lastText patches

/-- The last replacement of a field: the text it found there and the one it wrote. -/
inductive LastReplaced : SessionLineage chars → FieldKey → Text → Text → Prop
  | here {base : SessionLineage chars} {earlier later : List (PatchV1 chars)}
      {patch : PatchV1 chars} {content : ResumeContentV1} {snapshot : List UUID}
      {key : FieldKey} {old new : Text} (wrote : textEffect patch key = .store new)
      (quiet : ∀ other ∈ later, textEffect other key = .keep)
      (found : replay textEffect base.lastText earlier key = some old) :
      LastReplaced (.revised base (earlier ++ patch :: later) content snapshot) key old new
  | before {base : SessionLineage chars} {patches : List (PatchV1 chars)}
      {content : ResumeContentV1} {snapshot : List UUID} {key : FieldKey} {old new : Text}
      (quiet : ∀ patch ∈ patches, textEffect patch key = .keep)
      (earlier : LastReplaced base key old new) :
      LastReplaced (.revised base patches content snapshot) key old new

theorem LastReplaced.lastText {lineage : SessionLineage chars} {key : FieldKey} {old new : Text}
    (replaced : lineage.LastReplaced key old new) : lineage.lastText key = some new := by
  induction replaced with
  | here wrote quiet _ =>
    exact (replay_eq_some _).mpr (.inl ⟨_, _, _, rfl, wrote, quiet⟩)
  | before quiet _ ih => exact (replay_eq_some _).mpr (.inr ⟨ih, quiet⟩)

end SessionLineage

/-! ## The number rule -/

/-- The claim of one of the cited facts contains the number. -/
def Supports (chars : CharacterTables) (facts : UUID → Option FactClaim) (cited : List UUID)
    (number : Text) : Prop :=
  ∃ id ∈ cited, ∃ fact, facts id = some fact ∧ number ∈ numericTokens chars fact.claim

/-- What the number check of a replacement guarantees. -/
theorem requireSupported_numbers {claims : UUID → Option FactClaim} {cited : List UUID}
    {old new : Text} (ran : requireSupported chars claims cited old new = .ok ()) :
    ∀ number ∈ numericTokens chars new,
      number ∈ numericTokens chars old ∨ Supports chars claims cited number := by
  simp only [requireSupported] at ran
  split at ran
  · cases ran
  split at ran
  · cases ran
  split at ran
  · cases ran
  next allowed =>
  intro number written
  have listed : number ∈ numericTokens chars old ++
      (cited.filterMap claims).flatMap fun fact => numericTokens chars fact.claim := by
    simp only [Bool.not_eq_true', Bool.not_eq_false, List.all_eq_true, decide_eq_true_eq] at allowed
    exact allowed number written
  rcases List.mem_append.mp listed with kept | supported
  · exact .inl kept
  · obtain ⟨fact, known, inside⟩ := List.mem_flatMap.mp supported
    obtain ⟨id, member, claim⟩ := List.mem_filterMap.mp known
    exact .inr ⟨id, member, fact, claim, inside⟩

/-- A stored text is that of a replacement. -/
theorem textEffect_store {patch : PatchV1 chars} {key : FieldKey} {text : Text}
    (wrote : textEffect patch key = .store text) :
    ∃ cited, patch.operation = .replaceText key.2 text cited ∧ patch.itemId = key.1 := by
  simp only [Reading.effect] at wrote
  split at wrote
  case h_1 field stored cited operation =>
    split at wrote
    next same =>
      cases wrote
      cases same
      exact ⟨cited, operation, rfl⟩
    · cases wrote
  case h_2 =>
    split at wrote <;> cases wrote
  all_goals cases wrote

/-- A patch that leaves the text of a field alone leaves its citation alone. -/
theorem citationEffect_quiet {patch : PatchV1 chars} {key : FieldKey}
    (quiet : textEffect patch key = .keep) : citationEffect patch key = .keep := by
  obtain ⟨itemId, operation, shape⟩ := patch
  cases operation with
  | replaceText target text cited =>
    by_cases same : (itemId, target) = key
    · simp [Reading.effect, same, Reading.stored, textReading] at quiet
    · simp [citationEffect, PatchV1.cites, same]
  | replaceItems target items cited =>
    by_cases same : (itemId, target) = key
    · simp [Reading.effect, same, Reading.stored, textReading] at quiet
    · simp [citationEffect, PatchV1.cites, same]
  | remove => rfl
  | move position => rfl
  | emphasize target emphasis => rfl

/-- A replacement in an accepted list was checked against the text it overwrote. -/
theorem Applied.replacement_checked {permitted : List UUID} {claims : UUID → Option FactClaim}
    {before after : ResumeContent} {earlier later : List (PatchV1 chars)} {patch : PatchV1 chars}
    (applied : Applied permitted claims before (earlier ++ patch :: later) after)
    {held : FieldKey → Option Text} (known : textReading.Known before held) {field : PatchField}
    {text : Text} {cited : List UUID} (operation : patch.operation = .replaceText field text cited) :
    ∃ old, replay textEffect held earlier (patch.itemId, field) = some old ∧
      requireSupported chars claims cited old text = .ok () := by
  obtain ⟨between, first, second⟩ := applied.append_split
  cases second with
  | cons step rest =>
    have accepted := step.accepted
    rw [operation] at accepted
    obtain ⟨-, old, stored, checked⟩ := accepted
    refine ⟨old.text, ?_, checked⟩
    rw [← step.target, ← known.applied first _ step.found field]
    simp [Reading.of, stored, textReading]

namespace SessionLineage
variable {uuid5 : UUID → Text → UUID} {sessionId : UUID} {facts : UUID → Option FactClaim}
  {lineage : SessionLineage chars}

theorem Accepted.textsKnown (accepted : lineage.Accepted uuid5 sessionId facts) :
    textReading.Known lineage.content.data lineage.lastText := by
  induction lineage with
  | generated content snapshot cited =>
    exact Reading.known_shown _ (ResumeContent.items_unique accepted.distinct)
  | revised base patches content snapshot ih =>
    obtain ⟨earlier, applied⟩ := accepted.applied
    exact (ih earlier).applied applied

/-- A number of the text is cited by the field's last writer, or was kept from the
text which the last replacement overwrote. -/
def Explained (facts : UUID → Option FactClaim) (lineage : SessionLineage chars) (key : FieldKey)
    (text : Text) : Prop :=
  ∃ cited, lineage.lastCitation key = some cited ∧
    ((∀ number ∈ numericTokens chars text, Supports chars facts cited number) ∨
      ∃ old, lineage.LastReplaced key old text ∧ ∀ number ∈ numericTokens chars text,
        number ∈ numericTokens chars old ∨ Supports chars facts cited number)

theorem explained_generated {content : ResumeContentV1} {snapshot : List UUID}
    {cited : UUID → UUID} (distinct : content.data.itemIds.Nodup)
    (bullets : ∀ project ∈ content.data.projects, ∀ bullet ∈ project.bullets,
      ∃ fact, facts (cited bullet.id) = some fact ∧ bullet.styled = ⟨fact.claim, []⟩)
    (summaries : ∀ project ∈ content.data.projects, ∃ bullet,
      project.bullets.head? = some bullet ∧ project.summary = bullet.styled)
    {item : Item} (present : item ∈ content.data.items) {field : PatchField}
    (written : field = .bullet ∨ field = .summary) {text : Text}
    (held : item.text field = some text) :
    Explained facts (.generated content snapshot cited : SessionLineage chars) (item.id, field)
      text := by
  have unique := ResumeContent.items_unique distinct
  have supports : ∀ project ∈ content.data.projects, ∀ bullet ∈ project.bullets,
      ∀ number ∈ numericTokens chars bullet.styled.text,
        Supports chars facts [cited bullet.id] number := by
    intro project member bullet inside number listed
    obtain ⟨fact, known, same⟩ := bullets project member bullet inside
    exact ⟨_, List.mem_singleton_self _, fact, known, by rwa [same] at listed⟩
  rcases written with rfl | rfl
  · obtain ⟨project, member, bullet, inside, rfl⟩ := ResumeContent.bullet_of_field present
      (Item.field_of_text held)
    cases held
    have listed : bullet.id ∈ content.data.bulletIds :=
      ResumeContent.mem_bulletIds.mpr ⟨project, member, bullet, inside, rfl⟩
    exact ⟨[cited bullet.id], by simp [lastCitation, generatedCitation, Bullet.item, listed],
      .inl (supports project member bullet inside)⟩
  · obtain ⟨project, member, rfl⟩ := ResumeContent.project_of_field present (Item.field_of_text held)
    cases held
    obtain ⟨bullet, first, same⟩ := summaries project member
    have found : (content.data.projects.find? fun other => other.id = project.id) = some project :=
      KeyedList.find?_key (separated unique).projects member
    refine ⟨[cited bullet.id], ?_, .inl ?_⟩
    · change (content.data.projects.find? fun other => other.id = project.id).bind _ = _
      rw [found]
      simp [first]
    · rw [same]
      exact supports project member bullet (List.mem_of_mem_head? first)

/-- Facts known in a snapshot are facts of the workspace. -/
theorem supports_snapshot {snapshot cited : List UUID} {number : Text}
    (supported : Supports chars (fun id => if id ∈ snapshot then facts id else none) cited number) :
    Supports chars facts cited number := by
  obtain ⟨id, member, fact, known, inside⟩ := supported
  exact ⟨id, member, fact, (Option.ite_none_right_eq_some.mp known).2, inside⟩

/-- Every bullet and summary is explained. -/
theorem Accepted.explained (accepted : lineage.Accepted uuid5 sessionId facts) {item : Item}
    (present : item ∈ lineage.content.data.items) {field : PatchField}
    (written : field = .bullet ∨ field = .summary) {text : Text}
    (held : item.text field = some text) : lineage.Explained facts (item.id, field) text := by
  induction lineage generalizing item with
  | generated content snapshot cited =>
    cases accepted with
    | generated distinct bullets summaries =>
      exact explained_generated distinct
        (fun project member bullet inside => (bullets project member bullet inside).2.2)
        summaries present written held
  | revised base patches content snapshot ih =>
    obtain ⟨earlier, applied⟩ := accepted.applied
    have known : replay textEffect base.lastText patches (item.id, field) = some text :=
      (accepted.textsKnown item present field).symm.trans held
    rcases (replay_eq_some _).mp known with ⟨first, patch, later, rfl, stored, quiet⟩ |
      ⟨before, quiet⟩
    · obtain ⟨cited, operation, target⟩ := textEffect_store stored
      obtain ⟨old, found, checked⟩ := applied.replacement_checked earlier.textsKnown operation
      have found' : replay textEffect base.lastText first (item.id, field) = some old := by
        rwa [target] at found
      refine ⟨cited, (replay_eq_some _).mpr (.inl ⟨first, patch, later, rfl, ?_, ?_⟩), .inr
        ⟨old, .here stored quiet found', fun number listed =>
          (requireSupported_numbers checked number listed).imp id supports_snapshot⟩⟩
      · simp [citationEffect, PatchV1.cites, operation, target]
      · intro other member
        exact citationEffect_quiet (quiet other member)
    · obtain ⟨origin, old, same, -⟩ := accepted.survivor present
      have text' : origin.text field = some text := by
        have tracked := earlier.textsKnown origin old field
        rw [same, before] at tracked
        exact tracked
      obtain ⟨cited, stored, reason⟩ := same ▸ ih earlier old text'
      refine ⟨cited, (replay_eq_some _).mpr (.inr ⟨stored, ?_⟩), reason.imp id ?_⟩
      · exact fun patch member => citationEffect_quiet (quiet patch member)
      · rintro ⟨old, replaced, numbers⟩
        exact ⟨old, .before quiet replaced, numbers⟩

end SessionLineage
end Pathfinder
