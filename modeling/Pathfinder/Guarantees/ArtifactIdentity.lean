import Pathfinder.Library.Json
import Pathfinder.Resume.Printed
import Pathfinder.Db.ResumeArtifacts
import Pathfinder.Guarantees.PublishableRevisions
import Mathlib.Data.List.Induction
import Mathlib.Data.Set.Function

/-!
# The identity of an artifact

The template source, the content and the section order determine every byte that is rendered,
so rows under one identity are equal, and `stage` never finds another text there. SHA-256 only
has to tell apart the texts that are digested.
-/
namespace Pathfinder
open JsonTexts Conditional Machines

/-! ## Two renderings -/

/-- The arguments of `render_with_template`. -/
structure Rendering (chars : CharacterTables) where
  sourceBytes : ByteArray
  manifest : TemplateManifest
  profileContent : ResumeContentV1
  content : ResumeContentV1
  preferences : ResumePreferencesV1 chars

/-- The bytes of the digested content. -/
def contentBytes (content : ResumeContentV1) : ByteArray := encodeUtf8 (write content.data.json)

/-- The bytes of the digested configuration. -/
def configBytes {chars : CharacterTables} (preferences : ResumePreferencesV1 chars) : ByteArray :=
  encodeUtf8 (write (configJson preferences.values.sectionOrder))

section Identity
variable {sha256 : ByteArray → Text} {layout : Text → Except StoreError TemplateLayout}
  {chars : CharacterTables} {hashed : Set ByteArray}

/-- What is digested for the identity of the rendering. -/
def Rendering.inputs (rendering : Rendering chars) : List ByteArray :=
  [rendering.sourceBytes, contentBytes rendering.content, configBytes rendering.preferences]

variable (sha256 layout) in
def Rendering.result (rendering : Rendering chars) : Except StoreError TemplateRenderResult :=
  renderWithTemplate sha256 layout rendering.sourceBytes rendering.manifest
    rendering.profileContent.data rendering.content.data rendering.preferences

/-- What an accepted template source gives. -/
theorem templateParts_ok {manifest : TemplateManifest} {sourceBytes : ByteArray}
    {parts : TemplateParts} (read : templateParts sha256 layout manifest sourceBytes = .ok parts) :
    manifest.commit = templateCommit ∧ ∃ source preamble behind shown,
      decodeUtf8 sourceBytes = some source ∧
      partitionAt beginDocument source = some (preamble, behind) ∧
      sha256 (encodeUtf8 preamble) = manifest.preambleSha256 ∧ layout source = .ok shown ∧
      parts = ⟨preamble, shown.title, shown.color⟩ := by
  unfold templateParts at read
  split at read
  · cases read
  next commit =>
  split at read
  · cases read
  split at read
  · cases read
  next source decoded =>
  split at read
  · cases read
  next preamble behind divided =>
  split at read
  · cases read
  next digest =>
  obtain ⟨given, shown, rfl⟩ := map_ok read
  exact ⟨not_not.mp commit, source, preamble, behind, given, decoded, divided,
    not_not.mp digest, shown, rfl⟩

/-- The result of a rendering, by what it is made from. -/
structure RenderedAs (sha256 : ByteArray → Text)
    (layout : Text → Except StoreError TemplateLayout) (rendering : Rendering chars)
    (result : TemplateRenderResult) : Prop where
  manifest : result.manifest = rendering.manifest
  source : sha256 rendering.sourceBytes = result.manifest.sourceSha256
  content : result.contentSha256 = sha256 (contentBytes rendering.content)
  config : result.configSha256 = sha256 (configBytes rendering.preferences)
  digest : result.texSha256 = sha256 result.texBytes
  bytes : ∃ parts, templateParts sha256 layout rendering.manifest rendering.sourceBytes =
    .ok parts ∧ result.texBytes = encodeUtf8 (resumeTex parts rendering.content.data.printed
      rendering.content.data.printed rendering.preferences.values.sectionOrder)

theorem rendering_ok {rendering : Rendering chars} {result : TemplateRenderResult}
    (rendered : rendering.result sha256 layout = .ok result) :
    RenderedAs sha256 layout rendering result := by
  unfold Rendering.result renderWithTemplate at rendered
  split at rendered
  · cases rendered
  next checked =>
  split at rendered
  · cases rendered
  next source =>
  split at rendered
  · cases rendered
  split at rendered
  · cases rendered
  next made =>
  split at rendered
  · cases rendered
  cases rendered
  unfold fixedRender at made
  split at made
  · cases made
  cases read : templateParts sha256 layout rendering.manifest rendering.sourceBytes with
  | error reason =>
    simp only [renderResumeTex, read, checked, bind, Except.bind, Except.map] at made
    cases made
  | ok parts =>
    rw [read] at made
    cases written : renderResumeTex (.ok parts) rendering.profileContent.data
        rendering.content.data rendering.preferences with
    | error reason =>
      rw [written] at made
      cases made
    | ok tex =>
      rw [written] at made
      cases made
      have yields := renderResumeTex_yields parts rendering.profileContent.data
        rendering.content.valid rendering.preferences
      obtain ⟨-, rfl⟩ := (yields.iff_ok tex).mp written
      obtain ⟨name, contact⟩ :=
        requireLockedItemsUnchanged_ok (validateRenderContent_ok.mp checked).1
      exact ⟨rfl, not_not.mp source, rfl, rfl, rfl, parts, read,
        congrArg encodeUtf8 (resumeTex_printed parts name contact _)⟩

/-- The results share the digests of an artifact's identity. -/
structure SameIdentity (first second : TemplateRenderResult) : Prop where
  source : first.manifest.sourceSha256 = second.manifest.sourceSha256
  content : first.contentSha256 = second.contentSha256
  config : first.configSha256 = second.configSha256

/-- What an artifact keeps of a result. -/
structure SameArtifact (first second : TemplateRenderResult) : Prop where
  bytes : first.texBytes = second.texBytes
  digest : first.texSha256 = second.texSha256
  preamble : first.manifest.preambleSha256 = second.manifest.preambleSha256
  commit : first.manifest.commit = second.manifest.commit

/-- Renderings under one identity write the same bytes, where SHA-256 tells apart what they
digest. -/
theorem same_artifact (free : Set.InjOn sha256 hashed) {first second : Rendering chars}
    (inside : ∀ bytes ∈ first.inputs, bytes ∈ hashed)
    (inside' : ∀ bytes ∈ second.inputs, bytes ∈ hashed) {result result' : TemplateRenderResult}
    (rendered : RenderedAs sha256 layout first result)
    (rendered' : RenderedAs sha256 layout second result') (same : SameIdentity result result') :
    SameArtifact result result' := by
  simp only [Rendering.inputs, List.forall_mem_cons] at inside inside'
  have source : first.sourceBytes = second.sourceBytes := free inside.1 inside'.1
    (rendered.source.trans (same.source.trans rendered'.source.symm))
  have content : contentBytes first.content = contentBytes second.content :=
    free inside.2.1 inside'.2.1
      (rendered.content.symm.trans (same.content.trans rendered'.content))
  have config : configBytes first.preferences = configBytes second.preferences :=
    free inside.2.2.1 inside'.2.2.1
      (rendered.config.symm.trans (same.config.trans rendered'.config))
  have printed := contentJson_printed (write_injective (encodeUtf8_injective content))
  have order := configJson_injective (write_injective (encodeUtf8_injective config))
  obtain ⟨parts, read, bytes⟩ := rendered.bytes
  obtain ⟨parts', read', bytes'⟩ := rendered'.bytes
  obtain ⟨commit, text, preamble, behind, shown, decoded, divided, digest, given, rfl⟩ :=
    templateParts_ok read
  obtain ⟨commit', text', preamble', behind', shown', decoded', divided', digest', given', rfl⟩ :=
    templateParts_ok read'
  rw [← source] at decoded'
  obtain rfl : text = text' := Option.some.inj (decoded.symm.trans decoded')
  have division := Option.some.inj (divided.symm.trans divided')
  obtain rfl : preamble = preamble' := congrArg Prod.fst division
  obtain rfl : shown = shown' := Except.ok.inj (given.symm.trans given')
  have equal : result.texBytes = result'.texBytes := by rw [bytes, bytes', printed, order]
  refine ⟨equal, ?_, ?_, ?_⟩
  · rw [rendered.digest, rendered'.digest, equal]
  · rw [rendered.manifest, rendered'.manifest, ← digest, ← digest']
  · rw [rendered.manifest, rendered'.manifest, commit, commit']

/-! ## Rows -/

/-- The row holds a rendering of its identity. -/
def Published (sha256 : ByteArray → Text) (layout : Text → Except StoreError TemplateLayout)
    (chars : CharacterTables) (hashed : Set ByteArray) (row : ResumeTexArtifact) : Prop :=
  ∃ (rendering : Rendering chars) (result : TemplateRenderResult),
    (∀ bytes ∈ rendering.inputs, bytes ∈ hashed) ∧ RenderedAs sha256 layout rendering result ∧
    row.texBytes = result.texBytes ∧ row.texSha256 = result.texSha256 ∧
    row.preambleSha256 = result.manifest.preambleSha256 ∧
    row.templateCommit = result.manifest.commit ∧
    row.identity.templateSourceSha256 = result.manifest.sourceSha256 ∧
    row.identity.contentSha256 = result.contentSha256 ∧
    row.identity.configSha256 = result.configSha256

/-- Rows with one identity hold the same bytes. -/
theorem Published.consistent (free : Set.InjOn sha256 hashed) {first second : ResumeTexArtifact}
    (published : Published sha256 layout chars hashed first)
    (published' : Published sha256 layout chars hashed second)
    (same : first.identity = second.identity) :
    first.consistent second = true ∧ first.texBytes = second.texBytes := by
  obtain ⟨rendering, result, inside, rendered, bytes, digest, preamble, commit, source, content,
    config⟩ := published
  obtain ⟨rendering', result', inside', rendered', bytes', digest', preamble', commit', source',
    content', config'⟩ := published'
  have identity : SameIdentity result result' :=
    ⟨by rw [← source, ← source', same], by rw [← content, ← content', same],
      by rw [← config, ← config', same]⟩
  have artifact := same_artifact free inside inside' rendered rendered' identity
  have equal : first.texBytes = second.texBytes := by rw [bytes, bytes', artifact.bytes]
  refine ⟨?_, equal⟩
  simp only [ResumeTexArtifact.consistent, Bool.and_eq_true, decide_eq_true_eq]
  exact ⟨⟨⟨by rw [digest, digest', artifact.digest], equal⟩,
    by rw [preamble, preamble', artifact.preamble]⟩, by rw [commit, commit', artifact.commit]⟩

/-- What the INSERT of a request may digest for its identity. -/
def stageInputs (store : ArtifactStore) (reads : StageReads) (request : StageRequest chars) :
    List ByteArray :=
  reads.source.toList.map (fun source => store.templateSource.getD source.sourceBytes) ++
    [contentBytes request.content, configBytes request.preferences]

theorem stagedRow_published {store : ArtifactStore} {reads : StageReads}
    {request : StageRequest chars} {artifactId : UUID} {row : ResumeTexArtifact}
    (inside : ∀ bytes ∈ stageInputs store reads request, bytes ∈ hashed)
    (staged : stagedRow sha256 layout store reads request artifactId = .ok row) :
    Published sha256 layout chars hashed row ∧ row.id = artifactId := by
  unfold stagedRow at staged
  split at staged
  · cases staged
  next versionId stored found =>
  split at staged
  · cases staged
  · cases staged
  next source access given =>
  split at staged
  · cases staged
  split at staged
  · cases staged
  next profileContent validated =>
  split at staged
  · cases staged
  next base chosen =>
  cases rendered : renderWithTemplate sha256 layout
      (store.templateSource.getD source.sourceBytes) store.manifest base.data request.content.data
      request.preferences with
  | error reason =>
    rw [rendered] at staged
    cases staged
  | ok result =>
    rw [rendered] at staged
    cases staged
    let rendering : Rendering chars := ⟨store.templateSource.getD source.sourceBytes,
      store.manifest, base, request.content, request.preferences⟩
    refine ⟨⟨rendering, result, ?_, rendering_ok rendered, rfl, rfl, rfl, rfl, rfl, rfl, rfl⟩, rfl⟩
    rw [stageInputs, given] at inside
    exact inside

/-- What the statement digests. -/
def ArtifactOp.inputs : ArtifactOp chars → List ByteArray
  | .insert _ store reads request _ => stageInputs store reads request
  | .select _ | .commit _ | .rollback _ => []

def ArtifactOp.transaction : ArtifactOp chars → Nat
  | .insert transaction .. | .select transaction | .commit transaction
  | .rollback transaction => transaction

/-- The row that the `stage` behind the statement has just rendered. -/
def ArtifactOp.rendered (sha256 : ByteArray → Text)
    (layout : Text → Except StoreError TemplateLayout) (world : ArtifactWorld) :
    ArtifactOp chars → Option ResumeTexArtifact
  | .insert _ store reads request artifactId =>
    (stagedRow sha256 layout store reads request artifactId).toOption
  | .select transaction => world.conflicted transaction
  | .commit _ | .rollback _ => none

/-- Every row holds a rendering of its identity, and the row a `stage` could not add has one of
its identity in view. -/
structure SoundArtifacts (sha256 : ByteArray → Text)
    (layout : Text → Except StoreError TemplateLayout) (chars : CharacterTables)
    (hashed : Set ByteArray) (world : ArtifactWorld) : Prop where
  committed : ∀ row ∈ world.committed, Published sha256 layout chars hashed row
  pending : ∀ entry ∈ world.pending, Published sha256 layout chars hashed entry.2
  conflicted : ∀ transaction row, world.conflicted transaction = some row →
    Published sha256 layout chars hashed row ∧
      ∃ other ∈ world.visible transaction, other.identity = row.identity

theorem mem_ownRows {world : ArtifactWorld} {transaction : Nat} {row : ResumeTexArtifact} :
    row ∈ world.ownRows transaction ↔ (transaction, row) ∈ world.pending := by
  constructor
  · intro member
    obtain ⟨⟨owner, row⟩, kept, rfl⟩ := List.mem_map.mp member
    obtain ⟨listed, own⟩ := List.mem_filter.mp kept
    obtain rfl : owner = transaction := of_decide_eq_true own
    exact listed
  · intro listed
    exact List.mem_map.mpr ⟨_, List.mem_filter.mpr ⟨listed, decide_eq_true rfl⟩, rfl⟩

namespace SoundArtifacts
variable {world : ArtifactWorld} (sound : SoundArtifacts sha256 layout chars hashed world)
include sound

theorem visible {transaction : Nat} {row : ResumeTexArtifact}
    (seen : row ∈ world.visible transaction) : Published sha256 layout chars hashed row := by
  obtain committed | own := List.mem_append.mp seen
  · exact sound.committed row committed
  · exact sound.pending _ (mem_ownRows.mp own)

/-- The rows that are in view of the other transactions stay in it. -/
theorem ended {transaction : Nat} {committed : List ResumeTexArtifact}
    (kept : world.committed ⊆ committed)
    (published : ∀ row ∈ committed, Published sha256 layout chars hashed row) :
    SoundArtifacts sha256 layout chars hashed (world.ended transaction committed) where
  committed := published
  pending entry member := sound.pending entry (List.mem_filter.mp member).1
  conflicted other row found := by
    by_cases same : other = transaction
    · subst same
      simp [ArtifactWorld.ended] at found
    · have before : world.conflicted other = some row := by
        simpa [ArtifactWorld.ended, same] using found
      obtain ⟨here, existing, seen, identity⟩ := sound.conflicted other row before
      refine ⟨here, existing, ?_, identity⟩
      obtain old | own := List.mem_append.mp seen
      · exact List.mem_append_left _ (kept old)
      · refine List.mem_append_right _ (mem_ownRows.mpr ?_)
        exact List.mem_filter.mpr ⟨mem_ownRows.mp own, by simpa using same⟩

/-- The INSERT of a rendered row. -/
theorem insertRow {transaction : Nat} {row : ResumeTexArtifact}
    (published : Published sha256 layout chars hashed row) :
    SoundArtifacts sha256 layout chars hashed (world.insertRow transaction row).1 := by
  unfold ArtifactWorld.insertRow
  split
  next taken =>
    refine ⟨sound.committed, sound.pending, fun other wanted found => ?_⟩
    by_cases same : other = transaction
    · subst same
      obtain rfl : row = wanted := by simpa using found
      obtain ⟨existing, seen, identity⟩ := List.any_eq_true.mp taken
      exact ⟨published, existing, seen, of_decide_eq_true identity⟩
    · exact sound.conflicted other wanted (by simpa [same] using found)
  split
  · exact sound
  split
  · exact sound
  · refine ⟨sound.committed, ?_, fun other wanted found => ?_⟩
    · intro entry member
      obtain old | rfl := List.mem_append.mp member |>.imp_right List.mem_singleton.mp
      · exact sound.pending entry old
      · exact published
    · obtain ⟨here, existing, seen, identity⟩ := sound.conflicted other wanted found
      refine ⟨here, existing, ?_, identity⟩
      obtain old | own := List.mem_append.mp seen
      · exact List.mem_append_left _ old
      · exact List.mem_append_right _
          (mem_ownRows.mpr (List.mem_append_left _ (mem_ownRows.mp own)))

/-- What one statement preserves. -/
theorem step {op : ArtifactOp chars} (inside : ∀ bytes ∈ op.inputs, bytes ∈ hashed) :
    SoundArtifacts sha256 layout chars hashed (artifactStep sha256 layout world op).1 := by
  cases op with
  | insert transaction store reads request artifactId =>
    simp only [artifactStep]
    split
    · exact sound
    · split
      · exact sound
      next row staged => exact sound.insertRow (stagedRow_published inside staged).1
  | select transaction =>
    simp only [artifactStep]
    split
    · exact sound
    · refine ⟨sound.committed, sound.pending, fun other row found => ?_⟩
      by_cases same : other = transaction
      · subst same
        simp at found
      · exact sound.conflicted other row (by simpa [same] using found)
  | commit transaction =>
    refine sound.ended (List.subset_append_left _ _) fun row member => ?_
    obtain old | own := List.mem_append.mp member
    · exact sound.committed row old
    · exact sound.pending _ (mem_ownRows.mp own)
  | rollback transaction => exact sound.ended (List.Subset.refl _) sound.committed

/-- After a conflict, the SELECT finds the row, and it is the one that was rendered. -/
theorem selectRow (free : Set.InjOn sha256 hashed) {transaction : Nat} {row : ResumeTexArtifact}
    (conflicted : world.conflicted transaction = some row) :
    ∃ existing ∈ world.visible transaction,
      world.selectRow transaction row = .returned existing.id ∧
        existing.texBytes = row.texBytes := by
  obtain ⟨published, other, seen, identity⟩ := sound.conflicted transaction row conflicted
  unfold ArtifactWorld.selectRow
  cases found : (world.visible transaction).find? fun other => other.identity = row.identity with
  | none => exact absurd (decide_eq_true identity) (List.find?_eq_none.mp found other seen)
  | some existing =>
    have member := List.mem_of_find?_eq_some found
    have same : existing.identity = row.identity := by simpa using List.find?_some found
    obtain ⟨consistent, bytes⟩ := (sound.visible member).consistent free published same
    exact ⟨existing, member, by simp only [consistent, if_true], bytes⟩

end SoundArtifacts

end Identity

/-! ## One text for two publications -/

namespace Sample

def preambleText : Text := "\\documentclass\x7barticle\x7d\n".toList

/-- A source with one entry in every section. -/
def templateText : Text :=
  preambleText ++ beginDocument ++
    "\n\\begin\x7bcenter\x7d\n\x7b\\LARGE\\bfseries\\color\x7bblue\x7d Ada\x7d \\\\ ".toList ++
    "\\vspace\x7b1pt\x7d\n\\large Email：ada@example.org\n\\vspace\x7b-8pt\x7d\n".toList ++
    "\\end\x7bcenter\x7d\n\n\\section\x7bEducation\x7d\n\\resumeEducationListStart\n".toList ++
    "\\resumeEducationHeading\x7bSchool\x7d\x7bBSc\x7d\x7b2020\x7d\n".toList ++
    "\\resumeEducationListEnd\n\n\\section\x7bProjects\x7d\n\\resumeProjectListStart\n".toList ++
    "\\resumeProjectHeading\x7bSearch\x7d\x7b2024\x7d\x7b\\skilltag\x7bRust\x7d\x7d".toList ++
    "\x7bBuilt the index\x7d\n\\resumeItemListStart\n\\resumeItem\x7bBuilt the index\x7d\n".toList ++
    "\\resumeItemListEnd\n\\resumeProjectListEnd\n\n\\section\x7bSkills\x7d\n".toList ++
    "\\begin\x7bitemize\x7d\n\\textbf\x7bLanguages\x7d\x7b：Rust\x7d \\\\\n".toList ++
    "\\end\x7bitemize\x7d\n\\end\x7bdocument\x7d\n".toList

def templateDigest : Text :=
  "f80784548fa84199ea19cf14a0306ae8d3822bc45d4be34d441f62b147c36c23".toList

def preambleDigest : Text :=
  "582b76efcdf1d604f4393fd49d7f3521b53302bc2aeb5ec41e2b670267102522".toList

def blueStore : ArtifactStore :=
  ⟨templateDigest, ⟨templateCommit, templateDigest, preambleDigest, fixedRendererVersion⟩, none⟩

/-- Publish the sample content in this transaction. -/
def publish (transaction : Nat) (artifactId : UUID) : ArtifactOp asciiTables :=
  .insert transaction blueStore
    ⟨some (50, .ok sampleGenerated), .ok (),
      some ⟨templateCommit, templateDigest, encodeUtf8 templateText⟩⟩
    ⟨sampleTenant, sampleGenerated, samplePreferences, none⟩ artifactId

end Sample
end Pathfinder
