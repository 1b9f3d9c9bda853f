import Pathfinder.Retrieval.Ingestion

/-!
# What the identity of a document determines

A source is refused, or served chunks of other rules, where the document of its identity was
stored for a source that other rules chunk.
-/
namespace Pathfinder
open Conditional KeyedList KeyedTable Machines

theorem map_checked {β : Type} {check : Except IngestionFailure Unit} {value : β} :
    check.map (fun _ => value) = .ok value ↔ check = .ok () := by
  cases check <;> simp [Except.map]

section Stored
variable {sha256 lower nfc : Text → Text} {isPrintable : Char → Bool} {V : Type}
  {tables : DocumentTables V} {row : ImmutableDocumentRepresentation V} {id : UUID}
  {owner source : PreparedIngestionSource} {tenant : TenantContext}

/-- The rows of a document come back in the order of the text. -/
theorem StoredFor.selected (stored : StoredFor row owner) (chunked : ChunkedBy sha256 owner) :
    selectedChunks row = owner.chunks := by
  rw [selectedChunks, stored.chunks]
  exact List.mergeSort_of_pairwise (by simpa using chunked.sorted)

/-- The stored document is consistent with a source of its identity exactly where the rules are
the same. -/
theorem validateExisting_iff (stored : StoredFor row owner) (chunked : ChunkedBy sha256 owner)
    (chunked' : ChunkedBy sha256 source) {workspaceId : UUID}
    (same : row.identity = buildDocumentIdentity workspaceId source)
    (distinct : NoCollision sha256 owner source) :
    validateExisting row (buildDocumentIdentity workspaceId source)
      (buildDocumentExpectation source) = .ok () ↔ SameRules owner source := by
  have identity : buildDocumentIdentity workspaceId owner =
      buildDocumentIdentity workspaceId source := by
    have workspace : row.identity.workspaceId = workspaceId := by rw [same]; rfl
    rw [← same, stored.identity, workspace]
  obtain ⟨content, chunks⟩ := chunks_eq_iff chunked chunked' identity distinct
  rw [← chunks, validateExisting, same, stored.content, stored.selected chunked, content]
  simp [buildDocumentExpectation]

theorem findComplete_iff (sound : SoundDocuments sha256 lower nfc isPrintable tables)
    (held : tables.documents.get id = some row) (stored : StoredFor row owner)
    (chunked : ChunkedBy sha256 owner) (chunked' : ChunkedBy sha256 source)
    (same : row.identity = buildDocumentIdentity tenant.workspaceId source)
    (distinct : NoCollision sha256 owner source)
    (active : membershipActive tables.memberships tenant.workspaceId tenant.actorUserId = true) :
    findComplete tables tenant (buildDocumentIdentity tenant.workspaceId source)
      (buildDocumentExpectation source) = .ok (some id) ↔ SameRules owner source := by
  have found := sound.document held
  rw [same] at found
  rw [← validateExisting_iff stored chunked chunked' same distinct, findComplete,
    if_neg (by rw [buildDocumentIdentity]; simp), active, found]
  exact map_checked

theorem persist_iff (sound : SoundDocuments sha256 lower nfc isPrintable tables)
    (held : tables.documents.get id = some row) (stored : StoredFor row owner)
    (chunked : ChunkedBy sha256 owner) (chunked' : ChunkedBy sha256 source)
    (same : row.identity = buildDocumentIdentity tenant.workspaceId source)
    (distinct : NoCollision sha256 owner source)
    (active : membershipActive tables.memberships tenant.workspaceId tenant.actorUserId = true)
    (accepted : documentAccepted source = true) {vectors : List V}
    (complete : vectors.length = source.chunks.length) (documentId : UUID) :
    (persist tables documentId (.ofSource tenant source vectors)).2 = .ok id ↔
      SameRules owner source := by
  have found := sound.document held
  rw [same] at found
  have plain : (ImmutableDocumentRepresentation.ofSource tenant source vectors).plainChunks =
      source.chunks := ImmutableDocumentRepresentation.ofSource_plainChunks complete
  have read : (ImmutableDocumentRepresentation.ofSource tenant source vectors).source =
      source := by
    simp only [ImmutableDocumentRepresentation.source, plain]
    rfl
  have expects : (ImmutableDocumentRepresentation.ofSource tenant source vectors).expected =
      buildDocumentExpectation source := by
    simp only [ImmutableDocumentRepresentation.expected, plain]
    rfl
  have identity : (ImmutableDocumentRepresentation.ofSource tenant source vectors).identity =
      buildDocumentIdentity tenant.workspaceId source := rfl
  have member : membershipActive tables.memberships
      (buildDocumentIdentity tenant.workspaceId source).workspaceId
      (ImmutableDocumentRepresentation.ofSource tenant source vectors).createdByUserId = true :=
    active
  rw [← validateExisting_iff stored chunked chunked' same distinct, persist, read, accepted,
    identity, found, expects, member]
  exact map_checked

/-! ## What `ingest` serves -/

/-- The document under an id has the identity of the source, and chunks like it. -/
def Serves (tables : DocumentTables V) (tenant : TenantContext) (id : UUID)
    (source : PreparedIngestionSource) : Prop :=
  ∃ row, tables.documents.get id = some row ∧
    row.identity = buildDocumentIdentity tenant.workspaceId source ∧
    selectedChunks row = source.chunks

/-- A stored document stays as it is. -/
theorem persist_keeps {documentId : UUID} {representation : ImmutableDocumentRepresentation V}
    (held : tables.documents.get id = some row) :
    (persist tables documentId representation).1.documents.get id = some row := by
  obtain ⟨_, kept⟩ | ⟨_, _, -, -, kept⟩ | ⟨-, free, stored⟩ :=
    persist_cases tables documentId representation
  · rw [kept, held]
  · rw [kept, held]
  · have apart : id ≠ documentId := by
      rintro rfl
      rw [held] at free
      cases free
    rw [stored]
    exact (Table.put_get_of_ne _ _ apart).trans held

theorem after_keeps (requests : List (DocumentRequest V))
    (held : tables.documents.get id = some row) :
    (documentRepository.after tables requests).documents.get id = some row := by
  refine documentRepository.after_preserves
    (P := fun tables => tables.documents.get id = some row) (fun tables request held => ?_) held
    requests
  cases request with
  | members memberships => exact held
  | persist documentId representation => exact persist_keeps held

theorem validateExisting_ok {identity : DocumentIdentity}
    {expected : ExpectedDocumentRepresentation}
    (valid : validateExisting row identity expected = .ok ()) :
    row.identity = identity ∧ selectedChunks row = expected.chunks := by
  unfold validateExisting at valid
  split at valid
  · cases valid
  next agree =>
  simp only [not_or, not_not] at agree
  exact ⟨agree.1, agree.2.2⟩

theorem findComplete_serves {existing : UUID}
    (found : findComplete tables tenant (buildDocumentIdentity tenant.workspaceId source)
      (buildDocumentExpectation source) = .ok (some existing)) :
    Serves tables tenant existing source := by
  unfold findComplete at found
  split at found
  · cases found
  split at found
  · cases found
  split at found
  · cases found
  next id row here =>
  cases valid : validateExisting row (buildDocumentIdentity tenant.workspaceId source)
    (buildDocumentExpectation source) with
  | error failure =>
    rw [valid] at found
    cases found
  | ok _ =>
    rw [valid] at found
    cases found
    obtain ⟨identity, chunks⟩ := validateExisting_ok valid
    exact ⟨row, (document_some here).1, identity, chunks⟩

theorem persist_serves {documentId existing : UUID} {vectors : List V}
    (chunked : ChunkedBy sha256 source) (complete : vectors.length = source.chunks.length)
    (stored : (persist tables documentId (.ofSource tenant source vectors)).2 = .ok existing) :
    Serves (persist tables documentId (.ofSource tenant source vectors)).1 tenant existing
      source := by
  have plain : (ImmutableDocumentRepresentation.ofSource tenant source vectors).plainChunks =
      source.chunks := ImmutableDocumentRepresentation.ofSource_plainChunks complete
  obtain ⟨_, kept⟩ | ⟨id, winner, found, valid, kept⟩ | ⟨-, -, new⟩ :=
    persist_cases tables documentId (.ofSource tenant source vectors)
  · rw [kept] at stored
    cases stored
  · rw [kept] at stored ⊢
    cases stored
    obtain ⟨identity, chunks⟩ := validateExisting_ok valid
    exact ⟨winner, (document_some found).1, identity, chunks.trans plain⟩
  · rw [new] at stored ⊢
    cases stored
    exact ⟨_, Table.put_get_self _ _ _, rfl, (ofSource_stored complete).selected chunked⟩

variable {ports : IngestionPorts V} {turn : Nat} {tables' : DocumentTables V}

theorem embedSource_complete {vectors : List V} (embedded : embedSource ports source = .ok vectors) :
    vectors.length = source.chunks.length := by
  obtain ⟨batches, -, later⟩ := bind_ok.mp embedded
  obtain ⟨results, -, checked⟩ := bind_ok.mp later
  dsimp only at checked
  split at checked
  · cases checked
  next complete =>
  cases checked
  exact not_not.mp complete

/-- One turn keeps what is stored and serves its source. -/
theorem ingestSource_keeps (held : tables.documents.get id = some row) :
    (ingestSource ports tenant turn source tables).1.documents.get id = some row := by
  have before := after_keeps (ports.others (2 * turn)) held
  unfold ingestSource
  dsimp only
  split
  · exact before
  · exact before
  split
  · exact before
  · exact persist_keeps (after_keeps _ before)

theorem ingestSource_serves (chunked : ChunkedBy sha256 source)
    (done : ingestSource ports tenant turn source tables = (tables', .ok id)) :
    Serves tables' tenant id source := by
  unfold ingestSource at done
  dsimp only at done
  split at done
  · cases done
  next existing found =>
    cases done
    exact findComplete_serves found
  split at done
  · cases done
  next vectors embedded =>
  rw [Prod.ext_iff] at done
  obtain ⟨rfl, stored⟩ := done
  exact persist_serves chunked (embedSource_complete embedded) stored

theorem Serves.kept (served : Serves tables tenant id source)
    (keeps : ∀ row, tables.documents.get id = some row → tables'.documents.get id = some row) :
    Serves tables' tenant id source := by
  obtain ⟨row, held, same⟩ := served
  exact ⟨row, keeps row held, same⟩

theorem ingestUnique_keeps {sources : List PreparedIngestionSource}
    (held : tables.documents.get id = some row) :
    (ingestUnique ports tenant turn sources tables).1.documents.get id = some row := by
  induction sources generalizing turn tables with
  | nil => exact held
  | cons source rest ih =>
    have next := @ingestSource_keeps _ _ _ _ source tenant ports turn held
    rw [ingestUnique]
    split
    next heq => rwa [heq] at next
    next heq =>
      rw [heq] at next
      exact ih next

/-- What the loop finds serves its sources. -/
theorem ingestUnique_serves {sources : List PreparedIngestionSource}
    (chunked : ∀ source ∈ sources, ChunkedBy sha256 source)
    {found : List (DocumentIdentity × UUID)}
    (done : ingestUnique ports tenant turn sources tables = (tables', .ok found)) :
    ∀ entry ∈ found, ∃ source ∈ sources,
      buildDocumentIdentity tenant.workspaceId source = entry.1 ∧
        Serves tables' tenant entry.2 source := by
  induction sources generalizing turn tables found with
  | nil =>
    cases done
    exact fun entry none => by cases none
  | cons source rest ih =>
    rw [ingestUnique] at done
    split at done
    · cases done
    next between id first =>
    cases more : ingestUnique ports tenant (turn + 1) rest between with
    | mk reached answer =>
    rw [more] at done
    cases answer with
    | error failure => cases done
    | ok others =>
    cases done
    intro entry member
    rcases List.mem_cons.mp member with rfl | later
    · refine ⟨source, List.mem_cons_self, rfl, ?_⟩
      refine (ingestSource_serves (chunked source List.mem_cons_self) first).kept
        fun row held => ?_
      have kept := @ingestUnique_keeps _ _ _ _ tenant ports (turn + 1) rest held
      rwa [more] at kept
    · obtain ⟨source, member, serves⟩ :=
        ih (fun other inside => chunked other (List.mem_cons_of_mem _ inside)) more entry later
      exact ⟨source, List.mem_cons_of_mem _ member, serves⟩

/-- Every position of a batch is served the document of the first source of its identity. -/
theorem ingest_serves {sources : List PreparedIngestionSource}
    (chunked : ∀ source ∈ sources, ChunkedBy sha256 source) {ids : List UUID}
    (done : ingest ports tenant sources tables = (tables', .ok ids)) :
    List.Forall₂ (fun source id => ∃ first ∈ sources,
      sources.find? (fun other => buildDocumentIdentity tenant.workspaceId other =
        buildDocumentIdentity tenant.workspaceId source) = some first ∧
      buildDocumentIdentity tenant.workspaceId first =
        buildDocumentIdentity tenant.workspaceId source ∧
      Serves tables' tenant id first) sources ids := by
  unfold ingest at done
  cases loop : ingestUnique ports tenant 0 (uniqueSources tenant sources) tables with
  | mk reached answer =>
  rw [loop] at done
  cases answer with
  | error failure => cases done
  | ok found =>
  rw [Prod.ext_iff] at done
  obtain ⟨rfl, positions⟩ := done
  have unique {first : PreparedIngestionSource} (member : first ∈ uniqueSources tenant sources) :
      sources.find? (fun other => buildDocumentIdentity tenant.workspaceId other =
        buildDocumentIdentity tenant.workspaceId first) = some first :=
    (mem_firsts.mp member).2
  have served := ingestUnique_serves (fun source member =>
    chunked source (List.mem_of_find?_eq_some (unique member))) loop
  refine (forall₂_mapM_ok positions).imp fun source id here => ?_
  split at here
  · cases here
  next listed =>
  cases here
  obtain ⟨before, behind, split, -⟩ := List.lookup_eq_some_iff.mp listed
  have entry : (buildDocumentIdentity tenant.workspaceId source, id) ∈ found := by
    rw [split]
    exact List.mem_append_right _ List.mem_cons_self
  obtain ⟨first, member, same, serves⟩ := served _ entry
  have head := unique member
  rw [same] at head
  exact ⟨first, List.mem_of_find?_eq_some head, head, same, serves⟩

end Stored

/-- The chunks of a source follow from its identity, a stored document is found consistent with it,
and a batch is served its own chunks, exactly where the sources of the identity are chunked by
the same rules. -/
theorem identity_determines_chunks_iff {V : Type} (sha256 lower nfc : Text → Text)
    (isPrintable : Char → Bool) :
    (∀ first second workspaceId, Prepared sha256 lower nfc isPrintable first →
      Prepared sha256 lower nfc isPrintable second →
      buildDocumentIdentity workspaceId first = buildDocumentIdentity workspaceId second →
      NoCollision sha256 first second →
      (first.chunks = second.chunks ↔ SameRules first second)) ∧
    ∀ requests : List (DocumentRequest V),
      (∀ request ∈ requests, Admitted sha256 lower nfc isPrintable request) →
      let tables := documentRepository.reached requests
      (∀ id row, tables.documents.get id = some row →
        ∃ owner, Prepared sha256 lower nfc isPrintable owner ∧ StoredFor row owner ∧
          ∀ tenant source, Prepared sha256 lower nfc isPrintable source →
            row.identity = buildDocumentIdentity tenant.workspaceId source →
            NoCollision sha256 owner source →
            membershipActive tables.memberships tenant.workspaceId tenant.actorUserId = true →
            (findComplete tables tenant (buildDocumentIdentity tenant.workspaceId source)
              (buildDocumentExpectation source) = .ok (some id) ↔ SameRules owner source) ∧
            ∀ (vectors : List V) documentId, vectors.length = source.chunks.length →
              documentAccepted source = true →
              ((persist tables documentId (.ofSource tenant source vectors)).2 = .ok id ↔
                SameRules owner source)) ∧
      ∀ (ports : IngestionPorts V) tenant sources,
        (∀ source ∈ sources, Prepared sha256 lower nfc isPrintable source) →
        ∀ tables' ids, ingest ports tenant sources tables = (tables', .ok ids) →
          List.Forall₂ (fun source id => ∃ first ∈ sources, ∃ row,
            sources.find? (fun other => buildDocumentIdentity tenant.workspaceId other =
              buildDocumentIdentity tenant.workspaceId source) = some first ∧
            tables'.documents.get id = some row ∧
            row.identity = buildDocumentIdentity tenant.workspaceId source ∧
            (NoCollision sha256 first source →
              (selectedChunks row = source.chunks ↔ SameRules first source))) sources ids := by
  refine ⟨fun first second workspaceId prepared prepared' same distinct =>
    (chunks_eq_iff prepared.chunked prepared'.chunked same distinct).2,
    fun requests admitted => ⟨fun id row held => ?_, fun ports tenant sources prepared tables' ids
      done => ?_⟩⟩
  · have sound := SoundDocuments.reached admitted
    obtain ⟨owner, prepared, stored⟩ := sound.owned id row held
    exact ⟨owner, prepared, stored, fun tenant source prepared' same distinct active =>
      ⟨findComplete_iff sound held stored prepared.chunked prepared'.chunked same distinct active,
        fun vectors documentId complete accepted => persist_iff sound held stored prepared.chunked
          prepared'.chunked same distinct active accepted complete documentId⟩⟩
  · have chunked (source : PreparedIngestionSource) (member : source ∈ sources) :=
      (prepared source member).chunked
    have served := (List.forall₂_and_left sources ids).mpr ⟨chunked, ingest_serves chunked done⟩
    refine served.imp ?_
    rintro source id ⟨own, first, member, head, same, row, held, identity, chunks⟩
    refine ⟨first, member, row, head, held, identity.trans same, fun distinct => ?_⟩
    rw [chunks]
    exact (chunks_eq_iff (chunked first member) own same distinct).2

def plainNotes (sourceName : Text) (sourceType : String) : PreparedIngestionSource :=
  preparedOf sampleSha256 id ⟨sourceName, sourceType, "plain".toList, "first\n\nsecond\n".toList⟩

def plainMarkdown : PreparedIngestionSource := plainNotes "plain.md".toList "markdown"

def plainFile : PreparedIngestionSource := plainNotes "plain.txt".toList "text"

def notesTenant : TenantContext := ⟨1, 2, .member⟩

def notesPorts : IngestionPorts Unit where
  dimension _ := 1536
  embed texts := some (texts.map fun _ => ())
  newId turn := 65 + turn
  others _ := []

/-- A member joins and a source with one chunk is stored. -/
def storedRun (source : PreparedIngestionSource) : List (DocumentRequest Unit) :=
  [.members [⟨1, 2, .member, none⟩], .persist 65 (.ofSource notesTenant source [()])]

theorem prepared_sample {source : ValidatedIngestionSource} (acceptable : Acceptable id source) :
    Prepared sampleSha256 id id (fun _ => true) (preparedOf sampleSha256 id source) :=
  .document source 1 (((prepareSource_yields source 1).iff_ok _).mpr ⟨acceptable, rfl⟩)

theorem storedRun_admitted {source : PreparedIngestionSource}
    (prepared : Prepared sampleSha256 id id (fun _ => true) source)
    (single : source.chunks.length = 1) :
    ∀ request ∈ storedRun source, Admitted sampleSha256 id id (fun _ => true) request := by
  intro request member
  rcases List.mem_cons.mp member with rfl | member
  · trivial
  · obtain rfl := List.mem_singleton.mp member
    exact ⟨notesTenant, source, [()], prepared, single.symm, rfl⟩

/-- Without headings the two files have one document, which serves both. -/
theorem plainNotes_served : plainMarkdown.chunks = plainFile.chunks ∧
    findComplete (documentRepository.reached (storedRun plainMarkdown)) notesTenant
      (buildDocumentIdentity 1 plainFile) (buildDocumentExpectation plainFile) = .ok (some 65) ∧
    (persist (documentRepository.reached (storedRun plainMarkdown)) 66
      (.ofSource notesTenant plainFile [()])).2 = .ok 65 ∧
    ∃ tables' ids, ingest notesPorts notesTenant [plainFile, plainMarkdown]
        (documentRepository.reached (storedRun plainMarkdown)) = (tables', .ok ids) ∧
      List.Forall₂ (fun source id => ∃ row, tables'.documents.get id = some row ∧
        selectedChunks row = source.chunks) [plainFile, plainMarkdown] ids := by
  have markdown : Prepared sampleSha256 id id (fun _ => true) plainMarkdown :=
    prepared_sample (by simpa [Acceptable] using by decide +kernel)
  have text : Prepared sampleSha256 id id (fun _ => true) plainFile :=
    prepared_sample (by simpa [Acceptable] using by decide +kernel)
  have unheaded : Unheaded "first\n\nsecond\n".toList := by decide +kernel
  obtain ⟨pairs, runs⟩ := identity_determines_chunks_iff (V := Unit) sampleSha256 id id
    (fun _ => true)
  obtain ⟨stored, served⟩ := runs (storedRun plainMarkdown)
    (storedRun_admitted markdown (by decide +kernel))
  refine ⟨(pairs _ _ 1 markdown text rfl fun _ => rfl).mpr (.inr (.inr unheaded)),
    and_assoc.mp ⟨?_, ?_⟩⟩
  · have held : ((documentRepository.reached (storedRun plainMarkdown)).documents.get 65).map
        (fun row => (row.identity, row.content)) =
        some (buildDocumentIdentity 1 plainFile, plainFile.content) := by decide +kernel
    obtain ⟨row, here, same⟩ := Option.map_eq_some_iff.mp held
    obtain ⟨owner, -, own, consistent⟩ := stored 65 row here
    obtain ⟨identity, content⟩ := Prod.mk.inj same
    have rules : SameRules owner plainFile :=
      .inr (.inr (by rw [← own.content, content]; exact unheaded))
    obtain ⟨finds, stores⟩ := consistent notesTenant plainFile text identity
      (fun _ => by rw [← own.content, content]) (by decide +kernel)
    exact ⟨finds.mpr rules, (stores [()] 66 (by decide +kernel) (by decide +kernel)).mpr rules⟩
  · have answer : (ingest notesPorts notesTenant [plainFile, plainMarkdown]
        (documentRepository.reached (storedRun plainMarkdown))).2 = .ok [65, 65] := by
      decide +kernel
    have prepared : ∀ source ∈ [plainFile, plainMarkdown],
        Prepared sampleSha256 id id (fun _ => true) source := by
      intro source member
      rcases List.mem_pair.mp member with rfl | rfl
      · exact text
      · exact markdown
    refine ⟨_, [65, 65], Prod.ext rfl answer, ?_⟩
    have rows := (List.forall₂_and_left _ _).mpr ⟨fun source member => member,
      served notesPorts notesTenant _ prepared _ _ (Prod.ext rfl answer)⟩
    refine rows.imp ?_
    rintro source id ⟨listed, first, member, row, -, held, -, chunks⟩
    have content : ∀ source ∈ [plainFile, plainMarkdown],
        source.content = "first\n\nsecond\n".toList := by decide
    refine ⟨row, held, (chunks fun _ => ?_).mpr (.inr (.inr ?_))⟩
    · rw [content first member, content source listed]
    · rw [content first member]
      exact unheaded

/-- A markdown document, and the same text as a text file. -/
def notesText : ValidatedIngestionSource :=
  { notesSource with sourceName := "notes.txt".toList, sourceType := "text" }

/-- The text file has the identity of the stored markdown document and is refused for it. -/
theorem notesText_refused :
    let markdown := preparedOf sampleSha256 id notesSource
    let plain := preparedOf sampleSha256 id notesText
    Prepared sampleSha256 id id (fun _ => true) markdown ∧
      Prepared sampleSha256 id id (fun _ => true) plain ∧
      buildDocumentIdentity 1 markdown = buildDocumentIdentity 1 plain ∧
      markdown.chunks ≠ plain.chunks ∧
      findComplete (documentRepository.reached (storedRun markdown)) notesTenant
        (buildDocumentIdentity 1 markdown) (buildDocumentExpectation markdown) = .ok (some 65) ∧
      findComplete (documentRepository.reached (storedRun markdown)) notesTenant
        (buildDocumentIdentity 1 plain) (buildDocumentExpectation plain) = .error .invariant :=
  ⟨prepared_sample (by simpa [Acceptable] using by decide +kernel),
    prepared_sample (by simpa [Acceptable] using by decide +kernel), rfl, by decide +kernel,
    by decide +kernel, by decide +kernel⟩

end Pathfinder
