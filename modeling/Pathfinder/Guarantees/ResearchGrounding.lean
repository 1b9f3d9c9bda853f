import Pathfinder.Agents.ResearchGraph
import Pathfinder.Guarantees.ActionableDrafts
import Pathfinder.Guarantees.SnapshotIdentity
import Pathfinder.Library.Conditional

/-!
# Grounded research reports

Sources and evidence of two kinds are read from tool results, joined over the passes and
converted for the report. What a pass adds comes from the texts of its own tool results, a
result at a time; the limits of calls and results bound what the passes add up to, so the
report's contract accepts whatever the grounding check has let through.
-/
namespace Pathfinder
open JsonTexts Conditional Machines

variable {libraries : ResearchLibraries}

/-! ## What is built of a tool result -/

theorem constrained_some {holds : String → Prop} [DecidablePred holds] {value : Text}
    {text : { text : String // holds text }} (built : constrained value = some text) :
    text.val = String.ofList value := by
  unfold constrained at built
  split at built
  · cases built
    rfl
  · cases built

theorem webSource_some {result : SearchResult} {source : ResearchSourceV1}
    (built : webSource result = some source) :
    source.sourceId.val = String.ofList result.sourceId := by
  simp only [webSource, Option.bind_eq_bind, Option.bind_eq_some_iff] at built
  obtain ⟨sourceId, named, title, -, snippet, -, publishedAt, -, made⟩ := built
  cases made
  exact constrained_some named

theorem webEvidence_some {result : SearchResult} {item : ResearchEvidenceV1}
    (built : webEvidence libraries result = some item) :
    item.evidenceId.val =
        String.ofList (libraries.webEvidenceId result.sourceId result.snippet) ∧
      item.sourceId.val = String.ofList result.sourceId ∧
      item.text.val = String.ofList result.snippet := by
  simp only [webEvidence, Option.bind_eq_bind, Option.bind_eq_some_iff] at built
  obtain ⟨evidenceId, identified, sourceId, named, text, quoted, made⟩ := built
  cases made
  exact ⟨constrained_some identified, constrained_some named, constrained_some quoted⟩

theorem documentSource_some {hit : RetrievedDocumentEvidenceV1} {source : ResearchSourceV2}
    (built : documentSource hit = some source) :
    source.val.sourceType = .workspaceDocument ∧
      source.val.sourceId.val = documentSourceId hit.documentId ∧
      source.val.documentId = some hit.documentId := by
  simp only [documentSource, Option.bind_eq_bind, Option.bind_eq_some_iff] at built
  obtain ⟨sourceId, named, title, -, made⟩ := built
  split at made
  · cases made
    exact ⟨rfl, by simpa using constrained_some named, rfl⟩
  · cases made

theorem documentEvidence_some {hit : RetrievedDocumentEvidenceV1} {item : ResearchEvidenceV2}
    (built : documentEvidence hit = some item) :
    item.val.sourceType = .workspaceDocument ∧
      item.val.evidenceId.val = chunkEvidenceId hit.chunkId ∧
      item.val.sourceId.val = documentSourceId hit.documentId ∧
      item.val.documentId = some hit.documentId ∧ item.val.chunkId = some hit.chunkId ∧
      item.val.text.val = String.ofList hit.untrustedText := by
  simp only [documentEvidence, Option.bind_eq_bind, Option.bind_eq_some_iff] at built
  obtain ⟨evidenceId, identified, sourceId, named, text, quoted, chunkSection, -, made⟩ := built
  split at made
  · cases made
    exact ⟨rfl, by simpa using constrained_some identified, by simpa using constrained_some named,
      rfl, rfl, constrained_some quoted⟩
  · cases made

theorem validated_ok {Value : Type} {value : Option Value} {result : Value} :
    validated value = .ok result ↔ value = some result := by
  cases value <;> simp [validated]

theorem traced_ok {Value : Type} {value : Option Value} {result : Value} :
    traced value = .ok result ↔ value = some result := by
  cases value <;> simp [traced]

/-! ## What a pass reads -/

/-- The results that a tool's text holds. -/
def ResearchLibraries.searchResults (libraries : ResearchLibraries) (content : String) :
    List SearchResult :=
  (libraries.validatedSearchOutput content).elim [] SearchWebOutputV1.results

def ResearchLibraries.documentHits (libraries : ResearchLibraries) (content : String) :
    List RetrievedDocumentEvidenceV1 :=
  (libraries.validatedDocumentOutput content).elim [] RetrieveDocumentsOutputV1.results

/-- The item is built of a result that one of the texts holds. -/
def ReadFrom {Result Item : Type} (results : String → List Result)
    (build : Result → Option Item) (contents : List String) (item : Item) : Prop :=
  ∃ content ∈ contents, ∃ result ∈ results content, build result = some item

theorem ReadFrom.mono {Result Item : Type} {results : String → List Result}
    {build : Result → Option Item} {contents contents' : List String} {item : Item}
    (more : contents ⊆ contents') (read : ReadFrom results build contents item) :
    ReadFrom results build contents' item := by
  obtain ⟨content, member, found⟩ := read
  exact ⟨content, more member, found⟩

theorem searchResults_valid (content : String) :
    (libraries.searchResults content).length ≤ 8 ∧ ∀ result ∈ libraries.searchResults content,
      searchContract libraries.canonicalizeSearchUrl libraries.sha256Text result = true := by
  unfold ResearchLibraries.searchResults
  cases read : libraries.validatedSearchOutput content with
  | none => simp
  | some output =>
    obtain ⟨-, valid⟩ := Option.filter_eq_some_iff.mp read
    simp only [ResearchLibraries.searchOutputValid, Bool.and_eq_true, decide_eq_true_eq,
      List.all_eq_true] at valid
    exact ⟨valid.1.1.2, valid.1.2⟩

theorem documentHits_valid (content : String) :
    (libraries.documentHits content).length ≤ 5 ∧
      ∀ hit ∈ libraries.documentHits content, hit.valid = true := by
  unfold ResearchLibraries.documentHits
  cases read : libraries.validatedDocumentOutput content with
  | none => simp
  | some output =>
    obtain ⟨-, valid⟩ := Option.filter_eq_some_iff.mp read
    simp only [RetrieveDocumentsOutputV1.valid, Bool.and_eq_true, decide_eq_true_eq,
      List.all_eq_true] at valid
    exact ⟨valid.1.2, valid.2⟩

/-! ## Reading the results of a pass -/

section Appends
variable {Result Item : Type} {build : Result → Option Item} {results results' : List Result}
  {before between after : List Item}

/-- At most one item for each result has come behind the others, and it is built of one. -/
def Adds (build : Result → Option Item) (results : List Result) (before after : List Item) :
    Prop :=
  ∃ new, after = before ++ new ∧ new.length ≤ results.length ∧
    ∀ item ∈ new, ∃ result ∈ results, build result = some item

theorem Adds.refl (results : List Result) (items : List Item) :
    Adds build results items items :=
  ⟨[], (List.append_nil items).symm, Nat.zero_le _, by simp⟩

theorem Adds.one {result : Result} {item : Item} (built : build result = some item)
    (items : List Item) : Adds build [result] items (items ++ [item]) := by
  refine ⟨[item], rfl, Nat.le_refl _, fun other member => ?_⟩
  obtain rfl := List.mem_singleton.mp member
  exact ⟨result, List.mem_singleton_self _, built⟩

theorem Adds.trans (first : Adds build results before between)
    (second : Adds build results' between after) :
    Adds build (results ++ results') before after := by
  obtain ⟨new, rfl, few, read⟩ := first
  obtain ⟨new', rfl, few', read'⟩ := second
  refine ⟨new ++ new', List.append_assoc _ _ _, ?_, ?_⟩
  · simp only [List.length_append]
    omega
  · intro item member
    rcases List.mem_append.mp member with here | there
    · obtain ⟨result, found, built⟩ := read item here
      exact ⟨result, List.mem_append_left _ found, built⟩
    · obtain ⟨result, found, built⟩ := read' item there
      exact ⟨result, List.mem_append_right _ found, built⟩

theorem Adds.subset (appends : Adds build results before after) : before ⊆ after := by
  obtain ⟨new, rfl, -⟩ := appends
  exact List.subset_append_left _ _

theorem Adds.length_le (appends : Adds build results before after) :
    after.length ≤ before.length + results.length := by
  obtain ⟨new, rfl, few, -⟩ := appends
  rw [List.length_append]
  omega

/-- What the results of a text add to what has been read. -/
theorem Adds.read {resultsOf : String → List Result} {contents : List String} {content : String}
    (appends : Adds build (resultsOf content) before after)
    (old : ∀ item ∈ before, ReadFrom resultsOf build contents item) :
    ∀ item ∈ after, ReadFrom resultsOf build (contents ++ [content]) item := by
  obtain ⟨new, rfl, -, read⟩ := appends
  intro item member
  rcases List.mem_append.mp member with here | there
  · exact (old item here).mono (List.subset_append_left _ _)
  · exact ⟨content, List.mem_append_right _ (List.mem_singleton_self _), read item there⟩

end Appends

section Pass
variable {nodeInput : ResearchNodeInputV1} {before between after : ResearchNodeOutputV1}

/-- Every web evidence item has its source. -/
def WebPlaced (nodeInput : ResearchNodeInputV1) (output : ResearchNodeOutputV1) : Prop :=
  ∀ item ∈ output.evidence, ∃ source ∈ nodeInput.existingSources ++ output.sources,
    source.sourceId = item.sourceId

/-- Every document evidence item has its source. -/
def DocumentsPlaced (output : ResearchNodeOutputV1) : Prop :=
  ∀ item ∈ output.documentEvidence, ∃ source ∈ output.documentSources,
    source.val.sourceId = item.val.sourceId

/-- What the results of a search add. -/
structure Searched (libraries : ResearchLibraries) (nodeInput : ResearchNodeInputV1)
    (results : List SearchResult) (before after : ResearchNodeOutputV1) : Prop where
  frame : after = { before with sources := after.sources, evidence := after.evidence }
  sources : Adds webSource results before.sources after.sources
  evidence : Adds (webEvidence libraries) results before.evidence after.evidence
  placed : WebPlaced nodeInput before → WebPlaced nodeInput after

theorem Searched.trans {results results' : List SearchResult}
    (first : Searched libraries nodeInput results before between)
    (second : Searched libraries nodeInput results' between after) :
    Searched libraries nodeInput (results ++ results') before after where
  frame := by
    rw [second.frame, first.frame]
  sources := first.sources.trans second.sources
  evidence := first.evidence.trans second.evidence
  placed := second.placed ∘ first.placed

theorem collectSource_searched {result : SearchResult} {source : ResearchSourceV1}
    (built : webSource result = some source)
    (collected : collectSource nodeInput before source = .ok after) :
    Searched libraries nodeInput [result] before after ∧ after.evidence = before.evidence ∧
      ∃ known ∈ nodeInput.existingSources ++ after.sources, known.sourceId = source.sourceId := by
  unfold collectSource at collected
  split at collected
  · cases collected
    refine ⟨⟨rfl, Adds.one built _, Adds.refl _ _, fun placed item member => ?_⟩, rfl, source,
      ?_, rfl⟩
    · obtain ⟨known, there, same⟩ := placed item member
      refine ⟨known, ?_, same⟩
      rw [← List.append_assoc]
      exact List.mem_append_left _ there
    · exact List.mem_append_right _ (List.mem_append_right _ (List.mem_singleton_self _))
  next known found =>
    split at collected
    · cases collected
    cases collected
    exact ⟨⟨rfl, Adds.refl _ _, Adds.refl _ _, id⟩, rfl, known,
      List.mem_of_find?_eq_some found, by simpa using List.find?_some found⟩

theorem collectEvidence_ok {item : ResearchEvidenceV1}
    (collected : collectEvidence nodeInput before item = .ok after) :
    after = before ∨ after = { before with evidence := before.evidence ++ [item] } := by
  unfold collectEvidence at collected
  split at collected
  · cases collected
    exact .inr rfl
  · split at collected
    · cases collected
    cases collected
    exact .inl rfl

/-- The source of a result is there before its evidence. -/
theorem collectResult_searched {result : SearchResult}
    (collected : collectResult libraries nodeInput before result = .ok after) :
    Searched libraries nodeInput [result] before after := by
  obtain ⟨source, built, collected⟩ := bind_ok.mp collected
  have built := validated_ok.mp built
  obtain ⟨between, sourced, collected⟩ := bind_ok.mp collected
  obtain ⟨first, unchanged, known, there, same⟩ :
      Searched libraries nodeInput [result] before between ∧ _ :=
    collectSource_searched built sourced
  split at collected
  · cases collected
    exact first
  · obtain ⟨item, quoted, collected⟩ := bind_ok.mp collected
    have quoted := validated_ok.mp quoted
    obtain rfl | rfl := collectEvidence_ok collected
    · exact first
    · refine ⟨?_, first.sources, ?_, fun placed other member => ?_⟩
      · rw [first.frame]
      · rw [← unchanged]
        exact Adds.one quoted _
      · rcases List.mem_append.mp member with old | new
        · exact first.placed placed other old
        · obtain rfl := List.mem_singleton.mp new
          refine ⟨known, there, same.trans (Subtype.ext ?_)⟩
          rw [webSource_some built, (webEvidence_some quoted).2.1]

theorem collectResults_searched {results : List SearchResult}
    (collected : results.foldlM (collectResult libraries nodeInput) before = .ok after) :
    Searched libraries nodeInput results before after := by
  have start : Searched libraries nodeInput [] before before :=
    ⟨rfl, Adds.refl _ _, Adds.refl _ _, id⟩
  exact foldlM_ok (P := fun done => Searched libraries nodeInput done before)
    (fun done result between next soFar here => soFar.trans (collectResult_searched here))
    collected start

/-- What the hits of a document call add. -/
structure Retrieved (hits : List RetrievedDocumentEvidenceV1)
    (before after : ResearchNodeOutputV1) : Prop where
  frame : after = { before with
    documentSources := after.documentSources, documentEvidence := after.documentEvidence }
  sources : Adds documentSource hits before.documentSources after.documentSources
  evidence : Adds documentEvidence hits before.documentEvidence after.documentEvidence
  placed : DocumentsPlaced before → DocumentsPlaced after

theorem Retrieved.trans {hits hits' : List RetrievedDocumentEvidenceV1}
    (first : Retrieved hits before between) (second : Retrieved hits' between after) :
    Retrieved (hits ++ hits') before after where
  frame := by
    rw [second.frame, first.frame]
  sources := first.sources.trans second.sources
  evidence := first.evidence.trans second.evidence
  placed := second.placed ∘ first.placed

theorem addNew_appends {Result Key Item : Type} [DecidableEq Key] {key : Item → Key}
    {build : Result → Option Item} {result : Result} {item : Item} (items : List Item)
    (built : build result = some item) : Adds build [result] items (addNew key items item) := by
  unfold addNew
  split
  · exact Adds.refl _ _
  · exact Adds.one built _

theorem addNew_key {Key Item : Type} [DecidableEq Key] (key : Item → Key) (items : List Item)
    (item : Item) : ∃ known ∈ addNew key items item, key known = key item := by
  unfold addNew
  split
  next listed => exact List.mem_map.mp listed
  · exact ⟨item, List.mem_append_right _ (List.mem_singleton_self _), rfl⟩

theorem mem_addNew {Key Item : Type} [DecidableEq Key] {key : Item → Key} {items : List Item}
    {item other : Item} (member : other ∈ addNew key items item) :
    other ∈ items ∨ other = item := by
  unfold addNew at member
  split at member
  · exact .inl member
  · exact (List.mem_append.mp member).imp_right List.mem_singleton.mp

theorem collectHit_retrieved {hit : RetrievedDocumentEvidenceV1}
    (collected : collectHit before hit = .ok after) : Retrieved [hit] before after := by
  obtain ⟨source, built, collected⟩ := bind_ok.mp collected
  have built := validated_ok.mp built
  obtain ⟨item, quoted, collected⟩ := bind_ok.mp collected
  have quoted := validated_ok.mp quoted
  cases collected
  refine ⟨rfl, addNew_appends _ built, addNew_appends _ quoted, fun placed other member => ?_⟩
  rcases mem_addNew member with old | rfl
  · obtain ⟨known, there, same⟩ := placed other old
    exact ⟨known, (addNew_appends _ built).subset there, same⟩
  · obtain ⟨known, there, same⟩ :=
      addNew_key (fun item : ResearchSourceV2 => item.val.sourceId) before.documentSources source
    refine ⟨known, there, same.trans (Subtype.ext ?_)⟩
    rw [(documentSource_some built).2.1, (documentEvidence_some quoted).2.2.1]

theorem collectHits_retrieved {hits : List RetrievedDocumentEvidenceV1}
    (collected : hits.foldlM collectHit before = .ok after) : Retrieved hits before after := by
  have start : Retrieved [] before before := ⟨rfl, Adds.refl _ _, Adds.refl _ _, id⟩
  exact foldlM_ok (P := fun done => Retrieved done before)
    (fun done hit between next soFar here => soFar.trans (collectHit_retrieved here))
    collected start

/-- What a pass has collected of the texts of its tools, so far: at most eight results for each
search and five hits for each document call. -/
structure PassOutput (libraries : ResearchLibraries) (nodeInput : ResearchNodeInputV1)
    (contents : List String) (output : ResearchNodeOutputV1) : Prop where
  calls : output.searchCalls.length + output.documentRetrievalCalls.length = contents.length
  sources : ∀ source ∈ output.sources, ReadFrom libraries.searchResults webSource contents source
  evidence : ∀ item ∈ output.evidence,
    ReadFrom libraries.searchResults (webEvidence libraries) contents item
  documentSources : ∀ source ∈ output.documentSources,
    ReadFrom libraries.documentHits documentSource contents source
  documentEvidence : ∀ item ∈ output.documentEvidence,
    ReadFrom libraries.documentHits documentEvidence contents item
  sourceCount : output.sources.length ≤ 8 * output.searchCalls.length
  evidenceCount : output.evidence.length ≤ 8 * output.searchCalls.length
  documentSourceCount : output.documentSources.length ≤ 5 * output.documentRetrievalCalls.length
  documentEvidenceCount : output.documentEvidence.length ≤ 5 * output.documentRetrievalCalls.length
  placed : WebPlaced nodeInput output
  documentsPlaced : DocumentsPlaced output

theorem PassOutput.empty : PassOutput libraries nodeInput [] .empty where
  calls := rfl
  sources := by simp [ResearchNodeOutputV1.empty]
  evidence := by simp [ResearchNodeOutputV1.empty]
  documentSources := by simp [ResearchNodeOutputV1.empty]
  documentEvidence := by simp [ResearchNodeOutputV1.empty]
  sourceCount := Nat.zero_le _
  evidenceCount := Nat.zero_le _
  documentSourceCount := Nat.zero_le _
  documentEvidenceCount := Nat.zero_le _
  placed := by simp [WebPlaced, ResearchNodeOutputV1.empty]
  documentsPlaced := by simp [DocumentsPlaced, ResearchNodeOutputV1.empty]

/-- A search: its results are read, and it is traced once. -/
theorem collectSearch_effects {call : ModelToolCall Json} {content : String}
    (collected : collectSearch libraries nodeInput before call content = .ok after) :
    ∃ between trace, Searched libraries nodeInput (libraries.searchResults content) before between ∧
      after = { between with searchCalls := before.searchCalls ++ [trace] } := by
  obtain ⟨toolInput, -, collected⟩ := bind_ok.mp collected
  obtain ⟨toolOutput, read, collected⟩ := bind_ok.mp collected
  have read := traced_ok.mp read
  split at collected
  · cases collected
  obtain ⟨between, results, collected⟩ := bind_ok.mp collected
  obtain ⟨query, -, collected⟩ := bind_ok.mp collected
  obtain ⟨traces, -, collected⟩ := bind_ok.mp collected
  obtain ⟨trace, -, collected⟩ := bind_ok.mp collected
  cases collected
  have searched := collectResults_searched results
  have held : libraries.searchResults content = toolOutput.results := by
    rw [ResearchLibraries.searchResults, read]
    rfl
  refine ⟨between, trace, held ▸ searched, ?_⟩
  rw [searched.frame]

/-- A document call: its hits are read, and it is traced once. -/
theorem collectDocuments_effects {call : ModelToolCall Json} {content : String}
    (collected : collectDocuments libraries nodeInput before call content = .ok after) :
    ∃ between trace, Retrieved (libraries.documentHits content) before between ∧
      after = { between with
        documentRetrievalCalls := before.documentRetrievalCalls ++ [trace] } := by
  obtain ⟨accepted, -, collected⟩ := bind_ok.mp collected
  obtain ⟨toolOutput, read, collected⟩ := bind_ok.mp collected
  have read := traced_ok.mp read
  obtain ⟨between, hits, collected⟩ := bind_ok.mp collected
  obtain ⟨trace, -, collected⟩ := bind_ok.mp collected
  cases collected
  have retrieved := collectHits_retrieved hits
  have held : libraries.documentHits content = toolOutput.results := by
    rw [ResearchLibraries.documentHits, read]
    rfl
  refine ⟨between, trace, held ▸ retrieved, ?_⟩
  rw [retrieved.frame]

theorem PassOutput.searched {contents : List String} {content : String}
    {trace : SearchCallTraceV1} (soFar : PassOutput libraries nodeInput contents before)
    (searched : Searched libraries nodeInput (libraries.searchResults content) before between) :
    PassOutput libraries nodeInput (contents ++ [content])
      { between with searchCalls := before.searchCalls ++ [trace] } := by
  have few : (libraries.searchResults content).length ≤ 8 := (searchResults_valid content).1
  have sources := searched.sources.length_le
  have evidence := searched.evidence.length_le
  have old : contents ⊆ contents ++ [content] := List.subset_append_left _ _
  rw [searched.frame]
  refine ⟨?_, searched.sources.read soFar.sources, searched.evidence.read soFar.evidence,
    fun source member => (soFar.documentSources source member).mono old,
    fun item member => (soFar.documentEvidence item member).mono old, ?_, ?_,
    soFar.documentSourceCount, soFar.documentEvidenceCount, searched.placed soFar.placed,
    soFar.documentsPlaced⟩
  all_goals simp only [List.length_append, List.length_singleton]
  · have calls := soFar.calls
    omega
  · have count := soFar.sourceCount
    omega
  · have count := soFar.evidenceCount
    omega

theorem PassOutput.retrieved {contents : List String} {content : String}
    {trace : DocumentRetrievalCallTraceV1} (soFar : PassOutput libraries nodeInput contents before)
    (retrieved : Retrieved (libraries.documentHits content) before between) :
    PassOutput libraries nodeInput (contents ++ [content])
      { between with documentRetrievalCalls := before.documentRetrievalCalls ++ [trace] } := by
  have few : (libraries.documentHits content).length ≤ 5 := (documentHits_valid content).1
  have sources := retrieved.sources.length_le
  have evidence := retrieved.evidence.length_le
  have old : contents ⊆ contents ++ [content] := List.subset_append_left _ _
  rw [retrieved.frame]
  refine ⟨?_, fun source member => (soFar.sources source member).mono old,
    fun item member => (soFar.evidence item member).mono old,
    retrieved.sources.read soFar.documentSources, retrieved.evidence.read soFar.documentEvidence,
    soFar.sourceCount, soFar.evidenceCount, ?_, ?_, soFar.placed,
    retrieved.placed soFar.documentsPlaced⟩
  all_goals simp only [List.length_append, List.length_singleton]
  · have calls := soFar.calls
    omega
  · have count := soFar.documentSourceCount
    omega
  · have count := soFar.documentEvidenceCount
    omega

theorem PassOutput.step {contents : List String} {exchange : ModelToolCall Json × String}
    (soFar : PassOutput libraries nodeInput contents before)
    (collected : collectExchange libraries nodeInput before exchange = .ok after) :
    PassOutput libraries nodeInput (contents ++ [exchange.2]) after := by
  unfold collectExchange at collected
  split at collected
  · obtain ⟨between, trace, retrieved, rfl⟩ := collectDocuments_effects collected
    exact soFar.retrieved retrieved
  · obtain ⟨between, trace, searched, rfl⟩ := collectSearch_effects collected
    exact soFar.searched searched

theorem collectExchanges_output {exchanges : List (ModelToolCall Json × String)}
    (collected : exchanges.foldlM (collectExchange libraries nodeInput) .empty = .ok after) :
    PassOutput libraries nodeInput (exchanges.map Prod.snd) after := by
  have start : PassOutput libraries nodeInput
      (([] : List (ModelToolCall Json × String)).map Prod.snd) .empty := .empty
  refine foldlM_ok (P := fun done => PassOutput libraries nodeInput (done.map Prod.snd))
    (fun done exchange between next soFar here => ?_) collected start
  rw [List.map_append]
  exact soFar.step here

/-! ## The texts of a transcript -/

/-- The text of a tool message. -/
def ChatMessage.toolText : ChatMessage → Option String
  | .tool _ content => content
  | _ => none

theorem toolResults_texts {transcript : List ChatMessage} {results : List (String × String)}
    (read : toolResults transcript = .ok results) :
    results.map Prod.snd = transcript.filterMap ChatMessage.toolText := by
  induction transcript generalizing results with
  | nil =>
    cases read
    rfl
  | cons message rest ih =>
    cases message with
    | instruction => exact ih read
    | assistant toolCalls => exact ih read
    | tool toolCallId content =>
      obtain ⟨callId, -, read⟩ := bind_ok.mp read
      obtain ⟨text, shown, read⟩ := bind_ok.mp read
      obtain ⟨later, behind, read⟩ := bind_ok.mp read
      cases read
      obtain rfl := traced_ok.mp shown
      simp [ChatMessage.toolText, ih behind]

/-- Every tool result of an accepted transcript belongs to the call of its place. -/
theorem orderedToolExchanges_texts {transcript : List ChatMessage}
    {exchanges : List (ModelToolCall Json × String)}
    (ordered : orderedToolExchanges transcript = .ok exchanges) :
    exchanges.map Prod.snd = transcript.filterMap ChatMessage.toolText := by
  obtain ⟨results, read, ordered⟩ := bind_ok.mp ordered
  split at ordered
  · cases ordered
  split at ordered
  · cases ordered
  next same =>
    cases ordered
    have sized := congrArg List.length (not_not.mp same)
    simp only [List.length_map] at sized
    rw [← toolResults_texts read, List.map_snd_zip]
    simp [sized]

/-- A pass has its own calls, as many as its loop has counted, and eight with the earlier ones. -/
theorem researchOutputs_output {transcript : List ChatMessage} {count : Nat}
    (outputs : researchOutputsFromTranscript libraries nodeInput transcript count = .ok after) :
    PassOutput libraries nodeInput (transcript.filterMap ChatMessage.toolText) after ∧
      after.searchCalls.length + after.documentRetrievalCalls.length = count ∧
      nodeInput.existingSearchCalls.length + nodeInput.existingDocumentRetrievalCalls.length +
        after.searchCalls.length + after.documentRetrievalCalls.length ≤ 8 := by
  obtain ⟨exchanges, ordered, outputs⟩ := bind_ok.mp outputs
  split at outputs
  · cases outputs
  next counted =>
  split at outputs
  · cases outputs
  next within =>
  split at outputs
  · cases outputs
  obtain ⟨output, collected, outputs⟩ := bind_ok.mp outputs
  have outputs := validated_ok.mp outputs
  split at outputs
  · cases outputs
    have made := collectExchanges_output collected
    have calls := made.calls
    rw [List.length_map] at calls
    rw [← orderedToolExchanges_texts ordered]
    refine ⟨made, calls.trans (not_not.mp counted), ?_⟩
    unfold searchWebPerRunCallLimit at within
    omega
  · cases outputs

theorem createAgentResearchNode_output {limits : AgentLoopLimits}
    {loop : AgentLoopLimits → LoopAnswer}
    (outputs : createAgentResearchNode libraries limits loop nodeInput = .ok after) :
    ∃ passLimits transcript, researchPassControl nodeInput limits = .ok passLimits ∧
      loop passLimits = .returned transcript
        (after.searchCalls.length + after.documentRetrievalCalls.length) ∧
      PassOutput libraries nodeInput (transcript.filterMap ChatMessage.toolText) after ∧
      nodeInput.existingSearchCalls.length + nodeInput.existingDocumentRetrievalCalls.length +
        after.searchCalls.length + after.documentRetrievalCalls.length ≤ 8 := by
  unfold createAgentResearchNode at outputs
  split at outputs
  · cases outputs
  next passLimits allowed =>
    cases answered : loop passLimits with
    | raised category =>
      rw [answered] at outputs
      cases outputs
    | returned transcript count =>
      rw [answered] at outputs
      obtain ⟨made, counted, few⟩ := researchOutputs_output outputs
      exact ⟨passLimits, transcript, allowed, counted ▸ answered, made, few⟩

end Pass

/-! ## The joined passes -/

/-- What the passes have left in the state, and where it was read. -/
structure Gathered (libraries : ResearchLibraries) (state : ResearchGraphState)
    (contents : List String) : Prop where
  searchOrdinals : state.searchCalls.map SearchCallTraceV1.callOrdinal =
    List.range' 1 state.searchCalls.length
  documentOrdinals : state.documentRetrievalCalls.map DocumentRetrievalCallTraceV1.callOrdinal =
    List.range' 1 state.documentRetrievalCalls.length
  calls : state.searchCalls.length + state.documentRetrievalCalls.length ≤ 8
  sourceIds : (state.sources.map ResearchSourceV1.sourceId).Nodup
  evidenceIds : (state.evidence.map ResearchEvidenceV1.evidenceId).Nodup
  documentSourceIds : (state.documentSources.map fun source => source.val.sourceId).Nodup
  documentEvidenceIds : (state.documentEvidence.map fun item => item.val.evidenceId).Nodup
  sources : ∀ source ∈ state.sources, ReadFrom libraries.searchResults webSource contents source
  evidence : ∀ item ∈ state.evidence,
    ReadFrom libraries.searchResults (webEvidence libraries) contents item
  documentSources : ∀ source ∈ state.documentSources,
    ReadFrom libraries.documentHits documentSource contents source
  documentEvidence : ∀ item ∈ state.documentEvidence,
    ReadFrom libraries.documentHits documentEvidence contents item
  sourceCount : state.sources.length ≤ 8 * state.searchCalls.length
  evidenceCount : state.evidence.length ≤ 8 * state.searchCalls.length
  documentSourceCount : state.documentSources.length ≤ 5 * state.documentRetrievalCalls.length
  documentEvidenceCount : state.documentEvidence.length ≤ 5 * state.documentRetrievalCalls.length
  placed : ∀ item ∈ state.evidence, ∃ source ∈ state.sources, source.sourceId = item.sourceId
  documentsPlaced : ∀ item ∈ state.documentEvidence, ∃ source ∈ state.documentSources,
    source.val.sourceId = item.val.sourceId

section Merge
variable {Source Evidence : Type} [DecidableEq Source] [DecidableEq Evidence]

theorem mergeSources_ok {sourceId : Source → Identifier} {existing additions merged : List Source}
    (done : mergeSources sourceId existing additions = .ok merged) :
    KeyedList.merge sourceId existing additions = some merged := by
  unfold mergeSources at done
  split at done
  · cases done
  next joined found =>
    split at done
    · cases done
    cases done
    exact found

theorem mergeEvidence_ok {evidenceId : Evidence → Identifier}
    {existing additions merged : List Evidence}
    (done : mergeEvidence evidenceId existing additions = .ok merged) :
    KeyedList.merge evidenceId existing additions = some merged := by
  unfold mergeEvidence at done
  split at done
  · cases done
  next joined found =>
    split at done
    · cases done
    cases done
    exact found

theorem mergeSearchCalls_ok {existing additions merged : List SearchCallTraceV1} {passNumber : Nat}
    (done : mergeSearchCalls existing additions passNumber = .ok merged) :
    merged = existing ++ additions ∧
      merged.map SearchCallTraceV1.callOrdinal = List.range' 1 merged.length := by
  unfold mergeSearchCalls at done
  split at done
  · cases done
  next old =>
  split at done
  · cases done
  next new =>
  split at done
  · cases done
  cases done
  simp only [not_or, not_not] at old new
  refine ⟨rfl, ?_⟩
  rw [List.map_append, old, new.1, List.length_append, Nat.add_comm existing.length 1,
    List.range'_append_1]

theorem mergeDocumentCalls_ok {existing additions merged : List DocumentRetrievalCallTraceV1}
    (done : mergeDocumentCalls existing additions = .ok merged) :
    merged = existing ++ additions ∧
      merged.map DocumentRetrievalCallTraceV1.callOrdinal = List.range' 1 merged.length := by
  unfold mergeDocumentCalls at done
  dsimp only at done
  split at done
  · cases done
  next fine =>
  cases done
  simp only [not_or, not_not] at fine
  exact ⟨rfl, fine.2⟩

theorem requireEvidenceSources_ok {sources : List ResearchSourceV1}
    {evidence : List ResearchEvidenceV1} (done : requireEvidenceSources sources evidence = .ok ()) :
    ∀ item ∈ evidence, ∃ source ∈ sources, source.sourceId = item.sourceId := by
  unfold requireEvidenceSources at done
  split at done
  · cases done
  next none_missing =>
  intro item member
  by_contra missing
  refine none_missing (List.any_eq_true.mpr ⟨item, member, ?_⟩)
  rw [Bool.not_eq_true', ← Bool.not_eq_true, List.contains_iff_mem]
  intro listed
  obtain ⟨source, there, same⟩ := List.mem_map.mp listed
  exact missing ⟨source, there, same⟩

/-- What is joined was read in an earlier pass or in this one. -/
theorem merge_read {Result Item Key : Type} [DecidableEq Key] [DecidableEq Item] {key : Item → Key}
    {results : String → List Result} {build : Result → Option Item} {contents new : List String}
    {existing additions merged : List Item}
    (done : KeyedList.merge key existing additions = some merged)
    (old : ∀ item ∈ existing, ReadFrom results build contents item)
    (added : ∀ item ∈ additions, ReadFrom results build new item) :
    ∀ item ∈ merged, ReadFrom results build (contents ++ new) item := by
  intro item member
  rcases (KeyedList.merge_some done).2.1 item member with here | there
  · exact (old item here).mono (List.subset_append_left _ _)
  · exact (added item there).mono (List.subset_append_right _ _)

end Merge

variable {state after : ResearchGraphState} {output : ResearchNodeOutputV1}
  {contents new : List String}

/-- A pass is joined to the ones before it. -/
theorem Gathered.merge {nextPass : Nat} (gathered : Gathered libraries state contents)
    (made : PassOutput libraries (state.researchInput nextPass) new output)
    (few : state.searchCalls.length + state.documentRetrievalCalls.length +
      output.searchCalls.length + output.documentRetrievalCalls.length ≤ 8)
    (done : mergePass state nextPass output = .ok after) :
    Gathered libraries after (contents ++ new) := by
  obtain ⟨sources, joinedSources, done⟩ := bind_ok.mp done
  obtain ⟨evidence, joinedEvidence, done⟩ := bind_ok.mp done
  obtain ⟨searchCalls, joinedSearches, done⟩ := bind_ok.mp done
  obtain ⟨_, placed, done⟩ := bind_ok.mp done
  obtain ⟨documentSources, joinedDocuments, done⟩ := bind_ok.mp done
  obtain ⟨documentEvidence, joinedChunks, done⟩ := bind_ok.mp done
  obtain ⟨documentCalls, joinedCalls, done⟩ := bind_ok.mp done
  cases done
  have joinedSources := mergeSources_ok joinedSources
  have joinedEvidence := mergeEvidence_ok joinedEvidence
  have joinedDocuments := mergeSources_ok joinedDocuments
  have joinedChunks := mergeEvidence_ok joinedChunks
  obtain ⟨rfl, searchOrdinals⟩ := mergeSearchCalls_ok joinedSearches
  obtain ⟨rfl, documentOrdinals⟩ := mergeDocumentCalls_ok joinedCalls
  obtain ⟨-, -, -, sourceSize⟩ := KeyedList.merge_some joinedSources
  obtain ⟨-, -, -, evidenceSize⟩ := KeyedList.merge_some joinedEvidence
  obtain ⟨keptDocuments, -, takenDocuments, documentSize⟩ := KeyedList.merge_some joinedDocuments
  obtain ⟨-, chunksWithin, -, chunkSize⟩ := KeyedList.merge_some joinedChunks
  refine ⟨searchOrdinals, documentOrdinals, ?_,
    KeyedList.merge_nodup gathered.sourceIds joinedSources,
    KeyedList.merge_nodup gathered.evidenceIds joinedEvidence,
    KeyedList.merge_nodup gathered.documentSourceIds joinedDocuments,
    KeyedList.merge_nodup gathered.documentEvidenceIds joinedChunks,
    merge_read joinedSources gathered.sources made.sources,
    merge_read joinedEvidence gathered.evidence made.evidence,
    merge_read joinedDocuments gathered.documentSources made.documentSources,
    merge_read joinedChunks gathered.documentEvidence made.documentEvidence, ?_, ?_, ?_, ?_,
    requireEvidenceSources_ok placed, ?_⟩
  · simp only [List.length_append]
    omega
  · have old := gathered.sourceCount
    have added := made.sourceCount
    simp only [List.length_append]
    omega
  · have old := gathered.evidenceCount
    have added := made.evidenceCount
    simp only [List.length_append]
    omega
  · have old := gathered.documentSourceCount
    have added := made.documentSourceCount
    simp only [List.length_append]
    omega
  · have old := gathered.documentEvidenceCount
    have added := made.documentEvidenceCount
    simp only [List.length_append]
    omega
  · intro item member
    rcases chunksWithin item member with old | added
    · obtain ⟨source, there, same⟩ := gathered.documentsPlaced item old
      exact ⟨source, keptDocuments.subset there, same⟩
    · obtain ⟨source, there, same⟩ := made.documentsPlaced item added
      exact ⟨source, takenDocuments source there, same⟩

/-! ## What the writer may answer -/

section Writer
variable {writerOutput : WriteReportNodeOutputV1} {nodeInput : WriteReportNodeInputV1}

/-- What the trusted input decides, of a report with evidence. -/
theorem checkWriterDecision_sufficient (sufficient : nodeInput.evidenceSufficient = true) :
    checkWriterDecision writerOutput nodeInput = .ok () ↔
      (nodeInput.request.includeApplicationDraft = false → writerOutput.applicationDraft = none) ∧
      (∀ item ∈ writerOutput.limitations, item.code ≠ .insufficientEvidence) ∧
      (writerOutput.summary ≠ [] ∨ writerOutput.findings ≠ []) ∧
      (nodeInput.request.includeApplicationDraft = true →
        draftClaims writerOutput.applicationDraft ≠ []) := by
  have clear :
      (writerOutput.limitations.findIdx? fun item => item.code = .insufficientEvidence) = none ↔
      ∀ item ∈ writerOutput.limitations, item.code ≠ .insufficientEvidence := by
    simp [List.findIdx?_eq_none_iff]
  rw [← clear]
  unfold checkWriterDecision
  rw [sufficient]
  cases nodeInput.request.includeApplicationDraft <;> cases writerOutput.applicationDraft <;>
    cases writerOutput.limitations.findIdx? (fun item => item.code = .insufficientEvidence) <;>
    cases writerOutput.summary <;> cases writerOutput.findings <;>
    simp [bind, Except.bind, pure, Except.pure]

theorem checkWriterDecision_insufficient (insufficient : nodeInput.evidenceSufficient = false) :
    checkWriterDecision writerOutput nodeInput = .ok () ↔
      writerOutput.limitations = [] ∧ writerOutput.summary = [] ∧ writerOutput.findings = [] ∧
        writerOutput.applicationDraft = none := by
  unfold checkWriterDecision
  rw [insufficient]
  cases nodeInput.request.includeApplicationDraft <;> cases writerOutput.applicationDraft <;>
    cases writerOutput.limitations <;> cases writerOutput.summary <;>
      cases writerOutput.findings <;>
    simp [bind, Except.bind, pure, Except.pure]

theorem groundCitations_ok {evidence : List (Identifier × Identifier)} {claimPath : String}
    {citations : List ResearchCitationV1} {index : Nat}
    (grounded : groundCitations evidence claimPath index citations = .ok ()) :
    ∀ citation ∈ citations, citedSource evidence citation.evidenceId = some citation.sourceId := by
  induction citations generalizing index with
  | nil => simp
  | cons first rest ih =>
    simp only [groundCitations] at grounded
    split at grounded
    · cases grounded
    next sourceId cited =>
      split at grounded
      · cases grounded
      next same =>
        intro citation member
        rcases List.mem_cons.mp member with rfl | later
        · rw [cited, not_not.mp same]
        · exact ih grounded citation later

theorem groundClaims_ok {evidence : List (Identifier × Identifier)} {groupPath : String}
    {claims : List ResearchClaimV1} {index : Nat} {seen seen' : List Identifier}
    (grounded : groundClaims evidence groupPath index seen claims = .ok seen')
    (distinct : seen.Nodup) :
    seen' = (claims.map ResearchClaimV1.claimId).reverse ++ seen ∧ seen'.Nodup ∧
      ∀ claim ∈ claims, ∀ citation ∈ claim.citations,
        citedSource evidence citation.evidenceId = some citation.sourceId := by
  induction claims generalizing index seen with
  | nil =>
    cases grounded
    exact ⟨rfl, distinct, by simp⟩
  | cons first rest ih =>
    by_cases listed : first.claimId ∈ seen
    · have refused : groundClaims evidence groupPath index seen (first :: rest) =
          .error (writerGroundingError "duplicate_claim_id"
            (groupPath ++ "." ++ toString index ++ ".claim_id")) := (if_pos listed).trans rfl
      rw [refused] at grounded
      cases grounded
    · have goes : groundClaims evidence groupPath index seen (first :: rest) =
          (groundCitations evidence (groupPath ++ "." ++ toString index) 0 first.citations >>=
            fun _ => groundClaims evidence groupPath (index + 1) (first.claimId :: seen) rest) :=
        (if_neg listed).trans rfl
      rw [goes] at grounded
      obtain ⟨_, cited, grounded⟩ := bind_ok.mp grounded
      obtain ⟨same, unique, rests⟩ := ih grounded (List.nodup_cons.mpr ⟨listed, distinct⟩)
      refine ⟨by simp [same], unique, ?_⟩
      intro claim member
      rcases List.mem_cons.mp member with rfl | later
      · exact groundCitations_ok cited
      · exact rests claim later

/-- The claims of a writer's output, in the order of their groups. -/
def WriteReportNodeOutputV1.claims (output : WriteReportNodeOutputV1) : List ResearchClaimV1 :=
  output.summary ++ output.findings ++ draftClaims output.applicationDraft

/-- What the grounding check lets through. -/
theorem validateWriterGrounding_ok
    (grounded : validateWriterGrounding writerOutput nodeInput = .ok ()) :
    checkWriterDecision writerOutput nodeInput = .ok () ∧
      (writerOutput.claims.map ResearchClaimV1.claimId).Nodup ∧
      (∀ claim ∈ writerOutput.claims, ∀ citation ∈ claim.citations,
        citedSource (evidenceSources nodeInput.evidence nodeInput.documentEvidence)
          citation.evidenceId = some citation.sourceId) ∧
      (mergeLimitations nodeInput.validationLimitations writerOutput.limitations).length ≤ 8 := by
  obtain ⟨_, decided, grounded⟩ := bind_ok.mp grounded
  obtain ⟨inSummary, summary, grounded⟩ := bind_ok.mp grounded
  obtain ⟨inFindings, findings, grounded⟩ := bind_ok.mp grounded
  obtain ⟨inDraft, draft, grounded⟩ := bind_ok.mp grounded
  have few :
      (mergeLimitations nodeInput.validationLimitations writerOutput.limitations).length ≤ 8 := by
    split at grounded
    · cases grounded
    · omega
  obtain ⟨rfl, unique, cited⟩ := groundClaims_ok summary List.nodup_nil
  obtain ⟨rfl, unique', cited'⟩ := groundClaims_ok findings unique
  obtain ⟨rfl, unique'', cited''⟩ := groundClaims_ok draft unique'
  refine ⟨decided, ?_, ?_, few⟩
  · simpa [WriteReportNodeOutputV1.claims] using List.nodup_reverse.mpr unique''
  · intro claim member
    rcases List.mem_append.mp member with report | drafted
    · rcases List.mem_append.mp report with shown | found
      · exact cited claim shown
      · exact cited' claim found
    · exact cited'' claim drafted

end Writer
/-! ## The report -/

variable {writerOutput : WriteReportNodeOutputV1} {sufficient : Bool}

theorem mem_mergeLimitations {first second : List ResearchLimitationV1}
    {item : ResearchLimitationV1} :
    item ∈ mergeLimitations first second ↔ item ∈ first ∨ item ∈ second := by
  unfold mergeLimitations
  induction second generalizing first with
  | nil => simp
  | cons next rest ih =>
    rw [List.foldl_cons, ih]
    split
    next known =>
      simp only [List.mem_cons]
      constructor
      · exact Or.imp_right .inr
      · rintro (old | rfl | later)
        · exact .inl old
        · exact .inl known
        · exact .inr later
    · simp [or_assoc]

theorem dictGet_mem {Key Item : Type} [DecidableEq Key] {key : Item → Key} {items : List Item}
    {wanted : Key} {item : Item} (found : dictGet key items wanted = some item) :
    item ∈ items ∧ key item = wanted := by
  unfold dictGet at found
  exact ⟨List.mem_reverse.mp (List.mem_of_find?_eq_some found),
    by simpa using List.find?_some found⟩

theorem dictGet_key {Key Item : Type} [DecidableEq Key] {key : Item → Key} {items : List Item}
    (unique : (items.map key).Nodup) {item : Item} (member : item ∈ items) :
    dictGet key items (key item) = some item := by
  refine KeyedList.find?_key ?_ (List.mem_reverse.mpr member)
  rw [List.map_reverse, List.nodup_reverse]
  exact unique

/-- The evidence of a state, as the report lists it. -/
def ResearchGraphState.reportEvidence (state : ResearchGraphState) : List ResearchEvidenceV2 :=
  state.evidence.map ResearchEvidenceV1.web ++ state.documentEvidence

def ResearchGraphState.reportSources (state : ResearchGraphState) : List ResearchSourceV2 :=
  state.sources.map ResearchSourceV1.web ++ state.documentSources

/-- The grounding check and the report look the same items up. -/
theorem citedSource_report (evidenceId : Identifier) :
    citedSource (evidenceSources state.evidence state.documentEvidence) evidenceId =
      (dictGet (fun item : ResearchEvidenceV2 => item.val.evidenceId) state.reportEvidence
        evidenceId).map fun item => item.val.sourceId := by
  have listed : evidenceSources state.evidence state.documentEvidence =
      state.reportEvidence.map fun item => (item.val.evidenceId, item.val.sourceId) := by
    simp [evidenceSources, ResearchGraphState.reportEvidence, ResearchEvidenceV1.web]
  rw [citedSource, listed, dictGet, ← List.map_reverse, List.find?_map, Option.map_map]
  rfl

theorem citedSource_web (evidenceId : Identifier) :
    citedSource (evidenceSources state.evidence []) evidenceId =
      (dictGet ResearchEvidenceV1.evidenceId state.evidence evidenceId).map
        ResearchEvidenceV1.sourceId := by
  rw [citedSource, evidenceSources, List.map_nil, List.append_nil, dictGet, ← List.map_reverse,
    List.find?_map, Option.map_map]
  rfl

/-- The decision of the evidence check, and what the writer may answer to it, are what the
report's contract asks for. -/
theorem decisionHolds_report {nodeInput : WriteReportNodeInputV1} {grounded : Bool}
    (decided : deterministicEvidenceValidation state.evidence state.documentEvidence =
      (nodeInput.evidenceSufficient, nodeInput.validationLimitations))
    (answered : checkWriterDecision writerOutput nodeInput = .ok ())
    (found : state.evidence ≠ [] ∨ state.documentEvidence ≠ [] → grounded = true) :
    decisionHolds nodeInput.evidenceSufficient grounded
      (!writerOutput.summary.isEmpty || !writerOutput.findings.isEmpty)
      writerOutput.applicationDraft.isSome
      (mergeLimitations nodeInput.validationLimitations writerOutput.limitations) = true := by
  unfold deterministicEvidenceValidation at decided
  cases sufficient : nodeInput.evidenceSufficient with
  | true =>
    obtain ⟨-, clear, claimed, -⟩ := (checkWriterDecision_sufficient sufficient).mp answered
    split at decided
    next evidenced =>
      obtain ⟨-, none_found⟩ := Prod.mk.inj decided
      have clear : ((mergeLimitations nodeInput.validationLimitations
          writerOutput.limitations).any fun item => item.code = .insufficientEvidence) = false := by
        refine List.any_eq_false.mpr fun item member => ?_
        rcases mem_mergeLimitations.mp member with validation | writer
        · rw [← none_found] at validation
          cases validation
        · simpa using clear item writer
      have claimed : (!writerOutput.summary.isEmpty || !writerOutput.findings.isEmpty) = true := by
        simpa using claimed
      rw [decisionHolds, claimed, clear, found (by simpa using evidenced)]
      rfl
    · rw [sufficient] at decided
      cases (Prod.mk.inj decided).1
  | false =>
    obtain ⟨-, summary, findings, draft⟩ :=
      (checkWriterDecision_insufficient sufficient).mp answered
    split at decided
    · rw [sufficient] at decided
      cases (Prod.mk.inj decided).1
    · obtain ⟨-, limited⟩ := Prod.mk.inj decided
      have told : ((mergeLimitations nodeInput.validationLimitations
          writerOutput.limitations).any fun item => item.code = .insufficientEvidence) = true := by
        refine List.any_eq_true.mpr ⟨insufficientEvidenceLimitation, ?_, rfl⟩
        refine mem_mergeLimitations.mpr (.inl ?_)
        rw [← limited]
        exact List.mem_singleton_self _
      rw [decisionHolds, summary, findings, draft, told]
      rfl

/-- What the report is built on: a decision on the evidence, and an answer that its grounding
check let through. -/
structure Answered (state : ResearchGraphState) (sufficient : Bool)
    (writerOutput : WriteReportNodeOutputV1) : Prop where
  decided : deterministicEvidenceValidation state.evidence state.documentEvidence =
    (sufficient, state.validationLimitations)
  grounded : validateWriterGrounding writerOutput (state.writerInput sufficient) = .ok ()

theorem Answered.cited (answered : Answered state sufficient writerOutput)
    {claim : ResearchClaimV1} (member : claim ∈ writerOutput.claims) {citation : ResearchCitationV1}
    (cites : citation ∈ claim.citations) : ∃ item ∈ state.reportEvidence,
      dictGet (fun item : ResearchEvidenceV2 => item.val.evidenceId) state.reportEvidence
        citation.evidenceId = some item ∧ item.val.sourceId = citation.sourceId := by
  obtain ⟨-, -, cited, -⟩ := validateWriterGrounding_ok answered.grounded
  have found := cited claim member citation cites
  rw [ResearchGraphState.writerInput, citedSource_report] at found
  obtain ⟨item, listed, same⟩ := Option.map_eq_some_iff.mp found
  exact ⟨item, (dictGet_mem listed).1, listed, same⟩

theorem webSource_prefix {source : ResearchSourceV1}
    (read : ReadFrom libraries.searchResults webSource contents source) :
    ∃ rest, source.sourceId.val = String.ofList ("web-v1:".toList ++ rest) := by
  obtain ⟨content, -, result, member, built⟩ := read
  have valid := (searchResults_valid _).2 _ member
  simp only [searchContract, isSearchSourceId, Bool.and_eq_true] at valid
  obtain ⟨rest, same⟩ := List.isPrefixOf_iff_prefix.mp valid.1.1.1.1.1.1.1.1.1
  exact ⟨rest, by rw [webSource_some built, same]⟩

/-- Texts whose openings differ in their first two characters. -/
theorem openings_apart {opening opening' : String}
    (long : 2 ≤ opening.toList.length) (long' : 2 ≤ opening'.toList.length)
    (different : opening.toList.take 2 ≠ opening'.toList.take 2) (rest rest' : Text) :
    String.ofList (opening.toList ++ rest) ≠ opening' ++ String.ofList rest' := by
  intro same
  have texts := congrArg (fun text => text.toList.take 2) same
  simp only [String.toList_ofList, String.toList_append, List.take_append_of_le_length long,
    List.take_append_of_le_length long'] at texts
  exact different texts

theorem web_document_apart (rest : Text) (documentId : UUID) :
    String.ofList ("web-v1:".toList ++ rest) ≠ documentSourceId documentId :=
  openings_apart (by decide) (by decide) (by decide) rest _

theorem evidence_chunk_apart (digest : Text) (chunkId : UUID) :
    String.ofList ("web-evidence-v1:".toList ++ digest) ≠ chunkEvidenceId chunkId :=
  openings_apart (by decide) (by decide) (by decide) digest _

theorem documentSourceId_injective {first second : UUID} (sized : first < 2 ^ 128)
    (sized' : second < 2 ^ 128) (same : documentSourceId first = documentSourceId second) :
    first = second := by
  have texts := String.append_right_inj _ |>.mp same
  exact uuidText_injective sized sized' (String.ofList_inj.mp texts)

namespace Gathered

theorem sizes (gathered : Gathered libraries state contents) :
    state.sources.length + state.documentSources.length ≤ 64 ∧
      state.evidence.length + state.documentEvidence.length ≤ 64 := by
  have calls := gathered.calls
  have sources := gathered.sourceCount
  have evidence := gathered.evidenceCount
  have documents := gathered.documentSourceCount
  have chunks := gathered.documentEvidenceCount
  omega

/-- The report of a version 1 state without documents. -/
theorem legacy_valid (gathered : Gathered libraries state contents)
    (answered : Answered state sufficient writerOutput) (webOnly : state.documentEvidence = []) :
    (legacyReport state sufficient writerOutput).valid = true := by
  obtain ⟨decision, unique, cited, few⟩ := validateWriterGrounding_ok answered.grounded
  have sizes := gathered.sizes
  have placed : (validateEvidenceSources state.sources state.evidence) = true := by
    simp only [validateEvidenceSources, gathered.sourceIds, gathered.evidenceIds, decide_true,
      Bool.and_self, Bool.true_and, List.all_eq_true, decide_eq_true_eq]
    intro item member
    obtain ⟨source, there, same⟩ := gathered.placed item member
    exact same ▸ List.mem_map_of_mem there
  have citations : ((legacyReport state sufficient writerOutput).claims.all fun claim =>
      claim.citations.all fun citation => (dictGet ResearchEvidenceV1.evidenceId state.evidence
        citation.evidenceId).any fun item => item.sourceId = citation.sourceId) = true := by
    refine List.all_eq_true.mpr fun claim member => List.all_eq_true.mpr fun citation cites => ?_
    have found := cited claim member citation cites
    simp only [ResearchGraphState.writerInput, webOnly, citedSource_web] at found
    obtain ⟨item, listed, same⟩ := Option.map_eq_some_iff.mp found
    simp [listed, same]
  have found : state.evidence ≠ [] ∨ state.documentEvidence ≠ [] →
      (!state.sources.isEmpty && !state.evidence.isEmpty) = true := by
    rintro (evidenced | documents)
    · obtain ⟨item, member⟩ := List.exists_mem_of_ne_nil _ evidenced
      obtain ⟨source, there, -⟩ := gathered.placed item member
      simp [List.ne_nil_of_mem there, evidenced]
    · exact absurd webOnly documents
  have decided := decisionHolds_report answered.decided decision found
  have bounds := writerOutput.bounded
  have evidenceSize : state.evidence.length ≤ 128 := by omega
  have sourceSize : state.sources.length ≤ 64 := by omega
  simp only [ResearchOutputV1.valid, Bool.and_eq_true, decide_eq_true_eq]
  exact ⟨⟨⟨⟨⟨⟨⟨⟨bounds.1, bounds.2.1⟩, evidenceSize⟩, few⟩, sourceSize⟩, placed⟩, unique⟩,
    citations⟩, decided⟩

theorem reportSources_unique (gathered : Gathered libraries state contents) :
    (state.reportSources.map fun source => source.val.sourceId).Nodup := by
  rw [ResearchGraphState.reportSources, List.map_append, List.map_map, List.nodup_append]
  refine ⟨gathered.sourceIds, gathered.documentSourceIds, ?_⟩
  intro id web other document same
  obtain ⟨source, member, rfl⟩ := List.mem_map.mp web
  obtain ⟨source', member', rfl⟩ := List.mem_map.mp document
  obtain ⟨rest, opened⟩ := webSource_prefix (gathered.sources source member)
  obtain ⟨content, -, hit, -, built⟩ := gathered.documentSources source' member'
  have texts := congrArg Subtype.val same
  simp only [Function.comp_apply, ResearchSourceV1.web, opened,
    (documentSource_some built).2.1] at texts
  exact web_document_apart _ _ texts

theorem reportEvidence_unique (gathered : Gathered libraries state contents) :
    (state.reportEvidence.map fun item => item.val.evidenceId).Nodup := by
  rw [ResearchGraphState.reportEvidence, List.map_append, List.map_map, List.nodup_append]
  refine ⟨gathered.evidenceIds, gathered.documentEvidenceIds, ?_⟩
  intro id web other document same
  obtain ⟨item, member, rfl⟩ := List.mem_map.mp web
  obtain ⟨item', member', rfl⟩ := List.mem_map.mp document
  obtain ⟨content, -, result, -, built⟩ := gathered.evidence item member
  obtain ⟨content', -, hit, -, built'⟩ := gathered.documentEvidence item' member'
  have texts := congrArg Subtype.val same
  simp only [Function.comp_apply, ResearchEvidenceV1.web, (webEvidence_some built).1,
    (documentEvidence_some built').2.1] at texts
  exact evidence_chunk_apart _ _ texts

/-- Every evidence item of the report has a source of its own kind, and its own document. -/
theorem evidence_sourced (gathered : Gathered libraries state contents)
    {item : ResearchEvidenceV2} (member : item ∈ state.reportEvidence) :
    ∃ source, dictGet (fun source : ResearchSourceV2 => source.val.sourceId) state.reportSources
        item.val.sourceId = some source ∧ source.val.sourceType = item.val.sourceType ∧
      (item.val.sourceType = .workspaceDocument →
        source.val.documentId = item.val.documentId) := by
  have unique := gathered.reportSources_unique
  rcases List.mem_append.mp member with web | document
  · obtain ⟨item, held, rfl⟩ := List.mem_map.mp web
    obtain ⟨source, there, same⟩ := gathered.placed item held
    have listed : source.web ∈ state.reportSources :=
      List.mem_append_left _ (List.mem_map_of_mem there)
    refine ⟨source.web, ?_, rfl, fun other => ?_⟩
    · have found := dictGet_key unique listed
      simpa [ResearchSourceV1.web, ResearchEvidenceV1.web, same] using found
    · cases other
  · obtain ⟨source, there, same⟩ := gathered.documentsPlaced item document
    have listed : source ∈ state.reportSources := List.mem_append_right _ there
    obtain ⟨content, -, hit, held, built⟩ := gathered.documentSources source there
    obtain ⟨content', -, hit', held', built'⟩ := gathered.documentEvidence item document
    obtain ⟨kind, named, documentId⟩ := documentSource_some built
    obtain ⟨kind', -, named', documentId', -⟩ := documentEvidence_some built'
    have valid := (documentHits_valid _).2 _ held
    have valid' := (documentHits_valid _).2 _ held'
    simp only [RetrievedDocumentEvidenceV1.valid, Bool.and_eq_true, decide_eq_true_eq]
      at valid valid'
    have one : hit.documentId = hit'.documentId :=
      documentSourceId_injective valid.1.1.1.1.1.1 valid'.1.1.1.1.1.1
        (by rw [← named, ← named', same])
    refine ⟨source, ?_, kind.trans kind'.symm, fun _ => ?_⟩
    · rw [← same]
      exact dictGet_key unique listed
    · rw [documentId, documentId', one]

end Gathered

section Convert
variable {evidence : List ResearchEvidenceV2} {claim : ResearchClaimV1}
  {converted : ResearchClaimV2}

/-- A converted citation is the citation, with the type of its evidence. -/
def ConvertedFrom (evidence : List ResearchEvidenceV2) (citation : ResearchCitationV1)
    (converted : ResearchCitationV2) : Prop :=
  converted.sourceId = citation.sourceId ∧ converted.evidenceId = citation.evidenceId ∧
    ∃ item, evidenceById evidence citation.evidenceId = some item ∧
      converted.sourceType = item.val.sourceType

theorem convertedFrom_biUnique : Relator.BiUnique (ConvertedFrom evidence) := by
  constructor
  · rintro ⟨sourceId, evidenceId⟩ ⟨sourceId', evidenceId'⟩ converted ⟨source, item, -⟩
      ⟨source', item', -⟩
    simp_all
  · rintro citation ⟨kind, sourceId, evidenceId⟩ ⟨kind', sourceId', evidenceId'⟩
      ⟨source, item, found, listed, same⟩ ⟨source', item', found', listed', same'⟩
    obtain rfl := Option.some.inj (listed.symm.trans listed')
    simp_all

theorem convertCitation_some {citation : ResearchCitationV1} {result : ResearchCitationV2}
    (made : convertCitation evidence citation = some result) :
    ConvertedFrom evidence citation result := by
  obtain ⟨item, listed, made⟩ := Option.bind_eq_some_iff.mp made
  cases made
  exact ⟨rfl, rfl, item, listed, rfl⟩

theorem convertClaim_spec (made : convertClaim evidence claim = some converted) :
    converted.claimId = claim.claimId ∧
      List.Forall₂ (ConvertedFrom evidence) claim.citations converted.citations := by
  obtain ⟨citations, each, made⟩ := Option.bind_eq_some_iff.mp made
  split at made
  · cases made
    exact ⟨rfl, (forall₂_mapM_some each).imp fun _ _ => convertCitation_some⟩
  · cases made

/-- A claim whose evidence is there is converted: its citations stay as many and distinct. -/
theorem convertClaim_some (cited : ∀ citation ∈ claim.citations, ∃ item,
      evidenceById evidence citation.evidenceId = some item) :
    ∃ converted, convertClaim evidence claim = some converted := by
  have each : ∀ citation ∈ claim.citations, ∃ result,
      convertCitation evidence citation = some result := by
    intro citation member
    obtain ⟨item, listed⟩ := cited citation member
    exact ⟨_, Option.bind_eq_some_iff.mpr ⟨item, listed, rfl⟩⟩
  obtain ⟨citations, each⟩ := exists_mapM_some each
  have pairs := (forall₂_mapM_some each).imp fun _ _ => convertCitation_some
  have fits : (1 ≤ citations.length ∧ citations.length ≤ 16) ∧ citations.Nodup := by
    refine ⟨pairs.length_eq ▸ claim.bounded, ?_⟩
    exact (List.rel_nodup convertedFrom_biUnique pairs).mp claim.unique
  refine ⟨{ claimId := claim.claimId, text := claim.text, citations := citations,
            bounded := fits.1, unique := fits.2 }, ?_⟩
  exact Option.bind_eq_some_iff.mpr ⟨citations, each, dif_pos fits⟩

/-- The claims of a group, each with what it becomes. -/
abbrev ConvertedClaims (evidence : List ResearchEvidenceV2) :
    List ResearchClaimV1 → List ResearchClaimV2 → Prop :=
  List.Forall₂ fun claim converted => convertClaim evidence claim = some converted

theorem convertDraft_spec {draft : Option ApplicationDraftV1} {result : Option ApplicationDraftV2}
    (made : convertDraft evidence draft = some result) : result.isSome = draft.isSome ∧
      ConvertedClaims evidence (draftClaims draft)
        (result.elim [] ApplicationDraftV2.paragraphs) := by
  cases draft with
  | none =>
    cases made
    exact ⟨rfl, .nil⟩
  | some draft =>
    obtain ⟨paragraphs, each, made⟩ := Option.bind_eq_some_iff.mp made
    split at made
    · cases made
      exact ⟨rfl, forall₂_mapM_some each⟩
    · cases made

theorem convertDraft_some {draft : Option ApplicationDraftV1}
    (each : ∀ claim ∈ draftClaims draft,
      ∃ converted, convertClaim evidence claim = some converted) :
    ∃ result, convertDraft evidence draft = some result := by
  cases draft with
  | none => exact ⟨none, rfl⟩
  | some draft =>
    obtain ⟨paragraphs, converted⟩ := exists_mapM_some each
    have fits : 1 ≤ paragraphs.length ∧ paragraphs.length ≤ 32 :=
      (forall₂_mapM_some converted).length_eq ▸ draft.bounded
    exact ⟨some ⟨paragraphs, fits⟩,
      Option.bind_eq_some_iff.mpr ⟨paragraphs, converted, dif_pos fits⟩⟩

end Convert

/-- How the report of the later versions comes from the state and the writer's answer. -/
structure Reported (state : ResearchGraphState) (sufficient : Bool)
    (writerOutput : WriteReportNodeOutputV1) (output : ResearchOutputV2) : Prop where
  evidence : output.evidence = state.reportEvidence
  sources : output.sources = state.reportSources
  sufficient : output.evidenceSufficient = sufficient
  limitations : output.limitations =
    mergeLimitations state.validationLimitations writerOutput.limitations
  summary : ConvertedClaims state.reportEvidence writerOutput.summary output.summary
  findings : ConvertedClaims state.reportEvidence writerOutput.findings output.findings
  drafted : output.applicationDraft.isSome = writerOutput.applicationDraft.isSome
  claims : ConvertedClaims state.reportEvidence writerOutput.claims output.claims

theorem report_spec {output : ResearchOutputV2}
    (made : report state sufficient writerOutput = some output) :
    Reported state sufficient writerOutput output := by
  obtain ⟨draft, drafted, made⟩ := Option.bind_eq_some_iff.mp made
  obtain ⟨summary, summarized, made⟩ := Option.bind_eq_some_iff.mp made
  obtain ⟨findings, found, made⟩ := Option.bind_eq_some_iff.mp made
  cases made
  obtain ⟨present, paragraphs⟩ := convertDraft_spec drafted
  have summarized := forall₂_mapM_some summarized
  have found := forall₂_mapM_some found
  exact ⟨rfl, rfl, rfl, rfl, summarized, found, present,
    List.rel_append (List.rel_append summarized found) paragraphs⟩

theorem Answered.report_some (answered : Answered state sufficient writerOutput) :
    ∃ output, report state sufficient writerOutput = some output := by
  have each : ∀ claim ∈ writerOutput.claims, ∃ converted,
      convertClaim state.reportEvidence claim = some converted := by
    intro claim member
    refine convertClaim_some fun citation cites => ?_
    obtain ⟨item, -, listed, -⟩ := answered.cited member cites
    exact ⟨item, listed⟩
  obtain ⟨draft, drafted⟩ : ∃ result,
      convertDraft state.reportEvidence writerOutput.applicationDraft = some result :=
    convertDraft_some fun claim member => each claim (List.mem_append_right _ member)
  obtain ⟨summary, summarized⟩ := exists_mapM_some fun claim member =>
    each claim (List.mem_append_left _ (List.mem_append_left _ member))
  obtain ⟨findings, found⟩ := exists_mapM_some fun claim member =>
    each claim (List.mem_append_left _ (List.mem_append_right _ member))
  exact ⟨_, Option.bind_eq_some_iff.mpr ⟨draft, drafted, Option.bind_eq_some_iff.mpr
    ⟨summary, summarized, Option.bind_eq_some_iff.mpr ⟨findings, found, rfl⟩⟩⟩⟩

theorem convertedClaims_isEmpty {claims : List ResearchClaimV1} {results : List ResearchClaimV2}
    {evidence : List ResearchEvidenceV2} (pairs : ConvertedClaims evidence claims results) :
    results.isEmpty = claims.isEmpty := by
  cases pairs <;> rfl

theorem convertedClaims_ids {claims : List ResearchClaimV1} {results : List ResearchClaimV2}
    {evidence : List ResearchEvidenceV2} (pairs : ConvertedClaims evidence claims results) :
    results.map ResearchClaimV2.claimId = claims.map ResearchClaimV1.claimId := by
  induction pairs with
  | nil => rfl
  | cons here _ ih => rw [List.map_cons, List.map_cons, (convertClaim_spec here).1, ih]

/-- The report of a later version. -/
theorem Gathered.report_valid (gathered : Gathered libraries state contents)
    (answered : Answered state sufficient writerOutput) {output : ResearchOutputV2}
    (reported : Reported state sufficient writerOutput output) : output.valid = true := by
  obtain ⟨decision, unique, -, few⟩ := validateWriterGrounding_ok answered.grounded
  have sizes := gathered.sizes
  have bounds := writerOutput.bounded
  have evidenceSize : output.evidence.length ≤ 128 := by
    simp only [reported.evidence, ResearchGraphState.reportEvidence, List.length_append,
      List.length_map]
    omega
  have sourceSize : output.sources.length ≤ 64 := by
    simp only [reported.sources, ResearchGraphState.reportSources, List.length_append,
      List.length_map]
    omega
  have placed : ∀ item ∈ output.evidence, output.evidencePlaced item = true := by
    intro item member
    rw [reported.evidence] at member
    obtain ⟨source, listed, kind, document⟩ := gathered.evidence_sourced member
    simp only [ResearchOutputV2.evidencePlaced, reported.sources, listed, Option.any_some, kind,
      decide_true, Bool.true_and, Bool.or_eq_true, decide_eq_true_eq]
    by_cases other : item.val.sourceType = .workspaceDocument
    · exact .inr (document other)
    · exact .inl other
  have resolved : ∀ claim ∈ output.claims, ∀ citation ∈ claim.citations,
      output.citationResolves citation = true := by
    intro converted member cited' cites'
    obtain ⟨claim, held, made⟩ := origin_of_mem reported.claims member
    obtain ⟨citation, cites, source, named, item, listed, kind⟩ :=
      origin_of_mem (convertClaim_spec made).2 cites'
    obtain ⟨item', there, listed', same⟩ := answered.cited held cites
    obtain rfl : item = item' := Option.some.inj (listed.symm.trans listed')
    obtain ⟨origin, found, kind', -⟩ := gathered.evidence_sourced there
    rw [same] at found
    unfold evidenceById at listed
    simp only [ResearchOutputV2.citationResolves, reported.sources, reported.evidence, source,
      named,
      found, listed, Option.any_some, kind, kind', same, decide_true, Bool.and_self]
  have found : state.evidence ≠ [] ∨ state.documentEvidence ≠ [] →
      (!output.sources.isEmpty && !output.evidence.isEmpty) = true := by
    intro evidenced
    have filled : state.reportEvidence ≠ [] := by
      rw [ResearchGraphState.reportEvidence, Ne, List.append_eq_nil_iff, List.map_eq_nil_iff,
        not_and_or]
      exact evidenced
    obtain ⟨item, member⟩ := List.exists_mem_of_ne_nil _ filled
    obtain ⟨source, listed, -⟩ := gathered.evidence_sourced member
    have there := List.ne_nil_of_mem (dictGet_mem listed).1
    simp [reported.sources, reported.evidence, filled, there]
  have decided := decisionHolds_report answered.decided decision found
  simp only [ResearchOutputV2.valid, Bool.and_eq_true, decide_eq_true_eq, List.all_eq_true]
  refine ⟨⟨⟨⟨⟨⟨⟨⟨⟨⟨?_, ?_⟩, evidenceSize⟩, ?_⟩, sourceSize⟩, ?_⟩, ?_⟩, placed⟩, ?_⟩, resolved⟩, ?_⟩
  · exact reported.summary.length_eq ▸ bounds.1
  · exact reported.findings.length_eq ▸ bounds.2.1
  · exact reported.limitations ▸ few
  · exact reported.sources ▸ gathered.reportSources_unique
  · exact reported.evidence ▸ gathered.reportEvidence_unique
  · exact (convertedClaims_ids reported.claims).symm ▸ unique
  · rw [reported.sufficient, convertedClaims_isEmpty reported.summary,
      convertedClaims_isEmpty reported.findings, reported.drafted, reported.limitations]
    exact decided

/-! ## Runs -/

theorem mapError_ok {ε ε' α : Type} {program : Except ε α} {wrap : ε → ε'} {value : α} :
    program.mapError wrap = .ok value ↔ program = .ok value := by
  cases program <;> simp [Except.mapError]

theorem requiredStateValue_ok {Value : Type} {value : Option Value} {nodeName : String}
    {result : Value} : requiredStateValue value nodeName = .ok result ↔ value = some result := by
  cases value <;> simp [requiredStateValue]

/-- The texts of the tool messages that the passes have kept. -/
def toolTexts (transcripts : List (List ChatMessage)) : List String :=
  transcripts.flatMap fun transcript => transcript.filterMap ChatMessage.toolText

theorem toolTexts_snoc (transcripts : List (List ChatMessage)) (transcript : List ChatMessage) :
    toolTexts (transcripts ++ [transcript]) =
      toolTexts transcripts ++ transcript.filterMap ChatMessage.toolText := by
  simp [toolTexts]

/-- The fields that hold the research of a state. -/
def SameResearch (state after : ResearchGraphState) : Prop :=
  after.sources = state.sources ∧ after.evidence = state.evidence ∧
    after.searchCalls = state.searchCalls ∧ after.documentSources = state.documentSources ∧
    after.documentEvidence = state.documentEvidence ∧
    after.documentRetrievalCalls = state.documentRetrievalCalls

theorem Gathered.frame (gathered : Gathered libraries state contents)
    (same : SameResearch state after) : Gathered libraries after contents := by
  obtain ⟨sources, evidence, searchCalls, documentSources, documentEvidence, documentCalls⟩ := same
  cases after
  cases sources
  cases evidence
  cases searchCalls
  cases documentSources
  cases documentEvidence
  cases documentCalls
  exact { gathered with }

theorem Gathered.start (input : ResearchGraphInput) : Gathered libraries input.state [] := by
  constructor <;> simp [ResearchGraphInput.state]

theorem normalizeRequest_research (done : normalizeRequest libraries state = .ok after) :
    SameResearch state after ∧ after.researchPassCount = state.researchPassCount := by
  unfold normalizeRequest at done
  dsimp only at done
  split at done
  · cases done
  split at done
  · cases done
  cases done
  exact ⟨⟨rfl, rfl, rfl, rfl, rfl, rfl⟩, rfl⟩

theorem planNode_effects {answer : Except String ResearchPlanV1}
    (done : planNode libraries answer state = .ok after) :
    ∃ plan, after = { state with plan := some plan } := by
  obtain ⟨checked, valid, done⟩ := bind_ok.mp done
  obtain ⟨-, rfl⟩ := validatedGraphState_ok valid
  obtain ⟨query, -, done⟩ := bind_ok.mp done
  split at done
  · cases done
  cases done
  exact ⟨_, rfl⟩

theorem planNode_research {answer : Except String ResearchPlanV1}
    (done : planNode libraries answer state = .ok after) :
    SameResearch state after ∧ after.researchPassCount = state.researchPassCount := by
  obtain ⟨plan, rfl⟩ := planNode_effects done
  exact ⟨⟨rfl, rfl, rfl, rfl, rfl, rfl⟩, rfl⟩

theorem mergePass_count {nextPass : Nat} {output : ResearchNodeOutputV1}
    (done : mergePass state nextPass output = .ok after) : after.researchPassCount = nextPass := by
  obtain ⟨sources, -, done⟩ := bind_ok.mp done
  obtain ⟨evidence, -, done⟩ := bind_ok.mp done
  obtain ⟨searchCalls, -, done⟩ := bind_ok.mp done
  obtain ⟨_, -, done⟩ := bind_ok.mp done
  obtain ⟨documentSources, -, done⟩ := bind_ok.mp done
  obtain ⟨documentEvidence, -, done⟩ := bind_ok.mp done
  obtain ⟨documentCalls, -, done⟩ := bind_ok.mp done
  cases done
  rfl

theorem researchAgent_gathers {limits : AgentLoopLimits} {loop : AgentLoopLimits → LoopAnswer}
    (gathered : Gathered libraries state contents)
    (done : researchAgent libraries limits loop state = .ok after) :
    Gathered libraries after
        (contents ++ (passTranscript limits loop state).filterMap ChatMessage.toolText) ∧
      after.researchPassCount = state.researchPassCount + 1 ∧ after.researchPassCount ≤ 2 := by
  obtain ⟨checked, valid, done⟩ := bind_ok.mp done
  obtain ⟨-, rfl⟩ := validatedGraphState_ok valid
  obtain ⟨query, -, done⟩ := bind_ok.mp done
  obtain ⟨plan, -, done⟩ := bind_ok.mp done
  dsimp only at done
  split at done
  · cases done
  next within =>
  split at done
  · cases done
  next output ran =>
    obtain ⟨passLimits, transcript, allowed, returned, made, few⟩ :=
      createAgentResearchNode_output ran
    have heard : passTranscript limits loop state = transcript := by
      rw [passTranscript, allowed]
      exact congrArg LoopAnswer.transcript returned
    have counted := mergePass_count done
    refine ⟨heard ▸ gathered.merge made few done, counted, ?_⟩
    omega

theorem validateEvidence_effects (done : validateEvidence libraries state = .ok after) :
    after = { state with
      evidenceSufficient :=
        some (deterministicEvidenceValidation state.evidence state.documentEvidence).1
      validationLimitations :=
        (deterministicEvidenceValidation state.evidence state.documentEvidence).2 } := by
  obtain ⟨checked, valid, done⟩ := bind_ok.mp done
  obtain ⟨-, rfl⟩ := validatedGraphState_ok (mapError_ok.mp valid)
  obtain ⟨plan, -, done⟩ := bind_ok.mp done
  split at done
  · cases done
  split at done
  · cases done
  cases done
  rfl

theorem structuredResearchWriterNode_ok {answers : Nat → WriterAnswer}
    {nodeInput : WriteReportNodeInputV1}
    (answered : structuredResearchWriterNode answers nodeInput = .ok writerOutput) :
    validateWriterGrounding writerOutput nodeInput = .ok () := by
  have result {answer : WriterAnswer} (read : validatedWriterResult answer nodeInput =
      .ok writerOutput) : validateWriterGrounding writerOutput nodeInput = .ok () := by
    cases answer <;> try cases read
    obtain ⟨done, grounded, read⟩ := bind_ok.mp read
    cases read
    exact grounded
  unfold structuredResearchWriterNode at answered
  split at answered
  next first =>
    cases answered
    exact result first
  · split at answered
    · exact result answered
    · cases answered

theorem withProposal_frame (state : ResearchGraphState) (context : ResearchGraphRuntimeContext)
    (writerOutput : WriteReportNodeOutputV1) : ∃ proposalId key revision expiresAt,
      state.withProposal context writerOutput =
        { state with actionProposalId := proposalId, actionKey := key, actionRevision := revision,
                     approvalExpiresAt := expiresAt } := by
  unfold ResearchGraphState.withProposal
  split
  · split
    · exact ⟨_, _, _, _, rfl⟩
    · exact ⟨_, _, _, _, rfl⟩
  · exact ⟨_, _, _, _, rfl⟩

/-- The evidence of the state has been judged. -/
def Judged (state : ResearchGraphState) : Prop :=
  ∃ sufficient, state.evidenceSufficient = some sufficient ∧
    deterministicEvidenceValidation state.evidence state.documentEvidence =
      (sufficient, state.validationLimitations)

/-- The state holds a report that its evidence backs. -/
def HoldsReport (state : ResearchGraphState) : Prop :=
  ∃ sufficient writerOutput, state.evidenceSufficient = some sufficient ∧
    state.writerOutput = some writerOutput ∧ Answered state sufficient writerOutput

theorem validateEvidence_judges (done : validateEvidence libraries state = .ok after) :
    SameResearch state after ∧ after.researchPassCount = state.researchPassCount ∧
      Judged after := by
  rw [validateEvidence_effects done]
  exact ⟨⟨rfl, rfl, rfl, rfl, rfl, rfl⟩, rfl, _, rfl, rfl⟩

theorem writeReport_holds {urls : SearchUrls} {context : ResearchGraphRuntimeContext}
    {answers : Nat → WriterAnswer} (judged : Judged state)
    (written : writeReport urls context answers state = .ok after) :
    SameResearch state after ∧ after.researchPassCount = state.researchPassCount ∧
      HoldsReport after := by
  obtain ⟨sufficient, known, decided⟩ := judged
  obtain ⟨checked, valid, written⟩ := bind_ok.mp written
  obtain ⟨-, rfl⟩ := validatedGraphState_ok valid
  obtain ⟨sufficient', known', written⟩ := bind_ok.mp written
  obtain rfl : sufficient = sufficient' :=
    Option.some.inj (known.symm.trans (requiredStateValue_ok.mp known'))
  split at written
  · cases written
  next writerOutput answered =>
    obtain ⟨proposalId, key, revision, expiresAt, framed⟩ :=
      withProposal_frame state context writerOutput
    rw [framed] at written
    cases written
    exact ⟨⟨rfl, rfl, rfl, rfl, rfl, rfl⟩, rfl, sufficient, writerOutput, known, rfl, decided,
      structuredResearchWriterNode_ok answered⟩

/-- Preparing the action only names its approval request. -/
theorem prepareAction_effects {request : Except ResearchGraphProtocolError UUID}
    (done : prepareActionNode libraries request state = .ok after) :
    state.valid libraries.urls = true ∧ state.actionProposalId.isSome = true ∧
      ∃ requestId, after = { state with approvalRequestId := some requestId } := by
  obtain ⟨args, prepared, done⟩ := bind_ok.mp done
  obtain ⟨requestId, -, done⟩ := bind_ok.mp done
  cases done
  obtain ⟨checked, validated, prepared⟩ := bind_ok.mp prepared
  obtain ⟨valid, rfl⟩ := validatedGraphState_ok validated
  obtain ⟨proposalId, proposed, -⟩ := bind_ok.mp prepared
  exact ⟨valid, Option.isSome_iff_exists.mpr ⟨_, requiredStateValue_ok.mp proposed⟩, requestId, rfl⟩

theorem valid_requested {urls : SearchUrls} (valid : state.valid urls = true)
    (proposed : state.actionProposalId.isSome = true) (requestId : UUID) :
    ({ state with approvalRequestId := some requestId } :
      ResearchGraphState).valid urls = true := by
  simp only [ResearchGraphState.valid, ResearchGraphState.identityAllOrNone, Bool.and_eq_true]
    at valid ⊢
  exact ⟨valid.1, valid.2.1, by simp [proposed]⟩

/-- The nodes behind the evidence check, and those behind the report. -/
def GraphNode.judged : GraphNode → Bool
  | .normalizeRequest | .plan | .researchAgent | .validateEvidence => false
  | _ => true

def GraphNode.reported : GraphNode → Bool
  | .prepareAction | .approvalInterrupt | .executeMockAction | .cancelAction | .finalize
  | .ended => true
  | _ => false

/-- What holds of a run at each of its checkpoints. -/
structure ResearchRun.Sound (libraries : ResearchLibraries) (run : ResearchRun) : Prop where
  gathered : Gathered libraries run.state (toolTexts run.transcripts)
  passes : run.state.researchPassCount = run.transcripts.length
  twice : run.transcripts.length ≤ 2
  judged : run.next.judged = true → Judged run.state
  reported : run.next.reported = true →
    HoldsReport run.state ∧ run.state.valid libraries.urls = true
  unfinished : run.next ≠ .ended → run.output = none
  finished : ∀ output, run.output = some output → finalize libraries.urls run.state = .ok output

variable {run : ResearchRun} {environment : NodeEnvironment}

/-- A step that leaves the research as it is and does not end the run. -/
theorem ResearchRun.Sound.move {next : GraphNode} (sound : run.Sound libraries)
    (going : run.next ≠ .ended) (same : SameResearch run.state after)
    (count : after.researchPassCount = run.state.researchPassCount)
    (judged : next.judged = true → Judged after)
    (reported : next.reported = true → HoldsReport after ∧ after.valid libraries.urls = true) :
    ({ run with next := next, state := after } : ResearchRun).Sound libraries where
  gathered := sound.gathered.frame same
  passes := count.trans sound.passes
  twice := sound.twice
  judged := judged
  reported := reported
  unfinished _ := sound.unfinished going
  finished output ended := by
    rw [sound.unfinished going] at ended
    cases ended

theorem SameResearch.refl (state : ResearchGraphState) : SameResearch state state :=
  ⟨rfl, rfl, rfl, rfl, rfl, rfl⟩

/-- A step behind the report that only goes on. -/
theorem ResearchRun.Sound.pass (sound : run.Sound libraries) (going : run.next ≠ .ended)
    (here : run.next.reported = true) (judged : run.next.judged = true) (next : GraphNode) :
    ({ run with next := next } : ResearchRun).Sound libraries :=
  sound.move going (SameResearch.refl _) rfl (fun _ => sound.judged judged)
    fun _ => sound.reported here

theorem ResearchRun.Sound.research (sound : run.Sound libraries) (going : run.next ≠ .ended)
    (done : researchAgent libraries environment.limits environment.loop run.state = .ok after) :
    ({ run with
      next := .validateEvidence
      state := after
      transcripts := run.transcripts ++
        [passTranscript environment.limits environment.loop run.state] } :
      ResearchRun).Sound libraries := by
  obtain ⟨gathered, count, twice⟩ := researchAgent_gathers sound.gathered done
  have passes : after.researchPassCount = (run.transcripts ++
      [passTranscript environment.limits environment.loop run.state]).length := by
    rw [count, sound.passes, List.length_append]
    rfl
  refine ⟨?_, passes, passes ▸ twice, fun judged => ?_, fun reported => ?_,
    fun _ => sound.unfinished going, fun output ended => ?_⟩
  · rw [toolTexts_snoc]
    exact gathered
  · cases judged
  · cases reported
  · rw [sound.unfinished going] at ended
    cases ended

/-- The evidence is judged again after each pass. -/
theorem ResearchRun.Sound.validate {next : GraphNode} (sound : run.Sound libraries)
    (going : run.next ≠ .ended) (unreported : next.reported = false)
    (done : validateEvidence libraries run.state = .ok after) :
    ({ run with next := next, state := after } : ResearchRun).Sound libraries := by
  obtain ⟨same, count, judged⟩ := validateEvidence_judges done
  refine sound.move going same count (fun _ => judged) fun reported => ?_
  rw [unreported] at reported
  cases reported

theorem routeAfterWrite_valid {urls : SearchUrls} {route : ActionRoute}
    (routed : routeAfterWrite urls state = .ok route) : state.valid urls = true := by
  obtain ⟨checked, validated, -⟩ := bind_ok.mp routed
  exact (validatedGraphState_ok validated).1

theorem ResearchRun.Sound.write {next : GraphNode} {route : ActionRoute}
    (sound : run.Sound libraries) (here : run.next = .writeReport)
    (done : writeReport libraries.urls environment.context environment.writer run.state = .ok after)
    (routed : routeAfterWrite libraries.urls after = .ok route) :
    ({ run with next := next, state := after } : ResearchRun).Sound libraries := by
  have going : run.next ≠ .ended := by
    rw [here]
    decide
  obtain ⟨same, count, holds⟩ := writeReport_holds (sound.judged (here ▸ rfl)) done
  refine sound.move going same count (fun _ => ?_)
    fun _ => ⟨holds, routeAfterWrite_valid routed⟩
  obtain ⟨sufficient, writerOutput, known, -, answered⟩ := holds
  exact ⟨sufficient, known, answered.decided⟩

theorem ResearchRun.Sound.prepare (sound : run.Sound libraries) (here : run.next = .prepareAction)
    (done : prepareActionNode libraries environment.approvalRequest run.state = .ok after) :
    ({ run with next := .approvalInterrupt, state := after } : ResearchRun).Sound libraries := by
  have going : run.next ≠ .ended := by
    rw [here]
    decide
  obtain ⟨valid, proposed, requestId, rfl⟩ := prepareAction_effects done
  obtain ⟨⟨sufficient, writerOutput, known, written, answered⟩, -⟩ := sound.reported (here ▸ rfl)
  refine sound.move going ⟨rfl, rfl, rfl, rfl, rfl, rfl⟩ rfl (fun _ => sound.judged (here ▸ rfl))
    fun _ => ⟨⟨sufficient, writerOutput, known, written, ⟨answered.decided, answered.grounded⟩⟩,
      valid_requested valid proposed requestId⟩

theorem ResearchRun.Sound.finish {output : ResearchOutput} (sound : run.Sound libraries)
    (here : run.next = .finalize) (done : finalize libraries.urls run.state = .ok output) :
    ({ run with next := .ended, output := some output } : ResearchRun).Sound libraries where
  gathered := sound.gathered
  passes := sound.passes
  twice := sound.twice
  judged _ := sound.judged (here ▸ rfl)
  reported _ := sound.reported (here ▸ rfl)
  unfinished going := absurd rfl going
  finished other ended := by
    cases ended
    exact done

/-- Each node keeps what holds of a run. -/
theorem ResearchRun.Sound.advance {next : ResearchRun} (sound : run.Sound libraries)
    (advanced : run.advance libraries environment = .ok next) : next.Sound libraries := by
  have going {node : GraphNode} (here : run.next = node) (other : node ≠ .ended) :
      run.next ≠ .ended := here ▸ other
  unfold ResearchRun.advance at advanced
  cases here : run.next with
  | normalizeRequest =>
    rw [here] at advanced
    obtain ⟨after, done, advanced⟩ := bind_ok.mp advanced
    obtain ⟨same, count⟩ := normalizeRequest_research (mapError_ok.mp done)
    cases advanced
    exact sound.move (going here (by decide)) same count nofun nofun
  | plan =>
    rw [here] at advanced
    obtain ⟨after, done, advanced⟩ := bind_ok.mp advanced
    obtain ⟨same, count⟩ := planNode_research (mapError_ok.mp done)
    cases advanced
    exact sound.move (going here (by decide)) same count nofun nofun
  | researchAgent =>
    rw [here] at advanced
    obtain ⟨after, done, advanced⟩ := bind_ok.mp advanced
    cases advanced
    exact sound.research (going here (by decide)) (mapError_ok.mp done)
  | validateEvidence =>
    rw [here] at advanced
    obtain ⟨after, done, advanced⟩ := bind_ok.mp advanced
    obtain ⟨route, -, advanced⟩ := bind_ok.mp advanced
    cases advanced
    exact sound.validate (going here (by decide)) (by split <;> rfl) done
  | writeReport =>
    rw [here] at advanced
    obtain ⟨after, done, advanced⟩ := bind_ok.mp advanced
    obtain ⟨route, routed, advanced⟩ := bind_ok.mp advanced
    cases advanced
    exact sound.write here (mapError_ok.mp done) (mapError_ok.mp routed)
  | prepareAction =>
    rw [here] at advanced
    obtain ⟨after, done, advanced⟩ := bind_ok.mp advanced
    cases advanced
    exact sound.prepare here (mapError_ok.mp done)
  | approvalInterrupt =>
    rw [here] at advanced
    obtain ⟨_, -, advanced⟩ := bind_ok.mp advanced
    obtain ⟨status, -, advanced⟩ := bind_ok.mp advanced
    obtain ⟨node, -, advanced⟩ := bind_ok.mp advanced
    cases advanced
    exact sound.pass (going here (by decide)) (here ▸ rfl) (here ▸ rfl) node
  | executeMockAction =>
    rw [here] at advanced
    obtain ⟨_, -, advanced⟩ := bind_ok.mp advanced
    obtain ⟨_, -, advanced⟩ := bind_ok.mp advanced
    cases advanced
    exact sound.pass (going here (by decide)) (here ▸ rfl) (here ▸ rfl) .finalize
  | cancelAction =>
    rw [here] at advanced
    obtain ⟨_, -, advanced⟩ := bind_ok.mp advanced
    obtain ⟨_, -, advanced⟩ := bind_ok.mp advanced
    cases advanced
    exact sound.pass (going here (by decide)) (here ▸ rfl) (here ▸ rfl) .finalize
  | finalize =>
    rw [here] at advanced
    obtain ⟨output, done, advanced⟩ := bind_ok.mp advanced
    cases advanced
    exact sound.finish here (mapError_ok.mp done)
  | ended =>
    rw [here] at advanced
    cases advanced
    exact sound

theorem researchGraph_sound (libraries : ResearchLibraries) (input : ResearchGraphInput)
    (environments : List NodeEnvironment) :
    ((researchGraph libraries input).reached environments).Sound libraries := by
  refine Machine.reached_invariant _ ?_ (fun run environment sound => ?_) environments
  · exact ⟨Gathered.start input, rfl, Nat.zero_le _, nofun, nofun, fun _ => rfl, nofun⟩
  · simp only [researchGraph]
    split
    next advanced => exact sound.advance advanced
    · exact sound

/-- No document result has been read. -/
def ResearchRun.WebOnly (libraries : ResearchLibraries) (run : ResearchRun) : Prop :=
  ∀ content ∈ toolTexts run.transcripts, libraries.documentHits content = []

theorem Gathered.webOnly (gathered : Gathered libraries state contents)
    (undocumented : ∀ content ∈ contents, libraries.documentHits content = []) :
    state.documentEvidence = [] := by
  by_contra documents
  obtain ⟨item, member⟩ := List.exists_mem_of_ne_nil _ documents
  obtain ⟨content, listed, hit, held, -⟩ := gathered.documentEvidence item member
  rw [undocumented content listed] at held
  cases held

/-- The report's contract accepts what the run holds. -/
theorem Gathered.finalReport_some (gathered : Gathered libraries state contents)
    (answered : Answered state sufficient writerOutput)
    (legacy : state.schemaVersion = 1 → state.documentEvidence = []) :
    ∃ output, finalReport state sufficient writerOutput = some output := by
  unfold finalReport
  split
  next version => exact ⟨_, if_pos (gathered.legacy_valid answered (legacy version))⟩
  · obtain ⟨output, made⟩ := answered.report_some
    rw [made]
    exact ⟨_, if_pos (gathered.report_valid answered (report_spec made))⟩

theorem Answered.expected (answered : Answered state sufficient writerOutput) :
    (!state.request.includeApplicationDraft && writerOutput.applicationDraft.isSome) = false := by
  obtain ⟨decision, -⟩ := validateWriterGrounding_ok answered.grounded
  cases sufficient with
  | true =>
    obtain ⟨unasked, -⟩ := (checkWriterDecision_sufficient rfl).mp decision
    cases asked : state.request.includeApplicationDraft with
    | true => rfl
    | false => rw [unasked asked]; rfl
  | false =>
    obtain ⟨-, -, -, draft⟩ := (checkWriterDecision_insufficient rfl).mp decision
    rw [draft]
    exact Bool.and_false _

/-- A run in front of `finalize` has its report. -/
theorem ResearchRun.Sound.finalizes (sound : run.Sound libraries) (here : run.next = .finalize)
    (legacy : run.state.schemaVersion = 1 → run.WebOnly libraries) :
    ∃ output, finalize libraries.urls run.state = .ok output := by
  obtain ⟨⟨sufficient, writerOutput, known, written, answered⟩, valid⟩ :=
    sound.reported (here ▸ rfl)
  obtain ⟨output, reported⟩ := sound.gathered.finalReport_some answered fun version =>
    sound.gathered.webOnly (legacy version)
  refine ⟨output, ?_⟩
  simp only [finalize, validatedGraphState, valid, known, written, requiredStateValue, reported,
    answered.expected, bind, Except.bind, if_true]
  rfl

/-! ## Citations -/

/-- The text is a snippet that a search of the run returned for the source. -/
def WebQuoted (libraries : ResearchLibraries) (contents : List String) (sourceId : Identifier)
    (text : BodyText) : Prop :=
  ∃ content ∈ contents, ∃ result ∈ libraries.searchResults content,
    sourceId.val = String.ofList result.sourceId ∧ text.val = String.ofList result.snippet

/-- The item is a chunk that a retrieval of the run returned, with its text. -/
def DocumentQuoted (libraries : ResearchLibraries) (contents : List String)
    (item : ResearchEvidenceV2) : Prop :=
  ∃ content ∈ contents, ∃ hit ∈ libraries.documentHits content,
    item.val.documentId = some hit.documentId ∧ item.val.chunkId = some hit.chunkId ∧
      item.val.text.val = String.ofList hit.untrustedText

def QuotedV2 (libraries : ResearchLibraries) (contents : List String) (item : ResearchEvidenceV2) :
    Prop :=
  match item.val.sourceType with
  | .web => WebQuoted libraries contents item.val.sourceId item.val.text
  | .workspaceDocument => DocumentQuoted libraries contents item

/-- The report meets its contract, and each of its citations names an evidence item with its
source, whose text a tool returned. -/
def ResearchOutput.Grounded (libraries : ResearchLibraries) (contents : List String) :
    ResearchOutput → Prop
  | .v1 output => output.valid = true ∧
      ∀ claim ∈ output.claims, ∀ citation ∈ claim.citations, ∃ item ∈ output.evidence,
        item.evidenceId = citation.evidenceId ∧ item.sourceId = citation.sourceId ∧
          WebQuoted libraries contents item.sourceId item.text
  | .v2 output => output.valid = true ∧
      ∀ claim ∈ output.claims, ∀ citation ∈ claim.citations, ∃ item ∈ output.evidence,
        item.val.evidenceId = citation.evidenceId ∧ item.val.sourceId = citation.sourceId ∧
          item.val.sourceType = citation.sourceType ∧ QuotedV2 libraries contents item

namespace Gathered

theorem web_quoted (gathered : Gathered libraries state contents) {item : ResearchEvidenceV1}
    (member : item ∈ state.evidence) : WebQuoted libraries contents item.sourceId item.text := by
  obtain ⟨content, listed, result, held, built⟩ := gathered.evidence item member
  obtain ⟨-, source, text⟩ := webEvidence_some built
  exact ⟨content, listed, result, held, source, text⟩

theorem report_quoted (gathered : Gathered libraries state contents) {item : ResearchEvidenceV2}
    (member : item ∈ state.reportEvidence) : QuotedV2 libraries contents item := by
  rcases List.mem_append.mp member with web | document
  · obtain ⟨item, held, rfl⟩ := List.mem_map.mp web
    exact gathered.web_quoted held
  · obtain ⟨content, listed, hit, held, built⟩ := gathered.documentEvidence item document
    obtain ⟨kind, -, -, documentId, chunkId, text⟩ := documentEvidence_some built
    rw [QuotedV2, kind]
    exact ⟨content, listed, hit, held, documentId, chunkId, text⟩

theorem finalReport_grounded (gathered : Gathered libraries state contents)
    {output : ResearchOutput} (reported : finalReport state sufficient writerOutput = some output) :
    output.Grounded libraries contents := by
  unfold finalReport at reported
  split at reported
  · dsimp only at reported
    split at reported
    next valid =>
      cases reported
      refine ⟨valid, fun claim member citation cites => ?_⟩
      simp only [ResearchOutputV1.valid, Bool.and_eq_true, List.all_eq_true] at valid
      have resolved := valid.1.2 claim member citation cites
      obtain ⟨item, listed, same⟩ := (Option.any_eq_true _ _).mp resolved
      obtain ⟨there, named⟩ := dictGet_mem listed
      exact ⟨item, there, named, by simpa using same, gathered.web_quoted there⟩
    · cases reported
  · split at reported
    · cases reported
    next output made =>
      split at reported
      next valid =>
        cases reported
        refine ⟨valid, fun claim member citation cites => ?_⟩
        simp only [ResearchOutputV2.valid, Bool.and_eq_true, List.all_eq_true] at valid
        have resolved := valid.1.2 claim member citation cites
        obtain ⟨source, -, resolved⟩ := (Option.any_eq_true _ _).mp resolved
        obtain ⟨item, listed, resolved⟩ := (Option.any_eq_true _ _).mp resolved
        simp only [Bool.and_eq_true, decide_eq_true_eq] at resolved
        obtain ⟨there, named⟩ := dictGet_mem listed
        refine ⟨item, there, named, resolved.2, resolved.1.2, gathered.report_quoted ?_⟩
        rw [← (report_spec made).evidence]
        exact there
      · cases reported

end Gathered

theorem finalize_ok {urls : SearchUrls} {output : ResearchOutput}
    (done : finalize urls state = .ok output) :
    ∃ sufficient writerOutput, finalReport state sufficient writerOutput = some output := by
  obtain ⟨checked, validated, done⟩ := bind_ok.mp done
  obtain ⟨-, rfl⟩ := validatedGraphState_ok validated
  obtain ⟨sufficient, -, done⟩ := bind_ok.mp done
  obtain ⟨writerOutput, -, done⟩ := bind_ok.mp done
  split at done
  · cases done
  split at done
  · cases done
  next output reported =>
    cases done
    exact ⟨sufficient, writerOutput, reported⟩

/-- What a run of the graph has come to at a checkpoint. -/
structure ResearchGrounded (libraries : ResearchLibraries) (run : ResearchRun) : Prop where
  passes : run.state.researchPassCount = run.transcripts.length ∧ run.transcripts.length ≤ 2
  calls : run.state.searchCalls.length + run.state.documentRetrievalCalls.length ≤ 8
  searchOrdinals : run.state.searchCalls.map SearchCallTraceV1.callOrdinal =
    List.range' 1 run.state.searchCalls.length
  documentOrdinals :
    run.state.documentRetrievalCalls.map DocumentRetrievalCallTraceV1.callOrdinal =
      List.range' 1 run.state.documentRetrievalCalls.length
  sources : (run.state.reportSources.map fun source => source.val.sourceId).Nodup ∧
    run.state.reportSources.length ≤ 64
  evidence : (run.state.reportEvidence.map fun item => item.val.evidenceId).Nodup ∧
    run.state.reportEvidence.length ≤ 64
  placed : ∀ item ∈ run.state.reportEvidence, ∃ source ∈ run.state.reportSources,
    source.val.sourceId = item.val.sourceId ∧ source.val.sourceType = item.val.sourceType
  quoted : ∀ item ∈ run.state.reportEvidence,
    QuotedV2 libraries (toolTexts run.transcripts) item
  finalizes : run.next = .finalize →
    (run.state.schemaVersion = 1 → run.WebOnly libraries) →
    ∃ output, finalize libraries.urls run.state = .ok output
  output : ∀ output, run.output = some output →
    output.Grounded libraries (toolTexts run.transcripts)

/-- Every run of the research graph, whatever models, tools and stores answer and however often
a node fails and is tried again: at most two passes and eight calls, numbered on; sources and
evidence unique, within the contracts' limits, every item beside its source and with the text
that a tool returned; a run that has its report accepted by the grounding check is finalized,
and what it ends with is grounded. -/
theorem research_grounded (libraries : ResearchLibraries) (input : ResearchGraphInput)
    (environments : List NodeEnvironment) :
    ResearchGrounded libraries ((researchGraph libraries input).reached environments) := by
  have sound := researchGraph_sound libraries input environments
  have gathered := sound.gathered
  have sizes := gathered.sizes
  refine ⟨⟨sound.passes, sound.twice⟩, gathered.calls, gathered.searchOrdinals,
    gathered.documentOrdinals, ⟨gathered.reportSources_unique, ?_⟩,
    ⟨gathered.reportEvidence_unique, ?_⟩, fun item member => ?_,
    fun item member => gathered.report_quoted member, sound.finalizes,
    fun output ended => ?_⟩
  · rw [ResearchGraphState.reportSources, List.length_append, List.length_map]
    exact sizes.1
  · rw [ResearchGraphState.reportEvidence, List.length_append, List.length_map]
    exact sizes.2
  · obtain ⟨source, listed, kind, -⟩ := gathered.evidence_sourced member
    obtain ⟨there, named⟩ := dictGet_mem listed
    exact ⟨source, there, named, kind⟩
  · obtain ⟨sufficient, writerOutput, reported⟩ := finalize_ok (sound.finished output ended)
    exact gathered.finalReport_grounded reported

end Pathfinder
