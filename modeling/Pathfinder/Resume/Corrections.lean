import Pathfinder.Library.Machine
import Pathfinder.Resume.FactIsolation

/-!
# Corrections of one session

Histories that differ in the corrections of one session leave the same tables
for the other sessions.
-/
namespace Pathfinder
open Machines
variable {chars : CharacterTables}

/-- A request of the session that creates, confirms or rejects a user fact with
the scope of the session. -/
def FactOp.corrects (hidden : UUID) (tables : FactTables chars) : FactOp chars → Prop
  | fact _ sessionId input _ _ => sessionId = hidden ∧ input.scope = .session
  | factReview _ sessionId review _ => sessionId = hidden ∧
      ∃ previous ∈ tables.userFactVersions, previous.id = review.factVersionId ∧
        tables.ownsFact hidden previous.factId = true
  | recordMaterial .. | createSession .. | adopt .. | feedback .. | answer .. | publish .. => False

/-- A request of both histories: what it draws is new in both, and a request of
the session itself is accepted in both or in neither. -/
def FactOp.shared (hidden : UUID) (first second : FactTables chars) (op : FactOp chars) : Prop :=
  op.fresh first = true ∧ op.fresh second = true ∧
    (op.sessionId = some hidden → (op.attempt first).isOk = (op.attempt second).isOk)

/-- Histories that differ only in user facts created, confirmed or rejected with
the scope of a session there. -/
abbrev DifferOnly (chars : CharacterTables) (hidden : UUID) :
    List (FactOp chars) → List (FactOp chars) → Prop :=
  Machine.Twins (factStore chars) (fun tables op => op.corrects hidden tables)
    (FactOp.shared hidden)

section Requests
variable {tables : FactTables chars} {hidden : UUID} {op : FactOp chars}

theorem serveFact_fresh (fresh : op.fresh tables = true) :
    (serveFact tables op).1 = (op.attempt tables).toOption.getD tables := by
  unfold serveFact
  rw [if_pos fresh]
  cases op.attempt tables <;> rfl

theorem toOption_map {ε α β : Type} (attempt : Except ε α) (f : α → β) :
    (attempt.map f).toOption = attempt.toOption.map f := by
  cases attempt <;> rfl

theorem newFact_seen {tenant : TenantContext} {sessionId factId : UUID} {input : UserFactInputV1}
    (other : sessionId ≠ hidden ∨ input.scope ≠ .session) :
    (FactTables.newFact tenant sessionId input factId).scopeSessionId ≠ some hidden := by
  simp only [FactTables.newFact]
  split
  next session =>
    rcases other with apart | project
    · exact fun same => apart (Option.some.inj same)
    · exact absurd session project
  · exact nofun

section NewFact
variable {tenant : TenantContext} {sessionId factId versionId : UUID} {input : UserFactInputV1}
  (fresh : factId ∉ tables.userFacts.map ResumeUserFact.id)
include fresh

theorem addNewFact_hide (other : sessionId ≠ hidden ∨ input.scope ≠ .session) :
    (tables.addUserFact (FactTables.newFact tenant sessionId input factId)
        (FactTables.newFactVersion tenant input factId versionId)).hide hidden =
      (tables.hide hidden).addUserFact (FactTables.newFact tenant sessionId input factId)
        (FactTables.newFactVersion tenant input factId versionId) :=
  addUserFact_hide rfl fresh (newFact_seen other)

theorem addNewFact_own (ok : FactsOk tables.toFactDb) (session : input.scope = .session) :
    (tables.addUserFact (FactTables.newFact tenant hidden input factId)
        (FactTables.newFactVersion tenant input factId versionId)).hide hidden =
      tables.hide hidden :=
  addUserFact_own rfl fresh ok (by simp [FactTables.newFact, session])

end NewFact

theorem bindMaterial_hide (row : ResumeSessionFact) :
    (tables.bindMaterial row).hide hidden =
      if row.sessionId = hidden then tables.hide hidden
      else (tables.hide hidden).bindMaterial row := by
  split
  next own =>
    have same := filter_own ResumeSessionFact.sessionId tables.sessionFacts
      (List.forall_mem_singleton.mpr own)
    exact FactTables.ext rfl rfl rfl same rfl rfl rfl rfl rfl rfl rfl
  next other =>
    have more := filter_others ResumeSessionFact.sessionId tables.sessionFacts
      (List.forall_mem_singleton.mpr other)
    exact FactTables.ext rfl rfl rfl more rfl rfl rfl rfl rfl rfl rfl

theorem bindUser_hide (row : ResumeSessionUserFact) :
    (tables.bindUser row).hide hidden =
      if row.sessionId = hidden then tables.hide hidden
      else (tables.hide hidden).bindUser row := by
  split
  next own =>
    have same := filter_own ResumeSessionUserFact.sessionId tables.sessionUserFacts
      (List.forall_mem_singleton.mpr own)
    exact FactTables.ext rfl rfl rfl rfl same rfl rfl rfl rfl rfl rfl
  next other =>
    have more := filter_others ResumeSessionUserFact.sessionId tables.sessionUserFacts
      (List.forall_mem_singleton.mpr other)
    exact FactTables.ext rfl rfl rfl rfl more rfl rfl rfl rfl rfl rfl

theorem addFeedback_hide (row : ResumeFeedbackPatches chars) :
    (tables.addFeedback row).hide hidden =
      if row.sessionId = hidden then tables.hide hidden
      else (tables.hide hidden).addFeedback row := by
  split
  next own =>
    have same := filter_own ResumeFeedbackPatches.sessionId tables.feedback
      (List.forall_mem_singleton.mpr own)
    exact FactTables.ext rfl rfl rfl rfl rfl rfl rfl rfl same rfl rfl
  next other =>
    have more := filter_others ResumeFeedbackPatches.sessionId tables.feedback
      (List.forall_mem_singleton.mpr other)
    exact FactTables.ext rfl rfl rfl rfl rfl rfl rfl rfl more rfl rfl

theorem recordPatches_hide {sessionId feedbackId : UUID} (patches : List (PatchV1 chars)) :
    (tables.recordPatches sessionId feedbackId patches).hide hidden =
      if sessionId = hidden then tables.hide hidden
      else (tables.hide hidden).recordPatches sessionId feedbackId patches := by
  have kept (row : ResumeFeedbackPatches chars) :
      (if row.id = feedbackId ∧ row.sessionId = sessionId then { row with patches := some patches }
        else row).sessionId = row.sessionId := by
    split <;> rfl
  have outer : ((tables.recordPatches sessionId feedbackId patches).hide hidden).feedback =
      ((tables.hide hidden).recordPatches sessionId feedbackId patches).feedback := by
    show (tables.feedback.map _).filter _ = (tables.feedback.filter _).map _
    rw [List.filter_map]
    refine congrArg (List.map _) (List.filter_congr fun row _ => ?_)
    simp only [Function.comp_apply, kept]
  have here := FactTables.ext (x := (tables.recordPatches sessionId feedbackId patches).hide hidden)
    (y := (tables.hide hidden).recordPatches sessionId feedbackId patches)
    rfl rfl rfl rfl rfl rfl rfl rfl outer rfl rfl
  split
  next own =>
    rw [here]
    refine FactTables.ext rfl rfl rfl rfl rfl rfl rfl rfl ?_ rfl rfl
    refine (List.map_congr_left fun row member => ?_).trans (List.map_id _)
    have seen := (List.mem_filter.mp member).2
    simp only [decide_eq_true_eq] at seen
    exact if_neg fun both => seen (both.2.trans own)
  · exact here

/-- A request of another session, or of none, does to what the other sessions
see what it would do there. -/
theorem attempt_hide (ok : FactsOk tables.toFactDb) (fresh : op.fresh tables = true)
    (other : op.sessionId ≠ some hidden) :
    (op.attempt (tables.hide hidden)).toOption =
      (op.attempt tables).toOption.map fun after => after.hide hidden := by
  cases op with
  | recordMaterial factSets facts versions => rfl
  | createSession tenant sessionId projects =>
    exact congrArg some (createSession_hide ok tenant (fun same => other (congrArg some same))
      projects).symm
  | fact tenant sessionId input factId versionId =>
    have apart : sessionId ≠ hidden := fun same => other (congrArg some same)
    simp only [FactOp.fresh, Bool.and_eq_true, decide_eq_true_eq] at fresh
    simp only [FactOp.attempt, requireFact_hide apart]
    cases tables.requireFact tenant sessionId input with
    | error reason => rfl
    | ok done =>
      exact congrArg some (addNewFact_hide fresh.1.1 (.inl apart)).symm
  | adopt tenant sessionId versionId =>
    have apart : sessionId ≠ hidden := fun same => other (congrArg some same)
    simp only [FactOp.attempt, requireAdoption_hide apart]
    cases tables.requireAdoption tenant sessionId versionId with
    | error reason => rfl
    | ok found =>
      cases found with
      | none => rfl
      | some projectId =>
        exact congrArg some ((bindMaterial_hide _).trans (if_neg apart)).symm
  | factReview tenant sessionId review versionId =>
    have apart : sessionId ≠ hidden := fun same => other (congrArg some same)
    simp only [FactOp.attempt, toOption_map]
    rw [requireReview_hide apart ok]
    cases reviewed : tables.requireReview tenant sessionId review with
    | error reason => rfl
    | ok found =>
      obtain ⟨stored, -, -, -, scope⟩ := requireReview_ok reviewed
      have seen : found.1.scopeSessionId ≠ some hidden := by
        intro own
        rcases scope with unscoped | session
        · rw [unscoped] at own
          cases own
        · exact apart (Option.some.inj (session.symm.trans own))
      have written := addReview_hide hidden found.2 review.decision versionId ok stored seen
      simp only [Except.toOption, Option.map_some]
      split
      · rw [bindUser_hide, if_neg apart, written]
      · rw [written]
  | feedback tenant sessionId feedbackId =>
    have apart : sessionId ≠ hidden := fun same => other (congrArg some same)
    exact congrArg some ((addFeedback_hide _).trans (if_neg apart)).symm
  | answer tenant sessionId feedbackId patches =>
    have apart : sessionId ≠ hidden := fun same => other (congrArg some same)
    exact congrArg some ((recordPatches_hide patches).trans (if_neg apart)).symm
  | publish tenant version =>
    have apart : version.sessionId ≠ hidden := fun same => other (congrArg some same)
    simp only [FactOp.attempt, boundFacts_hide apart ok]
    exact congrArg some (addVersion_hide _ (by simpa [FactOp.fresh] using fresh) apart).symm

/-- A correction of the session changes nothing that the other sessions see. -/
theorem serveFact_corrects (ok : FactsOk tables.toFactDb) (corrects : op.corrects hidden tables) :
    (serveFact tables op).1.hide hidden = tables.hide hidden := by
  by_cases fresh : op.fresh tables = true
  case neg =>
    unfold serveFact
    rw [if_neg fresh]
  rw [serveFact_fresh fresh]
  cases ran : op.attempt tables with
  | error reason => rfl
  | ok after =>
    show after.hide hidden = tables.hide hidden
    cases op with
    | fact tenant sessionId input factId versionId =>
      obtain ⟨rfl, session⟩ := corrects
      obtain ⟨done, -, same⟩ := map_ok ran
      cases same
      simp only [FactOp.fresh, Bool.and_eq_true, decide_eq_true_eq] at fresh
      exact addNewFact_own fresh.1.1 ok session
    | factReview tenant sessionId review versionId =>
      obtain ⟨rfl, previous, listed, named, owned⟩ := corrects
      obtain ⟨found, reviewed, same⟩ := map_ok ran
      obtain ⟨stored, current, id, child, -⟩ := requireReview_ok reviewed
      obtain rfl := KeyedList.eq_of_key ok.userVersionIds listed current (named.trans id.symm)
      obtain ⟨fact, present, parent, scope⟩ := ownsFact_iff.mp owned
      obtain rfl := KeyedList.eq_of_key ok.factIds present stored (parent.trans child.symm)
      have written := addReview_own sessionId found.2 review.decision versionId ok stored scope
      dsimp only at same
      split at same
      · cases same
        rw [bindUser_hide, if_pos rfl, written]
      · cases same
        exact written
    | recordMaterial | createSession | adopt | feedback | answer | publish => exact corrects.elim

end Requests

/-! ## Requests of both histories -/

section Both
variable {first second : FactTables chars} {hidden : UUID} {op : FactOp chars}

/-- An accepted review of the session, where the reviewed fact is not its own. -/
theorem reviewed_seen {tables : FactTables chars} {tenant : TenantContext} {review : FactReviewV1}
    {fact : ResumeUserFact} {previous : ResumeUserFactVersion} (ok : FactsOk tables.toFactDb)
    (reviewed : tables.requireReview tenant hidden review = .ok (fact, previous))
    (seen : fact.scopeSessionId ≠ some hidden) :
    fact ∈ (tables.hide hidden).userFacts ∧ previous ∈ (tables.hide hidden).userFactVersions := by
  obtain ⟨stored, current, -, child, -⟩ := requireReview_ok reviewed
  refine ⟨List.mem_filter.mpr ⟨stored, decide_eq_true seen⟩, List.mem_filter.mpr ⟨current, ?_⟩⟩
  rw [← child, not_owned ok stored seen]
  rfl

/-- If the fact reviewed in one history is seen by the others, the other history
reviews the same fact. -/
theorem reviewed_same {tenant : TenantContext} {review : FactReviewV1}
    {fact fact' : ResumeUserFact} {previous previous' : ResumeUserFactVersion}
    (okFirst : FactsOk first.toFactDb) (okSecond : FactsOk second.toFactDb)
    (same : first.hide hidden = second.hide hidden)
    (ran : first.requireReview tenant hidden review = .ok (fact, previous))
    (ran' : second.requireReview tenant hidden review = .ok (fact', previous'))
    (seen : fact.scopeSessionId ≠ some hidden) : fact = fact' ∧ previous = previous' := by
  obtain ⟨factSeen, previousSeen⟩ := reviewed_seen okFirst ran seen
  obtain ⟨-, -, named, child, -⟩ := requireReview_ok ran
  obtain ⟨stored', current', named', child', -⟩ := requireReview_ok ran'
  rw [same] at factSeen previousSeen
  have samePrevious := KeyedList.eq_of_key okSecond.userVersionIds
    (List.mem_filter.mp previousSeen).1 current' (named.trans named'.symm)
  refine ⟨KeyedList.eq_of_key okSecond.factIds (List.mem_filter.mp factSeen).1 stored' ?_,
    samePrevious⟩
  rw [child, child', samePrevious]

theorem addReview_agrees {tenant : TenantContext} {review : FactReviewV1} (versionId : UUID)
    {found found' : ResumeUserFact × ResumeUserFactVersion}
    (okFirst : FactsOk first.toFactDb) (okSecond : FactsOk second.toFactDb)
    (same : first.hide hidden = second.hide hidden)
    (ran : first.requireReview tenant hidden review = .ok found)
    (ran' : second.requireReview tenant hidden review = .ok found') :
    (first.addReview found.1 found.2 review.decision versionId).hide hidden =
      (second.addReview found'.1 found'.2 review.decision versionId).hide hidden := by
  obtain ⟨stored, -⟩ := requireReview_ok ran
  obtain ⟨stored', -⟩ := requireReview_ok ran'
  by_cases own : found.1.scopeSessionId = some hidden
  · have own' : found'.1.scopeSessionId = some hidden := by
      by_contra seen'
      obtain ⟨equal, -⟩ := reviewed_same okSecond okFirst same.symm ran' ran seen'
      exact seen' (equal ▸ own)
    rw [addReview_own _ _ _ _ okFirst stored own, addReview_own _ _ _ _ okSecond stored' own', same]
  · obtain ⟨equal, equal'⟩ := reviewed_same okFirst okSecond same ran ran' own
    rw [addReview_hide _ _ _ _ okFirst stored own,
      addReview_hide _ _ _ _ okSecond stored' (equal ▸ own), same, equal, equal']

/-- What both histories do keeps the other sessions' view the same in both. -/
theorem serveFact_agrees (okFirst : FactsOk first.toFactDb) (okSecond : FactsOk second.toFactDb)
    (shared : op.shared hidden first second) (same : first.hide hidden = second.hide hidden) :
    (serveFact first op).1.hide hidden = (serveFact second op).1.hide hidden := by
  obtain ⟨freshFirst, freshSecond, agreed⟩ := shared
  rw [serveFact_fresh freshFirst, serveFact_fresh freshSecond]
  by_cases own : op.sessionId = some hidden
  case neg =>
    have seen {tables : FactTables chars} (ok : FactsOk tables.toFactDb)
        (fresh : op.fresh tables = true) :
        ((op.attempt tables).toOption.getD tables).hide hidden =
          (op.attempt (tables.hide hidden)).toOption.getD (tables.hide hidden) := by
      rw [attempt_hide ok fresh own]
      cases op.attempt tables <;> rfl
    rw [seen okFirst freshFirst, seen okSecond freshSecond, same]
  have accepted := agreed own
  cases ran : op.attempt first with
  | error reason =>
    cases ran' : op.attempt second with
    | error reason' => exact same
    | ok after' =>
      rw [ran, ran'] at accepted
      cases accepted
  | ok after =>
    cases ran' : op.attempt second with
    | error reason' =>
      rw [ran, ran'] at accepted
      cases accepted
    | ok after' =>
      show after.hide hidden = after'.hide hidden
      cases op with
      | recordMaterial => cases own
      | createSession tenant sessionId projects =>
        obtain rfl := Option.some.inj own
        cases ran
        cases ran'
        have projectRows : first.sessionProjects = second.sessionProjects :=
          congrArg (fun tables => tables.sessionProjects) same
        rw [createSession_own, createSession_own, same, projectRows]
      | fact tenant sessionId input factId versionId =>
        obtain rfl := Option.some.inj own
        obtain ⟨done, -, written⟩ := map_ok ran
        obtain ⟨done', -, written'⟩ := map_ok ran'
        cases written
        cases written'
        simp only [FactOp.fresh, Bool.and_eq_true, decide_eq_true_eq] at freshFirst freshSecond
        by_cases session : input.scope = .session
        · rw [addNewFact_own freshFirst.1.1 okFirst session,
            addNewFact_own freshSecond.1.1 okSecond session, same]
        · rw [addNewFact_hide freshFirst.1.1 (.inr session),
            addNewFact_hide freshSecond.1.1 (.inr session), same]
      | adopt tenant sessionId versionId =>
        obtain rfl := Option.some.inj own
        obtain ⟨found, -, written⟩ := map_ok ran
        obtain ⟨found', -, written'⟩ := map_ok ran'
        have kept (tables : FactTables chars) (found : Option UUID) :
            (tables.adopt tenant sessionId versionId found).hide sessionId =
              tables.hide sessionId := by
          cases found with
          | none => rfl
          | some projectId => exact (bindMaterial_hide _).trans (if_pos rfl)
        rw [← written, ← written', kept, kept, same]
      | factReview tenant sessionId review versionId =>
        obtain rfl := Option.some.inj own
        obtain ⟨found, reviewed, written⟩ := map_ok ran
        obtain ⟨found', reviewed', written'⟩ := map_ok ran'
        have agrees := addReview_agrees versionId okFirst okSecond same reviewed reviewed'
        dsimp only at written written'
        split at written
        next confirmed =>
          rw [if_pos confirmed] at written'
          rw [← written, ← written', bindUser_hide, bindUser_hide, if_pos rfl, if_pos rfl, agrees]
        next rejected =>
          rw [if_neg rejected] at written'
          rw [← written, ← written', agrees]
      | feedback tenant sessionId feedbackId =>
        obtain rfl := Option.some.inj own
        cases ran
        cases ran'
        rw [addFeedback_hide, addFeedback_hide, if_pos rfl, if_pos rfl, same]
      | answer tenant sessionId feedbackId patches =>
        obtain rfl := Option.some.inj own
        cases ran
        cases ran'
        rw [recordPatches_hide, recordPatches_hide, if_pos rfl, if_pos rfl, same]
      | publish tenant version =>
        have session := Option.some.inj own
        cases ran
        cases ran'
        rw [addVersion_own _ (by simpa [FactOp.fresh] using freshFirst) okFirst session,
          addVersion_own _ (by simpa [FactOp.fresh] using freshSecond) okSecond session, same]

/-- Histories that differ in corrections of one session look alike elsewhere. -/
theorem differOnly_hide {history history' : List (FactOp chars)}
    (differ : DifferOnly chars hidden history history') :
    ((factStore chars).reached history).hide hidden =
      ((factStore chars).reached history').hide hidden :=
  differ.view_eq (fun tables => tables.hide hidden) reached_factsOk
    (fun _ _ ok corrects => serveFact_corrects ok corrects)
    fun _ _ _ okFirst okSecond shared same => serveFact_agrees okFirst okSecond shared same

end Both
end Pathfinder
