import Pathfinder.Guarantees.AttributionExact
import Pathfinder.Resume.ConfirmableElsewhere

/-!
# Corrections of one session in the eyes of another

The facts bound to a session do not depend on the corrections another session
makes for itself. Whether a version may be confirmed can: the query for
corrections does not look at their scope.
-/
namespace Pathfinder
open Machines
variable {chars : CharacterTables}

/-- The same facts are bound to the session of a version in both tables, and the
version may be confirmed in both or is refused for the same reason. -/
structure Isolated (uuid5 : UUID → Text → UUID) (first second : FactTables chars)
    (tenant : TenantContext) (version : ResumeVersion) : Prop where
  bindings : boundFacts first.toFactDb tenant version.sessionId =
    boundFacts second.toFactDb tenant version.sessionId
  outcome : requireConfirmable uuid5 first.toFactDb tenant version =
    requireConfirmable uuid5 second.toFactDb tenant version

section Isolation
variable {hidden : UUID} {history history' : List (FactOp chars)}
  (differ : DifferOnly chars hidden history history')
include differ

/-- Bindings of another session are the same in both histories. -/
theorem boundFacts_isolated (tenant : TenantContext) {sessionId : UUID}
    (other : sessionId ≠ hidden) :
    boundFacts ((factStore chars).reached history).toFactDb tenant sessionId =
      boundFacts ((factStore chars).reached history').toFactDb tenant sessionId := by
  rw [← boundFacts_hide other (reached_factsOk history), differOnly_hide differ,
    boundFacts_hide other (reached_factsOk history')]

/-- So are its versions. -/
theorem versions_isolated {version : ResumeVersion}
    (stored : version ∈ ((factStore chars).reached history).versions)
    (other : version.sessionId ≠ hidden) :
    version ∈ ((factStore chars).reached history').versions := by
  have seen : version ∈ (((factStore chars).reached history).hide hidden).versions :=
    List.mem_filter.mpr ⟨stored, decide_eq_true other⟩
  rw [differOnly_hide differ] at seen
  exact (List.mem_filter.mp seen).1

/-- Two histories treat a version of another session alike exactly if, where it
could be confirmed but for the session's own corrections, a pending or confirmed
one of these supersedes a fact it uses in both of them or in neither. -/
theorem isolated_iff (uuid5 : UUID → Text → UUID) (tenant : TenantContext)
    (version : ResumeVersion) (stored : version ∈ ((factStore chars).reached history).versions)
    (other : version.sessionId ≠ hidden) :
    Isolated uuid5 ((factStore chars).reached history) ((factStore chars).reached history') tenant
        version ↔
      ∀ used, ConfirmableBut uuid5 ((factStore chars).reached history) tenant hidden version used →
        ((factStore chars).reached history).correctedIn tenant hidden used =
          ((factStore chars).reached history').correctedIn tenant hidden used := by
  have ok := reached_factsOk history
  have ok' := reached_factsOk history'
  have stored' := versions_isolated differ stored other
  have same := differOnly_hide differ
  have uses : actualFactUses uuid5 ((factStore chars).reached history).toFactDb tenant version =
      actualFactUses uuid5 ((factStore chars).reached history').toFactDb tenant version := by
    rw [← actualFactUses_hide ok stored other, same, actualFactUses_hide ok' stored' other]
  have outcome := requireConfirmable_hide tenant uuid5 ok stored other
  have outcome' := requireConfirmable_hide tenant uuid5 ok' stored' other
  rw [← same, ← uses] at outcome'
  constructor
  · rintro ⟨-, agree⟩ used but
    have passes := (confirmableBut_iff ok stored other but.uses).mpr but
    rw [outcome, outcome', passes, but.uses] at agree
    cases here : ((factStore chars).reached history).correctedIn tenant hidden used <;>
      cases there : ((factStore chars).reached history').correctedIn tenant hidden used <;>
      simp [here, there] at agree ⊢
  · intro corrections
    refine ⟨boundFacts_isolated differ tenant other, ?_⟩
    rw [outcome, outcome']
    cases seen : requireConfirmable uuid5 (((factStore chars).reached history).hide hidden).toFactDb
        tenant version with
    | error reason => rfl
    | ok passes =>
      cases ran : actualFactUses uuid5 ((factStore chars).reached history).toFactDb tenant version with
      | error reason => rfl
      | ok used =>
        have but := (confirmableBut_iff ok stored other ran).mp seen
        dsimp only
        rw [corrections used but]

end Isolation

/-! ## Two sessions of one project -/

/-- Project 20 offers fact versions 11 and 12, and sessions 7 and 8 are created on
it. Session 7 publishes version 101, whose only bullet is fact 11. -/
def sharedHistory : List (FactOp asciiTables) :=
  let conditions : FactConditions := ⟨none, none, none⟩
  [.recordMaterial [⟨2, 3, 20⟩] [⟨1, 3, 2, 1⟩, ⟨4, 3, 2, 1⟩]
      [⟨11, 3, 1, 1, "Cut latency by 40%".toList, .implementation, conditions, .confirmed⟩,
        ⟨12, 3, 4, 1, "Built the index".toList, .implementation, conditions, .confirmed⟩],
    .createSession sampleTenant 7 [(20, some 2)], .createSession sampleTenant 8 [(20, some 2)],
    .publish sampleTenant ⟨101, 3, 7, 1, 201, none, none, sampleShortened, []⟩]

/-- Session 8 corrects one of the facts for itself. -/
def correction (materialVersionId : UUID) : FactOp asciiTables :=
  .fact sampleTenant 8
    { projectId := 20, scope := .session, claim := "Cut latency".toList, kind := .implementation,
      conditions := ⟨none, none, none⟩, supersedesMaterialVersionId := some materialVersionId,
      supersedesUserVersionId := none, claim_bounds := by decide, one_prior_fact := .inr rfl }
    501 502

theorem correction_differs (materialVersionId : UUID) :
    DifferOnly asciiTables 8 sharedHistory (sharedHistory ++ [correction materialVersionId]) := by
  have shared : DifferOnly asciiTables 8 sharedHistory sharedHistory :=
    .both (.both (.both (.both .start _ ⟨rfl, rfl, fun _ => rfl⟩) _ ⟨rfl, rfl, fun _ => rfl⟩) _
      ⟨rfl, rfl, fun _ => rfl⟩) _ ⟨rfl, rfl, fun _ => rfl⟩
  exact .right shared _ ⟨rfl, rfl⟩

def sampleVersion : ResumeVersion := ⟨101, 3, 7, 1, 201, none, none, sampleShortened, []⟩

/-- A correction of fact 12, which the version does not use, changes nothing. -/
theorem isolated_unused : Isolated sampleUuid5 ((factStore asciiTables).reached sharedHistory)
    ((factStore asciiTables).reached (sharedHistory ++ [correction 12])) sampleTenant
    sampleVersion := by
  refine (isolated_iff (correction_differs 12) sampleUuid5 sampleTenant sampleVersion
    List.mem_cons_self (by decide)).mpr fun used but => ?_
  have uses : actualFactUses sampleUuid5 ((factStore asciiTables).reached sharedHistory).toFactDb
      sampleTenant sampleVersion = .ok [11, 11] := rfl
  obtain rfl := Except.ok.inj (uses.symm.trans but.uses)
  rfl

/-- A correction of fact 11 that session 8 makes for itself blocks version 101 of
session 7. -/
theorem not_isolated : ¬ ∀ (uuid5 : UUID → Text → UUID) (hidden : UUID)
    (history history' : List (FactOp asciiTables)),
    DifferOnly asciiTables hidden history history' → ∀ (tenant : TenantContext)
      (version : ResumeVersion), version ∈ ((factStore asciiTables).reached history).versions →
        version.sessionId ≠ hidden →
          Isolated uuid5 ((factStore asciiTables).reached history)
            ((factStore asciiTables).reached history') tenant version := by
  intro always
  have outcome := (always sampleUuid5 8 sharedHistory _ (correction_differs 11) sampleTenant
    sampleVersion List.mem_cons_self (by decide)).outcome
  have passes : requireConfirmable sampleUuid5 ((factStore asciiTables).reached sharedHistory).toFactDb
      sampleTenant sampleVersion = .ok () := rfl
  have blocked : requireConfirmable sampleUuid5
      ((factStore asciiTables).reached (sharedHistory ++ [correction 11])).toFactDb sampleTenant
      sampleVersion = .error (.conflict "selected version cites a fact under correction") := rfl
  rw [passes, blocked] at outcome
  cases outcome

end Pathfinder
