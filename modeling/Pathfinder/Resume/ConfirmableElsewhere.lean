import Pathfinder.Resume.Corrections

/-!
# Confirming a version of another session

`_require_confirmable` on a version reads rows of its own session, the facts it
uses, and the corrections of these. Only the last query goes beyond what the
session sees.
-/
namespace Pathfinder
variable {chars : CharacterTables}

/-- A pending or confirmed correction of a used fact, with the scope of the session. -/
def FactTables.correctedIn (tables : FactTables chars) (tenant : TenantContext)
    (sessionId : UUID) (used : List UUID) : Bool :=
  tables.userFacts.any fun fact => corrects tenant used fact &&
    underCorrection tables.toFactDb tenant fact && fact.scopeSessionId = some sessionId

/-- One with another scope, or none. -/
def FactTables.correctedElsewhere (tables : FactTables chars) (tenant : TenantContext)
    (sessionId : UUID) (used : List UUID) : Bool :=
  tables.userFacts.any fun fact => corrects tenant used fact &&
    underCorrection tables.toFactDb tenant fact && fact.scopeSessionId ≠ some sessionId

/-- What `_require_confirmable` asks for besides the corrections of one session:
no open questions, and facts that are used, stored, confirmed and not corrected
by anyone else. -/
structure ConfirmableBut (uuid5 : UUID → Text → UUID) (tables : FactTables chars)
    (tenant : TenantContext) (sessionId : UUID) (version : ResumeVersion) (used : List UUID) :
    Prop where
  questions : version.questions = []
  uses : actualFactUses uuid5 tables.toFactDb tenant version = .ok used
  cited : used ≠ []
  reviewed : ∀ id ∈ used, ∃ entry ∈ materialStatuses tables.toFactDb tenant used ++
    userStatuses tables.toFactDb tenant used, entry.1 = id
  confirmed : ∀ entry ∈ materialStatuses tables.toFactDb tenant used ++
    userStatuses tables.toFactDb tenant used, entry.2 = .confirmed
  uncorrected : tables.correctedElsewhere tenant sessionId used = false

section Uses
variable {tables : FactTables chars} {tenant : TenantContext} {hidden sessionId : UUID}
  {uuid5 : UUID → Text → UUID}

section Lineage
variable (other : sessionId ≠ hidden)
include other

theorem findVersion_hide (versionId : UUID) :
    findVersion (tables.hide hidden).toFactDb tenant sessionId versionId =
      findVersion tables.toFactDb tenant sessionId versionId :=
  KeyedList.find?_kept fun row _ wanted => by
    simp only [decide_eq_true_eq] at wanted ⊢
    exact wanted.2.1 ▸ other

theorem lineage_hide (fuel : Nat) (row : ResumeVersion) :
    lineage (tables.hide hidden).toFactDb tenant sessionId fuel row =
      lineage tables.toFactDb tenant sessionId fuel row := by
  induction fuel generalizing row with
  | zero =>
    unfold lineage
    simp only [findVersion_hide other]
  | succ fuel ih =>
    unfold lineage
    simp only [findVersion_hide other, ih]

theorem recordedPatches_hide (version : ResumeVersion) :
    recordedPatches (tables.hide hidden).toFactDb tenant sessionId version =
      recordedPatches tables.toFactDb tenant sessionId version := by
  have found (feedbackId : UUID) : (tables.hide hidden).feedback.find? (fun row =>
      row.workspaceId = tenant.workspaceId ∧ row.id = feedbackId ∧ row.sessionId = sessionId) =
      tables.feedback.find? fun row =>
        row.workspaceId = tenant.workspaceId ∧ row.id = feedbackId ∧ row.sessionId = sessionId := by
    refine KeyedList.find?_kept fun row _ wanted => ?_
    simp only [decide_eq_true_eq] at wanted ⊢
    exact wanted.2.2 ▸ other
  unfold recordedPatches
  simp only [found]

end Lineage

/-- The lineage of a stored version is one of stored versions of its session. -/
theorem mem_lineage {fuel : Nat} {row : ResumeVersion} {rows : List ResumeVersion}
    (ran : lineage tables.toFactDb tenant sessionId fuel row = .ok rows)
    (stored : row ∈ tables.versions) (session : row.sessionId = sessionId) :
    ∀ version ∈ rows, version ∈ tables.versions ∧ version.sessionId = sessionId := by
  induction fuel generalizing row rows with
  | zero =>
    unfold lineage at ran
    split at ran
    · cases ran
      simp [stored, session]
    · split at ran
      · cases ran
      · split at ran <;> cases ran
  | succ fuel ih =>
    unfold lineage at ran
    split at ran
    · cases ran
      simp [stored, session]
    · split at ran
      · cases ran
      next parent found =>
      split at ran
      · cases ran
      obtain ⟨earlier, reached, rfl⟩ := map_ok ran
      have own := List.find?_some found
      simp only [decide_eq_true_eq] at own
      intro version member
      rcases List.mem_append.mp member with before | last
      · exact ih reached (List.mem_of_find?_eq_some found) own.2.1 version before
      · obtain rfl := List.mem_singleton.mp last
        exact ⟨stored, session⟩

section Stored
variable (ok : FactsOk tables.toFactDb) (other : sessionId ≠ hidden)
include ok other

theorem factSnapshot_hide {version : ResumeVersion} (stored : version ∈ tables.versions)
    (session : version.sessionId = sessionId) :
    factSnapshot (tables.hide hidden).toFactDb tenant version.id =
      factSnapshot tables.toFactDb tenant version.id := by
  refine congrArg (fun rows => (List.map ResumeVersionFact.factVersionId rows).dedup)
    (KeyedList.filter_kept fun row _ wanted => ?_)
  simp only [decide_eq_true_eq] at wanted
  have unowned : tables.ownsVersion hidden row.versionId = false := by
    rw [Bool.eq_false_iff]
    intro owned
    obtain ⟨origin, present, same⟩ := List.any_eq_true.mp owned
    simp only [decide_eq_true_eq] at same
    obtain rfl := KeyedList.eq_of_key ok.versionIds present stored (same.1.trans wanted.2)
    exact other (session.symm.trans same.2)
  rw [unowned]
  rfl

theorem revisedUses_hide {version : ResumeVersion} (stored : version ∈ tables.versions)
    (session : version.sessionId = sessionId) (uses : FactUses) :
    revisedUses (tables.hide hidden).toFactDb tenant sessionId uses version =
      revisedUses tables.toFactDb tenant sessionId uses version := by
  unfold revisedUses
  rw [recordedPatches_hide other, factSnapshot_hide ok other stored session]

theorem laterUses_hide {rows : List ResumeVersion}
    (stored : ∀ version ∈ rows, version ∈ tables.versions ∧ version.sessionId = sessionId)
    (uses : FactUses) :
    laterUses (tables.hide hidden).toFactDb tenant sessionId rows uses =
      laterUses tables.toFactDb tenant sessionId rows uses := by
  induction rows generalizing uses with
  | nil => rfl
  | cons version rest ih =>
    obtain ⟨here, there⟩ := List.forall_mem_cons.mp stored
    unfold laterUses
    rw [revisedUses_hide ok other here.1 here.2]
    cases revisedUses tables.toFactDb tenant sessionId uses version with
    | error reason => rfl
    | ok next => exact ih there next

end Stored

/-- The facts a version uses do not depend on what is hidden from its session. -/
theorem actualFactUses_hide (ok : FactsOk tables.toFactDb) {version : ResumeVersion}
    (stored : version ∈ tables.versions) (other : version.sessionId ≠ hidden) :
    actualFactUses uuid5 (tables.hide hidden).toFactDb tenant version =
      actualFactUses uuid5 tables.toFactDb tenant version := by
  unfold actualFactUses attributedUses
  rw [lineage_hide other]
  cases ran : lineage tables.toFactDb tenant version.sessionId version.version version with
  | error reason => rfl
  | ok rows =>
    cases rows with
    | nil => rfl
    | cons first later =>
      obtain ⟨here, there⟩ := List.forall_mem_cons.mp (mem_lineage ran stored rfl)
      dsimp only
      rw [show firstUses uuid5 (tables.hide hidden).toFactDb tenant version.sessionId first =
          firstUses uuid5 tables.toFactDb tenant version.sessionId first by
        unfold firstUses
        rw [factSnapshot_hide ok other here.1 here.2]]
      cases firstUses uuid5 tables.toFactDb tenant version.sessionId first with
      | error reason => rfl
      | ok uses =>
        dsimp only
        rw [laterUses_hide ok other there]

/-- The facts used behind a version are in the snapshot of a version. -/
theorem revisedUses_snapshot {db : FactDb chars} {uses after : FactUses} {version : ResumeVersion}
    (ran : revisedUses db tenant sessionId uses version = .ok after) :
    ∀ id ∈ after.union, id ∈ factSnapshot db tenant version.id := by
  unfold revisedUses at ran
  dsimp only at ran
  split at ran
  · cases ran
  split at ran
  · cases ran
  unfold checkSnapshot at ran
  split at ran
  next covered =>
    cases ran
    simpa [List.all_eq_true] using covered
  · cases ran

theorem firstUses_snapshot {db : FactDb chars} {uses : FactUses} {version : ResumeVersion}
    (ran : firstUses uuid5 db tenant sessionId version = .ok uses) :
    ∀ id ∈ uses.union, id ∈ factSnapshot db tenant version.id := by
  unfold firstUses at ran
  dsimp only at ran
  split at ran
  · cases ran
  split at ran
  · cases ran
  unfold checkSnapshot at ran
  split at ran
  next covered =>
    cases ran
    simpa [List.all_eq_true] using covered
  · cases ran

theorem laterUses_snapshot {db : FactDb chars} {rows : List ResumeVersion} {first : ResumeVersion}
    {uses after : FactUses} (start : ∀ id ∈ uses.union, id ∈ factSnapshot db tenant first.id)
    (ran : laterUses db tenant sessionId rows uses = .ok after) :
    ∃ version ∈ first :: rows, ∀ id ∈ after.union, id ∈ factSnapshot db tenant version.id := by
  induction rows generalizing first uses with
  | nil =>
    cases ran
    exact ⟨first, List.mem_cons_self, start⟩
  | cons version rest ih =>
    unfold laterUses at ran
    split at ran
    · cases ran
    next next step =>
    obtain ⟨last, member, covered⟩ := ih (revisedUses_snapshot step) ran
    exact ⟨last, List.mem_cons_of_mem _ member, covered⟩

/-- A session may see the facts its versions use. -/
theorem actualFactUses_visible (ok : FactsOk tables.toFactDb) {version : ResumeVersion}
    {used : List UUID} (stored : version ∈ tables.versions)
    (ran : actualFactUses uuid5 tables.toFactDb tenant version = .ok used) :
    ∀ id ∈ used, tables.toFactDb.Visible version.sessionId id := by
  obtain ⟨uses, attributed, rfl⟩ := map_ok ran
  unfold attributedUses at attributed
  split at attributed
  · cases attributed
  · cases attributed
    exact fun id member => absurd member List.not_mem_nil
  next first later read =>
  split at attributed
  · cases attributed
  next begun started =>
  obtain ⟨source, member, covered⟩ := laterUses_snapshot (firstUses_snapshot started) attributed
  obtain ⟨present, session⟩ := mem_lineage read stored rfl source member
  intro id cited
  obtain ⟨row, listed, rfl⟩ := List.mem_map.mp (List.mem_dedup.mp (covered id cited))
  simp only [List.mem_filter, decide_eq_true_eq] at listed
  exact session ▸ ok.citedVisible row listed.1 source present listed.2.2.symm

end Uses

/-! ## Statuses and corrections -/

section Statuses
variable {tables : FactTables chars} {tenant : TenantContext} {hidden sessionId : UUID}
  {used : List UUID}

theorem userStatuses_hide (other : sessionId ≠ hidden)
    (visible : ∀ id ∈ used, tables.toFactDb.Visible sessionId id) :
    userStatuses (tables.hide hidden).toFactDb tenant used =
      userStatuses tables.toFactDb tenant used := by
  refine congrArg (List.map _) (KeyedList.filter_kept fun version stored wanted => ?_)
  simp only [decide_eq_true_eq] at wanted
  rw [Visible.not_owned (visible version.id wanted.2) other stored rfl]
  rfl

theorem underCorrection_hide {fact : ResumeUserFact} (ok : FactsOk tables.toFactDb)
    (stored : fact ∈ tables.userFacts) (seen : fact.scopeSessionId ≠ some hidden) :
    underCorrection (tables.hide hidden).toFactDb tenant fact =
      underCorrection tables.toFactDb tenant fact := by
  unfold underCorrection currentStatus
  refine congrArg (fun found : Option ResumeUserFactVersion => Option.any _
    (found.map ResumeUserFactVersion.reviewStatus)) (KeyedList.find?_kept fun version _ wanted => ?_)
  simp only [decide_eq_true_eq] at wanted
  rw [wanted.2.1, not_owned ok stored seen]
  rfl

/-- The corrections the other sessions see are those of other scopes. -/
theorem corrected_hide (ok : FactsOk tables.toFactDb) :
    ((tables.hide hidden).userFacts.filter (corrects tenant used)).any
        (underCorrection (tables.hide hidden).toFactDb tenant) =
      tables.correctedElsewhere tenant hidden used := by
  rw [Bool.eq_iff_iff]
  simp only [FactTables.correctedElsewhere, FactTables.hide, List.filter_filter, List.any_filter,
    List.any_eq_true, Bool.and_eq_true, decide_eq_true_eq]
  constructor
  · rintro ⟨fact, stored, ⟨correction, seen⟩, pending⟩
    exact ⟨fact, stored, ⟨correction, underCorrection_hide ok stored seen ▸ pending⟩, seen⟩
  · rintro ⟨fact, stored, ⟨correction, pending⟩, seen⟩
    exact ⟨fact, stored, ⟨correction, seen⟩, (underCorrection_hide ok stored seen).trans pending⟩

variable (hidden) in
theorem corrected_split :
    (tables.userFacts.filter (corrects tenant used)).any (underCorrection tables.toFactDb tenant) =
      (tables.correctedElsewhere tenant hidden used || tables.correctedIn tenant hidden used) := by
  rw [Bool.eq_iff_iff]
  simp only [FactTables.correctedElsewhere, FactTables.correctedIn, List.any_filter,
    Bool.or_eq_true, List.any_eq_true, Bool.and_eq_true, decide_eq_true_eq]
  constructor
  · rintro ⟨fact, stored, correction, pending⟩
    by_cases own : fact.scopeSessionId = some hidden
    · exact .inr ⟨fact, stored, ⟨correction, pending⟩, own⟩
    · exact .inl ⟨fact, stored, ⟨correction, pending⟩, own⟩
  · rintro (⟨fact, stored, ⟨correction, pending⟩, -⟩ | ⟨fact, stored, ⟨correction, pending⟩, -⟩)
    · exact ⟨fact, stored, correction, pending⟩
    · exact ⟨fact, stored, correction, pending⟩

end Statuses

/-! ## The outcome -/

section Outcome
variable {tables : FactTables chars} {tenant : TenantContext} {hidden : UUID}
  {uuid5 : UUID → Text → UUID} {version : ResumeVersion}

/-- The outcome where the uses are known, with their statuses and whether one is under correction. -/
def usesOutcome (used : List UUID) (statuses : List (UUID × ReviewStatus)) (corrected : Bool) :
    Except StoreError Unit :=
  if used = [] then .error (.conflict "selected version has no resolvable fact support")
  else if !(used.all fun id => statuses.any fun entry => entry.1 = id) ∨
      statuses.any (fun entry => entry.2 ≠ .confirmed) then
    .error (.conflict "selected version uses an unconfirmed fact")
  else if corrected then .error (.conflict "selected version cites a fact under correction")
  else .ok ()

theorem requireConfirmable_uses {db : FactDb chars} {used : List UUID}
    (ran : actualFactUses uuid5 db tenant version = .ok used)
    (settled : version.questions = []) :
    requireConfirmable uuid5 db tenant version =
      usesOutcome used (materialStatuses db tenant used ++ userStatuses db tenant used)
        ((db.userFacts.filter (corrects tenant used)).any (underCorrection db tenant)) := by
  unfold requireConfirmable
  rw [if_neg (not_not.mpr settled), ran]
  rfl

section Elsewhere
variable (ok : FactsOk tables.toFactDb) (stored : version ∈ tables.versions)
  (other : version.sessionId ≠ hidden)
include ok stored other

/-- What the other sessions see of the outcome. -/
theorem requireConfirmable_seen {used : List UUID}
    (ran : actualFactUses uuid5 tables.toFactDb tenant version = .ok used)
    (settled : version.questions = []) :
    requireConfirmable uuid5 (tables.hide hidden).toFactDb tenant version =
      usesOutcome used (materialStatuses tables.toFactDb tenant used ++
        userStatuses tables.toFactDb tenant used) (tables.correctedElsewhere tenant hidden used) := by
  rw [requireConfirmable_uses ((actualFactUses_hide ok stored other).trans ran) settled,
    userStatuses_hide other (actualFactUses_visible ok stored ran), corrected_hide ok]
  rfl

theorem confirmableBut_iff {used : List UUID}
    (ran : actualFactUses uuid5 tables.toFactDb tenant version = .ok used) :
    requireConfirmable uuid5 (tables.hide hidden).toFactDb tenant version = .ok () ↔
      ConfirmableBut uuid5 tables tenant hidden version used := by
  constructor
  · intro passes
    by_cases settled : version.questions = []
    case neg =>
      unfold requireConfirmable at passes
      rw [if_pos settled] at passes
      cases passes
    rw [requireConfirmable_seen ok stored other ran settled, usesOutcome] at passes
    split at passes
    · cases passes
    next cited =>
    split at passes
    · cases passes
    next reviewed =>
    split at passes
    · cases passes
    next uncorrected =>
    simp only [not_or, Bool.not_eq_true', Bool.not_eq_false, List.all_eq_true, List.any_eq_true,
      decide_eq_true_eq, not_exists, not_and, not_not] at reviewed
    exact ⟨settled, ran, cited, reviewed.1, reviewed.2, by simpa using uncorrected⟩
  · intro but
    rw [requireConfirmable_seen ok stored other ran but.questions, usesOutcome, if_neg but.cited,
      if_neg, but.uncorrected, if_neg Bool.false_ne_true]
    simp only [not_or, Bool.not_eq_true', Bool.not_eq_false, List.all_eq_true, List.any_eq_true,
      decide_eq_true_eq, not_exists, not_and, not_not]
    exact ⟨but.reviewed, but.confirmed⟩

variable (uuid5 tenant) in
/-- The outcome is the one the other sessions see, unless only a correction of
the hidden session stands in the way. -/
theorem requireConfirmable_hide :
    requireConfirmable uuid5 tables.toFactDb tenant version =
      match requireConfirmable uuid5 (tables.hide hidden).toFactDb tenant version,
        actualFactUses uuid5 tables.toFactDb tenant version with
      | .error reason, _ => .error reason
      | .ok (), .error _ => .ok ()
      | .ok (), .ok used =>
        if tables.correctedIn tenant hidden used then
          .error (.conflict "selected version cites a fact under correction")
        else .ok () := by
  by_cases settled : version.questions = []
  case neg =>
    unfold requireConfirmable
    rw [if_pos settled, if_pos settled]
  cases ran : actualFactUses uuid5 tables.toFactDb tenant version with
  | error reason =>
    unfold requireConfirmable
    rw [if_neg (not_not.mpr settled), if_neg (not_not.mpr settled),
      actualFactUses_hide ok stored other, ran]
  | ok used =>
    rw [requireConfirmable_uses ran settled, requireConfirmable_seen ok stored other ran settled,
      corrected_split hidden, usesOutcome, usesOutcome]
    split
    · rfl
    split
    · rfl
    cases tables.correctedElsewhere tenant hidden used with
    | true => rfl
    | false => rfl

end Elsewhere
end Outcome
end Pathfinder
