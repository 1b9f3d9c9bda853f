import Pathfinder.Agents.ResumeGeneration
import Pathfinder.Library.Conditional

/-!
# Where the requirements of a job stand

A requirement that is recorded points at its own quote in the job description. Offsets of the model
that do not are replaced only where the quote stands at one position.
-/
namespace Pathfinder

/-- The quote is read at a position of the text. -/
def StandsAt (quote text : Text) (position : Nat) : Prop := quote <+: text.drop position

/-- What is recorded of a requirement that the model gave. -/
structure GroundedAs (jd : Text) (given found : JobRequirementV1) : Prop where
  kind : found.kind = given.kind
  quote : found.quote = given.quote
  ordered : found.start < found.stop
  inside : found.stop ≤ jd.length
  reads : textSlice jd found.start found.stop = found.quote
  kept : textSlice jd given.start given.stop = given.quote →
    found.start = given.start ∧ found.stop = given.stop
  moved : textSlice jd given.start given.stop ≠ given.quote →
    ∀ position, StandsAt given.quote jd position ↔ position = found.start

section Find
variable {part text : Text} {offset position : Nat}

/-- What is found is the first position. -/
theorem findFrom_some (found : findFrom part offset text = some position) :
    ∃ k, position = offset + k ∧ StandsAt part text k ∧ ∀ j < k, ¬StandsAt part text j := by
  induction text generalizing offset with
  | nil =>
    rw [findFrom] at found
    split at found
    next empty =>
      refine ⟨0, (Option.some.inj found).symm, ?_, fun j below => absurd below (Nat.not_lt_zero j)⟩
      rw [empty]
      exact List.nil_prefix
    · cases found
  | cons c rest ih =>
    rw [findFrom] at found
    split at found
    next begins =>
      exact ⟨0, (Option.some.inj found).symm, List.isPrefixOf_iff_prefix.mp begins,
        fun j below => absurd below (Nat.not_lt_zero j)⟩
    next other =>
      obtain ⟨k, here, stands, first⟩ := ih found
      refine ⟨k + 1, by omega, stands, fun j below => ?_⟩
      cases j with
      | zero => exact fun begins => other (List.isPrefixOf_iff_prefix.mpr begins)
      | succ j => exact first j (by omega)

theorem findFrom_none (absent : findFrom part offset text = none) (k : Nat) :
    ¬StandsAt part text k := by
  induction text generalizing offset k with
  | nil =>
    rw [findFrom] at absent
    split at absent
    · cases absent
    next shown =>
      rw [StandsAt, List.drop_nil]
      exact fun begins => shown (List.prefix_nil.mp begins)
  | cons c rest ih =>
    rw [findFrom] at absent
    split at absent
    · cases absent
    next other =>
      cases k with
      | zero => exact fun begins => other (List.isPrefixOf_iff_prefix.mpr begins)
      | succ k => exact ih absent k

/-- What is found once and not behind it stands at that position alone. -/
theorem findFrom_once (found : findFrom part 0 text = some position)
    (absent : findFrom part (position + 1) (text.drop (position + 1)) = none) (k : Nat) :
    StandsAt part text k ↔ k = position := by
  obtain ⟨first, same, stands, earlier⟩ := findFrom_some found
  rw [Nat.zero_add] at same
  subst same
  constructor
  · intro here
    rcases Nat.lt_trichotomy k position with below | same | above
    · exact absurd here (earlier k below)
    · exact same
    · obtain ⟨more, rfl⟩ := Nat.exists_eq_add_of_lt above
      refine absurd ?_ (findFrom_none absent more)
      rw [StandsAt, List.drop_drop]
      have behind : position + 1 + more = position + more + 1 := by omega
      rw [behind]
      exact here
  · rintro rfl
    exact stands

end Find

section Ground
variable {jd : Text} {item found : JobRequirementV1}

/-- A requirement stays where its offsets hold its quote, or is moved to the one place at which the
quote stands. -/
theorem groundRequirement_some (grounded : groundRequirement jd item = some found) :
    found.kind = item.kind ∧ found.quote = item.quote ∧
      (textSlice jd item.start item.stop = item.quote →
        found.start = item.start ∧ found.stop = item.stop) ∧
      (textSlice jd item.start item.stop ≠ item.quote →
        ∀ position, StandsAt item.quote jd position ↔ position = found.start) := by
  unfold groundRequirement at grounded
  -- A blank basis that is left out touches no other field.
  generalize given_ : (if item.kind ≠ .inferred ∧
      item.inferenceBasis.any (fun basis => stripText basis = []) = true then
    { item with inferenceBasis := none } else item) = given at grounded
  have fields : given.kind = item.kind ∧ given.start = item.start ∧ given.stop = item.stop ∧
      given.quote = item.quote := by
    rw [← given_]
    split <;> exact ⟨rfl, rfl, rfl, rfl⟩
  obtain ⟨kind, start, stop, quote⟩ := fields
  rw [← kind, ← start, ← stop, ← quote]
  dsimp only at grounded
  split at grounded
  next held =>
    obtain rfl := Option.some.inj grounded
    exact ⟨rfl, rfl, fun _ => ⟨rfl, rfl⟩, fun other => absurd held other⟩
  next other =>
    split at grounded
    · cases grounded
    next position first =>
      split at grounded
      · cases grounded
      next once =>
        rw [Bool.not_eq_true, Option.isSome_eq_false_iff, Option.isNone_iff_eq_none] at once
        obtain rfl := Option.some.inj grounded
        exact ⟨rfl, rfl, fun held => absurd held other, fun _ => findFrom_once first once⟩

theorem groundedAs_of_placed (grounded : groundRequirement jd item = some found)
    (placed : requirementPlaced jd found = true) : GroundedAs jd item found := by
  simp only [requirementPlaced, Bool.and_eq_true, decide_eq_true_eq, beq_iff_eq] at placed
  obtain ⟨⟨⟨⟨ordered, inside⟩, reads⟩, -⟩, -⟩ := placed
  obtain ⟨kind, quote, kept, moved⟩ := groundRequirement_some grounded
  exact ⟨kind, quote, ordered, inside, reads, kept, moved⟩

theorem related_of_mem {α β : Type} {related : α → β → Prop} {items : List α} {results : List β}
    (pairs : List.Forall₂ related items results) {item : α} (member : item ∈ items) :
    ∃ result, related item result := by
  induction pairs with
  | nil => cases member
  | @cons first result _ _ here _ ih =>
    rcases List.mem_cons.mp member with rfl | later
    · exact ⟨result, here⟩
    · exact ih later

theorem groundedAs_of_all {items results : List JobRequirementV1}
    (pairs : List.Forall₂ (fun item result => groundRequirement jd item = some result) items results)
    (placed : ∀ result ∈ results, requirementPlaced jd result = true) :
    List.Forall₂ (GroundedAs jd) items results := by
  induction pairs with
  | nil => exact .nil
  | cons here _ ih =>
    obtain ⟨first, rest⟩ := List.forall_mem_cons.mp placed
    exact .cons (groundedAs_of_placed here first) (ih rest)

theorem groundRequirements_some {analysis result : RequirementExtractionV1}
    (grounded : groundRequirements jd analysis = some result) :
    List.Forall₂ (GroundedAs jd) analysis.requirements result.requirements := by
  rw [groundRequirements] at grounded
  split at grounded
  · cases grounded
  next requirements each =>
    split at grounded
    next placed =>
      obtain rfl := Option.some.inj grounded
      have pairs := Conditional.forall₂_mapM_some each
      rw [List.all_eq_true] at placed
      exact groundedAs_of_all pairs placed
    · cases grounded

end Ground

/-- A run of two steps is a run of the first and, from where it ends, one of the second. -/
theorem runBind_ok {σ ε α β : Type} {first : StateT σ (Except ε) α}
    {next : α → StateT σ (Except ε) β} {world : σ} {outcome : β × σ} :
    (first >>= next) world = .ok outcome ↔
      ∃ value between, first world = .ok (value, between) ∧ next value between = .ok outcome := by
  have unfolded : (first >>= next) world =
      (first world).bind fun pair => next pair.1 pair.2 := rfl
  rw [unfolded]
  cases first world with
  | error failure =>
    refine ⟨fun runs => (by cases runs), ?_⟩
    rintro ⟨value, between, done, -⟩
    cases done
  | ok pair =>
    obtain ⟨value, between⟩ := pair
    constructor
    · exact fun runs => ⟨value, between, rfl, runs⟩
    · rintro ⟨value', between', done, runs⟩
      cases done
      exact runs

section Run
variable {chars : CharacterTables} {σ : Type} (ports : GenerationPorts σ) (models : AnswerModels)
  (inputs : DraftInputs chars)

/-- Every analysis that is recorded is an answer of the model, grounded. -/
theorem analyze_grounded {world world' : σ} {analysis : RequirementExtractionV1} {corrected : Bool}
    (runs : analyze ports models inputs world = .ok ((analysis, corrected), world')) :
    ∃ answer given, models.extraction (jsonPayload answer) = some given ∧
      groundRequirements inputs.jobText given.1 = some analysis := by
  have accepted {answer : Option Text} (here : groundedAnalysis models inputs answer =
      some analysis) : ∃ answer given, models.extraction (jsonPayload answer) = some given ∧
        groundRequirements inputs.jobText given.1 = some analysis := by
    rw [groundedAnalysis] at here
    split at here
    · cases here
    next given read => exact ⟨answer, given, read, here⟩
  rw [analyze] at runs
  obtain ⟨answer, between, -, runs⟩ := runBind_ok.mp runs
  cases read : groundedAnalysis models inputs answer with
  | some found =>
    rw [read] at runs
    cases runs
    exact accepted read
  | none =>
    rw [read] at runs
    obtain ⟨allowed, later, -, runs⟩ := runBind_ok.mp runs
    cases allowed with
    | false => cases runs
    | true =>
      rw [if_pos rfl] at runs
      obtain ⟨answer, last, -, runs⟩ := runBind_ok.mp runs
      cases read : groundedAnalysis models inputs answer with
      | none =>
        rw [read] at runs
        cases runs
      | some found =>
        rw [read] at runs
        cases runs
        exact accepted read

end Run

/-- A requirement that is returned reads its own quote inside the text, in the order, with the kind
and with the quote that the model gave, and one whose offsets were wrong stands at the one place at
which its quote occurs. A run records nothing else. -/
theorem requirements_grounded :
    (∀ (jd : Text) (analysis result : RequirementExtractionV1),
      groundRequirements jd analysis = some result →
        List.Forall₂ (GroundedAs jd) analysis.requirements result.requirements) ∧
    (∀ (jd : Text) (analysis : RequirementExtractionV1),
      (∃ item ∈ analysis.requirements, textSlice jd item.start item.stop ≠ item.quote ∧
        ¬∃ position, ∀ other, StandsAt item.quote jd other ↔ other = position) →
      groundRequirements jd analysis = none) ∧
    ∀ (chars : CharacterTables) (σ : Type) (ports : GenerationPorts σ) (models : AnswerModels)
      (inputs : DraftInputs chars) (world world' : σ) (analysis : RequirementExtractionV1)
      (corrected : Bool),
      analyze ports models inputs world = .ok ((analysis, corrected), world') →
        ∃ answer given, models.extraction (jsonPayload answer) = some given ∧
          List.Forall₂ (GroundedAs inputs.jobText) given.1.requirements analysis.requirements := by
  refine ⟨fun jd analysis result => groundRequirements_some, ?_, ?_⟩
  · rintro jd analysis ⟨item, member, other, ambiguous⟩
    cases read : groundRequirements jd analysis with
    | none => rfl
    | some result =>
      obtain ⟨found, grounded⟩ := related_of_mem (groundRequirements_some read) member
      exact absurd ⟨found.start, grounded.moved other⟩ ambiguous
  · intro chars σ ports models inputs world world' analysis corrected runs
    obtain ⟨answer, given, read, grounded⟩ := analyze_grounded ports models inputs runs
    exact ⟨answer, given, read, groundRequirements_some grounded⟩

/-! ## A requirement that is moved and one that is not -/

def portText : Text := "go aaa go1".toList

/-- Its quote stands at one place, and its offsets are those of another. -/
def movedItem : JobRequirementV1 := ⟨.explicit, 0, 3, "go1".toList, none⟩

/-- Its quote stands at two places that overlap. -/
def doubtfulItem : JobRequirementV1 := ⟨.explicit, 0, 2, "aa".toList, none⟩

def movedAnalysis : RequirementExtractionV1 := ⟨[movedItem], []⟩

def placedAnalysis : RequirementExtractionV1 := ⟨[{ movedItem with start := 7, stop := 10 }], []⟩

def movedPorts : GenerationPorts Unit := ⟨fun _ => pure none, pure false⟩

def movedModels : AnswerModels := ⟨fun _ => some ⟨movedAnalysis, by decide⟩, fun _ => none⟩

def namedContent : ResumeContent :=
  { displayNameId := 1, displayName := "Li".toList, displayNameReviewStatus := .reviewed
    contact := [], education := [], projects := [], skills := [] }

def plainValues : PreferenceValues :=
  { excludedProjectIds := [], excludedFieldIds := [], bannedTerms := []
    maxBulletsPerProject := none, sectionOrder := [.education, .projects, .skills]
    lockedItemIds := [], pageTarget := .one, writingAdvice := [] }

def movedInputs : DraftInputs asciiTables where
  content := ⟨namedContent, by decide⟩
  preferences := ⟨plainValues, by decide⟩
  projectMap _ := none
  sessionId := 1
  jobText := portText
  facts := []

theorem moved_requirement :
    List.Forall₂ (GroundedAs portText) movedAnalysis.requirements placedAnalysis.requirements ∧
    groundRequirements portText ⟨[movedItem, doubtfulItem], []⟩ = none ∧
    ∃ answer given, movedModels.extraction (jsonPayload answer) = some given ∧
      List.Forall₂ (GroundedAs portText) given.1.requirements placedAnalysis.requirements := by
  have placed : groundRequirements portText movedAnalysis = some placedAnalysis := by
    decide +kernel
  refine ⟨requirements_grounded.1 portText movedAnalysis placedAnalysis placed, ?_, ?_⟩
  · refine requirements_grounded.2.1 portText _ ⟨doubtfulItem, by simp, by decide, ?_⟩
    rintro ⟨position, only⟩
    have first : StandsAt "aa".toList portText 3 := ⟨"a go1".toList, by decide⟩
    have second : StandsAt "aa".toList portText 4 := ⟨" go1".toList, by decide⟩
    have here := (only 3).mp first
    have there := (only 4).mp second
    omega
  · refine requirements_grounded.2.2 asciiTables Unit movedPorts movedModels movedInputs () ()
      placedAnalysis false ?_
    have read : groundedAnalysis movedModels movedInputs none = some placedAnalysis := placed
    rw [analyze]
    refine runBind_ok.mpr ⟨none, (), rfl, ?_⟩
    rw [read]
    rfl

end Pathfinder
