import Mathlib.Logic.Basic
import Mathlib.Data.List.Basic

/-!
# Programs that succeed under a condition

A program that may fail, said by the condition under which it returns and the
value it then returns. Sequencing conjoins conditions.
-/
namespace Conditional

universe u v
variable {ε : Type u} {α β : Type v}

/-- The program returns `value` if `condition` holds, and fails if not. -/
def Yields (program : Except ε α) (condition : Prop) (value : α) : Prop :=
  (condition → program = .ok value) ∧ (¬ condition → ∃ error, program = .error error)

namespace Yields
variable {program : Except ε α} {condition condition' : Prop} {value : α}

theorem iff_ok (yields : Yields program condition value) (result : α) :
    program = .ok result ↔ condition ∧ value = result := by
  by_cases holds : condition
  · simp [yields.1 holds, holds]
  · obtain ⟨error, failed⟩ := yields.2 holds
    simp [failed, holds]

theorem succeeds_iff (yields : Yields program condition value) :
    (∃ result, program = .ok result) ↔ condition := by
  simp [yields.iff_ok]

theorem congr (yields : Yields program condition value) (same : condition ↔ condition') :
    Yields program condition' value := by
  rwa [Yields, ← same]

theorem value_eq {value' : α} (yields : Yields program condition value) (same : value = value') :
    Yields program condition value' := same ▸ yields

protected theorem pure (value : α) : Yields (pure value : Except ε α) True value :=
  ⟨fun _ => rfl, fun absurdity => absurd trivial absurdity⟩

protected theorem bind {next : α → Except ε β} {result : β} {nextCondition : Prop}
    (first : Yields program condition value) (second : Yields (next value) nextCondition result) :
    Yields (program >>= next) (condition ∧ nextCondition) result := by
  by_cases holds : condition
  · have same : (program >>= next) = next value := by
      rw [first.1 holds]
      rfl
    rw [same]
    exact second.congr (by simp [holds])
  · obtain ⟨error, failed⟩ := first.2 holds
    refine ⟨fun both => absurd both.1 holds, fun _ => ⟨error, ?_⟩⟩
    rw [failed]
    rfl

protected theorem map {next : α → β} (first : Yields program condition value) :
    Yields (program.map next) condition (next value) := by
  constructor
  · intro holds
    rw [first.1 holds]
    rfl
  · intro fails
    obtain ⟨error, failed⟩ := first.2 fails
    exact ⟨error, by rw [failed]; rfl⟩

/-- A program without a value yields under its own success. -/
protected theorem self (check : Except ε Unit) : Yields check (check = .ok ()) () := by
  cases check with
  | ok done => exact ⟨id, fun fails => absurd rfl fails⟩
  | error reason => exact ⟨id, fun _ => ⟨reason, rfl⟩⟩

/-- A check in front of a program. -/
theorem guarded {error : ε} {refused : Prop} [Decidable refused]
    (rest : Yields program condition value) :
    Yields (if refused then .error error else program) (¬ refused ∧ condition) value := by
  by_cases stop : refused
  · exact ⟨fun both => absurd stop both.1, fun _ => ⟨error, if_pos stop⟩⟩
  · rw [if_neg stop]
    exact rest.congr (by simp [stop])

protected theorem mapM {γ : Type v} {items : List γ} {step : γ → Except ε α}
    {conditions : γ → Prop} {values : γ → α}
    (each : ∀ item ∈ items, Yields (step item) (conditions item) (values item)) :
    Yields (items.mapM step) (∀ item ∈ items, conditions item) (items.map values) := by
  induction items with
  | nil => exact (Yields.pure []).congr (by simp)
  | cons item rest ih =>
    rw [List.mapM_cons, List.map_cons]
    have tail := ih fun other member => each other (List.mem_cons_of_mem _ member)
    refine Yields.congr
      (Yields.bind (each item List.mem_cons_self) (Yields.bind tail (Yields.pure _))) ?_
    simp

end Yields

/-! ## What a success says -/

section Success
variable {program : Except ε α} {next : α → Except ε β} {result : β}

theorem bind_ok : (program >>= next) = .ok result ↔
    ∃ value, program = .ok value ∧ next value = .ok result := by
  cases program with
  | ok value =>
    constructor
    · exact fun runs => ⟨value, rfl, runs⟩
    · rintro ⟨value, ⟨⟩, runs⟩
      exact runs
  | error reason =>
    constructor
    · intro runs
      cases runs
    · rintro ⟨value, ⟨⟩, runs⟩

theorem pure_ok {value : β} : (pure value : Except ε β) = .ok result ↔ value = result :=
  ⟨Except.ok.inj, congrArg Except.ok⟩

theorem mem_mapM_ok {items : List α} {step : α → Except ε β} {results : List β}
    (runs : items.mapM step = .ok results) (member : result ∈ results) :
    ∃ item ∈ items, step item = .ok result := by
  induction items generalizing results with
  | nil =>
    obtain rfl := pure_ok.mp runs
    cases member
  | cons item rest ih =>
    rw [List.mapM_cons] at runs
    obtain ⟨first, here, later⟩ := bind_ok.mp runs
    obtain ⟨more, behind, last⟩ := bind_ok.mp later
    obtain rfl := pure_ok.mp last
    rcases List.mem_cons.mp member with rfl | inside
    · exact ⟨item, List.mem_cons_self, here⟩
    · obtain ⟨other, known, runs⟩ := ih behind inside
      exact ⟨other, List.mem_cons_of_mem _ known, runs⟩

theorem forall₂_mapM_ok {items : List α} {step : α → Except ε β} {results : List β}
    (runs : items.mapM step = .ok results) :
    List.Forall₂ (fun item result => step item = .ok result) items results := by
  induction items generalizing results with
  | nil =>
    obtain rfl := pure_ok.mp runs
    exact .nil
  | cons item rest ih =>
    rw [List.mapM_cons] at runs
    obtain ⟨first, here, later⟩ := bind_ok.mp runs
    obtain ⟨more, behind, last⟩ := bind_ok.mp later
    obtain rfl := pure_ok.mp last
    exact .cons here (ih behind)

/-- What each step of a fold keeps, with the items behind it, the fold keeps. -/
theorem foldlM_ok {γ : Type v} {step : β → γ → Except ε β} {P : List γ → β → Prop}
    (kept : ∀ done item before after, P done before → step before item = .ok after →
      P (done ++ [item]) after)
    {items done : List γ} {start : β} (runs : items.foldlM step start = .ok result)
    (before : P done start) : P (done ++ items) result := by
  induction items generalizing done start with
  | nil =>
    obtain rfl := pure_ok.mp runs
    rwa [List.append_nil]
  | cons item rest ih =>
    rw [List.foldlM_cons] at runs
    obtain ⟨next, here, later⟩ := bind_ok.mp runs
    have after := ih later (kept done item start next before here)
    rwa [List.append_assoc] at after

end Success

/-! ## Optional results -/

section Optional
variable {α β : Type u} {step : α → Option β} {items : List α}

theorem forall₂_mapM_some {results : List β} (runs : items.mapM step = some results) :
    List.Forall₂ (fun item result => step item = some result) items results := by
  induction items generalizing results with
  | nil =>
    obtain rfl := Option.some.inj runs
    exact .nil
  | cons item rest ih =>
    rw [List.mapM_cons] at runs
    obtain ⟨first, here, later⟩ := Option.bind_eq_some_iff.mp runs
    obtain ⟨more, behind, last⟩ := Option.bind_eq_some_iff.mp later
    obtain rfl := Option.some.inj last
    exact .cons here (ih behind)

theorem exists_mapM_some (each : ∀ item ∈ items, ∃ result, step item = some result) :
    ∃ results, items.mapM step = some results := by
  induction items with
  | nil => exact ⟨[], rfl⟩
  | cons item rest ih =>
    obtain ⟨first, here⟩ := each item List.mem_cons_self
    obtain ⟨more, behind⟩ := ih fun other member => each other (List.mem_cons_of_mem _ member)
    refine ⟨first :: more, ?_⟩
    rw [List.mapM_cons, here, behind]
    rfl

/-- Each result comes from an item at its place. -/
theorem origin_of_mem {related : α → β → Prop} {results : List β}
    (pairs : List.Forall₂ related items results) {result : β} (member : result ∈ results) :
    ∃ item ∈ items, related item result := by
  induction pairs with
  | nil => cases member
  | @cons item first _ _ here _ ih =>
    rcases List.mem_cons.mp member with rfl | later
    · exact ⟨item, List.mem_cons_self, here⟩
    · obtain ⟨other, there, relates⟩ := ih later
      exact ⟨other, List.mem_cons_of_mem _ there, relates⟩

end Optional
end Conditional
