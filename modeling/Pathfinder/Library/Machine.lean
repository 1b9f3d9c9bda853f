import Mathlib.Data.List.Basic

/-!
# Deterministic machines and their runs

A machine is a start state and a step that answers every request. All
nondeterminism (who moves, clock readings, delivery order) lives in the
request, so a run is a list of requests and a property of every run is a
statement about every list.
-/
namespace Machines

universe u v w

structure Machine (σ : Type u) (ω : Type v) (ρ : Type w) where
  start : σ
  step : σ → ω → σ × ρ

namespace Machine
variable {σ : Type u} {ω : Type v} {ρ : Type w} (m : Machine σ ω ρ)

/-- The state after the requests of a list, from `s`. -/
def after : σ → List ω → σ
  | s, [] => s
  | s, request :: rest => after (m.step s request).1 rest

/-- The state a run reaches. -/
def reached (requests : List ω) : σ := m.after m.start requests

/-- The answer to `request` when it is made in `s`. -/
def answer (s : σ) (request : ω) : ρ := (m.step s request).2

@[simp] theorem after_nil (s : σ) : m.after s [] = s := rfl

@[simp] theorem after_cons (s : σ) (request : ω) (rest : List ω) :
    m.after s (request :: rest) = m.after (m.step s request).1 rest := rfl

theorem after_append (s : σ) (first second : List ω) :
    m.after s (first ++ second) = m.after (m.after s first) second := by
  induction first generalizing s with
  | nil => rfl
  | cons request rest ih => exact ih _

theorem reached_append (first second : List ω) :
    m.reached (first ++ second) = m.after (m.reached first) second := m.after_append _ _ _

theorem reached_snoc (requests : List ω) (request : ω) :
    m.reached (requests ++ [request]) = (m.step (m.reached requests) request).1 := by
  rw [reached_append, after_cons, after_nil]

/-- What each step preserves, each run preserves. -/
theorem after_preserves {P : σ → Prop} (kept : ∀ s request, P s → P (m.step s request).1)
    {s : σ} (before : P s) (requests : List ω) : P (m.after s requests) := by
  induction requests generalizing s with
  | nil => exact before
  | cons request rest ih => exact ih (kept s request before)

theorem reached_invariant {P : σ → Prop} (initial : P m.start)
    (kept : ∀ s request, P s → P (m.step s request).1) (requests : List ω) :
    P (m.reached requests) :=
  m.after_preserves kept initial requests

/-! ## Views -/

/-- A view that each step moves as another machine moves, each run moves so. -/
theorem after_view {σ' : Type*} {ω' : Type*} {ρ' : Type*} {n : Machine σ' ω' ρ'} (view : σ → σ')
    (seen : ω → ω')
    (moves : ∀ s request, view (m.step s request).1 = (n.step (view s) (seen request)).1) (s : σ)
    (requests : List ω) : view (m.after s requests) = n.after (view s) (requests.map seen) := by
  induction requests generalizing s with
  | nil => rfl
  | cons request rest ih => rw [after_cons, ih, moves, List.map_cons, after_cons]

/-! ## Traces -/

/-- The requests of a run with their answers. -/
def trace : σ → List ω → List (ω × ρ)
  | _, [] => []
  | s, request :: rest => (request, m.answer s request) :: trace (m.step s request).1 rest

/-- Where no marked step can follow once `Spent` holds, none is ever marked. -/
theorem trace_never (Base Spent : σ → Prop) {marked : ω × ρ → Bool}
    (base : ∀ s request, Base s → Base (m.step s request).1)
    (kept : ∀ s request, Base s → Spent s → Spent (m.step s request).1)
    (barred : ∀ s request, Spent s → marked (request, m.answer s request) = false)
    {s : σ} (baseHere : Base s) (spent : Spent s) (requests : List ω) :
    (m.trace s requests).countP marked = 0 := by
  induction requests generalizing s with
  | nil => rfl
  | cons request rest ih =>
    rw [trace, List.countP_cons_of_neg (by rw [barred s request spent]; simp)]
    exact ih (base s request baseHere) (kept s request baseHere spent)

/-- A marked step spends what the next marked step would need. -/
theorem trace_at_most_once (Base Spent : σ → Prop) {marked : ω × ρ → Bool}
    (base : ∀ s request, Base s → Base (m.step s request).1)
    (kept : ∀ s request, Base s → Spent s → Spent (m.step s request).1)
    (barred : ∀ s request, Spent s → marked (request, m.answer s request) = false)
    (spends : ∀ s request, Base s → marked (request, m.answer s request) = true →
      Spent (m.step s request).1)
    {s : σ} (baseHere : Base s) (requests : List ω) :
    (m.trace s requests).countP marked ≤ 1 := by
  induction requests generalizing s with
  | nil => exact Nat.zero_le 1
  | cons request rest ih =>
    rw [trace, List.countP_cons]
    have next := base s request baseHere
    split
    next here =>
      have spent := spends s request baseHere here
      exact Nat.le_of_eq (congrArg (· + 1) (m.trace_never Base Spent base kept barred next spent rest))
    · exact ih next

/-! ## Observers -/

/-- The machine beside an observer, which sees every step and changes none. -/
def observed {τ : Type*} (observe : σ → ω → ρ → σ → τ → τ) (unseen : τ) :
    Machine (σ × τ) ω ρ where
  start := (m.start, unseen)
  step seen request :=
    let next := m.step seen.1 request
    ((next.1, observe seen.1 request next.2 next.1 seen.2), next.2)

theorem observed_after {τ : Type*} (observe : σ → ω → ρ → σ → τ → τ) (unseen : τ) (s : σ × τ)
    (requests : List ω) :
    ((m.observed observe unseen).after s requests).1 = m.after s.1 requests := by
  induction requests generalizing s with
  | nil => rfl
  | cons request rest ih => exact ih _

theorem observed_reached {τ : Type*} (observe : σ → ω → ρ → σ → τ → τ) (unseen : τ)
    (requests : List ω) :
    ((m.observed observe unseen).reached requests).1 = m.reached requests :=
  m.observed_after observe unseen _ requests

/-! ## Changes of a view -/

section Changes
variable {α : Type*} [DecidableEq α]

/-- A value that is in view before and after a step, and another one then. -/
def changed (before after : Option α) : Bool :=
  before.isSome && after.isSome && before != after

/-- How often what is in view changes in the run from `s`. -/
def changes (view : σ → Option α) : σ → List ω → Nat
  | _, [] => 0
  | s, request :: rest =>
    let next := (m.step s request).1
    (changed (view s) (view next)).toNat + changes view next rest

theorem changes_snoc (view : σ → Option α) (s : σ) (requests : List ω) (request : ω) :
    m.changes view s (requests ++ [request]) = m.changes view s requests +
      (changed (view (m.after s requests)) (view (m.after s (requests ++ [request])))).toNat := by
  induction requests generalizing s with
  | nil => simp [changes]
  | cons first rest ih =>
    simp only [List.cons_append, changes, after_cons, ih, Nat.add_assoc]

end Changes

/-! ## Guarded runs -/

/-- Every step of the run, taken where the run takes it, satisfies `G`. -/
def Guarded (G : σ → ω → Prop) : σ → List ω → Prop
  | _, [] => True
  | s, request :: rest => G s request ∧ Guarded G (m.step s request).1 rest

/-- An invariant of the guarded steps holds along every guarded run. -/
theorem guarded_invariant {G : σ → ω → Prop} {P : σ → Prop}
    (kept : ∀ s request, G s request → P s → P (m.step s request).1) {s : σ} (before : P s)
    (requests : List ω) (guarded : m.Guarded G s requests) : P (m.after s requests) := by
  induction requests generalizing s with
  | nil => exact before
  | cons request rest ih => exact ih (kept s request guarded.1 before) guarded.2

/-- An invariant of all runs may be assumed by the step lemma of another. -/
theorem guarded_invariant_of {G : σ → ω → Prop} {Base P : σ → Prop}
    (base : ∀ s request, Base s → Base (m.step s request).1)
    (kept : ∀ s request, Base s → G s request → P s → P (m.step s request).1)
    (baseStart : Base m.start) (initial : P m.start) (requests : List ω)
    (guarded : m.Guarded G m.start requests) : P (m.reached requests) := by
  have both := m.guarded_invariant (G := G) (P := fun s => Base s ∧ P s)
    (fun s request allowed held =>
      ⟨base s request held.1, kept s request held.1 allowed held.2⟩)
    ⟨baseStart, initial⟩ requests guarded
  exact both.2

/-- Every state of the run from `s` satisfies `P`. -/
def Throughout (P : σ → Prop) : σ → List ω → Prop
  | s, [] => P s
  | s, request :: rest => P s ∧ Throughout P (m.step s request).1 rest

theorem throughout_last {P : σ → Prop} {s : σ} {requests : List ω}
    (all : m.Throughout P s requests) : P (m.after s requests) := by
  induction requests generalizing s with
  | nil => exact all
  | cons request rest ih => exact ih all.2

theorem throughout_mono {P Q : σ → Prop} (weaker : ∀ s, P s → Q s) {s : σ} {requests : List ω}
    (all : m.Throughout P s requests) : m.Throughout Q s requests := by
  induction requests generalizing s with
  | nil => exact weaker s all
  | cons request rest ih => exact ⟨weaker s all.1, ih all.2⟩

/-- An invariant of the guarded steps holds in every state of a guarded run. -/
theorem guarded_throughout {G : σ → ω → Prop} {P : σ → Prop}
    (kept : ∀ s request, G s request → P s → P (m.step s request).1) {s : σ} (before : P s)
    (requests : List ω) (guarded : m.Guarded G s requests) : m.Throughout P s requests := by
  induction requests generalizing s with
  | nil => exact before
  | cons request rest ih => exact ⟨before, ih (kept s request guarded.1 before) guarded.2⟩

/-- Guards that say the same of every step in a sound state guard the same runs. -/
theorem guarded_congr {G H : σ → ω → Prop} {Base : σ → Prop}
    (base : ∀ s request, Base s → Base (m.step s request).1)
    (same : ∀ s request, Base s → (G s request ↔ H s request)) {s : σ} (here : Base s)
    (requests : List ω) : m.Guarded G s requests ↔ m.Guarded H s requests := by
  induction requests generalizing s with
  | nil => exact Iff.rfl
  | cons request rest ih => exact and_congr (same s request here) (ih (base s request here))

theorem guarded_of_forall {G : σ → ω → Prop} (all : ∀ s request, G s request) (s : σ)
    (requests : List ω) : m.Guarded G s requests := by
  induction requests generalizing s with
  | nil => trivial
  | cons request rest ih => exact ⟨all s request, ih _⟩

/-- Where `G` is exactly what a step that meets `U` must meet to keep `P`, a run of such
steps keeps `P` throughout exactly if its steps meet `G`. -/
theorem throughout_iff_guarded_of {U G : σ → ω → Prop} {Base P : σ → Prop}
    (base : ∀ s request, U s request → Base s → Base (m.step s request).1)
    (exact_ : ∀ s request, U s request → Base s → P s →
      (P (m.step s request).1 ↔ G s request))
    {s : σ} (baseHere : Base s) (here : P s) (requests : List ω)
    (assumed : m.Guarded U s requests) :
    m.Throughout P s requests ↔ m.Guarded G s requests := by
  induction requests generalizing s with
  | nil => simp [Throughout, Guarded, here]
  | cons request rest ih =>
    obtain ⟨usual, rests⟩ := assumed
    have next := exact_ s request usual baseHere here
    have baseNext := base s request usual baseHere
    constructor
    · rintro ⟨-, later⟩
      have there : P (m.step s request).1 := by
        cases rest with
        | nil => exact later
        | cons => exact later.1
      exact ⟨next.mp there, (ih baseNext there rests).mp later⟩
    · rintro ⟨allowed, later⟩
      have there := next.mpr allowed
      exact ⟨here, (ih baseNext there rests).mpr later⟩

/-- Where `G` is exactly what a step must meet to keep `P`, a run keeps `P`
throughout exactly if its steps meet `G`. -/
theorem throughout_iff_guarded {G : σ → ω → Prop} {Base P : σ → Prop}
    (base : ∀ s request, Base s → Base (m.step s request).1)
    (exact_ : ∀ s request, Base s → P s → (P (m.step s request).1 ↔ G s request))
    {s : σ} (baseHere : Base s) (here : P s) (requests : List ω) :
    m.Throughout P s requests ↔ m.Guarded G s requests :=
  m.throughout_iff_guarded_of (U := fun _ _ => True) (fun s request _ => base s request)
    (fun s request _ => exact_ s request) baseHere here requests
    (m.guarded_of_forall (fun _ _ => trivial) s requests)

end Machine
end Machines

/-!
## Runs that differ in hidden requests only

Two runs of a machine that make the same requests, but for requests that one of
them makes and an observer should not notice. What the observer sees is a view
of the state; that it is the same in both runs follows from single steps.
-/
namespace Machines.Machine

universe u v w x
variable {σ : Type u} {ω : Type v} {ρ : Type w}

/-- Runs that share their requests up to hidden ones. A shared request may be
constrained by the two states in which it is made. -/
inductive Twins (m : Machine σ ω ρ) (Hidden : σ → ω → Prop) (Shared : σ → σ → ω → Prop) :
    List ω → List ω → Prop
  | start : Twins m Hidden Shared [] []
  | both {first second : List ω} (before : Twins m Hidden Shared first second) (request : ω)
      (shared : Shared (m.reached first) (m.reached second) request) :
      Twins m Hidden Shared (first ++ [request]) (second ++ [request])
  | left {first second : List ω} (before : Twins m Hidden Shared first second) (request : ω)
      (hidden : Hidden (m.reached first) request) :
      Twins m Hidden Shared (first ++ [request]) second
  | right {first second : List ω} (before : Twins m Hidden Shared first second) (request : ω)
      (hidden : Hidden (m.reached second) request) :
      Twins m Hidden Shared first (second ++ [request])

/-- Hidden requests keep the view and shared requests keep its agreement, so the
views agree at the end. -/
theorem Twins.view_eq {τ : Type x} {m : Machine σ ω ρ} {Hidden : σ → ω → Prop}
    {Shared : σ → σ → ω → Prop} {Inv : σ → Prop} (view : σ → τ)
    (invariant : ∀ requests, Inv (m.reached requests))
    (keeps : ∀ s request, Inv s → Hidden s request → view (m.step s request).1 = view s)
    (agrees : ∀ s t request, Inv s → Inv t → Shared s t request → view s = view t →
      view (m.step s request).1 = view (m.step t request).1)
    {first second : List ω} (twins : Twins m Hidden Shared first second) :
    view (m.reached first) = view (m.reached second) := by
  induction twins with
  | start => rfl
  | @both first second before request shared ih =>
    rw [reached_snoc, reached_snoc]
    exact agrees _ _ request (invariant first) (invariant second) shared ih
  | @left first second before request hidden ih =>
    rw [reached_snoc, keeps _ request (invariant first) hidden]
    exact ih
  | @right first second before request hidden ih =>
    rw [reached_snoc, keeps _ request (invariant second) hidden]
    exact ih

end Machines.Machine
