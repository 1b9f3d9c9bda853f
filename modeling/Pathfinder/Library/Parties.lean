import Mathlib.Algebra.BigOperators.Group.Finset.Piecewise
import Mathlib.Algebra.Order.BigOperators.Group.Finset
import Pathfinder.Library.Machine

/-!
# Histories of a run and of its parties

The answers of a machine may tell what has happened. A run then has a history,
and an invariant may speak of it beside the state. Where every entry of a history
names a party, each party has a history of its own, and a comparison of counts
that holds for every party holds for the whole.
-/
namespace Machines

universe u v w

/-! ## Histories -/

namespace Machine
variable {σ : Type u} {ω : Type v} {ρ : Type w} (m : Machine σ ω (Option ρ))

/-- What the answers of a run tell, in order. -/
def history : σ → List ω → List ρ
  | _, [] => []
  | s, request :: rest => (m.answer s request).toList ++ history (m.step s request).1 rest

theorem history_append (s : σ) (first second : List ω) :
    m.history s (first ++ second) = m.history s first ++ m.history (m.after s first) second := by
  induction first generalizing s with
  | nil => rfl
  | cons request rest ih => simp only [List.cons_append, history, after_cons, ih, List.append_assoc]

theorem history_snoc (s : σ) (requests : List ω) (request : ω) :
    m.history s (requests ++ [request]) =
      m.history s requests ++ (m.answer (m.after s requests) request).toList := by
  rw [history_append, history, history, List.append_nil]

/-- An invariant of the state and of what has been told so far. -/
theorem reached_history {P : σ → List ρ → Prop} (initial : P m.start [])
    (kept : ∀ s told request, P s told →
      P (m.step s request).1 (told ++ (m.answer s request).toList)) (requests : List ω) :
    P (m.reached requests) (m.history m.start requests) := by
  induction requests using List.reverseRecOn with
  | nil => exact initial
  | append_singleton requests request ih =>
    rw [reached_snoc, history_snoc]
    exact kept _ _ request ih

/-- What every step from a lasting kind of state tells, every history from there tells. -/
theorem history_forall {P : σ → Prop} {Q : ρ → Prop} (kept : ∀ s request, P s → P (m.step s request).1)
    (tells : ∀ s request told, P s → m.answer s request = some told → Q told) {s : σ} (here : P s)
    (requests : List ω) : ∀ told ∈ m.history s requests, Q told := by
  induction requests generalizing s with
  | nil => exact nofun
  | cons request rest ih =>
    intro told member
    rcases List.mem_append.mp member with now | later
    · exact tells s request told here (Option.mem_toList.mp now)
    · exact ih (kept s request here) told later

end Machine

/-! ## Parties -/

section Parties
variable {ι : Type u} {η : Type v} [DecidableEq ι]

/-- What one party did, in order. -/
def own (i : ι) (history : List (ι × η)) : List η :=
  history.filterMap fun entry => if entry.1 = i then some entry.2 else none

@[simp] theorem own_nil (i : ι) : own i ([] : List (ι × η)) = [] := rfl

theorem own_cons (i : ι) (entry : ι × η) (rest : List (ι × η)) :
    own i (entry :: rest) = if entry.1 = i then entry.2 :: own i rest else own i rest := by
  by_cases same : entry.1 = i <;> simp [own, same]

@[simp] theorem own_append (i : ι) (first second : List (ι × η)) :
    own i (first ++ second) = own i first ++ own i second := List.filterMap_append

@[simp] theorem own_self (i : ι) (done : η) : own i [(i, done)] = [done] := by
  simp [own]

theorem own_of_ne {i j : ι} (other : j ≠ i) (done : η) : own i [(j, done)] = [] := by
  simp [own, other]

/-- A history has what its parties have. -/
theorem countP_eq_sum_own (p : η → Bool) (parties : Finset ι) {history : List (ι × η)}
    (inside : ∀ entry ∈ history, entry.1 ∈ parties) :
    history.countP (fun entry => p entry.2) = ∑ i ∈ parties, (own i history).countP p := by
  induction history with
  | nil => simp
  | cons entry rest ih =>
    have here : entry.1 ∈ parties := inside entry List.mem_cons_self
    have one (i : ι) : (own i (entry :: rest)).countP p =
        (own i rest).countP p + if entry.1 = i then (if p entry.2 then 1 else 0) else 0 := by
      rw [own_cons]
      split
      · rw [List.countP_cons]
      · rfl
    simp only [one]
    rw [List.countP_cons, ih fun other there => inside other (List.mem_cons_of_mem _ there),
      Finset.sum_add_distrib, Finset.sum_ite_eq, if_pos here]

/-- What no party does more often than something else, they do not together. -/
theorem countP_le_of_own {p q : η → Bool} {history : List (ι × η)}
    (each : ∀ i, (own i history).countP p ≤ (own i history).countP q) :
    history.countP (fun entry => p entry.2) ≤ history.countP (fun entry => q entry.2) := by
  have inside : ∀ entry ∈ history, entry.1 ∈ (history.map Prod.fst).toFinset := by
    intro entry there
    exact List.mem_toFinset.mpr (List.mem_map_of_mem there)
  rw [countP_eq_sum_own p _ inside, countP_eq_sum_own q _ inside]
  exact Finset.sum_le_sum fun i _ => each i

end Parties
end Machines
