import Mathlib.Data.List.Basic

/-!
# Logs of writes

A log whose events store a value under a key, clear it, or leave it alone. A
replay holds what the last event that touched a key stored there.
-/
namespace LastWriter

universe u v w

/-- What an event does to a key. -/
inductive Effect (V : Type v) where
  | keep
  | clear
  | store (value : V)

section
variable {K : Type u} {V : Type v} {E : Type w} (effect : E → K → Effect V)

/-- The value under a key after one event. -/
def Effect.apply {V : Type v} : Effect V → Option V → Option V
  | keep, before => before
  | clear, _ => none
  | store value, _ => some value

/-- The value under a key after a log. -/
def replay (start : K → Option V) (log : List E) (k : K) : Option V :=
  log.foldl (fun held event => (effect event k).apply held) (start k)

@[simp] theorem replay_nil (start : K → Option V) (k : K) :
    replay effect start [] k = start k := rfl

theorem replay_cons (start : K → Option V) (event : E) (rest : List E) (k : K) :
    replay effect start (event :: rest) k =
      replay effect (fun j => (effect event j).apply (start j)) rest k := rfl

/-- Two replays agree on a key where they start alike and every event acts alike on it. -/
theorem replay_congr {effect' : E → K → Effect V} {start start' : K → Option V} {log : List E}
    {k : K} (alike : start k = start' k) (same : ∀ event ∈ log, effect event k = effect' event k) :
    replay effect start log k = replay effect' start' log k := by
  induction log generalizing start start' with
  | nil => exact alike
  | cons event rest ih =>
    rw [replay_cons, replay_cons]
    refine ih ?_ fun other member => same other (List.mem_cons_of_mem _ member)
    simp only [alike, same event List.mem_cons_self]

/-- Where nothing clears the key, any event that touches it leaves a value there. -/
theorem replay_isSome {start : K → Option V} {log : List E} {k : K}
    (uncleared : ∀ event ∈ log, effect event k ≠ .clear) :
    (replay effect start log k).isSome = true ↔
      (start k).isSome = true ∨ ∃ event ∈ log, effect event k ≠ .keep := by
  induction log generalizing start with
  | nil => simp
  | cons event rest ih =>
    rw [replay_cons, ih fun other member => uncleared other (List.mem_cons_of_mem _ member)]
    have here := uncleared event List.mem_cons_self
    simp only [List.mem_cons, exists_eq_or_imp]
    cases touched : effect event k with
    | keep => simp [Effect.apply]
    | clear => exact absurd touched here
    | store value => simp [Effect.apply]

/-- `event` stored `value` under `k` and no later event of the log touched it. -/
def LastStored (log : List E) (k : K) (value : V) : Prop :=
  ∃ before event later, log = before ++ event :: later ∧ effect event k = .store value ∧
    ∀ other ∈ later, effect other k = .keep

theorem replay_eq_some {start : K → Option V} {log : List E} {k : K} {value : V} :
    replay effect start log k = some value ↔
      LastStored effect log k value ∨
        (start k = some value ∧ ∀ event ∈ log, effect event k = .keep) := by
  induction log generalizing start with
  | nil => simp [LastStored]
  | cons event rest ih =>
    rw [replay_cons, ih]
    constructor
    · rintro (⟨before, last, later, rfl, stored, quiet⟩ | ⟨held, quiet⟩)
      · exact .inl ⟨event :: before, last, later, rfl, stored, quiet⟩
      · cases here : effect event k with
        | keep =>
          refine .inr ⟨by simpa [here, Effect.apply] using held, ?_⟩
          intro other member
          rcases List.mem_cons.mp member with rfl | member
          · exact here
          · exact quiet other member
        | clear => simp [here, Effect.apply] at held
        | store stored =>
          simp only [here, Effect.apply, Option.some.injEq] at held
          exact .inl ⟨[], event, rest, rfl, held ▸ here, quiet⟩
    · rintro (⟨before, last, later, split, stored, quiet⟩ | ⟨held, quiet⟩)
      · cases before with
        | nil =>
          simp only [List.nil_append, List.cons.injEq] at split
          obtain ⟨rfl, rfl⟩ := split
          exact .inr ⟨by simp [stored, Effect.apply], quiet⟩
        | cons head before =>
          simp only [List.cons_append, List.cons.injEq] at split
          obtain ⟨rfl, rfl⟩ := split
          exact .inl ⟨before, last, later, rfl, stored, quiet⟩
      · refine .inr ⟨?_, fun other member => quiet other (List.mem_cons_of_mem _ member)⟩
        simpa [quiet event List.mem_cons_self, Effect.apply] using held

end
end LastWriter
