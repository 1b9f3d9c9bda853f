import Mathlib.Data.List.Sort
import Mathlib.Logic.Function.Iterate

/-!
# Rounds over a queue

A round looks at the first `limit` entries of a queue and removes those that are ready; an entry
that is not ready keeps its place. An entry is reached when fewer than `limit` of those that stay
are in front of it. Nothing here depends on what the entries are.
-/
namespace Batches

universe u v

section Queue
variable {α : Type u} (ready : α → Bool) (limit : Nat)

/-- Fewer than `limit` entries that stay are in front of an entry that is ready. -/
def Reached (queue : List α) : Prop :=
  ∀ ahead entry behind, queue = ahead ++ entry :: behind → ready entry = true →
    ahead.countP (fun other => !ready other) < limit

/-- The queue behind a round. -/
def afterRound (queue : List α) : List α :=
  (queue.take limit).filter (fun entry => !ready entry) ++ queue.drop limit

variable {ready : α → Bool} {limit : Nat}

theorem reached_of_none {queue : List α} (none : ∀ entry ∈ queue, ready entry = false) :
    Reached ready limit queue := by
  intro ahead entry behind whole isReady
  have stays := none entry (by rw [whole]; exact List.mem_append_right _ List.mem_cons_self)
  rw [isReady] at stays
  cases stays

theorem reached_append {first second : List α} :
    Reached ready limit (first ++ second) ↔
      Reached ready limit first ∧
      ∀ ahead entry behind, second = ahead ++ entry :: behind → ready entry = true →
        first.countP (fun other => !ready other) +
          ahead.countP (fun other => !ready other) < limit := by
  constructor
  · intro reached
    refine ⟨fun ahead entry behind whole isReady => ?_, fun ahead entry behind whole isReady => ?_⟩
    · exact reached ahead entry (behind ++ second) (by rw [whole]; simp) isReady
    · rw [← List.countP_append]
      exact reached (first ++ ahead) entry behind (by rw [whole]; simp) isReady
  · rintro ⟨inFirst, inSecond⟩ ahead entry behind whole isReady
    rcases List.append_eq_append_iff.mp whole with ⟨middle, rfl, rest⟩ | ⟨middle, rfl, rest⟩
    · rw [List.countP_append]
      exact inSecond middle entry behind rest isReady
    · cases middle with
      | nil =>
        have here := inSecond [] entry behind (by simpa using rest.symm) isReady
        simpa using here
      | cons head middle =>
        obtain ⟨rfl, -⟩ := List.cons.inj rest
        exact inFirst ahead _ middle rfl isReady

/-- The entries of one round are reached. -/
theorem reached_of_length {queue : List α} (short : queue.length ≤ limit) :
    Reached ready limit queue := by
  intro ahead entry behind whole _
  have within : ahead.length < queue.length := by
    rw [whole, List.length_append, List.length_cons]
    omega
  exact Nat.lt_of_le_of_lt List.countP_le_length (Nat.lt_of_lt_of_le within short)

theorem reached_afterRound {queue : List α} :
    Reached ready limit (afterRound ready limit queue) ↔ Reached ready limit queue := by
  have whole : queue = queue.take limit ++ queue.drop limit := (List.take_append_drop _ _).symm
  have stay : ((queue.take limit).filter fun entry => !ready entry).countP
      (fun other => !ready other) = (queue.take limit).countP fun other => !ready other := by
    rw [List.countP_filter]
    simp
  conv_rhs => rw [whole]
  rw [afterRound, reached_append, reached_append, stay]
  refine and_congr_left fun _ => iff_of_true ?_ (reached_of_length (List.length_take_le _ _))
  refine reached_of_none fun entry member => ?_
  simpa using (List.mem_filter.mp member).2

/-- A round removes an entry when some entry is ready and all that are ready are reached. -/
theorem exists_ready_take {queue : List α} (reached : Reached ready limit queue)
    (some : ∃ entry ∈ queue, ready entry = true) :
    ∃ entry ∈ queue.take limit, ready entry = true := by
  obtain ⟨entry, found⟩ := Option.isSome_iff_exists.mp (List.find?_isSome.mpr some)
  obtain ⟨isReady, ahead, behind, whole, stay⟩ := List.find?_eq_some_iff_append.mp found
  have counted : ahead.countP (fun other => !ready other) = ahead.length :=
    List.countP_eq_length.mpr stay
  have place := reached ahead entry behind whole isReady
  rw [counted] at place
  refine ⟨entry, ?_, isReady⟩
  rw [whole, List.take_append, List.mem_append]
  obtain ⟨room, exact⟩ := Nat.exists_eq_add_of_lt place
  exact .inr (by rw [show limit - ahead.length = room + 1 by omega]; simp)

theorem countP_afterRound_lt {queue : List α}
    (taken : ∃ entry ∈ queue.take limit, ready entry = true) :
    (afterRound ready limit queue).countP ready < queue.countP ready := by
  have whole : queue.countP ready =
      (queue.take limit).countP ready + (queue.drop limit).countP ready := by
    rw [← List.countP_append, List.take_append_drop]
  have removed : ((queue.take limit).filter fun entry => !ready entry).countP ready = 0 := by
    rw [List.countP_filter, List.countP_eq_zero]
    simp
  have positive : 0 < (queue.take limit).countP ready := List.countP_pos_iff.mpr taken
  rw [afterRound, List.countP_append, removed, whole]
  omega

end Queue

/-! ## Systems -/

section Systems
variable {σ : Type v} {α : Type u}

/-- A system whose step is a round over its queue, unless a conflict in the batch stops it. A step
settles the conflicts of its batch and makes no others. -/
structure Rounds (Valid : σ → Prop) (step : σ → σ) (queue : σ → List α) (ready : σ → α → Bool)
    (limit : Nat) (Free BatchFree : σ → Prop) : Prop where
  valid_step : ∀ state, Valid state → Valid (step state)
  blocked : ∀ state, Valid state → ¬BatchFree state → step state = state
  ready_step : ∀ state, Valid state → ready (step state) = ready state
  queue_step : ∀ state, Valid state → BatchFree state →
    queue (step state) = afterRound (ready state) limit (queue state)
  free_step : ∀ state, Valid state → (Free state ↔ BatchFree state ∧ Free (step state))
  free_none : ∀ state, (∀ entry ∈ queue state, ready state entry = false) → Free state

variable {Valid : σ → Prop} {step : σ → σ} {queue : σ → List α} {ready : σ → α → Bool}
  {limit : Nat} {Free BatchFree : σ → Prop} {state : σ}

theorem Rounds.reached_step (rounds : Rounds Valid step queue ready limit Free BatchFree)
    (valid : Valid state) :
    Reached (ready (step state)) limit (queue (step state)) ↔
      Reached (ready state) limit (queue state) := by
  by_cases free : BatchFree state
  · rw [rounds.queue_step state valid free, rounds.ready_step state valid, reached_afterRound]
  · rw [rounds.blocked state valid free]

/-- The steps remove every ready entry exactly when nothing conflicts and all are reached. -/
theorem Rounds.drained_iff (rounds : Rounds Valid step queue ready limit Free BatchFree)
    (valid : Valid state) :
    (∃ n, ∀ entry ∈ queue (step^[n] state), ready (step^[n] state) entry = false) ↔
      Free state ∧ Reached (ready state) limit (queue state) := by
  constructor
  · rintro ⟨n, drained⟩
    induction n generalizing state with
    | zero => exact ⟨rounds.free_none state drained, reached_of_none drained⟩
    | succ n ih =>
      obtain ⟨free, reached⟩ := ih (rounds.valid_step state valid) drained
      refine ⟨?_, (rounds.reached_step valid).mp reached⟩
      by_cases batch : BatchFree state
      · exact (rounds.free_step state valid).mpr ⟨batch, free⟩
      · rwa [rounds.blocked state valid batch] at free
  · rintro ⟨free, reached⟩
    generalize counted : (queue state).countP (ready state) = left
    induction left using Nat.strong_induction_on generalizing state with
    | h left ih =>
      by_cases some : ∃ entry ∈ queue state, ready state entry = true
      · obtain ⟨batch, free⟩ := (rounds.free_step state valid).mp free
        have fewer := countP_afterRound_lt (exists_ready_take reached some)
        rw [← rounds.queue_step state valid batch, counted] at fewer
        obtain ⟨n, drained⟩ := ih _ fewer (rounds.valid_step state valid) free
          ((rounds.reached_step valid).mpr reached) (by rw [rounds.ready_step state valid])
        exact ⟨n + 1, drained⟩
      · refine ⟨0, fun entry member => ?_⟩
        simpa using fun isReady => some ⟨entry, member, isReady⟩

end Systems

/-! ## Sorted queues -/

section Sorting
variable {α : Type u} {r : α → α → Prop} [DecidableRel r] {keep : α → Bool}

theorem filter_orderedInsert [IsTrans α r] (a : α) : ∀ {queue : List α}, queue.Pairwise r →
    (queue.orderedInsert r a).filter keep =
      if keep a then (queue.filter keep).orderedInsert r a else queue.filter keep
  | [], _ => by by_cases kept : keep a <;> simp [kept]
  | b :: queue, sorted => by
    obtain ⟨first, sorted⟩ := List.pairwise_cons.mp sorted
    by_cases before : r a b
    · rw [List.orderedInsert_cons_of_le r _ before]
      by_cases kept : keep a
      · have ahead : ∀ c ∈ (b :: queue).filter keep, r a c := by
          intro c member
          rcases List.mem_cons.mp (List.mem_filter.mp member).1 with rfl | member
          · exact before
          · exact Trans.trans before (first c member)
        rw [List.filter_cons_of_pos kept, if_pos kept]
        cases shown : (b :: queue).filter keep with
        | nil => rfl
        | cons c rest =>
          rw [List.orderedInsert_cons_of_le r _ (ahead c (by rw [shown]; exact List.mem_cons_self))]
      · rw [List.filter_cons_of_neg (by simpa using kept), if_neg kept]
    · rw [List.orderedInsert_of_not_le r _ before]
      by_cases kept : keep b
      · rw [List.filter_cons_of_pos kept, List.filter_cons_of_pos kept,
          filter_orderedInsert a sorted, List.orderedInsert_of_not_le r _ before]
        split <;> rfl
      · rw [List.filter_cons_of_neg (by simpa using kept),
          List.filter_cons_of_neg (by simpa using kept), filter_orderedInsert a sorted]

/-- A stable sort keeps what is removed from it out of the way. -/
theorem filter_insertionSort [Std.Total r] [IsTrans α r] (queue : List α) :
    (queue.insertionSort r).filter keep = (queue.filter keep).insertionSort r := by
  induction queue with
  | nil => rfl
  | cons a queue ih =>
    rw [List.insertionSort_cons,
      filter_orderedInsert a (List.pairwise_insertionSort r queue), ih]
    by_cases kept : keep a
    · rw [if_pos kept, List.filter_cons_of_pos kept, List.insertionSort_cons]
    · rw [if_neg kept, List.filter_cons_of_neg (by simpa using kept)]

end Sorting
end Batches
