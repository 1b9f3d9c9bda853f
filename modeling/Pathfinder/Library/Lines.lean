import Mathlib.Data.List.Infix
import Mathlib.Data.List.Basic

/-!
# Joined lines and what a cut of them shows

Segments joined by a separator that none of them holds. A beginning of the join shows
beginnings of segments, each in its place; the whole join shows the segments themselves.
-/
namespace Lines

universe u
variable {α : Type u} {separator : α} {segments : List (List α)}

theorem intercalate_cons_cons (first second : List α) (rest : List (List α)) :
    [separator].intercalate (first :: second :: rest) =
      first ++ separator :: [separator].intercalate (second :: rest) := by
  simp [List.intercalate, List.intersperse]

/-- What the separator and the segments have, and joins keep, the whole join has. -/
theorem intercalate_closed {P : List α → Prop} (nil : P [])
    (append : ∀ first second, P first → P second → P (first ++ second)) {between : List α}
    (separates : P between) (each : ∀ segment ∈ segments, P segment) :
    P (between.intercalate segments) := by
  induction segments with
  | nil => simpa using nil
  | cons first rest ih =>
    have here := each first List.mem_cons_self
    have joined := ih fun segment member => each segment (List.mem_cons_of_mem first member)
    cases rest with
    | nil => simpa using here
    | cons second rest =>
      have whole : between.intercalate (first :: second :: rest) =
          first ++ (between ++ between.intercalate (second :: rest)) := by
        simp [List.intercalate, List.intersperse]
      rw [whole]
      exact append _ _ here (append _ _ separates joined)

/-- A segment stands in the join. -/
theorem infix_intercalate {segment : List α} (member : segment ∈ segments) :
    segment <:+: [separator].intercalate segments := by
  induction segments with
  | nil => cases member
  | cons first rest ih =>
    cases rest with
    | nil =>
      obtain rfl := List.mem_singleton.mp member
      simp
    | cons second rest =>
      rw [intercalate_cons_cons]
      rcases List.mem_cons.mp member with rfl | behind
      · exact (List.prefix_append _ _).isInfix
      · exact (ih behind).trans ((List.suffix_cons _ _).trans (List.suffix_append _ _)).isInfix

/-- What is read between separators stands in the text. -/
theorem infix_of_mem_splitOn [DecidableEq α] {text segment : List α}
    (member : segment ∈ text.splitOn separator) : segment <:+: text := by
  have inside := @infix_intercalate _ separator _ _ member
  rwa [List.intercalate_splitOn] at inside

/-- A beginning of two parts and a separator either stops in the first or goes behind the
separator. -/
theorem prefix_append_cons {shown first behind : List α}
    (cut : shown <+: first ++ separator :: behind) :
    shown <+: first ∨ ∃ later, shown = first ++ separator :: later ∧ later <+: behind := by
  induction first generalizing shown with
  | nil =>
    cases shown with
    | nil => exact .inl (List.prefix_refl [])
    | cons head tail =>
      obtain ⟨rfl, tail_cut⟩ := List.cons_prefix_cons.mp cut
      exact .inr ⟨tail, rfl, tail_cut⟩
  | cons x rest ih =>
    cases shown with
    | nil => exact .inl List.nil_prefix
    | cons head tail =>
      obtain ⟨rfl, tail_cut⟩ := List.cons_prefix_cons.mp cut
      rcases ih tail_cut with inside | ⟨later, rfl, behind_cut⟩
      · exact .inl (List.cons_prefix_cons.mpr ⟨rfl, inside⟩)
      · exact .inr ⟨later, rfl, behind_cut⟩

/-- What a beginning of the join shows at a place is a beginning of the segment there. -/
theorem segment_of_beginning [DecidableEq α] {shown : List α}
    (free : ∀ segment ∈ segments, separator ∉ segment)
    (cut : shown <+: [separator].intercalate segments) {place : Nat} {part : List α}
    (here : (shown.splitOn separator)[place]? = some part) (nonempty : segments ≠ []) :
    ∃ segment, segments[place]? = some segment ∧ part <+: segment := by
  induction segments generalizing shown place with
  | nil => exact absurd rfl nonempty
  | cons first rest ih =>
    have alone : ∀ {text : List α}, text <+: first → separator ∉ text := fun inside member =>
      free first List.mem_cons_self (inside.subset member)
    have single : shown <+: first →
        ∃ segment, (first :: rest)[place]? = some segment ∧ part <+: segment := by
      intro inside
      rw [List.splitOn_eq_singleton (alone inside)] at here
      cases place with
      | zero =>
        cases here
        exact ⟨first, rfl, inside⟩
      | succ place => cases here
    cases rest with
    | nil => exact single (by simpa using cut)
    | cons second rest =>
      rw [intercalate_cons_cons] at cut
      rcases prefix_append_cons cut with inside | ⟨later, rfl, behind⟩
      · exact single inside
      · rw [List.splitOn_append_cons_of_beq _ _ (beq_self_eq_true separator),
          List.splitOn_eq_singleton (alone (List.prefix_refl _))] at here
        cases place with
        | zero =>
          cases here
          exact ⟨_, rfl, List.prefix_refl _⟩
        | succ place =>
          exact ih (fun segment member => free segment (List.mem_cons_of_mem _ member)) behind
            here (by simp)

/-- What is free of the separator stands on one side of it. -/
theorem infix_append_cons {part first rest : List α} (free : separator ∉ part) :
    part <:+: first ++ separator :: rest ↔ part <:+: first ∨ part <:+: rest := by
  constructor
  · rintro ⟨before, behind, joined⟩
    rw [List.append_assoc] at joined
    rcases List.append_eq_append_iff.mp joined with ⟨kept, rfl, split⟩ | ⟨kept, rfl, split⟩
    · rcases List.append_eq_append_iff.mp split with ⟨tail, rfl, -⟩ | ⟨tail, rfl, here⟩
      · exact .inl ⟨before, tail, by simp⟩
      · cases tail with
        | nil => exact .inl (by simpa using (List.suffix_append before kept).isInfix)
        | cons x tail =>
          obtain ⟨rfl, -⟩ := List.cons_eq_cons.mp here
          exact absurd (by simp) free
    · cases kept with
      | nil =>
        cases part with
        | nil => exact .inl List.nil_infix
        | cons x part =>
          obtain ⟨rfl, -⟩ := List.cons_eq_cons.mp split
          exact absurd List.mem_cons_self free
      | cons x kept =>
        obtain ⟨-, rfl⟩ := List.cons_eq_cons.mp split
        exact .inr ⟨kept, behind, by simp⟩
  · rintro (inside | inside)
    · exact inside.trans (List.prefix_append _ _).isInfix
    · exact inside.trans ((List.suffix_cons _ _).trans (List.suffix_append _ _)).isInfix

/-- What is free of the separator stands in the join exactly where it stands in a segment. -/
theorem infix_join_iff {part : List α} (free : separator ∉ part) (shown : part ≠ []) :
    part <:+: [separator].intercalate segments ↔ ∃ segment ∈ segments, part <:+: segment := by
  induction segments with
  | nil => simp [List.intercalate, shown]
  | cons first rest ih =>
    cases rest with
    | nil => simp
    | cons second rest =>
      rw [intercalate_cons_cons, infix_append_cons free, ih]
      simp only [List.mem_cons, exists_eq_or_imp]

/-- Heads without the separator and what follows it are compared one by one. -/
theorem prefix_of_separated {first second behind rest : List α} (free : separator ∉ first)
    (alsoFree : separator ∉ second)
    (cut : first ++ separator :: behind <+: second ++ separator :: rest) :
    first = second ∧ behind <+: rest := by
  induction first generalizing second with
  | nil =>
    cases second with
    | nil => exact ⟨rfl, (List.cons_prefix_cons.mp cut).2⟩
    | cons y tail =>
      obtain ⟨rfl, -⟩ := List.cons_prefix_cons.mp cut
      exact absurd List.mem_cons_self alsoFree
  | cons x rest' ih =>
    cases second with
    | nil =>
      obtain ⟨rfl, -⟩ := List.cons_prefix_cons.mp cut
      exact absurd List.mem_cons_self free
    | cons y tail =>
      obtain ⟨rfl, tails⟩ := List.cons_prefix_cons.mp cut
      obtain ⟨rfl, inside⟩ := ih (fun member => free (List.mem_cons_of_mem _ member))
        (fun member => alsoFree (List.mem_cons_of_mem _ member)) tails
      exact ⟨rfl, inside⟩

/-- The whole join shows each segment in its place. -/
theorem segment_of_join [DecidableEq α] (free : ∀ segment ∈ segments, separator ∉ segment)
    (nonempty : segments ≠ []) :
    ([separator].intercalate segments).splitOn separator = segments :=
  List.splitOn_intercalate separator free nonempty

/-- A part that does not end like the whole lies before the last element. -/
theorem infix_of_infix_concat {part whole : List α} {last : α} (inside : part <:+: whole ++ [last])
    (other : part.getLast? ≠ some last) : part <:+: whole := by
  obtain ⟨before, behind, joined⟩ := inside
  rcases List.eq_nil_or_concat' behind with rfl | ⟨kept, final, rfl⟩
  · rw [List.append_nil] at joined
    rcases List.eq_nil_or_concat' part with rfl | ⟨start, final, rfl⟩
    · exact List.nil_infix
    · rw [← List.append_assoc] at joined
      have same := List.singleton_inj.mp (List.append_inj_right' joined rfl)
      exact absurd (same ▸ List.getLast?_concat) other
  · rw [← List.append_assoc] at joined
    exact ⟨before, kept, List.append_inj_left' joined rfl⟩

/-! ## Cutting at separators -/

/-- The pieces of a changed list are the changed pieces. -/
theorem splitOnP_map {β : Type*} (change : α → β) (separates : β → Bool)
    (items : List α) :
    (items.map change).splitOnP separates =
      (items.splitOnP (separates ∘ change)).map (List.map change) := by
  induction items with
  | nil => rfl
  | cons item rest ih =>
    rw [List.map_cons, List.splitOnP_cons_eq_if_modifyHead, List.splitOnP_cons_eq_if_modifyHead, ih]
    simp only [Function.comp_apply]
    split
    · rfl
    · cases rest.splitOnP (separates ∘ change) with
      | nil => rfl
      | cons first more => rfl

/-- Where no separator is left out, the pieces are those of the whole list. -/
theorem splitOnP_filter {keep separates : α → Bool}
    (keeps : ∀ item, separates item = true → keep item = true) (items : List α) :
    (items.filter keep).splitOnP separates =
      (items.splitOnP separates).map (List.filter keep) := by
  induction items with
  | nil => rfl
  | cons item rest ih =>
    rw [List.splitOnP_cons_eq_if_modifyHead]
    by_cases kept : keep item = true
    · rw [List.filter_cons_of_pos kept, List.splitOnP_cons_eq_if_modifyHead, ih]
      split
      · rfl
      · cases rest.splitOnP separates with
        | nil => rfl
        | cons first more => simp [kept]
    · have inside : ¬ separates item = true := fun separator => kept (keeps item separator)
      rw [List.filter_cons_of_neg kept, ih, if_neg inside]
      cases rest.splitOnP separates with
      | nil => rfl
      | cons first more => simp [kept]

theorem flatten_splitOnP (separates : α → Bool) (items : List α) :
    (items.splitOnP separates).flatten = items.filter fun item => !separates item := by
  induction items with
  | nil => rfl
  | cons item rest ih =>
    rw [List.splitOnP_cons_eq_if_modifyHead]
    split
    next separator =>
      rw [List.flatten_cons, List.nil_append, ih, List.filter_cons_of_neg (by simpa using separator)]
    next inside =>
      have nonempty := List.splitOnP_ne_nil separates rest
      rw [List.filter_cons_of_pos (by simpa using inside), ← ih]
      cases pieces : rest.splitOnP separates with
      | nil => exact absurd pieces nonempty
      | cons first more => rfl

/-- Every piece stands in the list, the first one at its beginning. -/
theorem splitOnP_infix (separates : α → Bool) (items : List α) :
    ∃ first more, items.splitOnP separates = first :: more ∧ first <+: items ∧
      ∀ piece ∈ more, piece <:+: items := by
  induction items with
  | nil => exact ⟨[], [], rfl, List.nil_prefix, nofun⟩
  | cons item rest ih =>
    obtain ⟨first, more, pieces, begins, inside⟩ := ih
    have wider : ∀ piece ∈ more, piece <:+: item :: rest := fun piece member =>
      (inside piece member).trans (List.suffix_cons item rest).isInfix
    rw [List.splitOnP_cons_eq_if_modifyHead, pieces]
    split
    · exact ⟨[], first :: more, rfl, List.nil_prefix, List.forall_mem_cons.mpr
        ⟨begins.isInfix.trans (List.suffix_cons item rest).isInfix, wider⟩⟩
    · exact ⟨item :: first, more, rfl, (List.prefix_cons_inj item).mpr begins, wider⟩

theorem infix_of_mem_splitOnP {separates : α → Bool} {items piece : List α}
    (member : piece ∈ items.splitOnP separates) : piece <:+: items := by
  obtain ⟨first, more, pieces, begins, inside⟩ := splitOnP_infix separates items
  rw [pieces] at member
  rcases List.mem_cons.mp member with rfl | later
  · exact begins.isInfix
  · exact inside piece later

end Lines
