import Mathlib.Data.List.Basic

/-!
# Backtracking patterns

A pattern lists the places behind its matches at a place, in the order in which a backtracking
matcher tries them. A place is what stands in front of it, the last item first, and what stands
behind it.
-/
namespace Backtracking

variable {α : Type*}

abbrev Place (α : Type*) := List α × List α

abbrev Pattern (α : Type*) := Place α → List (Place α)

/-- One item. -/
def one (accepts : α → Bool) : Pattern α
  | (before, item :: rest) => if accepts item then [(item :: before, rest)] else []
  | (_, []) => []

/-- Nothing, where a condition on the place holds. -/
def look (holds : Place α → Bool) : Pattern α := fun place => if holds place then [place] else []

def andThen (first second : Pattern α) : Pattern α := fun place => (first place).flatMap second

def orElse (first second : Pattern α) : Pattern α := fun place => first place ++ second place

/-- A pattern or nothing, the pattern first. -/
def optional (pattern : Pattern α) : Pattern α := fun place => pattern place ++ [place]

def sequence (patterns : List (Pattern α)) : Pattern α :=
  patterns.foldr andThen fun place => [place]

def times (pattern : Pattern α) (count : Nat) : Pattern α :=
  sequence (List.replicate count pattern)

/-- Any number of items, as many as possible first. -/
def manyFrom (accepts : α → Bool) (before : List α) : List α → List (Place α)
  | [] => [(before, [])]
  | item :: rest =>
    if accepts item then manyFrom accepts (item :: before) rest ++ [(before, item :: rest)]
    else [(before, item :: rest)]

def many (accepts : α → Bool) : Pattern α := fun place => manyFrom accepts place.1 place.2

/-- The places of a list from one on. -/
def placesFrom (before : List α) : List α → List (Place α)
  | [] => [(before, [])]
  | item :: rest => (before, item :: rest) :: placesFrom (item :: before) rest

/-- The pattern matches somewhere. -/
def search (pattern : Pattern α) (items : List α) : Bool :=
  (placesFrom [] items).any fun place => !(pattern place).isEmpty

/-- The items outside of the matches and the matches, from left to right; `skip` more items belong
to the match before. A match of nothing is passed over. -/
def cut (pattern : Pattern α) : Nat → List α → List α → List (α ⊕ List α)
  | _, _, [] => []
  | skip + 1, before, item :: rest => cut pattern skip (item :: before) rest
  | 0, before, item :: rest =>
    match (pattern (before, item :: rest)).head? with
    | none => .inl item :: cut pattern 0 (item :: before) rest
    | some (_, behind) =>
      if behind.length ≤ rest.length then
        .inr ((item :: rest).take (rest.length + 1 - behind.length)) ::
          cut pattern (rest.length - behind.length) (item :: before) rest
      else .inl item :: cut pattern 0 (item :: before) rest

/-- The matches, from left to right. -/
def findIter (pattern : Pattern α) (items : List α) : List (List α) :=
  (cut pattern 0 [] items).filterMap Sum.getRight?

/-- The list without its matches. -/
def removed (pattern : Pattern α) (items : List α) : List α :=
  (cut pattern 0 [] items).filterMap Sum.getLeft?

/-! ## What the parts match -/

section Parts
variable {accepts : α → Bool} {before rest : List α} {place : Place α}

theorem mem_one : place ∈ one accepts (before, rest) ↔
    ∃ item behind, rest = item :: behind ∧ accepts item = true ∧
      place = (item :: before, behind) := by
  cases rest with
  | nil => simp [one]
  | cons item rest =>
    rw [one]
    split
    next fits => simp [fits]
    next other => simp [other]

theorem mem_look {holds : Place α → Bool} {here : Place α} :
    place ∈ look holds here ↔ holds here = true ∧ place = here := by
  rw [look]
  split
  next fits => simp [fits]
  next other => simp [other]

theorem mem_andThen {first second : Pattern α} {here : Place α} :
    place ∈ andThen first second here ↔ ∃ between ∈ first here, place ∈ second between :=
  List.mem_flatMap

theorem mem_sequence_cons {first : Pattern α} {patterns : List (Pattern α)} {here : Place α} :
    place ∈ sequence (first :: patterns) here ↔
      ∃ between ∈ first here, place ∈ sequence patterns between :=
  mem_andThen

theorem mem_sequence_nil {here : Place α} : place ∈ sequence [] here ↔ place = here :=
  List.mem_singleton

theorem mem_many : place ∈ many accepts (before, rest) ↔
    ∃ run behind, rest = run ++ behind ∧ (∀ item ∈ run, accepts item = true) ∧
      place = (run.reverse ++ before, behind) := by
  change place ∈ manyFrom accepts before rest ↔ _
  induction rest generalizing before with
  | nil =>
    constructor
    · intro member
      obtain rfl := List.mem_singleton.mp member
      exact ⟨[], [], rfl, List.forall_mem_nil _, rfl⟩
    · rintro ⟨run, behind, whole, -, rfl⟩
      obtain ⟨rfl, rfl⟩ := List.append_eq_nil_iff.mp whole.symm
      exact List.mem_cons_self
  | cons item rest ih =>
    rw [manyFrom]
    constructor
    · intro member
      split at member
      next fits =>
        rcases List.mem_append.mp member with later | here
        · obtain ⟨run, behind, rfl, all, rfl⟩ := ih.mp later
          exact ⟨item :: run, behind, rfl, List.forall_mem_cons.mpr ⟨fits, all⟩, by simp⟩
        · obtain rfl := List.mem_singleton.mp here
          exact ⟨[], item :: rest, rfl, List.forall_mem_nil _, rfl⟩
      next =>
        obtain rfl := List.mem_singleton.mp member
        exact ⟨[], item :: rest, rfl, List.forall_mem_nil _, rfl⟩
    · rintro ⟨run, behind, whole, all, rfl⟩
      cases run with
      | nil =>
        rw [List.nil_append] at whole
        subst whole
        split
        · exact List.mem_append_right _ (List.mem_singleton.mpr rfl)
        · exact List.mem_singleton.mpr rfl
      | cons first run =>
        obtain ⟨rfl, rfl⟩ := List.cons.inj whole
        obtain ⟨fits, all⟩ := List.forall_mem_cons.mp all
        rw [if_pos fits]
        refine List.mem_append_left _ (ih.mpr ⟨run, behind, rfl, all, ?_⟩)
        simp

end Parts

theorem mem_placesFrom {before items : List α} {place : Place α} :
    place ∈ placesFrom before items ↔
      ∃ run behind, items = run ++ behind ∧ place = (run.reverse ++ before, behind) := by
  induction items generalizing before with
  | nil =>
    constructor
    · intro member
      obtain rfl := List.mem_singleton.mp member
      exact ⟨[], [], rfl, rfl⟩
    · rintro ⟨run, behind, whole, rfl⟩
      obtain ⟨rfl, rfl⟩ := List.append_eq_nil_iff.mp whole.symm
      exact List.mem_cons_self
  | cons item rest ih =>
    rw [placesFrom, List.mem_cons, ih]
    constructor
    · rintro (rfl | ⟨run, behind, rfl, rfl⟩)
      · exact ⟨[], item :: rest, rfl, rfl⟩
      · exact ⟨item :: run, behind, rfl, by simp⟩
    · rintro ⟨run, behind, whole, rfl⟩
      cases run with
      | nil =>
        rw [List.nil_append] at whole
        exact .inl (by rw [whole]; rfl)
      | cons first run =>
        obtain ⟨rfl, rfl⟩ := List.cons.inj whole
        exact .inr ⟨run, behind, rfl, by simp⟩

/-- A search finds a match at one of the places. -/
theorem search_iff {pattern : Pattern α} {items : List α} : search pattern items = true ↔
    ∃ before rest place, items = before ++ rest ∧ place ∈ pattern (before.reverse, rest) := by
  rw [search, List.any_eq_true]
  constructor
  · rintro ⟨here, listed, some⟩
    obtain ⟨before, rest, rfl, rfl⟩ := mem_placesFrom.mp listed
    rw [List.append_nil] at some
    have shown : pattern (before.reverse, rest) ≠ [] := by simpa using some
    obtain ⟨place, member⟩ := List.exists_mem_of_ne_nil _ shown
    exact ⟨before, rest, place, rfl, member⟩
  · rintro ⟨before, rest, place, rfl, member⟩
    refine ⟨(before.reverse, rest), mem_placesFrom.mpr ⟨before, rest, rfl, by simp⟩, ?_⟩
    have shown : pattern (before.reverse, rest) ≠ [] := List.ne_nil_of_mem member
    simpa using shown

end Backtracking
