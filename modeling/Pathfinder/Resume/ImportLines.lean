import Pathfinder.Resume.ImportCoverage

/-!
# What stands on the lines of an import

A line in which no header stands is a comment, or blank but for its items and layout. So every
place outside the two header lines is accounted for.
-/
namespace Pathfinder
open Scanning Trimming

/-! ## Lines -/

/-- What stands behind the items that are taken. -/
theorem getElem?_takeWhile {α : Type} (p : α → Bool) (items : List α) :
    items[(items.takeWhile p).length]? = (items.dropWhile p).head? := by
  have next := @List.getElem?_append_right _ (items.takeWhile p) (items.dropWhile p) _
    (Nat.le_refl _)
  rwa [List.takeWhile_append_dropWhile, Nat.sub_self, ← List.head?_eq_getElem?] at next

section Lines
variable {body : Text} {start : Nat}

/-- A marked line is bounded by line feeds, or by the ends of the body. -/
theorem lineRange_start (inside : start ≤ body.length) : (lineRange body start).start = 0 ∨
    body[(lineRange body start).start - 1]? = some '\n' := by
  have split := List.rdropWhile_append_rtakeWhile (p := fun c : Char => c ≠ '\n')
    (l := body.take start)
  have width := congrArg List.length split
  rw [List.length_append, List.length_take, Nat.min_eq_left inside] at width
  by_cases none : (body.take start).rdropWhile (fun c => c ≠ '\n') = []
  · rw [none, List.length_nil] at width
    exact .inl (by simp only [lineRange]; omega)
  · have last := List.rdropWhile_last_not _ _ none
    have positive := List.length_pos_iff.mpr none
    refine .inr ?_
    have place : (lineRange body start).start - 1 =
        ((body.take start).rdropWhile fun c => c ≠ '\n').length - 1 := by
      simp only [lineRange]
      omega
    have inTake : (lineRange body start).start - 1 < start := by omega
    rw [← List.getElem?_take_of_lt inTake, ← split, place,
      List.getElem?_append_left (by omega), ← List.getLast?_eq_getElem?,
      List.getLast?_eq_some_getLast none]
    simpa using last

theorem lineRange_stop : body.length ≤ (lineRange body start).stop ∨
    body[(lineRange body start).stop]? = some '\n' := by
  have here : body[(lineRange body start).stop]? =
      ((body.drop start).dropWhile fun c => c ≠ '\n').head? := by
    rw [← getElem?_takeWhile, List.getElem?_drop]
    rfl
  cases rest : (body.drop start).dropWhile fun c => c ≠ '\n' with
  | nil =>
    rw [rest, List.head?_nil, List.getElem?_eq_none_iff] at here
    exact .inl here
  | cons c more =>
    have stopped := List.head?_dropWhile_not (fun c : Char => c ≠ '\n') (body.drop start)
    rw [rest] at here stopped
    refine .inr (here.trans ?_)
    simpa using stopped

variable {entry : Nat × Text} (member : entry ∈ placed 0 (splitlinesKeepends body))
include member

theorem line_char {index : Nat} (inside : index < entry.2.length) :
    body[entry.1 + index]? = entry.2[index]? := by
  have here := (mem_placed member).2.2 index inside
  rwa [splitlinesKeepends_flatten, Nat.sub_zero] at here

theorem line_newline {index : Nat} (inside : index < entry.2.length)
    (here : body[entry.1 + index]? = some '\n') : index + 1 = entry.2.length :=
  splitlinesKeepends_newline (mem_placed member).2.1 (line_char member inside ▸ here)

/-- A line with a visible place outside a marked line is outside of it. -/
theorem line_outside {index : Nat} (inside : index < entry.2.length)
    (visible : body[entry.1 + index]? ≠ some '\n') (known : start ≤ body.length)
    (outside : (lineRange body start).holds (entry.1 + index) = false) {other : Nat}
    (inside' : other < entry.2.length) :
    (lineRange body start).holds (entry.1 + other) = false := by
  rw [Bool.eq_false_iff, Ne, holds_iff] at outside ⊢
  rintro ⟨behind, before⟩
  by_cases early : entry.1 + index < (lineRange body start).start
  · rcases lineRange_start known with zero | feed
    · omega
    · have place : (lineRange body start).start - 1 =
          entry.1 + ((lineRange body start).start - 1 - entry.1) := by omega
      rw [place] at feed
      have last := line_newline member (by omega) feed
      omega
  · have real := (List.getElem?_eq_some_iff.mp
      ((line_char member inside).trans (List.getElem?_eq_getElem inside))).1
    rcases @lineRange_stop body start with whole | feed
    · omega
    · have place : (lineRange body start).stop =
          entry.1 + ((lineRange body start).stop - entry.1) := by omega
      rw [place] at feed
      have last := line_newline member (by omega) feed
      have same : (lineRange body start).stop - entry.1 = index := by omega
      exact visible (same ▸ feed)

end Lines

/-! ## Coverage -/

theorem remainder_at {marks : List MarkedRange} {offset index : Nat} {read : Text} {c : Char}
    (here : (remainder marks offset read)[index]? = some c) :
    ∃ d, read[index]? = some d ∧ (c = if covered marks (offset + index) then ' ' else d) := by
  rw [remainder, List.getElem?_mapIdx] at here
  obtain ⟨d, known, made⟩ := Option.map_eq_some_iff.mp here
  exact ⟨d, known, made.symm⟩

theorem opensComment_of {body : Text} {place : Nat} (here : body[place]? = some '%')
    (before : place = 0 ∨ body[place - 1]? ≠ some '\\') : opensComment body place = true := by
  have none : (body.take place).rtakeWhile (fun c => c = '\\') = [] := by
    rw [List.rtakeWhile_eq_nil_iff]
    intro nonempty backslash
    have last := List.getLast?_eq_some_getLast nonempty
    rw [List.getLast?_eq_getElem?, List.length_take] at last
    have inside := (List.getElem?_eq_some_iff.mp here).1
    rw [Nat.min_eq_left (Nat.le_of_lt inside)] at last
    rcases before with zero | other
    · simp [zero] at nonempty
    · have positive : 0 < place := by
        rcases Nat.eq_zero_or_pos place with zero | positive
        · simp [zero] at nonempty
        · exact positive
      rw [List.getElem?_take_of_lt (by omega)] at last
      rw [of_decide_eq_true backslash] at last
      exact other last
  simp [opensComment, here, none]

theorem inComment_of {body : Text} {opening place : Nat} (opens : opensComment body opening = true)
    (behind : opening ≤ place)
    (same : ∀ index, opening ≤ index → index < place → body[index]? ≠ some '\n') :
    inComment body place = true := by
  rw [inComment, List.any_eq_true]
  refine ⟨opening, List.mem_range.mpr (Nat.lt_succ_of_le behind), ?_⟩
  rw [opens, Bool.true_and, Bool.not_eq_true', Bool.eq_false_iff, Ne, List.contains_iff_mem]
  intro feed
  obtain ⟨index, inside, here⟩ := List.getElem_of_mem feed
  have found : ((body.take place).drop opening)[index]? = some '\n' := by
    rw [List.getElem?_eq_getElem inside, here]
  rw [List.length_drop, List.length_take] at inside
  rw [List.getElem?_drop, List.getElem?_take_of_lt (by omega)] at found
  exact same _ (Nat.le_add_right _ _) (by omega) found

theorem stripped_accounted {c : Char} (out : stripped c = true) :
    (isPythonSpace c || !notBrace c) = true := by
  simp only [stripped, Bool.or_eq_true, decide_eq_true_eq] at out
  rcases out with ((((rfl | rfl) | rfl) | rfl) | rfl) | rfl <;> decide

theorem coverage_line {body : Text} {marks : List MarkedRange} {bodyStart : Nat}
    (checked : checkBodyCoverage body marks bodyStart = .ok ()) {entry : Nat × Text}
    (member : entry ∈ placed 0 (splitlinesKeepends body)) :
    commentLine (remainder marks entry.1 entry.2) = true ∨
      trim stripped (unmatched layoutLength (remainder marks entry.1 entry.2)) = [] := by
  rw [checkBodyCoverage] at checked
  split at checked
  next none =>
    have passes := List.findSome?_eq_none_iff.mp none entry member
    rw [Option.map_eq_none_iff, uncovered] at passes
    split at passes
    next comment => exact .inl comment
    split at passes
    next blank => exact .inr blank
    · cases passes
  · cases checked

namespace ImportedBody
variable {imported : ImportedBody} {entry : Nat × Text} {index : Nat}

/-- In front of a percent sign behind blanks and items stands no backslash. -/
theorem before_percent (read : BodyRead imported.body imported)
    (member : entry ∈ placed 0 (splitlinesKeepends imported.body)) (inside : index < entry.2.length)
    (blank : ∀ c ∈ (remainder imported.itemRanges entry.1 entry.2).take index,
      isPythonSpace c = true)
    (unmarked : covered imported.itemRanges (entry.1 + index) = false) :
    entry.1 + index = 0 ∨ imported.body[entry.1 + index - 1]? ≠ some '\\' := by
  rcases Nat.eq_zero_or_eq_succ_pred index with rfl | within
  · obtain ⟨before, behind, whole, start⟩ := placed_behind member
    rcases Nat.eq_zero_or_pos entry.1 with zero | positive
    · exact .inl (by omega)
    · refine .inr fun backslash => ?_
      have flat := splitlinesKeepends_flatten imported.body
      rw [whole, List.flatten_append] at flat
      rw [← flat, List.getElem?_append_left (by omega)] at backslash
      have place : entry.1 + 0 - 1 = before.flatten.length - 1 := by omega
      rw [place, ← List.getLast?_eq_getElem?] at backslash
      exact absurd (splitlinesKeepends_before whole _ backslash) (by decide)
  · have inside' : index.pred < entry.2.length := by omega
    have place : entry.1 + index - 1 = entry.1 + index.pred := by omega
    have real : index.pred < (remainder imported.itemRanges entry.1 entry.2).length :=
      List.length_mapIdx.symm ▸ inside'
    obtain ⟨d, known, made⟩ := remainder_at (List.getElem?_eq_getElem real)
    refine .inr fun backslash => ?_
    rw [place] at backslash
    cases marked : covered imported.itemRanges (entry.1 + index.pred) with
    | true =>
      obtain ⟨range, listed, holds⟩ := List.any_eq_true.mp marked
      have out := List.any_eq_false.mp unmarked range listed
      rw [holds_iff] at holds out
      have stop : range.stop - 1 = entry.1 + index.pred := by omega
      have closing := range_closing read listed
      rw [stop, backslash] at closing
      exact absurd closing (by decide)
    | false =>
      rw [marked] at made
      rw [line_char member inside', known] at backslash
      have space := blank _ (List.mem_take_iff_getElem.mpr ⟨index.pred, by omega, rfl⟩)
      rw [made, if_neg Bool.false_ne_true, Option.some.inj backslash] at space
      exact absurd space (by decide)

/-- On a line that is a comment, or blank but for layout, every visible place is accounted for. -/
theorem accounted_line (read : BodyRead imported.body imported)
    (member : entry ∈ placed 0 (splitlinesKeepends imported.body)) (inside : index < entry.2.length)
    (passes : commentLine (remainder imported.itemRanges entry.1 entry.2) = true ∨
      trim stripped (unmatched layoutLength (remainder imported.itemRanges entry.1 entry.2)) = [])
    (unmarked : covered imported.itemRanges (entry.1 + index) = false) :
    imported.accounted (entry.1 + index) = true := by
  have here := line_char member inside
  have width : (remainder imported.itemRanges entry.1 entry.2).length = entry.2.length :=
    List.length_mapIdx
  rcases passes with comment | layout
  · have percent := (getElem?_takeWhile _ _).trans (of_decide_eq_true comment)
    generalize lead : ((remainder imported.itemRanges entry.1 entry.2).takeWhile
      isPythonSpace).length = opening at percent
    have blank : ∀ c ∈ (remainder imported.itemRanges entry.1 entry.2).take opening,
        isPythonSpace c = true := by
      have taken := List.prefix_iff_eq_take.mp
        (List.takeWhile_prefix isPythonSpace (l := remainder imported.itemRanges entry.1 entry.2))
      rw [lead] at taken
      rw [← taken]
      exact fun c => List.mem_takeWhile_imp
    have opened := (List.getElem?_eq_some_iff.mp percent).1
    rw [width] at opened
    obtain ⟨d, known, made⟩ := remainder_at percent
    have uncovered : covered imported.itemRanges (entry.1 + opening) = false := by
      by_contra marked
      rw [if_pos (by simpa using marked)] at made
      exact absurd made (by decide)
    rw [uncovered, if_neg Bool.false_ne_true] at made
    subst made
    by_cases early : index < opening
    · have real : index < (remainder imported.itemRanges entry.1 entry.2).length := width ▸ inside
      obtain ⟨d, known, made⟩ := remainder_at (List.getElem?_eq_getElem real)
      have space := blank _ (List.mem_take_iff_getElem.mpr ⟨index, by omega, rfl⟩)
      rw [made, unmarked, if_neg Bool.false_ne_true] at space
      exact accounted_blank (by rw [here, known]; simp [space])
    · have opens := opensComment_of ((line_char member opened).trans known)
        (before_percent read member opened blank uncovered)
      refine accounted_comment (inComment_of opens (by omega) fun place behind before feed => ?_)
      have same : entry.1 + (place - entry.1) = place := by omega
      have last := line_newline member (by omega) (same.symm ▸ feed)
      omega
  · rw [trim_eq_nil] at layout
    have marks := congrArg (fun rest => rest[index]?)
      (@matchMarks_items _ layoutLength (remainder imported.itemRanges entry.1 entry.2) 0)
    have real : index < (remainder imported.itemRanges entry.1 entry.2).length := width ▸ inside
    simp only [List.getElem?_map] at marks
    rw [List.getElem?_eq_getElem real] at marks
    obtain ⟨⟨c, matched⟩, found, first⟩ := Option.map_eq_some_iff.mp marks
    cases matched with
    | true =>
      refine accounted_layout (List.any_eq_true.mpr ⟨entry, member, ?_⟩)
      simp [found]
    | false =>
      obtain ⟨d, known, made⟩ := remainder_at (List.getElem?_eq_getElem real)
      rw [unmarked] at made
      have out := layout _ (mem_unmatched found)
      rw [show c = d from first.trans made] at out
      refine accounted_blank ?_
      rw [here, known]
      exact stripped_accounted out

end ImportedBody

namespace ImportedBody
variable {imported : ImportedBody} {place : Nat}

/-- Outside the two header lines everything is accounted for. -/
theorem accounted_outside (read : BodyRead imported.body imported)
    (inside : place < imported.body.length)
    (name : (lineRange imported.body imported.displayName.start).holds place = false)
    (contact : (lineRange imported.body imported.contactLine.start).holds place = false) :
    imported.accounted place = true := by
  cases marked : covered imported.itemRanges place with
  | true =>
    obtain ⟨range, listed, holds⟩ := List.any_eq_true.mp marked
    exact accounted_range read listed holds
  | false =>
    have real : place < 0 + (splitlinesKeepends imported.body).flatten.length := by
      rw [splitlinesKeepends_flatten, Nat.zero_add]
      exact inside
    obtain ⟨entry, member, behind, before⟩ := placed_at (Nat.zero_le place) real
    obtain ⟨index, rfl⟩ := Nat.exists_eq_add_of_le behind
    have within : index < entry.2.length := by omega
    by_cases feed : imported.body[entry.1 + index]? = some '\n'
    · exact accounted_blank (by rw [feed]; rfl)
    have known {keeps : Char → Bool} {found : HeaderMatch} {width : Nat}
        (stands : HeaderAt imported.body keeps found width) :
        found.start ≤ imported.body.length := by
      have shown := stands.nonempty
      rw [stands.group] at shown
      have more := stands.head
      by_contra long
      rw [List.drop_eq_nil_of_le (by omega)] at shown
      exact shown rfl
    have same : remainder imported.marks entry.1 entry.2 =
        remainder imported.itemRanges entry.1 entry.2 := by
      rw [remainder, remainder, List.mapIdx_eq_mapIdx_iff]
      intro other inside'
      have outside := line_outside member within feed
        (known (headerMatch_name read.displayName).2) name inside'
      have outside' := line_outside member within feed
        (known (headerMatch_contact read.contactLine).2) contact inside'
      have covers : covered imported.marks (entry.1 + other) =
          covered imported.itemRanges (entry.1 + other) := by
        simp only [covered, marks, List.any_cons, outside, outside', Bool.false_or]
      rw [covers]
    have passes := coverage_line read.coverage member
    rw [same] at passes
    exact accounted_line read member within passes marked

end ImportedBody

end Pathfinder
