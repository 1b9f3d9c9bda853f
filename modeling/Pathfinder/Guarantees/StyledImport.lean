import Pathfinder.Resume.RoundTrip

/-!
# What an import of styled TeX says

The importer trims every group before it joins the texts, so a fragment is read as what it
denotes exactly where no blank at the edge of a group stands between two words.
-/
namespace Pathfinder
open Trimming

/-- The value has these characters, and emphasises the bold ones. -/
def SaysMarks (marks : List Mark) (value : StyledText) : Prop :=
  value.text = marks.map Mark.char ∧
    ∀ place mark, marks[place]? = some mark → covers value.emphasis place = mark.bold

/-- The value says what the fragment denotes, trimmed at its ends. -/
def SaysFragment (fragment : Text) (value : StyledText) : Prop :=
  ∃ marks, decode fragment = some marks ∧ SaysMarks (trim Mark.blank marks) value

/-- No blank at the inner edge of a group has words of the fragment on both sides. -/
def TightGroups (fragment : Text) : Prop :=
  ∀ marks, decode fragment = some marks → ∀ mark ∈ trim Mark.blank marks, mark.edge = false

instance (fragment : Text) : Decidable (TightGroups fragment) :=
  inferInstanceAs
    (Decidable (∀ marks ∈ decode fragment, ∀ mark ∈ trim Mark.blank marks, mark.edge = false))

theorem Paints.says {marks : List Mark} {value : StyledText}
    (paints : Paints false marks value.text value.emphasis) : SaysMarks marks value := by
  refine ⟨paints.chars, fun place mark here => ?_⟩
  have shown := congrArg (fun painting => painting[place]?) paints.painted
  rw [paint_get, List.getElem?_map, here, paints.chars, List.getElem?_map, here] at shown
  simpa [Mark.painted] using shown

theorem styled_ok {fragment : Text} {offset : Nat} {value : StyledText}
    (accepted : styled fragment offset = .ok value) :
    ∃ marks, decode fragment = some marks ∧ value.valid = true ∧
      Paints false (kept (trim Mark.blank marks)) value.text value.emphasis := by
  simp only [styled] at accepted
  split at accepted
  · cases accepted
  next result spans read =>
  obtain ⟨marks, behind, more, denotes, rfl, rfl, paints⟩ := styledFrom_ok read false
  have start : (more.map fun span => span.shifted ([] : Text).length) = more := by simp
  rw [start] at accepted
  obtain ⟨valid, -, -, shows⟩ := styledResult_ok paints accepted
  refine ⟨marks, denotes, valid, ?_⟩
  rw [kept, ← trim_filter edge_removes]
  exact shows

/-- An accepted fragment is read as what it denotes exactly where its groups are tight. -/
theorem styled_says_iff {fragment : Text} {offset : Nat} {value : StyledText}
    (accepted : styled fragment offset = .ok value) :
    SaysFragment fragment value ↔ TightGroups fragment := by
  obtain ⟨marks, denotes, -, paints⟩ := styled_ok accepted
  constructor
  · rintro ⟨marks', denotes', text, -⟩ marks'' denotes''
    obtain rfl : marks = marks' := Option.some.inj (denotes.symm.trans denotes')
    obtain rfl : marks = marks'' := Option.some.inj (denotes.symm.trans denotes'')
    have lengths := congrArg List.length (paints.chars.symm.trans text)
    rw [List.length_map, List.length_map] at lengths
    exact kept_eq_self.mp (List.filter_eq_self.mpr (List.length_filter_eq_length_iff.mp lengths))
  · intro tight
    refine ⟨marks, denotes, ?_⟩
    rw [kept_eq_self.mpr (tight marks denotes)] at paints
    exact paints.says

/-- A word of its own in a group, between two others. -/
theorem spaced_group_says :
    ∃ value, styled "a \\textbf\x7bb\x7d c".toList 0 = .ok value ∧
      SaysFragment "a \\textbf\x7bb\x7d c".toList value := by
  have accepted : styled "a \\textbf\x7bb\x7d c".toList 0 = .ok ⟨"a b c".toList, [⟨2, 3⟩]⟩ := by
    decide +kernel
  exact ⟨_, accepted, (styled_says_iff accepted).mpr (by decide +kernel)⟩

/-- The blank inside a group is lost, and its word joins the one before. -/
theorem group_glues_words :
    ¬ ∀ (fragment : Text) (offset : Nat) (value : StyledText),
      styled fragment offset = .ok value → SaysFragment fragment value := by
  intro all
  have accepted : styled "a\\textbf\x7b b\x7dc".toList 0 = .ok ⟨"abc".toList, [⟨1, 2⟩]⟩ := by
    decide +kernel
  obtain ⟨marks, denotes, text, -⟩ := all _ _ _ accepted
  have read : (decode "a\\textbf\x7b b\x7dc".toList).map
      (fun marks => (trim Mark.blank marks).map Mark.char) = some "a bc".toList := by
    decide +kernel
  rw [denotes, Option.map_some, ← text] at read
  exact absurd read (by decide)

/-! ## Rendered and imported again -/

/-- A styled text comes back from its TeX with the same characters emphasised. -/
theorem styled_round_trip {value : StyledText} (trips : RoundTrips value) (offset : Nat) :
    ∃ tex imported, texStyled value = .ok tex ∧ styled tex offset = .ok imported ∧
      imported.text = value.text ∧
      ∀ place, covers imported.emphasis place = covers value.emphasis place := by
  have representable : representable value.text = true := by
    simp only [representable, List.all_eq_true]
    intro c member
    simp [(trips.importable c member).supported]
  exact ⟨_, _, (texStyled_yields trips.valid).1 representable, trips.imported offset, rfl,
    mergedSpans_covers value.emphasis⟩

def emphasisedShare : StyledText :=
  ⟨"50% of \x7bR\x7d & D".toList, [⟨4, 9⟩, ⟨0, 3⟩, ⟨1, 6⟩, ⟨11, 12⟩]⟩

theorem emphasisedShare_round_trip : ∃ tex imported, texStyled emphasisedShare = .ok tex ∧
    styled tex 0 = .ok imported ∧ imported.text = emphasisedShare.text ∧
    ∀ place, covers imported.emphasis place = covers emphasisedShare.emphasis place := by
  have trips : RoundTrips emphasisedShare := by
    refine ⟨by decide +kernel, by decide +kernel, ?_, ?_⟩
    · have all : (emphasisedShare.text.all fun c => decide ((c ≠ '\\' ∧ c ≠ '~' ∧ c ≠ '^') ∧
          spacing c = false ∧ unsupported c = false)) = true := by decide +kernel
      intro c member
      have plain := of_decide_eq_true (List.all_eq_true.mp all c member)
      exact ⟨plain.1, plain.2.1, plain.2.2⟩
    · have all : ∀ span ∈ emphasisedShare.emphasis,
          (emphasisedShare.text[span.start]?.all fun c => !isPythonSpace c) = true ∧
            (emphasisedShare.text[span.stop - 1]?.all fun c => !isPythonSpace c) = true := by
        decide +kernel
      rintro span member c (here | here)
      · simpa [here] using (all span member).1
      · simpa [here] using (all span member).2
  exact styled_round_trip trips 0

end Pathfinder
