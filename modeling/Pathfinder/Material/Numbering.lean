import Pathfinder.Library.Lines
import Pathfinder.Material.Chunking

/-!
# Chunks and the lines they come from

Normalization keeps the number of every line: it replaces terminators by line feeds and
composes each line by itself. A chunk is a piece of the normal form of the line at its
number.
-/
namespace Pathfinder

/-- What Unicode says of the characters at which lines break: they do not compose with their
neighbours, nothing composes to them, and composition removes no character altogether. -/
structure LineBreaksInert (nfc : Text → Text) : Prop where
  apart : ∀ before c behind, isLineBreak c = true →
    nfc (before ++ c :: behind) = nfc before ++ c :: nfc behind
  unbroken : ∀ text, (∀ c ∈ text, isLineBreak c = false) → ∀ c ∈ nfc text, isLineBreak c = false
  nonempty : ∀ text, nfc text = [] ↔ text = []

/-- The terminator after newline normalization. -/
def normalTerminator (terminator : Text) : Text :=
  if terminator = ['\r', '\n'] ∨ terminator = ['\r'] then ['\n'] else terminator

section Newlines
variable {line : Text}

theorem linesFrom_cons {c : Char} (other : c ≠ '\r') (rest : Text) :
    linesFrom line (c :: rest) =
      if isLineBreak c then (line, [c]) :: linesFrom [] rest else linesFrom (line ++ [c]) rest := by
  rw [linesFrom]
  rintro tail rfl
  exact absurd rfl other

theorem replaceCrLf_cons {c : Char} {rest : Text}
    (other : ∀ tail, c = '\r' → rest = '\n' :: tail → False) :
    replaceCrLf (c :: rest) = c :: replaceCrLf rest := by
  rw [replaceCrLf]
  exact other

/-- Replacing newlines keeps the lines and shortens their terminators. -/
theorem linesFrom_normalizeNewlines (line text : Text) :
    linesFrom line (normalizeNewlines text) =
      (linesFrom line text).map fun entry => (entry.1, normalTerminator entry.2) := by
  fun_induction linesFrom line text with
  | case1 => rfl
  | case2 line nonempty =>
    simp [normalizeNewlines, replaceCrLf, linesFrom, nonempty, normalTerminator]
  | case3 line rest ih =>
    have step : normalizeNewlines ('\r' :: '\n' :: rest) = '\n' :: normalizeNewlines rest := rfl
    rw [step, linesFrom_cons (by decide), if_pos (by decide), ih]
    rfl
  | case4 line c rest other breaks ih =>
    have step : normalizeNewlines (c :: rest) =
        (if c = '\r' then '\n' else c) :: normalizeNewlines rest := by
      rw [normalizeNewlines, replaceCrLf_cons fun tail here behind => other tail here behind]
      rfl
    rw [step]
    by_cases carriage : c = '\r'
    · subst carriage
      rw [if_pos rfl, linesFrom_cons (by decide), if_pos (by decide), ih]
      rfl
    · have kept : normalTerminator [c] = [c] := by simp [normalTerminator, carriage]
      rw [if_neg carriage, linesFrom_cons carriage, if_pos breaks, ih, List.map_cons, kept]
  | case5 line c rest other unbroken ih =>
    have carriage : c ≠ '\r' := by
      rintro rfl
      exact unbroken (by decide)
    have step : normalizeNewlines (c :: rest) = c :: normalizeNewlines rest := by
      rw [normalizeNewlines, replaceCrLf_cons fun tail here behind => other tail here behind,
        List.map_cons, if_neg carriage]
      rfl
    rw [step, linesFrom_cons carriage, if_neg unbroken, ih]

theorem normalizeNewlines_carriage (text : Text) : '\r' ∉ normalizeNewlines text := by
  intro member
  obtain ⟨c, -, same⟩ := List.mem_map.mp member
  split at same
  · exact absurd same (by decide)
  next other => exact other same

/-- A text without breaks is one line. -/
theorem linesFrom_plain {text : Text} (unbroken : ∀ c ∈ text, isLineBreak c = false)
    (line : Text) :
    linesFrom line text = if line ++ text = [] then [] else [(line ++ text, [])] := by
  induction text generalizing line with
  | nil => rw [linesFrom, List.append_nil]
  | cons c rest ih =>
    have here := unbroken c List.mem_cons_self
    have other : c ≠ '\r' := by
      rintro rfl
      exact absurd here (by decide)
    rw [linesFrom_cons other, if_neg (by rw [here]; decide),
      ih (fun d member => unbroken d (List.mem_cons_of_mem _ member)), List.append_assoc]
    rfl

theorem linesFrom_append_break {text : Text} (unbroken : ∀ c ∈ text, isLineBreak c = false)
    {c : Char} (breaks : isLineBreak c = true) (other : c ≠ '\r') (line rest : Text) :
    linesFrom line (text ++ c :: rest) = (line ++ text, [c]) :: linesFrom [] rest := by
  induction text generalizing line with
  | nil => rw [List.nil_append, linesFrom_cons other, if_pos breaks, List.append_nil]
  | cons d tail ih =>
    have here := unbroken d List.mem_cons_self
    have carriage : d ≠ '\r' := by
      rintro rfl
      exact absurd here (by decide)
    rw [List.cons_append, linesFrom_cons carriage, if_neg (by rw [here]; decide),
      ih (fun d member => unbroken d (List.mem_cons_of_mem _ member)), List.append_assoc]
    rfl

end Newlines

section Composition
variable {nfc : Text → Text}

/-- Composition works line by line. -/
theorem linesFrom_nfc (inert : LineBreaksInert nfc) {line text : Text}
    (unbroken : ∀ c ∈ line, isLineBreak c = false) (feeds : '\r' ∉ text) :
    linesFrom [] (nfc (line ++ text)) =
      (linesFrom line text).map fun entry => (nfc entry.1, entry.2) := by
  fun_induction linesFrom line text with
  | case1 =>
    rw [List.append_nil, (inert.nonempty []).mpr rfl]
    rfl
  | case2 line nonempty =>
    have kept : nfc line ≠ [] := fun none => nonempty ((inert.nonempty line).mp none)
    rw [List.append_nil, linesFrom_plain (inert.unbroken line unbroken), List.nil_append,
      if_neg kept]
    rfl
  | case3 line rest ih => exact absurd List.mem_cons_self feeds
  | case4 line c rest other breaks ih =>
    have carriage : c ≠ '\r' := fun same => feeds (same ▸ List.mem_cons_self)
    rw [inert.apart line c rest breaks,
      linesFrom_append_break (inert.unbroken line unbroken) breaks carriage, List.nil_append]
    have later := ih (by simp) fun member => feeds (List.mem_cons_of_mem _ member)
    rw [List.nil_append] at later
    rw [later, List.map_cons]
  | case5 line c rest other unbroken_here ih =>
    rw [List.append_cons]
    refine ih (fun d member => ?_) fun member => feeds (List.mem_cons_of_mem _ member)
    rcases List.mem_append.mp member with old | new
    · exact unbroken d old
    · rw [List.mem_singleton.mp new]
      exact Bool.not_eq_true _ ▸ unbroken_here

/-- The lines of a normalized text are the composed lines of the text. -/
theorem linesFrom_normalized (inert : LineBreaksInert nfc) (text : Text) :
    linesFrom [] (normalizeDocumentContent nfc text) =
      (linesFrom [] text).map fun entry => (nfc entry.1, normalTerminator entry.2) := by
  have composed : linesFrom [] (nfc ([] ++ normalizeNewlines text)) = _ :=
    linesFrom_nfc inert (by simp) (normalizeNewlines_carriage text)
  rw [List.nil_append] at composed
  rw [normalizeDocumentContent, composed, linesFrom_normalizeNewlines, List.map_map]
  rfl

end Composition

/-! ## Pieces -/

theorem linesFrom_terminator (line text : Text) :
    ∀ entry ∈ linesFrom line text, normalTerminator entry.2 = [] ∨
      ∃ c, isLineBreak c = true ∧ normalTerminator entry.2 = [c] := by
  fun_induction linesFrom line text with
  | case1 => simp
  | case2 line nonempty => simp [normalTerminator]
  | case3 line rest ih =>
    rintro entry (_ | ⟨_, later⟩)
    · exact .inr ⟨'\n', by decide, rfl⟩
    · exact ih entry later
  | case4 line c rest other breaks ih =>
    rintro entry (_ | ⟨_, later⟩)
    · by_cases carriage : c = '\r'
      · subst carriage
        exact .inr ⟨'\n', by decide, rfl⟩
      · exact .inr ⟨c, breaks, by simp [normalTerminator, carriage]⟩
    · exact ih entry later
  | case5 line c rest other unbroken ih => exact ih

theorem mem_emittedPart {part piece : Text} (member : piece ∈ emittedPart part) :
    piece = part ∧ stripText piece ≠ [] := by
  unfold emittedPart at member
  split at member
  · cases member
  next shown =>
    obtain rfl := List.mem_singleton.mp member
    exact ⟨rfl, shown⟩

/-- A piece of a line stands in it, shows something and fits 800 bytes. -/
theorem linePieces_piece {part rest piece : Text} (small : utf8Length part ≤ 800)
    (member : piece ∈ linePieces part rest) :
    piece <:+: part ++ rest ∧ stripText piece ≠ [] ∧ utf8Length piece ≤ 800 := by
  induction rest generalizing part with
  | nil =>
    obtain ⟨rfl, shown⟩ := mem_emittedPart member
    exact ⟨by rw [List.append_nil], shown, small⟩
  | cons c rest ih =>
    unfold linePieces at member
    split at member
    next full =>
      rcases List.mem_append.mp member with emitted | later
      · obtain ⟨rfl, shown⟩ := mem_emittedPart emitted
        exact ⟨(List.prefix_append _ _).isInfix, shown, small⟩
      · have one : utf8Length [c] ≤ 800 := by
          have width := c.utf8Size_le_four
          simp only [utf8Length, List.map_cons, List.map_nil, List.sum_cons, List.sum_nil]
          omega
        obtain ⟨inside, facts⟩ := ih one later
        exact ⟨inside.trans (List.suffix_append _ _).isInfix, facts⟩
    next fits =>
      obtain ⟨inside, facts⟩ := ih (Nat.le_of_not_lt fits) member
      rw [← List.append_cons] at inside
      exact ⟨inside, facts⟩

/-- What is shown of a piece stands in the line without its terminator. -/
theorem stripText_without_terminator {piece line terminator : Text}
    (inside : piece <:+: line ++ terminator)
    (ending : terminator = [] ∨ ∃ c, isLineBreak c = true ∧ terminator = [c]) :
    stripText piece <:+: line := by
  have trimmed := (stripText_inside piece).trans inside
  rcases ending with rfl | ⟨c, breaks, rfl⟩
  · rwa [List.append_nil] at trimmed
  · exact Lines.infix_of_infix_concat trimmed (stripText_getLast piece (isLineBreak_space breaks))

/-- Where a chunk comes from. -/
theorem prepared_chunk {nfc : Text → Text} (inert : LineBreaksInert nfc) {item : MaterialFile}
    {text : Text} {chunks : List PreparedIngestionChunk}
    (decoded : decodeUtf8 item.content = some text)
    (prepared : prepareMaterialFile nfc item = .ok chunks) {chunk : PreparedIngestionChunk}
    (member : chunk ∈ chunks) :
    1 ≤ chunk.startLine ∧ chunk.endLine = chunk.startLine ∧ stripText chunk.text ≠ [] ∧
      utf8Length chunk.text ≤ 800 ∧
      ∃ line, (splitlines text)[chunk.startLine - 1]? = some line ∧
        stripText chunk.text <:+: nfc line := by
  unfold prepareMaterialFile at prepared
  rw [decoded] at prepared
  dsimp only at prepared
  split at prepared
  · cases prepared
  split at prepared
  · cases prepared
  cases prepared
  obtain ⟨⟨⟨piece, number⟩, ordinal⟩, counted, rfl⟩ := List.mem_map.mp member
  have pieces := List.mem_of_getElem? (List.mem_zipIdx_iff_getElem?.mp counted)
  obtain ⟨⟨kept, index⟩, numbered, cut⟩ := List.mem_flatMap.mp pieces
  obtain ⟨piece, inside, same⟩ := List.mem_map.mp cut
  cases same
  obtain ⟨positive, located⟩ := List.mem_zipIdx_iff_le_and_getElem?_sub.mp numbered
  rw [splitlinesKeepends, linesFrom_normalized inert, List.map_map, List.getElem?_map,
    Option.map_eq_some_iff] at located
  obtain ⟨entry, here, rfl⟩ := located
  obtain ⟨within, shown, small⟩ := linePieces_piece (Nat.zero_le _) inside
  refine ⟨positive, rfl, shown, small, entry.1, ?_, ?_⟩
  · rw [splitlines, List.getElem?_map, here]
    rfl
  · exact stripText_without_terminator within
      (linesFrom_terminator [] text entry (List.mem_of_getElem? here))

end Pathfinder
