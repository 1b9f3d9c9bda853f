import Pathfinder.Resume.Decoding
import Pathfinder.Resume.TexTokens

/-!
# Styled texts through TeX and back

The importer reads the TeX of a styled text piece by piece: what the escaping wrote in front
of any rest, a bold piece with its group, and so every merged span.
-/
namespace Pathfinder
open Trimming

/-- A character whose TeX the importer reads. -/
structure Importable (c : Char) : Prop where
  plain : c ≠ '\\' ∧ c ≠ '~' ∧ c ≠ '^'
  inline : spacing c = false
  supported : unsupported c = false

theorem importable_tex {c : Char} (importable : Importable c) :
    texChar c = [c] ∧ c ≠ '\\' ∧ c ≠ '\x7b' ∧ c ≠ '\x7d' ∨
      texChar c = ['\\', c] ∧ escapable c = true := by
  rw [texChar, if_neg (by simp [importable.inline])]
  rcases escapeChar_cases c with special | ⟨plain, same⟩
  · simp only [texSpecials, List.mem_cons, List.not_mem_nil, or_false] at special
    obtain ⟨backslash, tilde, caret⟩ := importable.plain
    rcases special with h | rfl | rfl | rfl | rfl | rfl | rfl | rfl | h | h
    · exact absurd h backslash
    · exact .inr (by decide)
    · exact .inr (by decide)
    · exact .inr (by decide)
    · exact .inr (by decide)
    · exact .inr (by decide)
    · exact .inr (by decide)
    · exact .inr (by decide)
    · exact absurd h tilde
    · exact absurd h caret
  · simp only [texSpecials, List.mem_cons, List.not_mem_nil, or_false, not_or] at plain
    exact .inl ⟨same, plain.1, plain.2.1, plain.2.2.1⟩

/-- The group around an escaped text ends where the text does. -/
theorem closeGroup_texOf {part : Text} (importable : ∀ c ∈ part, Importable c) (rest : Text) :
    closeGroup false 0 (texOf part ++ '\x7d' :: rest) = some (texOf part, rest) := by
  induction part with
  | nil => simp [texOf, closeGroup]
  | cons c part ih =>
    have tail := ih fun d member => importable d (List.mem_cons_of_mem c member)
    have written : texOf (c :: part) = texChar c ++ texOf part := rfl
    rcases importable_tex (importable c List.mem_cons_self) with ⟨same, plain⟩ | ⟨same, escaped⟩
    · simp [written, same, closeGroup, plain, tail]
    · simp [written, same, closeGroup, escaped, tail]

theorem styledFrom_texOf {offset : Nat} {part : Text} (importable : ∀ c ∈ part, Importable c)
    (index : Nat) (rest result : Text) (spans : List EmphasisSpanV1) : ∃ index',
    styledFrom offset index (texOf part ++ rest) result spans =
      styledFrom offset index' rest (result ++ part) spans := by
  induction part generalizing index result with
  | nil => exact ⟨index, by simp [texOf]⟩
  | cons c part ih =>
    have tail := ih fun d member => importable d (List.mem_cons_of_mem c member)
    have written : texOf (c :: part) = texChar c ++ texOf part := rfl
    rcases importable_tex (importable c List.mem_cons_self) with ⟨same, plain⟩ | ⟨same, escaped⟩
    · obtain ⟨index', read⟩ := tail (index + 1) (result ++ [c])
      refine ⟨index', ?_⟩
      rw [written, same, List.append_assoc, List.singleton_append, styledFrom, if_pos plain.1, read,
        List.append_assoc, List.singleton_append]
    · obtain ⟨index', read⟩ := tail (index + 2) (result ++ [c])
      refine ⟨index', ?_⟩
      have front : texOf (c :: part) ++ rest = '\\' :: c :: (texOf part ++ rest) := by
        simp [written, same]
      rw [front, styledFrom, if_neg (by simp), if_pos (by simpa using escaped)]
      simpa using read

theorem styledFrom_group {offset index : Nat} {rest result inner : Text}
    {spans marks : List EmphasisSpanV1} {found : SourceGroup} {rendered : StyledText}
    (command : ¬ rest.head?.any escapable = true) {word : Text}
    (written : rest.takeWhile Char.isAlpha = word)
    (named : word = "textbf".toList ∨ word = "skilltag".toList)
    (opened : group (index + 1 + word.length) (rest.dropWhile Char.isAlpha) = .ok found)
    (within : styledFrom (offset + (index + 1 + word.length) + 1) 0 found.value [] [] =
      .ok (inner, marks))
    (trimmed : styledResult (offset + (index + 1 + word.length) + 1) inner marks = .ok rendered) :
    styledFrom offset index ('\\' :: rest) result spans =
      styledFrom offset found.stop found.behind (result ++ rendered.text)
        (spans ++ (if word = "textbf".toList then
            [⟨result.length, result.length + rendered.text.length⟩] else []) ++
          rendered.emphasis.map fun span => span.shifted result.length) := by
  subst written
  rw [styledFrom, if_neg (by simp), if_neg command, if_pos named]
  split
  next failed =>
    rw [opened] at failed
    cases failed
  next found' opened' =>
    rw [opened] at opened'
    cases opened'
    rw [within]
    simp only [trimmed]

/-- A text without blanks at its ends is not trimmed. -/
theorem styledResult_bare {offset : Nat} {value : StyledText}
    (bare : Bare isPythonSpace value.text) (shown : value.text ≠ []) (valid : value.valid = true) :
    styledResult offset value.text value.emphasis = .ok value := by
  have trimmed : stripText value.text = value.text := trim_of_bare bare
  have leading : value.text.dropWhile isPythonSpace = value.text := by
    cases text : value.text with
    | nil => rfl
    | cons first rest =>
      rw [List.dropWhile_cons_of_neg (by simp [bare.head first (by simp [text])])]
  have inside := valid
  simp only [StyledText.valid, Bool.and_eq_true, List.all_eq_true, decide_eq_true_eq] at inside
  have all : value.emphasis.filter (fun span =>
      0 ≤ span.start && span.stop ≤ 0 + value.text.length) = value.emphasis := by
    rw [List.filter_eq_self]
    intro span member
    simpa using (inside.2 span member).1
  simp only [styledResult, trimmed, leading, Nat.sub_self, all, Nat.sub_zero, if_neg shown]
  have same : value.emphasis.map (fun span => (⟨span.start, span.stop⟩ : EmphasisSpanV1)) =
      value.emphasis := List.map_id _
  rw [same, if_pos valid]

/-- A bold piece, with what is left of it when it is trimmed. -/
theorem styledFrom_bold {offset : Nat} {part : Text} (importable : ∀ c ∈ part, Importable c)
    (bare : Bare isPythonSpace part) (shown : part ≠ []) (short : part.length ≤ 4000)
    (index : Nat) (rest result : Text) (spans : List EmphasisSpanV1) : ∃ index',
    styledFrom offset index ("\\textbf\x7b".toList ++ texOf part ++ '\x7d' :: rest) result spans =
      styledFrom offset index' rest (result ++ part)
        (spans ++ [⟨result.length, result.length + part.length⟩]) := by
  have front : "\\textbf\x7b".toList ++ texOf part ++ '\x7d' :: rest =
      '\\' :: ("textbf".toList ++ '\x7b' :: (texOf part ++ '\x7d' :: rest)) := by
    have opening : "\\textbf\x7b".toList = '\\' :: ("textbf".toList ++ ['\x7b']) := by
      decide +kernel
    rw [opening]
    simp
  have letters : ∀ c ∈ "textbf".toList, c.isAlpha = true := List.all_eq_true.mp (by decide)
  have word :
      ("textbf".toList ++ '\x7b' :: (texOf part ++ '\x7d' :: rest)).takeWhile Char.isAlpha =
      "textbf".toList := by
    rw [List.takeWhile_append_of_pos letters]
    simp
  have after :
      ("textbf".toList ++ '\x7b' :: (texOf part ++ '\x7d' :: rest)).dropWhile Char.isAlpha =
      '\x7b' :: (texOf part ++ '\x7d' :: rest) := by
    rw [List.dropWhile_append_of_pos letters]
    simp
  have opened : ∀ start, group start ('\x7b' :: (texOf part ++ '\x7d' :: rest)) =
      .ok ⟨texOf part, start, start + (texOf part).length + 2, rest⟩ := by
    intro start
    simp [group, closeGroup_texOf importable, isPythonSpace]
  have within : ∀ offset, styledFrom offset 0 (texOf part) [] [] = .ok (part, []) := by
    intro offset
    obtain ⟨index', read⟩ := @styledFrom_texOf offset part importable 0 [] [] []
    rw [List.append_nil] at read
    rw [read, styledFrom, List.nil_append]
  have positive := List.length_pos_iff.mpr shown
  have trimmed : ∀ offset, styledResult offset part [] = .ok ⟨part, []⟩ := fun offset =>
    @styledResult_bare offset ⟨part, []⟩ bare shown (by simp [StyledText.valid, short]; omega)
  refine ⟨index + 1 + "textbf".toList.length + (texOf part).length + 2, ?_⟩
  rw [front, styledFrom_group (by simp [escapable]) word (.inl rfl) (by rw [after]; exact opened _)
    (within _) (trimmed _)]
  simp

/-! ## Merged spans -/

def spanOf (span : Nat × Nat) : EmphasisSpanV1 := ⟨span.1, span.2⟩

theorem Anchored.slice_bare {text : Text} {span : Nat × Nat}
    (anchored : Anchored text (spanOf span)) :
    Bare isPythonSpace (slice text span.1 span.2) ∧
      (slice text span.1 span.2).length = span.2 - span.1 := by
  have inside : span.2 ≤ text.length := anchored.inside
  have forward : span.1 < span.2 := anchored.forward
  have length : (slice text span.1 span.2).length = span.2 - span.1 := by
    rw [slice, List.length_drop, List.length_take, Nat.min_eq_left inside]
  obtain ⟨c, here, visible⟩ := anchored.first
  obtain ⟨d, there, visible'⟩ := anchored.last
  refine ⟨⟨fun item first => ?_, fun item last => ?_⟩, length⟩
  · rw [Option.mem_def, slice, List.head?_drop, List.getElem?_take_of_lt forward] at first
    cases here.symm.trans first
    exact visible
  · rw [Option.mem_def, List.getLast?_eq_getElem?, length, slice, List.getElem?_drop,
      List.getElem?_take_of_lt (by omega),
      show span.1 + (span.2 - span.1 - 1) = span.2 - 1 by omega] at last
    cases there.symm.trans last
    exact visible'

theorem styledFrom_spans {offset : Nat} {text : Text} (importable : ∀ c ∈ text, Importable c)
    (short : text.length ≤ 4000) {spans : List (Nat × Nat)} {start : Nat}
    (ordered : Ordered start spans) (within : start ≤ text.length)
    (anchored : ∀ span ∈ spans, Anchored text (spanOf span)) (index : Nat)
    (marks : List EmphasisSpanV1) :
    styledFrom offset index (styledTexFrom text start spans) (text.take start) marks =
      .ok (text, marks ++ spans.map spanOf) := by
  have part {piece : Text} (inside : piece ⊆ text) : ∀ c ∈ piece, Importable c :=
    fun c member => importable c (inside member)
  induction spans generalizing start index marks with
  | nil =>
    obtain ⟨index', read⟩ := @styledFrom_texOf offset (text.drop start)
      (part (List.drop_subset _ _)) index [] (text.take start) marks
    rw [List.append_nil] at read
    rw [styledTexFrom, read, styledFrom, List.take_append_drop, List.map_nil, List.append_nil]
  | cons span rest ih =>
    obtain ⟨first, last⟩ := span
    obtain ⟨behind, forward, later⟩ := ordered
    have here : Anchored text (spanOf (first, last)) := anchored _ List.mem_cons_self
    have bare : Bare isPythonSpace (slice text first last) := here.slice_bare.1
    have length : (slice text first last).length = last - first := here.slice_bare.2
    have inside : last ≤ text.length := here.inside
    have strictly : first < last := here.forward
    have sliced (low high : Nat) : slice text low high ⊆ text := fun c member =>
      List.mem_of_mem_take (List.mem_of_mem_drop member)
    have shown : slice text first last ≠ [] := by
      rw [← List.length_pos_iff, length]
      exact Nat.sub_pos_of_lt strictly
    have joined (low high : Nat) (le : low ≤ high) :
        text.take low ++ slice text low high = text.take high := by
      have whole := List.take_append_drop low (text.take high)
      rwa [List.take_take, Nat.min_eq_left le] at whole
    obtain ⟨index₁, plain⟩ := @styledFrom_texOf offset _ (part (sliced start first)) index
      ("\\textbf\x7b".toList ++ texOf (slice text first last) ++
        '\x7d' :: styledTexFrom text last rest) (text.take start) marks
    obtain ⟨index₂, bold⟩ := @styledFrom_bold offset _ (part (sliced first last)) bare shown
      (by omega) index₁ (styledTexFrom text last rest) (text.take first) marks
    have tail := ih later inside
      (fun other member => anchored other (List.mem_cons_of_mem _ member))
      index₂ (marks ++ [spanOf (first, last)])
    rw [joined start first behind] at plain
    rw [joined first last forward] at bold
    have lengths : (text.take first).length = first ∧
        (text.take first).length + (slice text first last).length = last := by
      rw [List.length_take, length, Nat.min_eq_left (by omega)]
      omega
    rw [lengths.2, lengths.1] at bold
    have whole : styledTexFrom text start ((first, last) :: rest) =
        texOf (slice text start first) ++ ("\\textbf\x7b".toList ++ texOf (slice text first last) ++
          '\x7d' :: styledTexFrom text last rest) := by
      simp only [styledTexFrom, List.append_assoc]
      rfl
    rw [whole, plain, bold]
    simpa [spanOf] using tail

/-- A merged span ends where spans do. -/
theorem mergeFrom_ends {last : Nat × Nat} {rest : List EmphasisSpanV1} :
    ∀ span ∈ mergeFrom last rest,
      (span.1 = last.1 ∨ ∃ other ∈ rest, span.1 = other.start) ∧
        (span.2 = last.2 ∨ ∃ other ∈ rest, span.2 = other.stop) := by
  induction rest generalizing last with
  | nil =>
    intro span member
    obtain rfl := List.mem_singleton.mp member
    exact ⟨.inl rfl, .inl rfl⟩
  | cons next rest ih =>
    intro span member
    simp only [mergeFrom] at member
    split at member
    · have found := ih span member
      grind
    · rcases List.mem_cons.mp member with rfl | member
      · exact ⟨.inl rfl, .inl rfl⟩
      · have found := ih span member
        grind

/-- Merging leaves what is covered as it is. -/
theorem mergeFrom_covers {last : Nat × Nat} {rest : List EmphasisSpanV1}
    (sorted : rest.Pairwise fun first second => first.start ≤ second.start)
    (behind : ∀ span ∈ rest, last.1 ≤ span.start) (place : Nat) :
    covers ((mergeFrom last rest).map spanOf) place =
      (covers [spanOf last] place || covers rest place) := by
  induction rest generalizing last with
  | nil => simp [mergeFrom, covers]
  | cons next rest ih =>
    have first := behind next List.mem_cons_self
    rw [List.pairwise_cons] at sorted
    simp only [mergeFrom]
    split
    next touches =>
      have merged := @ih (last.1, max last.2 next.stop) sorted.2
        fun span member => behind span (List.mem_cons_of_mem _ member)
      rw [merged]
      simp only [covers, spanOf, List.any_cons, List.any_nil, Bool.or_false, ← Bool.or_assoc]
      congr 1
      grind
    · have merged := @ih (next.start, next.stop) sorted.2 sorted.1
      rw [List.map_cons, ← List.singleton_append, covers_append, merged]
      simp [covers, spanOf]

theorem mergeSort_starts (emphasis : List EmphasisSpanV1) :
    (emphasis.mergeSort spanBefore).Pairwise fun first second => first.start ≤ second.start := by
  have sorted : (emphasis.mergeSort spanBefore).Pairwise
      fun first second => spanBefore first second :=
    List.pairwise_mergeSort (fun a b c first second => ?_) (fun a b => ?_) emphasis
  · refine sorted.imp fun {first second} before => ?_
    simp only [spanBefore, Bool.or_eq_true, Bool.and_eq_true, decide_eq_true_eq] at before
    omega
  · simp only [spanBefore, Bool.or_eq_true, Bool.and_eq_true, decide_eq_true_eq] at first second ⊢
    omega
  · simp only [spanBefore, Bool.or_eq_true, Bool.and_eq_true, decide_eq_true_eq]
    omega

theorem mergedSpans_covers (emphasis : List EmphasisSpanV1) (place : Nat) :
    covers ((mergedSpans emphasis).map spanOf) place = covers emphasis place := by
  have perm := List.mergeSort_perm emphasis spanBefore
  have same : covers (emphasis.mergeSort spanBefore) place = covers emphasis place := perm.any_eq
  have starts := mergeSort_starts emphasis
  rw [← same]
  unfold mergedSpans
  cases sorted : emphasis.mergeSort spanBefore with
  | nil => rfl
  | cons span rest =>
    rw [sorted, List.pairwise_cons] at starts
    rw [mergeFrom_covers starts.2 starts.1, ← covers_append]
    rfl

theorem mergeFrom_forward {last : Nat × Nat} {rest : List EmphasisSpanV1}
    (forward : last.1 < last.2) (each : ∀ span ∈ rest, span.start < span.stop) :
    ∀ span ∈ mergeFrom last rest, span.1 < span.2 := by
  induction rest generalizing last with
  | nil => simpa [mergeFrom] using forward
  | cons next rest ih =>
    have others := fun other member => each other (List.mem_cons_of_mem next member)
    simp only [mergeFrom]
    split
    · exact ih (Nat.lt_of_lt_of_le forward (Nat.le_max_left _ _)) others
    · exact List.forall_mem_cons.mpr ⟨forward, ih (each next List.mem_cons_self) others⟩

theorem mergedSpans_anchored {text : Text} {emphasis : List EmphasisSpanV1}
    (anchored : ∀ span ∈ emphasis, Anchored text span) :
    ∀ span ∈ mergedSpans emphasis, Anchored text (spanOf span) := by
  have perm := List.mergeSort_perm emphasis spanBefore
  unfold mergedSpans
  cases sorted : emphasis.mergeSort spanBefore with
  | nil => exact nofun
  | cons first rest =>
    have each : ∀ span ∈ first :: rest, Anchored text span := fun span member =>
      anchored span (perm.mem_iff.mp (sorted ▸ member))
    have forward := @mergeFrom_forward (first.start, first.stop) rest
      (each first List.mem_cons_self).forward
      fun span member => (each span (List.mem_cons_of_mem _ member)).forward
    intro span member
    obtain ⟨starts, stops⟩ := mergeFrom_ends span member
    refine ⟨forward span member, ?_, ?_⟩
    · rcases starts with same | ⟨other, inside, same⟩
      · simpa only [spanOf, same] using (each first List.mem_cons_self).first
      · simpa only [spanOf, same] using (each other (List.mem_cons_of_mem _ inside)).first
    · rcases stops with same | ⟨other, inside, same⟩
      · simpa only [spanOf, same] using (each first List.mem_cons_self).last
      · simpa only [spanOf, same] using (each other (List.mem_cons_of_mem _ inside)).last

/-! ## There and back -/

/-- A styled text that TeX keeps: trimmed, of characters the importer reads, its spans between
characters that are not blank. -/
structure RoundTrips (value : StyledText) : Prop where
  valid : value.valid = true
  stripped : stripText value.text = value.text
  importable : ∀ c ∈ value.text, Importable c
  visible : ∀ span ∈ value.emphasis, ∀ c,
    value.text[span.start]? = some c ∨ value.text[span.stop - 1]? = some c → isPythonSpace c = false

theorem RoundTrips.anchored {value : StyledText} (trips : RoundTrips value) :
    ∀ span ∈ value.emphasis, Anchored value.text span := by
  intro span member
  have valid := trips.valid
  simp only [StyledText.valid, Bool.and_eq_true, List.all_eq_true, decide_eq_true_eq] at valid
  obtain ⟨inside, forward⟩ := valid.2 span member
  have first := List.getElem?_eq_getElem (l := value.text) (i := span.start) (by omega)
  have last := List.getElem?_eq_getElem (l := value.text) (i := span.stop - 1) (by omega)
  exact ⟨forward, ⟨_, first, trips.visible span member _ (.inl first)⟩,
    ⟨_, last, trips.visible span member _ (.inr last)⟩⟩

/-- What is rendered is imported with the merged spans. -/
theorem RoundTrips.imported {value : StyledText} (trips : RoundTrips value) (offset : Nat) :
    styled (styledTex value) offset =
      .ok ⟨value.text, (mergedSpans value.emphasis).map spanOf⟩ := by
  have valid := trips.valid
  simp only [StyledText.valid, Bool.and_eq_true, List.all_eq_true, decide_eq_true_eq] at valid
  have anchored := mergedSpans_anchored trips.anchored
  have read := @styledFrom_spans offset value.text trips.importable valid.1.2 _ 0
    (mergedSpans_ordered trips.valid) (Nat.zero_le _) anchored 0 []
  rw [List.take_zero, List.nil_append] at read
  have bare : Bare isPythonSpace value.text := by
    rw [← trips.stripped]
    exact bare_trim
  have merged :
      (⟨value.text, (mergedSpans value.emphasis).map spanOf⟩ : StyledText).valid = true := by
    simp only [StyledText.valid, Bool.and_eq_true, List.all_eq_true, decide_eq_true_eq,
      List.mem_map]
    refine ⟨valid.1, ?_⟩
    rintro _ ⟨span, member, rfl⟩
    exact ⟨(anchored span member).inside, (anchored span member).forward⟩
  have shown : value.text ≠ [] := List.length_pos_iff.mp valid.1.1
  rw [styled, styledTex, read]
  exact @styledResult_bare offset ⟨value.text, (mergedSpans value.emphasis).map spanOf⟩ bare shown
    merged

end Pathfinder
