import Pathfinder.Library.Trim
import Pathfinder.Domain.TemplateImport

/-!
# What styled TeX denotes

The characters a fragment stands for, each with whether it is inside some `\textbf` and
whether it is blank at an edge of some group. The importer reads exactly those that are at
no edge.
-/
namespace Pathfinder
open Trimming

/-- A decoded character. -/
structure Mark where
  char : Char
  bold : Bool
  edge : Bool
  edge_blank : edge = true → isPythonSpace char = true
  deriving DecidableEq

namespace Mark

def plain (bold : Bool) (char : Char) : Mark :=
  ⟨char, bold, false, fun edge => absurd edge Bool.false_ne_true⟩

def blank (mark : Mark) : Bool := isPythonSpace mark.char

def edged (mark : Mark) : Mark :=
  if blank : isPythonSpace mark.char = true then ⟨mark.char, mark.bold, true, fun _ => blank⟩
  else mark

/-- The character with whether it is bold. -/
def painted (mark : Mark) : Char × Bool := (mark.char, mark.bold)

end Mark

/-- A group's characters, the blank ones at its two ends marked. -/
def markEdges (marks : List Mark) : List Mark :=
  (marks.takeWhile Mark.blank).map Mark.edged ++ trim Mark.blank marks ++
    ((marks.dropWhile Mark.blank).rtakeWhile Mark.blank).map Mark.edged

/-- The characters of a fragment that is bold itself or not. -/
def decodeFrom (bold : Bool) (rest : Text) : Option (List Mark) :=
  match rest with
  | [] => some []
  | c :: rest =>
    if c ≠ '\\' then (decodeFrom bold rest).map fun marks => Mark.plain bold c :: marks
    else if rest.head?.any escapable then
      (decodeFrom bold rest.tail).map fun marks => (rest.take 1).map (Mark.plain bold) ++ marks
    else
      let command := rest.takeWhile Char.isAlpha
      if command = "textbf".toList ∨ command = "skilltag".toList then
        match _opened : group 0 (rest.dropWhile Char.isAlpha) with
        | .error _ => none
        | .ok found =>
          match decodeFrom (bold || command = "textbf".toList) found.value,
              decodeFrom bold found.behind with
          | some inner, some behind => some (markEdges inner ++ behind)
          | _, _ => none
      else if command = "skillgap".toList then
        (decodeFrom bold (rest.dropWhile Char.isAlpha)).map fun marks =>
          ", ".toList.map (Mark.plain bold) ++ marks
      else none
termination_by rest.length
decreasing_by
  · simp
  · simp only [List.length_tail, List.length_cons]
    omega
  · exact (group_shorter _opened).1
  · exact (group_shorter _opened).2
  · exact afterCommand_shorter rest

def decode (fragment : Text) : Option (List Mark) := decodeFrom false fragment

example : (decode "a\\textbf\x7b b\x7dc".toList).map (fun marks => marks.map Mark.painted) =
    some [('a', false), (' ', true), ('b', true), ('c', false)] := by decide +kernel

/-! ## What decoding does at each place -/

section Places
variable {bold : Bool} {rest : Text}

theorem decodeFrom_char {c : Char} (plain : c ≠ '\\') :
    decodeFrom bold (c :: rest) =
      (decodeFrom bold rest).map fun marks => [c].map (Mark.plain bold) ++ marks := by
  rw [decodeFrom, if_pos plain]
  rfl

theorem decodeFrom_escaped (escaped : rest.head?.any escapable = true) :
    decodeFrom bold ('\\' :: rest) =
      (decodeFrom bold rest.tail).map fun marks =>
        (rest.take 1).map (Mark.plain bold) ++ marks := by
  rw [decodeFrom, if_neg (by simp), if_pos escaped]

variable (command : ¬ rest.head?.any escapable = true)
include command

theorem decodeFrom_group {found : SourceGroup} {inner behind : List Mark}
    (named : rest.takeWhile Char.isAlpha = "textbf".toList ∨
      rest.takeWhile Char.isAlpha = "skilltag".toList)
    (opened : group 0 (rest.dropWhile Char.isAlpha) = .ok found)
    (within : decodeFrom (bold || rest.takeWhile Char.isAlpha = "textbf".toList) found.value =
      some inner)
    (after : decodeFrom bold found.behind = some behind) :
    decodeFrom bold ('\\' :: rest) = some (markEdges inner ++ behind) := by
  rw [decodeFrom, if_neg (by simp), if_neg command, if_pos named]
  split
  next failed =>
    rw [opened] at failed
    cases failed
  next found' opened' =>
    rw [opened] at opened'
    cases opened'
    rw [within, after]

theorem decodeFrom_gap (named : rest.takeWhile Char.isAlpha = "skillgap".toList) :
    decodeFrom bold ('\\' :: rest) =
      (decodeFrom bold (rest.dropWhile Char.isAlpha)).map fun marks =>
        ", ".toList.map (Mark.plain bold) ++ marks := by
  have other : ¬ ("skillgap".toList = "textbf".toList ∨ "skillgap".toList = "skilltag".toList) := by
    decide
  rw [decodeFrom, if_neg (by simp), if_neg command, named, if_neg other, if_pos rfl]

end Places

/-! ## Edges -/

/-- The characters that are at no edge. -/
def kept (marks : List Mark) : List Mark := marks.filter fun mark => !mark.edge

theorem edge_removes (mark : Mark) (out : (!mark.edge) = false) : mark.blank = true :=
  mark.edge_blank (by simpa using out)

theorem kept_append (first second : List Mark) :
    kept (first ++ second) = kept first ++ kept second :=
  List.filter_append ..

theorem kept_plain (bold : Bool) (text : Text) :
    kept (text.map (Mark.plain bold)) = text.map (Mark.plain bold) := by
  rw [kept, List.filter_eq_self]
  intro mark member
  obtain ⟨c, -, rfl⟩ := List.mem_map.mp member
  rfl

theorem kept_edged {marks : List Mark} (blank : ∀ mark ∈ marks, mark.blank = true) :
    kept (marks.map Mark.edged) = [] := by
  rw [kept, List.filter_eq_nil_iff]
  intro mark member
  obtain ⟨mark, inside, rfl⟩ := List.mem_map.mp member
  have space : isPythonSpace mark.char = true := blank mark inside
  simp [Mark.edged, space]

theorem kept_markEdges (marks : List Mark) :
    kept (markEdges marks) = trim Mark.blank (kept marks) := by
  rw [markEdges, kept_append, kept_append, kept_edged fun _ => List.mem_takeWhile_imp,
    kept_edged fun _ => List.mem_rtakeWhile_imp, List.nil_append, List.append_nil, kept, kept,
    trim_filter edge_removes]

theorem kept_eq_self {marks : List Mark} :
    kept marks = marks ↔ ∀ mark ∈ marks, mark.edge = false := by
  simp [kept, List.filter_eq_self]

/-! ## Spans -/

def covers (spans : List EmphasisSpanV1) (index : Nat) : Bool :=
  spans.any fun span => span.start ≤ index && index < span.stop

/-- The characters with whether a span covers their place. -/
def paint (bold : Bool) (spans : List EmphasisSpanV1) : Nat → Text → List (Char × Bool)
  | _, [] => []
  | index, c :: rest => (c, bold || covers spans index) :: paint bold spans (index + 1) rest

section Paint
variable {bold : Bool} {spans more : List EmphasisSpanV1} {text first second : Text}

theorem paint_append (index : Nat) :
    paint bold spans index (first ++ second) =
      paint bold spans index first ++ paint bold spans (index + first.length) second := by
  induction first generalizing index with
  | nil => rfl
  | cons c rest ih =>
    rw [List.cons_append, paint, paint, ih, List.cons_append, List.length_cons,
      Nat.add_right_comm, Nat.add_assoc index]

theorem paint_chars (index : Nat) : (paint bold spans index text).map Prod.fst = text := by
  induction text generalizing index with
  | nil => rfl
  | cons c rest ih => rw [paint, List.map_cons, ih]

theorem paint_get (index place : Nat) :
    (paint bold spans index text)[place]? =
      text[place]?.map fun c => (c, bold || covers spans (index + place)) := by
  induction text generalizing index place with
  | nil => rfl
  | cons c rest ih =>
    cases place with
    | zero => rfl
    | succ place =>
      rw [paint, List.getElem?_cons_succ, List.getElem?_cons_succ, ih, Nat.add_right_comm,
        Nat.add_assoc]

/-- Two paintings agree where their spans cover the same of the text. -/
theorem paint_congr {bold' : Bool} {index index' : Nat}
    (same : ∀ place < text.length,
      (bold || covers spans (index + place)) = (bold' || covers more (index' + place))) :
    paint bold spans index text = paint bold' more index' text := by
  refine List.ext_getElem? fun place => ?_
  rw [paint_get, paint_get]
  by_cases inside : place < text.length
  · simp [inside, same place inside]
  · simp [inside]

theorem covers_append (index : Nat) :
    covers (spans ++ more) index = (covers spans index || covers more index) :=
  List.any_append

theorem covers_outside {index : Nat}
    (outside : ∀ span ∈ spans, index < span.start ∨ span.stop ≤ index) :
    covers spans index = false := by
  simp only [covers, List.any_eq_false, Bool.and_eq_true, decide_eq_true_eq]
  intro span member
  have apart := outside span member
  omega

theorem covers_shifted (width index : Nat) :
    covers (spans.map fun span => span.shifted width) (index + width) = covers spans index := by
  simp [covers, Function.comp_def]

/-- A span that begins and ends with a character of the text that is not blank. -/
structure Anchored (text : Text) (span : EmphasisSpanV1) : Prop where
  forward : span.start < span.stop
  first : ∃ c, text[span.start]? = some c ∧ isPythonSpace c = false
  last : ∃ c, text[span.stop - 1]? = some c ∧ isPythonSpace c = false

theorem Anchored.inside {span : EmphasisSpanV1} (anchored : Anchored text span) :
    span.stop ≤ text.length := by
  obtain ⟨c, here, -⟩ := anchored.last
  have bound := (List.getElem?_eq_some_iff.mp here).1
  have forward := anchored.forward
  omega

theorem Anchored.before {span : EmphasisSpanV1} (anchored : Anchored first span) :
    Anchored (first ++ second) span := by
  obtain ⟨c, here, visible⟩ := anchored.first
  obtain ⟨d, there, visible'⟩ := anchored.last
  refine ⟨anchored.forward, ⟨c, ?_, visible⟩, ⟨d, ?_, visible'⟩⟩
  · rw [List.getElem?_append_left (List.getElem?_eq_some_iff.mp here).1, here]
  · rw [List.getElem?_append_left (List.getElem?_eq_some_iff.mp there).1, there]

theorem Anchored.behind {span : EmphasisSpanV1} (anchored : Anchored second span) :
    Anchored (first ++ second) (span.shifted first.length) := by
  obtain ⟨c, here, visible⟩ := anchored.first
  obtain ⟨d, there, visible'⟩ := anchored.last
  have forward := anchored.forward
  refine ⟨by simpa using forward, ⟨c, ?_, visible⟩, ⟨d, ?_, visible'⟩⟩
  · rw [EmphasisSpanV1.shifted_start, List.getElem?_append_right (by omega), Nat.add_sub_cancel,
      here]
  · rw [EmphasisSpanV1.shifted_stop, List.getElem?_append_right (by omega),
      show span.stop + first.length - 1 - first.length = span.stop - 1 by omega, there]

end Paint

/-- The text and the spans over it say what the marks do. -/
structure Paints (bold : Bool) (marks : List Mark) (text : Text) (spans : List EmphasisSpanV1) :
    Prop where
  anchored : ∀ span ∈ spans, Anchored text span
  painted : paint bold spans 0 text = marks.map Mark.painted

namespace Paints
variable {bold : Bool} {marks others : List Mark} {text behind : Text}
  {spans more : List EmphasisSpanV1}

theorem chars (paints : Paints bold marks text spans) : text = marks.map Mark.char := by
  have written := congrArg (List.map Prod.fst) paints.painted
  rw [paint_chars, List.map_map] at written
  exact written

theorem plain (text : Text) : Paints bold (text.map (Mark.plain bold)) text [] where
  anchored := nofun
  painted := by
    refine List.ext_getElem? fun place => ?_
    rw [paint_get, List.map_map, List.getElem?_map]
    simp [covers, Mark.painted, Mark.plain, Function.comp_def]

theorem append (front : Paints bold marks text spans) (back : Paints bold others behind more) :
    Paints bold (marks ++ others) (text ++ behind)
      (spans ++ more.map fun span => span.shifted text.length) where
  anchored span member := by
    rcases List.mem_append.mp member with early | late
    · exact (front.anchored span early).before
    · obtain ⟨span, inside, rfl⟩ := List.mem_map.mp late
      exact (back.anchored span inside).behind
  painted := by
    rw [paint_append, List.map_append, ← front.painted, ← back.painted]
    congr 1
    · refine paint_congr fun place inside => ?_
      have later : covers (more.map fun span => span.shifted text.length) (0 + place) = false := by
        refine covers_outside fun span member => ?_
        obtain ⟨span, -, rfl⟩ := List.mem_map.mp member
        have start := span.shifted_start text.length
        omega
      rw [covers_append, later, Bool.or_false]
    · refine paint_congr fun place _ => ?_
      have earlier : covers spans (0 + text.length + place) = false := by
        refine covers_outside fun span member => ?_
        have inside := (front.anchored span member).inside
        omega
      rw [covers_append, earlier, Bool.false_or, Nat.add_right_comm, covers_shifted]

/-- A span over a whole trimmed text makes all of it bold. -/
theorem group (emphasised : Bool) (inner : Paints (bold || emphasised) marks text spans)
    (bare : Bare isPythonSpace text) (shown : text ≠ []) :
    Paints bold marks text ((if emphasised then [⟨0, text.length⟩] else []) ++ spans) where
  anchored span member := by
    rcases List.mem_append.mp member with whole | within
    · cases emphasised with
      | false => cases whole
      | true =>
        obtain rfl := List.mem_singleton.mp whole
        have positive := List.length_pos_iff.mpr shown
        refine ⟨positive, ⟨text.head shown, ?_, bare.head _ (List.head?_eq_some_head shown)⟩,
          ⟨text.getLast shown, ?_, bare.last _ (List.getLast?_eq_some_getLast shown)⟩⟩
        · rw [← List.head?_eq_getElem?, List.head?_eq_some_head shown]
        · rw [← List.getLast?_eq_getElem?, List.getLast?_eq_some_getLast shown]
    · exact inner.anchored span within
  painted := by
    rw [← inner.painted]
    refine paint_congr fun place inside => ?_
    cases emphasised with
    | false => simp
    | true => simp [covers, inside]

/-- What is left of the text when it is trimmed, with the spans moved to it. -/
theorem trimmed (paints : Paints bold marks text spans) {leading : Nat}
    (skipped : (text.takeWhile isPythonSpace).length = leading) :
    (∀ span ∈ spans, leading ≤ span.start ∧ span.stop ≤ leading + (stripText text).length) ∧
      Paints bold (trim Mark.blank marks) (stripText text)
        (spans.map fun span => ⟨span.start - leading, span.stop - leading⟩) := by
  subst skipped
  generalize written : text.takeWhile isPythonSpace = front
  generalize written' : (text.dropWhile isPythonSpace).rtakeWhile isPythonSpace = back
  have blankFront : ∀ c ∈ front, isPythonSpace c = true := by
    subst written
    exact fun _ => List.mem_takeWhile_imp
  have blankBack : ∀ c ∈ back, isPythonSpace c = true := by
    subst written'
    exact fun _ => List.mem_rtakeWhile_imp
  have split : text = front ++ (stripText text ++ back) := by
    subst written written'
    rw [stripText, ← List.rdropWhile, List.rdropWhile_append_rtakeWhile,
      List.takeWhile_append_dropWhile]
  have visible {place : Nat} {c : Char} (here : text[place]? = some c)
      (shown : isPythonSpace c = false) :
      front.length ≤ place ∧ (stripText text)[place - front.length]? = some c := by
    rw [split] at here
    rcases Nat.lt_or_ge place front.length with early | late
    · rw [List.getElem?_append_left early] at here
      rw [blankFront c (List.mem_of_getElem? here)] at shown
      cases shown
    rw [List.getElem?_append_right late] at here
    rcases Nat.lt_or_ge (place - front.length) (stripText text).length with inside | behind
    · rw [List.getElem?_append_left inside] at here
      exact ⟨late, here⟩
    · rw [List.getElem?_append_right behind] at here
      rw [blankBack c (List.mem_of_getElem? here)] at shown
      cases shown
  have moved : ∀ span ∈ spans, front.length ≤ span.start ∧ Anchored (stripText text)
      ⟨span.start - front.length, span.stop - front.length⟩ := by
    intro span member
    obtain ⟨forward, ⟨c, here, shown⟩, d, there, shown'⟩ := paints.anchored span member
    have first := visible here shown
    have last := visible there shown'
    refine ⟨first.1, Nat.sub_lt_sub_right first.1 forward, ⟨c, first.2, shown⟩, d, ?_, shown'⟩
    rw [Nat.sub_right_comm, last.2]
  refine ⟨?_, ?_, ?_⟩
  · intro span member
    obtain ⟨late, anchored⟩ := moved span member
    have inside := anchored.inside
    simp only at inside
    omega
  · intro span member
    obtain ⟨span, inside, rfl⟩ := List.mem_map.mp member
    exact (moved span inside).2
  · have whole := paints.painted
    rw [split, paint_append, paint_append, ← List.append_assoc] at whole
    have blank {index : Nat} {part : Text} (spaces : ∀ c ∈ part, isPythonSpace c = true) :
        ∀ item ∈ paint bold spans index part, (isPythonSpace ∘ Prod.fst) item = true := by
      intro item member
      have chars := @paint_chars bold spans part index
      exact spaces item.1 (chars ▸ List.mem_map_of_mem member)
    have bare : Bare (isPythonSpace ∘ Prod.fst)
        (paint bold spans (0 + front.length) (stripText text)) := by
      refine Bare.of_map ?_
      rw [paint_chars]
      exact bare_trim
    have outer := congrArg (trim (isPythonSpace ∘ Prod.fst)) whole
    rw [trim_append (blank blankFront) (blank blankBack), trim_map, trim_of_bare bare] at outer
    refine Eq.trans ?_ outer
    have back : spans = (spans.map fun span => (⟨span.start - front.length,
        span.stop - front.length⟩ : EmphasisSpanV1)).map
          fun span => span.shifted front.length := by
      rw [List.map_map]
      conv_lhs => rw [← List.map_id spans]
      refine List.map_congr_left fun span member => ?_
      have late := (moved span member).1
      have forward := (paints.anchored span member).forward
      cases span
      simp only [id_eq, Function.comp_apply, EmphasisSpanV1.shifted, EmphasisSpanV1.mk.injEq]
      dsimp only at late forward
      omega
    refine paint_congr fun place _ => ?_
    conv_rhs => rw [back, Nat.add_right_comm, covers_shifted]

end Paints

/-! ## The importer -/

/-- What `styledResult` accepts, it trims. -/
theorem styledResult_ok {bold : Bool} {marks : List Mark} {offset : Nat} {result : Text}
    {spans : List EmphasisSpanV1} {value : StyledText}
    (paints : Paints bold marks result spans)
    (accepted : styledResult offset result spans = .ok value) :
    value.valid = true ∧ value.text = stripText result ∧ value.text ≠ [] ∧
      Paints bold (trim Mark.blank marks) value.text value.emphasis := by
  have skipped : (result.takeWhile isPythonSpace).length =
      result.length - (result.dropWhile isPythonSpace).length := by
    have whole := congrArg List.length
      (List.takeWhile_append_dropWhile (p := isPythonSpace) (l := result))
    rw [List.length_append] at whole
    omega
  obtain ⟨within, moved⟩ := paints.trimmed skipped
  have all : spans.filter (fun span =>
      result.length - (result.dropWhile isPythonSpace).length ≤ span.start &&
        span.stop ≤ result.length - (result.dropWhile isPythonSpace).length +
          (stripText result).length) = spans := by
    rw [List.filter_eq_self]
    intro span member
    simpa using within span member
  simp only [styledResult, all] at accepted
  split at accepted
  · cases accepted
  next shown =>
  split at accepted
  next valid =>
    cases accepted
    exact ⟨valid, rfl, shown, moved⟩
  · cases accepted

/-- What the loop has read so far is followed by what the rest of the fragment denotes. -/
def ReadsOn (bold : Bool) (decoded : Option (List Mark)) (result text : Text)
    (spans marks : List EmphasisSpanV1) : Prop :=
  ∃ rest behind more, decoded = some rest ∧ text = result ++ behind ∧
    marks = spans ++ more.map (fun span => span.shifted result.length) ∧
    Paints bold (kept rest) behind more

theorem ReadsOn.after {bold : Bool} {decoded : Option (List Mark)} {front : List Mark}
    {result text part : Text} {spans marks new : List EmphasisSpanV1}
    (continues : ReadsOn bold decoded (result ++ part)
      (text) (spans ++ new.map fun span => span.shifted result.length) marks)
    (paints : Paints bold (kept front) part new) :
    ReadsOn bold (decoded.map fun rest => front ++ rest) result text spans marks := by
  obtain ⟨rest, behind, more, rfl, rfl, rfl, later⟩ := continues
  refine ⟨front ++ rest, part ++ behind, new ++ more.map fun span => span.shifted part.length, rfl,
    List.append_assoc .., ?_, ?_⟩
  · rw [List.append_assoc, List.map_append, List.map_map]
    congr 2
    refine List.map_congr_left fun span _ => ?_
    simp only [EmphasisSpanV1.shifted, Function.comp_apply, EmphasisSpanV1.mk.injEq,
      List.length_append]
    omega
  · rw [kept_append]
    exact paints.append later

theorem group_moved {index : Nat} (index' : Nat) {rest : Text} {found : SourceGroup}
    (opened : group index rest = .ok found) :
    ∃ found', group index' rest = .ok found' ∧ found'.value = found.value ∧
      found'.behind = found.behind := by
  simp only [group] at opened ⊢
  split at opened
  next body shape =>
    split at opened
    next value behind closed =>
      cases opened
      exact ⟨_, rfl, rfl, rfl⟩
    · cases opened
  · cases opened

theorem Paints.ordinary {bold : Bool} (text : Text) :
    Paints bold (kept (text.map (Mark.plain bold))) text [] := by
  rw [kept_plain]
  exact .plain text

/-- The spans that `_styled` adds for a group, moved behind what it has read. -/
theorem group_spans (spans emphasis : List EmphasisSpanV1) (width length : Nat) (bold : Prop)
    [Decidable bold] :
    (spans ++ if bold then [⟨width, width + length⟩] else []) ++
        emphasis.map (fun span => span.shifted width) =
      spans ++ ((if decide bold then [(⟨0, length⟩ : EmphasisSpanV1)] else []) ++ emphasis).map
        fun span => span.shifted width := by
  by_cases emphasised : bold
  · simp [emphasised, EmphasisSpanV1.shifted, Nat.add_comm]
  · simp [emphasised]

/-- The loop of the importer reads the decoded characters that are at no edge. -/
theorem styledFrom_ok {offset index : Nat} {rest result text : Text}
    {spans marks : List EmphasisSpanV1}
    (accepted : styledFrom offset index rest result spans = .ok (text, marks)) (bold : Bool) :
    ReadsOn bold (decodeFrom bold rest) result text spans marks := by
  fun_induction styledFrom offset index rest result spans generalizing bold text marks with
  | case1 =>
    cases accepted
    exact ⟨[], [], [], by rw [decodeFrom], by simp, by simp, .plain []⟩
  | case2 offset index result spans c rest ordinary ih =>
    rw [decodeFrom_char ordinary]
    exact .after (by simpa using ih accepted bold) (.ordinary [c])
  | case3 offset index result spans c rest backslash escaped ih =>
    rw [Decidable.of_not_not backslash, decodeFrom_escaped escaped]
    exact .after (by simpa using ih accepted bold) (.ordinary _)
  | case4 => cases accepted
  | case5 => cases accepted
  | case6 => cases accepted
  | case7 offset index result spans c rest backslash command word after named found opened inner
      innerMarks within rendered trimmed =>
    rename_i begin ihInner ihBehind
    obtain ⟨decoded, behind, more, denotes, rfl, rfl, paints⟩ :=
      ihInner within (bold || decide (word = "textbf".toList))
    have start : (more.map fun span => span.shifted ([] : Text).length) = more := by simp
    rw [start] at trimmed
    obtain ⟨-, written, shown, shows⟩ := styledResult_ok paints trimmed
    have bare : Bare isPythonSpace rendered.text := by
      rw [written]
      exact bare_trim
    have whole := shows.group (decide (word = "textbf".toList)) bare shown
    rw [← kept_markEdges] at whole
    obtain ⟨found', moved, sameValue, sameBehind⟩ := group_moved 0 opened
    have tail := ihBehind accepted bold
    simp only [dite_eq_ite] at tail
    rw [group_spans] at tail
    have ⟨after, _, _, denotes', _⟩ := tail
    rw [Decidable.of_not_not backslash, decodeFrom_group command named moved
      (by rw [sameValue]; exact denotes) (by rw [sameBehind]; exact denotes')]
    rw [denotes'] at tail
    exact tail.after whole
  | case8 offset index result spans c rest backslash command word =>
    rename_i after other gap ih
    rw [Decidable.of_not_not backslash, decodeFrom_gap command gap]
    exact .after (by simpa using ih accepted bold) (.ordinary _)
  | case9 => cases accepted

end Pathfinder
