import Pathfinder.Library.Lines
import Pathfinder.Domain.ResumeImport
import Pathfinder.Resume.Literal
import Pathfinder.Guarantees.StyledImport

/-!
# Texts that print what their TeX printed

The importer takes a character that is not escaped for itself, and the renderer escapes it. So a
fragment is printed again as it was where it is plain TeX, and loses ink where it is not.
-/
namespace Pathfinder
open Trimming Conditional Lines

/-- The fragment is made of ordinary and escaped characters, `\skillgap`, and groups of `\textbf`
and `\skilltag`. -/
def plainTex (rest : Text) : Bool :=
  match rest with
  | [] => true
  | c :: rest =>
    if c ≠ '\\' then c ∉ texSpecials && plainTex rest
    else if rest.head?.any escapable then plainTex rest.tail
    else
      let command := rest.takeWhile Char.isAlpha
      if command = "textbf".toList ∨ command = "skilltag".toList then
        match _opened : group 0 (rest.dropWhile Char.isAlpha) with
        | .error _ => false
        | .ok found => plainTex found.value && plainTex found.behind
      else plainTex (rest.dropWhile Char.isAlpha)
termination_by rest.length
decreasing_by
  · simp
  · simp only [List.length_tail, List.length_cons]
    omega
  · exact (group_shorter _opened).1
  · exact (group_shorter _opened).2
  · exact afterCommand_shorter rest

theorem plainTex_group {rest : Text} {found : SourceGroup}
    (command : ¬ rest.head?.any escapable = true)
    (named : rest.takeWhile Char.isAlpha = "textbf".toList ∨
      rest.takeWhile Char.isAlpha = "skilltag".toList)
    (opened : group 0 (rest.dropWhile Char.isAlpha) = .ok found) :
    plainTex ('\\' :: rest) = (plainTex found.value && plainTex found.behind) := by
  rw [plainTex, if_neg (by simp), if_neg command, if_pos named]
  split
  next failed =>
    rw [opened] at failed
    cases failed
  next found' opened' =>
    rw [opened] at opened'
    cases opened'
    rfl

/-- The text ends, or a group does. -/
def EndsGroup (rest : Text) : Prop := ∀ c ∈ rest.head?, c = '\x7d'

theorem EndsGroup.stops {rest : Text} (ends : EndsGroup rest) :
    rest.head?.any Char.isAlpha = false := by
  cases rest with
  | nil => rfl
  | cons c rest =>
    obtain rfl := ends c rfl
    rfl

/-- The characters of a decoded text. -/
def characters (marks : List Mark) : Text := marks.map Mark.char

theorem characters_markEdges (marks : List Mark) :
    characters (markEdges marks) = characters marks := by
  have edged (part : List Mark) : (part.map Mark.edged).map Mark.char = part.map Mark.char := by
    rw [List.map_map]
    refine List.map_congr_left fun mark _ => ?_
    simp only [Function.comp_apply, Mark.edged]
    split
    · rfl
    · rfl
  have whole : marks = marks.takeWhile Mark.blank ++ (trim Mark.blank marks ++
      (marks.dropWhile Mark.blank).rtakeWhile Mark.blank) := by
    rw [trim, List.rdropWhile_append_rtakeWhile, List.takeWhile_append_dropWhile]
  unfold characters
  conv_rhs => rw [whole]
  rw [markEdges, List.map_append, List.map_append, edged, edged, List.append_assoc,
    List.map_append, List.map_append]

/-- What is printed for a fragment with these characters in front of `rest`: the characters where
it is plain TeX, and otherwise something with less ink. -/
structure Prints (plain : Bool) (chars rest : Text) (whole : Option Text) : Prop where
  exact : plain = true → whole = (literalText rest).map fun behind => spaced chars ++ behind
  less : ∀ text, whole = some text → ∃ front behind, text = front ++ behind ∧
    literalText rest = some behind ∧ (inked front).length ≤ (inked chars).length ∧
    (plain = false → (inked front).length < (inked chars).length)

namespace Prints
variable {plain plain' : Bool} {chars chars' said rest rest' : Text} {whole whole' : Option Text}

theorem nil (rest : Text) : Prints true [] rest (literalText rest) where
  exact _ := by simp [spaced]
  less text shown := ⟨[], text, rfl, shown, Nat.le_refl _, nofun⟩

/-- Something that is printed as it is, in front. -/
theorem printed (prints : Prints plain chars rest whole)
    (front : whole' = whole.map fun text => spaced said ++ text) :
    Prints plain (said ++ chars) rest whole' where
  exact holds := by
    rw [front, prints.exact holds, Option.map_map]
    simp [spaced, Function.comp_def]
  less text shown := by
    rw [front] at shown
    obtain ⟨text', here, rfl⟩ := Option.map_eq_some_iff.mp shown
    obtain ⟨front', behind, rfl, later, bound, strict⟩ := prints.less text' here
    refine ⟨spaced said ++ front', behind, (List.append_assoc ..).symm, later, ?_, fun fails => ?_⟩
    · rw [inked_append, inked_append, List.length_append, List.length_append, inked_spaced]
      omega
    · have less := strict fails
      rw [inked_append, inked_append, List.length_append, List.length_append, inked_spaced]
      omega

/-- A special character that prints nothing, in front. -/
theorem lost (prints : Prints plain chars rest whole) {c : Char} (special : c ∈ texSpecials)
    (silent : whole' = none ∨ whole' = whole) : Prints false (c :: chars) rest whole' where
  exact := nofun
  less text shown := by
    rcases silent with rfl | rfl
    · cases shown
    obtain ⟨front, behind, split, later, bound, -⟩ := prints.less text shown
    have ink : (inked (c :: chars)).length = 1 + (inked chars).length := by
      rw [← List.singleton_append, inked_append, special_inked c special, List.length_append]
      rfl
    exact ⟨front, behind, split, later, by omega, fun _ => by omega⟩

/-- Two fragments, one behind the other. -/
theorem append (first : Prints plain chars rest' whole)
    (second : Prints plain' chars' rest (literalText rest')) :
    Prints (plain && plain') (chars ++ chars') rest whole where
  exact holds := by
    rw [Bool.and_eq_true] at holds
    rw [first.exact holds.1, second.exact holds.2, Option.map_map]
    simp [spaced, Function.comp_def]
  less text shown := by
    obtain ⟨front, middle, rfl, here, bound, strict⟩ := first.less text shown
    obtain ⟨front', behind, rfl, later, bound', strict'⟩ := second.less middle here
    refine ⟨front ++ front', behind, (List.append_assoc ..).symm, later, ?_, fun fails => ?_⟩
    · rw [inked_append, inked_append, List.length_append, List.length_append]
      omega
    · rw [inked_append, inked_append, List.length_append, List.length_append]
      rw [Bool.and_eq_false_iff] at fails
      rcases fails with fails | fails
      · have less := strict fails
        omega
      · have less := strict' fails
        omega

end Prints

theorem space_not_letter {c : Char} (space : isPythonSpace c = true) : c.isAlpha = false := by
  refine Bool.eq_false_iff.mpr fun letter => ?_
  simp only [isPythonSpace, Bool.or_eq_true, Bool.and_eq_true, decide_eq_true_eq, beq_iff_eq]
    at space
  have letter : (decide ('A'.val ≤ c.val ∧ c.val ≤ 'Z'.val) ||
      ('a'.val ≤ c.val && c.val ≤ 'z'.val)) = true := letter
  simp only [Bool.or_eq_true, Bool.and_eq_true, decide_eq_true_eq, UInt32.le_iff_toNat_le]
    at letter
  simp only [Char.toNat] at space
  have bounds : 'A'.val.toNat = 65 ∧ 'Z'.val.toNat = 90 ∧ 'a'.val.toNat = 97 ∧
      'z'.val.toNat = 122 := by decide
  omega

/-- What is printed for a fragment and what the importer decodes. -/
theorem literalText_decoded {bold : Bool} {tex rest : Text} {marks : List Mark}
    (denotes : decodeFrom bold tex = some marks) (ends : EndsGroup rest) :
    Prints (plainTex tex) (characters marks) rest (literalText (tex ++ rest)) := by
  fun_induction decodeFrom bold tex generalizing rest marks with
  | case1 =>
    cases denotes
    rw [plainTex]
    exact .nil rest
  | case2 bold c tex ordinary ih =>
    obtain ⟨behind, later, rfl⟩ := Option.map_eq_some_iff.mp denotes
    have tail := ih later ends
    have chars : characters (Mark.plain bold c :: behind) = c :: characters behind := rfl
    rw [plainTex, if_pos ordinary, List.cons_append, chars]
    by_cases special : c ∈ texSpecials
    · have silent : literalText (c :: (tex ++ rest)) = none ∨
          literalText (c :: (tex ++ rest)) = literalText (tex ++ rest) := by
        by_cases brace : c = '\x7b' ∨ c = '\x7d'
        · exact .inr (literalText_brace brace)
        · refine .inl ?_
          rw [literalText, if_neg (by simpa using special), if_neg brace, if_pos ordinary]
      simpa [special] using tail.lost special silent
    · have front := @literalText_ordinary (tex ++ rest) c special
      have shown : Prints (plainTex tex) ([c] ++ characters behind) rest
          (literalText (c :: (tex ++ rest))) := tail.printed front
      simpa [special] using shown
  | case3 bold c tex backslash escaped ih =>
    obtain ⟨behind, later, rfl⟩ := Option.map_eq_some_iff.mp denotes
    have tail := ih later ends
    cases tex with
    | nil => cases escaped
    | cons d tex =>
      have symbol : escapable d = true := by simpa using escaped
      have front : literalText ('\\' :: (d :: (tex ++ rest))) =
          (literalText (tex ++ rest)).map fun text => spaced [d] ++ text := by
        have inline : spacing d = false := by
          simp only [escapable, List.mem_cons, List.not_mem_nil, or_false, decide_eq_true_eq]
            at symbol
          rcases symbol with rfl | rfl | rfl | rfl | rfl | rfl | rfl <;> decide
        rw [literalText_escaped (by simpa using symbol)]
        simp [spaced, inline]
      rw [Decidable.of_not_not backslash, plainTex, if_neg (by simp), if_pos escaped]
      exact tail.printed front
  | case4 => cases denotes
  | case5 bold c tex backslash plain command named found opened inner behind after within =>
    rename_i ihInner ihBehind
    cases denotes
    obtain ⟨blanks, blank, shape, -⟩ := group_ok opened
    have whole : tex ++ rest = tex.takeWhile Char.isAlpha ++ (blanks ++
        '\x7b' :: (found.value ++ '\x7d' :: (found.behind ++ rest))) := by
      conv_lhs => rw [← List.takeWhile_append_dropWhile (p := Char.isAlpha) (l := tex), shape]
      simp
    have stops : (blanks ++ '\x7b' :: (found.value ++ '\x7d' :: (found.behind ++
        rest))).head?.any Char.isAlpha = false := by
      cases blanks with
      | nil => rfl
      | cons space blanks => exact space_not_letter (blank space List.mem_cons_self)
    have opening : literalText ('\\' :: (tex ++ rest)) =
        literalText (found.value ++ '\x7d' :: (found.behind ++ rest)) := by
      have silent : spoken (tex.takeWhile Char.isAlpha) = some [] := if_pos named
      have nonempty : tex.takeWhile Char.isAlpha ≠ [] := by
        intro empty
        rw [empty] at silent
        cases silent
      have argument : behindCommand (tex.takeWhile Char.isAlpha) (blanks ++
          '\x7b' :: (found.value ++ '\x7d' :: (found.behind ++ rest))) =
          '\x7b' :: (found.value ++ '\x7d' :: (found.behind ++ rest)) := by
        rw [behindCommand, if_pos named, List.dropWhile_append_of_pos blank,
          List.dropWhile_cons_of_neg (by decide)]
      rw [whole, literalText_word (List.all_eq_true.mpr fun _ => List.mem_takeWhile_imp) nonempty
        silent stops, argument, literalText_brace (.inl rfl)]
      simp
    have closes : EndsGroup ('\x7d' :: (found.behind ++ rest)) := by simp [EndsGroup]
    have front := ihInner within closes
    have back := ihBehind after ends
    rw [← literalText_brace (.inr rfl)] at back
    rw [Decidable.of_not_not backslash, List.cons_append, opening,
      plainTex_group plain named opened, show characters (markEdges inner ++ behind) =
        characters inner ++ characters behind by
          rw [← characters_markEdges inner, characters, List.map_append]; rfl]
    exact front.append back
  | case6 => cases denotes
  | case7 bold c tex backslash plain command other named =>
    rename_i ih
    obtain ⟨behind, later, rfl⟩ := Option.map_eq_some_iff.mp denotes
    have tail := ih later ends
    have gap : tex.takeWhile Char.isAlpha = "skillgap".toList := named
    have whole : tex ++ rest = "skillgap".toList ++ (tex.dropWhile Char.isAlpha ++ rest) := by
      rw [← gap, ← List.append_assoc, List.takeWhile_append_dropWhile]
    have stops : (tex.dropWhile Char.isAlpha ++ rest).head?.any Char.isAlpha = false := by
      have outside := List.head?_dropWhile_not Char.isAlpha tex
      generalize tex.dropWhile Char.isAlpha = after at outside
      cases after with
      | nil => exact ends.stops
      | cons c after => simpa using outside
    have opening : literalText ('\\' :: (tex ++ rest)) =
        (literalText (tex.dropWhile Char.isAlpha ++ rest)).map fun text =>
          spaced ", ".toList ++ text := by
      rw [whole, literalText_word (by decide) (by decide) rfl stops]
      rfl
    have behindGap : plainTex ('\\' :: tex) = plainTex (tex.dropWhile Char.isAlpha) := by
      rw [plainTex, if_neg (by simp), if_neg plain]
      exact if_neg other
    have chars : characters (", ".toList.map (Mark.plain bold) ++ behind) =
        ", ".toList ++ characters behind := rfl
    rw [Decidable.of_not_not backslash, behindGap, chars]
    exact tail.printed opening
  | case8 => cases denotes

/-! ## Printing the same -/

/-- Both fragments have a literal text, the same up to blanks at its ends. -/
def SamePrint (first second : Text) : Prop :=
  ∃ text text', literalText first = some text ∧ literalText second = some text' ∧
    stripText text = stripText text'

/-- What the renderer writes for a text prints what the fragment prints. -/
def Reprints (tex text : Text) : Prop :=
  ∃ rendered, texText text = .ok rendered ∧ SamePrint tex rendered

/-- What the renderer writes for a styled text prints what the fragment prints. -/
def StyledReprints (tex : Text) (value : StyledText) : Prop :=
  ∃ rendered, texStyled value = .ok rendered ∧ SamePrint tex rendered

/-- The fragment prints the text. -/
def PrintsAs (tex text : Text) : Prop :=
  ∃ printed, literalText tex = some printed ∧ stripText printed = stripText (spaced text)

/-- Every character of the text is ordinary and can be rendered. -/
def ordinaryText (text : Text) : Bool := representable text && text.all fun c => c ∉ texSpecials

/-- No character inside what the fragment prints is a control character. -/
def PrintsSupported (tex : Text) : Prop :=
  ∀ text, literalText tex = some text → representable (stripText text) = true

instance (tex : Text) : Decidable (PrintsSupported tex) :=
  inferInstanceAs (Decidable (∀ text ∈ literalText tex, representable (stripText text) = true))

theorem space_spaced (c : Char) :
    isPythonSpace (if spacing c then ' ' else c) = isPythonSpace c := by
  split
  next blank =>
    simp only [spacing, Bool.or_eq_true, decide_eq_true_eq] at blank
    rcases blank with (((rfl | rfl) | rfl) | rfl) | rfl <;> decide
  · rfl

theorem strip_spaced (text : Text) : stripText (spaced text) = spaced (stripText text) := by
  have moved := @trim_map Char Char isPythonSpace (fun c => if spacing c then ' ' else c) text
  have same : (isPythonSpace ∘ fun c => if spacing c then ' ' else c) = isPythonSpace :=
    funext space_spaced
  rw [same] at moved
  exact moved

theorem spaced_length (text : Text) : (spaced text).length = text.length := List.length_map _

theorem representable_spaced (text : Text) : representable (spaced text) = representable text := by
  unfold representable spaced
  rw [List.all_map]
  refine List.all_congr rfl fun c => ?_
  simp only [Function.comp_apply]
  split
  next blank =>
    rw [blank]
    rfl
  · rfl

/-- A text that is rendered to what prints it prints what the fragment prints exactly where it can
be rendered and the fragment prints it. -/
theorem samePrint_iff {render : Except StoreError Text} {tex text rendered : Text}
    (yields : Yields render (representable text = true) rendered)
    (prints : literalText rendered = some (spaced text)) :
    (∃ whole, render = .ok whole ∧ SamePrint tex whole) ↔
      representable text = true ∧ PrintsAs tex text := by
  simp only [yields.iff_ok, SamePrint, PrintsAs]
  constructor
  · rintro ⟨whole, ⟨supported, rfl⟩, printed, printed', here, there, same⟩
    obtain rfl := Option.some.inj (prints.symm.trans there)
    exact ⟨supported, printed, here, same⟩
  · rintro ⟨supported, printed, here, same⟩
    exact ⟨_, ⟨supported, rfl⟩, printed, _, here, prints, same⟩

theorem reprints_iff {tex text : Text} :
    Reprints tex text ↔ representable text = true ∧ PrintsAs tex text := by
  refine samePrint_iff (texText_yields text) ?_
  have alone := literalText_texOf text []
  rw [List.append_nil, literalText] at alone
  simpa using alone

theorem styledReprints_iff {tex : Text} {value : StyledText} (valid : value.valid = true) :
    StyledReprints tex value ↔ representable value.text = true ∧ PrintsAs tex value.text :=
  samePrint_iff (texStyled_yields valid)
    (literalText_styledTexFrom value.text (mergedSpans_ordered valid))

/-- What is printed has as much ink as the text. -/
theorem inked_eq {printed text : Text} (same : stripText printed = stripText (spaced text)) :
    (inked printed).length = (inked text).length := by
  rw [← inked_strip, same, inked_strip, inked_spaced]

/-- A text that is taken as it is prints itself exactly where it is ordinary. -/
theorem raw_reprints_iff {text : Text} : Reprints text text ↔ ordinaryText text = true := by
  rw [reprints_iff, ordinaryText, Bool.and_eq_true]
  refine and_congr_right fun _ => ?_
  simp only [List.all_eq_true, decide_eq_true_eq]
  constructor
  · rintro ⟨printed, here, same⟩ c member special
    have less := (literalText_inked here).2 ⟨c, member, special⟩
    rw [inked_eq same] at less
    exact absurd less (Nat.lt_irrefl _)
  · intro plain
    have alone := @literalText_plain text [] plain
    rw [List.append_nil, literalText] at alone
    exact ⟨spaced text, by simpa using alone, rfl⟩

theorem strip_characters (marks : List Mark) :
    stripText (characters marks) = characters (trim Mark.blank marks) :=
  trim_map Mark.char marks

theorem inked_kept (marks : List Mark) :
    (inked (characters (kept marks))).length = (inked (characters marks)).length := by
  induction marks with
  | nil => rfl
  | cons mark marks ih =>
    have split : characters (mark :: marks) = [mark.char] ++ characters marks := rfl
    by_cases edge : mark.edge = true
    · have none : inked [mark.char] = [] := by simp [inked, mark.edge_blank edge]
      have out : kept (mark :: marks) = kept marks := by simp [kept, edge]
      rw [out, ih, split, inked_append, none, List.nil_append]
    · have keep : kept (mark :: marks) = mark :: kept marks := by simp [kept, edge]
      have split' : characters (mark :: kept marks) = [mark.char] ++ characters (kept marks) := rfl
      rw [keep, split, split', inked_append, inked_append, List.length_append, List.length_append,
        ih]

/-- What a fragment of plain TeX prints. -/
theorem plain_prints {tex : Text} {marks : List Mark} (denotes : decode tex = some marks)
    (plain : plainTex tex = true) : literalText tex = some (spaced (characters marks)) := by
  have prints := (@literalText_decoded _ _ [] _ denotes (by simp [EndsGroup])).exact plain
  rw [List.append_nil, literalText] at prints
  simpa using prints

/-- A fragment with a literal text of as much ink as it has is plain. -/
theorem plain_of_inked {tex printed : Text} {marks : List Mark} (denotes : decode tex = some marks)
    (here : literalText tex = some printed)
    (ink : (inked printed).length = (inked (characters marks)).length) : plainTex tex = true := by
  have prints := @literalText_decoded _ _ [] _ denotes (by simp [EndsGroup])
  rw [List.append_nil] at prints
  obtain ⟨front, behind, rfl, last, -, strict⟩ := prints.less printed here
  rw [literalText] at last
  cases last
  rw [List.append_nil] at ink
  refine Decidable.byContradiction fun fails => ?_
  have less := strict (Bool.eq_false_iff.mpr fails)
  omega

/-- An imported styled text prints what its fragment printed exactly where the fragment is plain
TeX with tight groups, without control characters inside. -/
theorem styled_reprints_iff {tex : Text} {offset : Nat} {value : StyledText}
    (accepted : styled tex offset = .ok value) :
    StyledReprints tex value ↔ plainTex tex = true ∧ TightGroups tex ∧ PrintsSupported tex := by
  obtain ⟨marks, denotes, valid, paints⟩ := styled_ok accepted
  have text : value.text = characters (kept (trim Mark.blank marks)) := paints.chars
  have bare : stripText value.text = value.text := by
    rw [text, strip_characters, kept, trim_filter edge_removes, trim_of_bare bare_trim]
  rw [styledReprints_iff valid]
  constructor
  · rintro ⟨supported, printed, here, same⟩
    have ink : (inked printed).length = (inked (characters marks)).length := by
      rw [inked_eq same, text, inked_kept, ← strip_characters, inked_strip]
    have plain := plain_of_inked denotes here ink
    obtain rfl := Option.some.inj ((plain_prints denotes plain).symm.trans here)
    rw [strip_spaced, strip_spaced, bare, strip_characters] at same
    refine ⟨plain, fun marks' denotes' => ?_, fun printed here' => ?_⟩
    · obtain rfl := Option.some.inj (denotes.symm.trans denotes')
      have lengths := congrArg List.length same
      rw [spaced_length, spaced_length, text, characters, characters, List.length_map,
        List.length_map] at lengths
      exact kept_eq_self.mp (List.filter_eq_self.mpr
        (List.length_filter_eq_length_iff.mp lengths.symm))
    · obtain rfl := Option.some.inj (here.symm.trans here')
      rw [strip_spaced, strip_characters, same, representable_spaced]
      exact supported
  · rintro ⟨plain, tight, supported⟩
    have prints := plain_prints denotes plain
    have whole : value.text = stripText (characters marks) := by
      rw [text, strip_characters, kept_eq_self.mpr (tight marks denotes)]
    refine ⟨?_, _, prints, ?_⟩
    · rw [whole, ← representable_spaced, ← strip_spaced]
      exact supported _ prints
    · rw [strip_spaced, strip_spaced, bare, whole]

/-!
## Technologies

The importer splits what it has read of a styled text at its commas. Blanks at the edge of a
group do no harm beside a comma, where they are trimmed anyway.
-/

/-- The texts between the commas of a text. -/
def commaParts (text : Text) : List Text := strippedParts (text.splitOn ',')

/-- The renderer writes for each item what one of the texts between commas prints, in order. -/
def ItemsReprint (tex : Text) (items : List Text) : Prop :=
  ∃ text, literalText tex = some text ∧ List.Forall₂ (fun part item => ∃ rendered printed,
    texText item = .ok rendered ∧ literalText rendered = some printed ∧ stripText printed = part)
      (commaParts (stripText text)) items

def isComma (mark : Mark) : Bool := mark.char = ','

/-- No blank at the inner edge of a group has words on both sides, up to the next commas. -/
def TightParts (tex : Text) : Prop :=
  ∀ marks, decode tex = some marks → ∀ part ∈ (trim Mark.blank marks).splitOnP isComma,
    ∀ mark ∈ trim Mark.blank part, mark.edge = false

instance (tex : Text) : Decidable (TightParts tex) :=
  inferInstanceAs (Decidable (∀ marks ∈ decode tex,
    ∀ part ∈ (trim Mark.blank marks).splitOnP isComma,
      ∀ mark ∈ trim Mark.blank part, mark.edge = false))

/-- No character inside one of the printed items is a control character. -/
def PartsSupported (tex : Text) : Prop :=
  ∀ text, literalText tex = some text →
    ∀ part ∈ commaParts (stripText text), representable part = true

instance (tex : Text) : Decidable (PartsSupported tex) :=
  inferInstanceAs (Decidable (∀ text ∈ literalText tex,
    ∀ part ∈ commaParts (stripText text), representable part = true))

theorem literalText_rendered (text : Text) : literalText (texOf text) = some (spaced text) := by
  have alone := literalText_texOf text []
  rw [List.append_nil, literalText] at alone
  simpa using alone

/-- Items without blanks at their ends are printed as they are. -/
theorem itemsReprint_iff {tex : Text} {items : List Text}
    (bare : ∀ item ∈ items, stripText item = item) :
    ItemsReprint tex items ↔ (∀ item ∈ items, representable item = true) ∧
      ∃ text, literalText tex = some text ∧ commaParts (stripText text) = items.map spaced := by
  have each (part item : Text) : (∃ rendered printed, texText item = .ok rendered ∧
      literalText rendered = some printed ∧ stripText printed = part) ↔
      representable item = true ∧ stripText (spaced item) = part := by
    simp only [(texText_yields item).iff_ok]
    constructor
    · rintro ⟨rendered, printed, ⟨supported, rfl⟩, here, rfl⟩
      obtain rfl := Option.some.inj ((literalText_rendered item).symm.trans here)
      exact ⟨supported, rfl⟩
    · rintro ⟨supported, rfl⟩
      exact ⟨_, _, ⟨supported, rfl⟩, literalText_rendered item, rfl⟩
  have all (parts : List Text) : List.Forall₂ (fun part item => ∃ rendered printed,
      texText item = .ok rendered ∧ literalText rendered = some printed ∧ stripText printed = part)
      parts items ↔ (∀ item ∈ items, representable item = true) ∧ parts = items.map spaced := by
    simp only [each]
    induction items generalizing parts with
    | nil => simp
    | cons item rest ih =>
      have front : stripText (spaced item) = spaced item := by
        rw [strip_spaced, bare item List.mem_cons_self]
      cases parts with
      | nil => simp
      | cons part parts =>
        rw [List.forall₂_cons, ih (fun other member => bare other (List.mem_cons_of_mem _ member)),
          front, List.forall_mem_cons, List.map_cons, List.cons.injEq]
        grind
  simp only [ItemsReprint, all]
  grind

theorem mem_strippedParts {parts : List Text} {part : Text} (member : part ∈ strippedParts parts) :
    stripText part = part := by
  obtain ⟨inside, -⟩ := List.mem_filter.mp member
  obtain ⟨whole, -, rfl⟩ := List.mem_map.mp inside
  exact trim_of_bare bare_trim

theorem inked_flatten (parts : List Text) : inked parts.flatten = (parts.map inked).flatten := by
  rw [inked, List.filter_flatten]
  rfl

/-- Commas and blanks have no ink, so splitting and trimming keep it all. -/
theorem inked_commaParts (text : Text) : inked (commaParts text).flatten = inked text := by
  have inks : inked ∘ stripText = inked := funext inked_strip
  have cut := flatten_splitOnP (fun c : Char => c == ',') text
  rw [← List.splitOn_eq_splitOnP] at cut
  rw [commaParts, strippedParts, List.flatten_filter_ne_nil, inked_flatten, List.map_map, inks,
    ← inked_flatten, cut, inked, inked, List.filter_filter]
  refine List.filter_congr fun c _ => ?_
  by_cases comma : c = ','
  · simp [comma]
  · simp [comma]

/-- The parts of two lists of pieces are the same where the pieces are. -/
theorem filter_map_inj {α : Type} {pieces : List α} {first second : α → Text}
    (empty : ∀ piece ∈ pieces, first piece = [] ↔ second piece = [])
    (same : (pieces.map first).filter (fun part => decide (part ≠ [])) =
      (pieces.map second).filter fun part => decide (part ≠ [])) :
    ∀ piece ∈ pieces, first piece = second piece := by
  induction pieces with
  | nil => exact nofun
  | cons piece rest ih =>
    have here := empty piece List.mem_cons_self
    have later := ih fun other member => empty other (List.mem_cons_of_mem _ member)
    rw [List.map_cons, List.map_cons] at same
    rw [List.forall_mem_cons]
    by_cases none : first piece = []
    · have none' := here.mp none
      rw [none, none', List.filter_cons_of_neg (by simp), List.filter_cons_of_neg (by simp)] at same
      exact ⟨none.trans none'.symm, later same⟩
    · have some' := mt here.mpr none
      rw [List.filter_cons_of_pos (by simpa using none),
        List.filter_cons_of_pos (by simpa using some')] at same
      exact ⟨(List.cons.inj same).1, later (List.cons.inj same).2⟩

theorem kept_trim_empty (marks : List Mark) :
    kept (trim Mark.blank marks) = [] ↔ trim Mark.blank marks = [] := by
  constructor
  · intro none
    rw [kept, List.filter_eq_nil_iff] at none
    rw [← trim_of_bare (@bare_trim _ Mark.blank marks), trim_eq_nil]
    exact fun mark member => mark.edge_blank (by simpa using none mark member)
  · intro none
    rw [none]
    rfl

/-- The parts of a decoded text, and those of its kept characters. -/
theorem commaParts_characters (marks : List Mark) :
    commaParts (characters marks) = ((marks.splitOnP isComma).map fun part =>
      characters (trim Mark.blank part)).filter fun part => decide (part ≠ []) := by
  rw [commaParts, strippedParts, List.splitOn_eq_splitOnP, characters, splitOnP_map, List.map_map]
  have same : (fun c : Char => c == ',') ∘ Mark.char = isComma := by
    funext mark
    exact (Bool.beq_eq_decide_eq ..)
  rw [same]
  congr 1
  exact List.map_congr_left fun part _ => strip_characters part

theorem filter_spaced (parts : List Text) :
    (parts.filter fun part => decide (part ≠ [])).map spaced =
      (parts.map spaced).filter fun part => decide (part ≠ []) := by
  rw [List.filter_map]
  congr 1
  refine List.filter_congr fun part _ => ?_
  simp [spaced]

theorem commaParts_spaced (text : Text) :
    commaParts (spaced text) = (commaParts text).map spaced := by
  have same : ((fun c : Char => c == ',') ∘ fun c => if spacing c then ' ' else c) =
      fun c => c == ',' := by
    funext c
    simp only [Function.comp_apply]
    split
    next blank =>
      have other : c ≠ ',' := by
        rintro rfl
        exact absurd blank (by decide)
      simp [other]
    · rfl
  have strips : stripText ∘ spaced = spaced ∘ stripText := funext strip_spaced
  have cut : (spaced text).splitOn ',' = (text.splitOn ',').map spaced := by
    rw [List.splitOn_eq_splitOnP, List.splitOn_eq_splitOnP, spaced, splitOnP_map, same]
    rfl
  rw [commaParts, commaParts, strippedParts, strippedParts, cut, List.map_map, strips,
    ← List.map_map, ← filter_spaced]

/-- The imported technologies print what their fragment printed exactly where the fragment is
plain TeX with tight groups between its commas, without control characters inside the items. -/
theorem items_reprint_iff {tex : Text} {offset : Nat} {value : StyledText}
    (accepted : styled tex offset = .ok value) :
    ItemsReprint tex (commaParts value.text) ↔
      plainTex tex = true ∧ TightParts tex ∧ PartsSupported tex := by
  obtain ⟨marks, denotes, valid, paints⟩ := styled_ok accepted
  have text : value.text = characters (kept (trim Mark.blank marks)) := paints.chars
  have parts : commaParts value.text = (((trim Mark.blank marks).splitOnP isComma).map fun part =>
      characters (kept (trim Mark.blank part))).filter fun part => decide (part ≠ []) := by
    have separates : ∀ mark, isComma mark = true → (!mark.edge) = true := by
      intro mark comma
      have comma : mark.char = ',' := by simpa [isComma] using comma
      refine Bool.not_eq_true' _ ▸ Bool.eq_false_iff.mpr fun edge => ?_
      have blank := mark.edge_blank edge
      rw [comma] at blank
      exact absurd blank (by decide)
    rw [text, commaParts_characters, kept, splitOnP_filter separates, List.map_map]
    congr 1
    refine List.map_congr_left fun part _ => ?_
    rw [Function.comp_apply, trim_filter edge_removes, kept]
  have bare : ∀ item ∈ commaParts value.text, stripText item = item := fun _ => mem_strippedParts
  rw [itemsReprint_iff bare]
  constructor
  · rintro ⟨supported, printed, here, same⟩
    have ink : (inked printed).length = (inked (characters marks)).length := by
      rw [← inked_strip printed, ← inked_commaParts, same, ← commaParts_spaced, inked_commaParts,
        inked_spaced, text, inked_kept, ← strip_characters, inked_strip]
    have plain := plain_of_inked denotes here ink
    obtain rfl := Option.some.inj ((plain_prints denotes plain).symm.trans here)
    refine ⟨plain, fun marks' denotes' part member => ?_, fun printed' here' => ?_⟩
    · obtain rfl := Option.some.inj (denotes.symm.trans denotes')
      rw [strip_spaced, strip_characters, commaParts_spaced, commaParts_characters, parts,
        filter_spaced, filter_spaced, List.map_map, List.map_map] at same
      have empty : ∀ part ∈ (trim Mark.blank marks).splitOnP isComma,
          (spaced ∘ fun part => characters (trim Mark.blank part)) part = [] ↔
            (spaced ∘ fun part => characters (kept (trim Mark.blank part))) part = [] := by
        intro part _
        simpa [spaced, characters] using (kept_trim_empty part).symm
      have equal := congrArg List.length (filter_map_inj empty same part member)
      simp only [Function.comp_apply, spaced_length, characters, List.length_map] at equal
      exact kept_eq_self.mp (List.filter_eq_self.mpr
        (List.length_filter_eq_length_iff.mp equal.symm))
    · obtain rfl := Option.some.inj (here.symm.trans here')
      rw [same]
      simpa [representable_spaced] using supported
  · rintro ⟨plain, tight, supported⟩
    have prints := plain_prints denotes plain
    have same : commaParts (stripText (spaced (characters marks))) =
        (commaParts value.text).map spaced := by
      rw [strip_spaced, strip_characters, commaParts_spaced, commaParts_characters, parts]
      congr 2
      refine List.map_congr_left fun part member => ?_
      rw [kept_eq_self.mpr (tight marks denotes part member)]
    refine ⟨fun item member => ?_, _, prints, same⟩
    rw [← representable_spaced]
    refine supported _ prints _ ?_
    rw [same]
    exact List.mem_map_of_mem member

end Pathfinder
