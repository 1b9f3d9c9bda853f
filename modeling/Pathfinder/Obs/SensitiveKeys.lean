import Pathfinder.Library.Lines
import Pathfinder.Library.Trim
import Pathfinder.Obs.Redaction

/-!
# The words of a key

A key names a secret by its words. The lists find every such name but one.
-/
namespace Pathfinder
open Trimming

/-- The runs of letters and digits in a text. -/
def wordsOf (text : Text) : List Text :=
  (text.splitOnP fun c => !keyCharacter c).filter (· ≠ [])

/-- The words of a key, without regard to case. -/
def keyWords (chars : CharacterTables) (key : Text) : List Text := wordsOf (casefold chars key)

/-- The words of a key are one of the listed names, or the last of them are the name of a secret. -/
def NamedSecret (chars : CharacterTables) (key : Text) : Prop :=
  ['_'].intercalate (keyWords chars key) ∈ sensitiveKeys ∨
    ∃ name ∈ suffixNames, name.splitOn '_' <:+ keyWords chars key

instance (chars : CharacterTables) (key : Text) : Decidable (NamedSecret chars key) :=
  inferInstanceAs (Decidable (_ ∨ _))

/-- The name that ends a key in the one list and is not in the other. -/
def accessToken : Text := "access_token".toList

/-- The key is that name. -/
def isAccessToken (chars : CharacterTables) (key : Text) : Bool :=
  normalizedKey chars key = accessToken

/-! ## The normalized key -/

section Words
variable {c : Char} {text word : Text} {words : List Text}

theorem wordsOf_separator (separates : keyCharacter c = false) :
    wordsOf (c :: text) = wordsOf text := by
  have first : (!keyCharacter c) = true := by rw [separates]; rfl
  have pieces := List.splitOnP_append_cons (p := fun c => !keyCharacter c) [] text first
  rw [List.nil_append] at pieces
  rw [wordsOf, pieces]
  rfl

theorem wordsOf_run (run : ∀ c ∈ word, keyCharacter c = true) (shown : word ≠ []) :
    wordsOf word = [word] := by
  have inside : ∀ c ∈ word, (!keyCharacter c) = false := fun c member => by rw [run c member]; rfl
  rw [wordsOf, List.splitOnP_eq_singleton inside, List.filter_cons_of_pos (by simpa using shown)]
  rfl

theorem wordsOf_run_separator (run : ∀ c ∈ word, keyCharacter c = true) (shown : word ≠ [])
    (separates : keyCharacter c = false) : wordsOf (word ++ c :: text) = word :: wordsOf text := by
  have inside : ∀ c ∈ word, (!keyCharacter c) = false := fun c member => by rw [run c member]; rfl
  have first : (!keyCharacter c) = true := by rw [separates]; rfl
  rw [wordsOf, List.splitOnP_append_cons_of_forall_mem inside c first,
    List.filter_cons_of_pos (by simpa using shown)]
  rfl

theorem mem_wordsOf (member : word ∈ wordsOf text) :
    word ≠ [] ∧ ∀ c ∈ word, keyCharacter c = true := by
  obtain ⟨piece, shown⟩ := List.mem_filter.mp member
  refine ⟨by simpa using shown, fun c inside => ?_⟩
  have whole : c ∈ (text.splitOnP fun c => !keyCharacter c).flatten :=
    List.mem_flatten.mpr ⟨word, piece, inside⟩
  rw [Lines.flatten_splitOnP] at whole
  simpa using (List.mem_filter.mp whole).2

/-- Behind a run the words are joined, and behind a separator too; an underscore may be left. -/
theorem joinKeyWords_words (text : Text) :
    (∀ word, word ≠ [] → (∀ c ∈ word, keyCharacter c = true) →
      ∃ left, (∀ c ∈ left, c = '_') ∧
        word ++ joinKeyWords false text = ['_'].intercalate (wordsOf (word ++ text)) ++ left) ∧
    ∃ left, (∀ c ∈ left, c = '_') ∧
      joinKeyWords true text = ['_'].intercalate (wordsOf text) ++ left ∧
      (wordsOf text = [] → left = []) := by
  induction text with
  | nil =>
    refine ⟨fun word shown run => ⟨[], fun c member => (by cases member), ?_⟩,
      [], fun c member => (by cases member), rfl, fun _ => rfl⟩
    rw [joinKeyWords, List.append_nil, wordsOf_run run shown, List.intercalate_singleton,
      List.append_nil]
  | cons c text ih =>
    obtain ⟨running, left, under, joined, none⟩ := ih
    cases kept : keyCharacter c with
    | false =>
      have waits : joinKeyWords true (c :: text) = joinKeyWords true text := by
        rw [joinKeyWords, kept]; rfl
      have stops : joinKeyWords false (c :: text) = '_' :: joinKeyWords true text := by
        rw [joinKeyWords, kept]; rfl
      constructor
      · intro word shown run
        rw [stops, joined, wordsOf_run_separator run shown kept]
        cases words : wordsOf text with
        | nil =>
          rw [none words]
          refine ⟨['_'], fun c member => by simpa using member, ?_⟩
          rw [List.intercalate_singleton, List.intercalate_nil]
          rfl
        | cons second more =>
          refine ⟨left, under, ?_⟩
          rw [List.intercalate_cons_cons]
          simp only [List.append_assoc, List.cons_append, List.nil_append]
      · rw [waits, wordsOf_separator kept]
        exact ⟨left, under, joined, none⟩
    | true =>
      have kept_ : ∀ behind, joinKeyWords behind (c :: text) = c :: joinKeyWords false text := by
        intro behind
        rw [joinKeyWords, kept]; rfl
      constructor
      · intro word shown run
        have more := running (word ++ [c]) (by simp) (by
          intro d member
          rcases List.mem_append.mp member with early | last
          · exact run d early
          · rw [List.mem_singleton.mp last]; exact kept)
        rw [List.append_assoc, List.append_assoc] at more
        rw [kept_]
        exact more
      · obtain ⟨left, under, whole⟩ := running [c] (List.cons_ne_nil c [])
          (fun d member => by rw [List.mem_singleton.mp member]; exact kept)
        rw [kept_]
        refine ⟨left, under, whole, fun none => ?_⟩
        have none : wordsOf ([c] ++ text) = [] := none
        rw [none, List.intercalate_nil, List.nil_append] at whole
        have mark : c = '_' := under c (by rw [← whole]; exact List.mem_cons_self)
        rw [mark] at kept
        cases kept

theorem bare_intercalate (each : ∀ word ∈ words, word ≠ [] ∧ ∀ c ∈ word, keyCharacter c = true) :
    Bare (fun c => decide (c = '_')) (['_'].intercalate words) := by
  have plain {c : Char} (kept : keyCharacter c = true) : decide (c = '_') = false := by
    refine decide_eq_false fun mark => ?_
    rw [mark] at kept
    cases kept
  have ends {word : Text} (shown : word ≠ []) (run : ∀ c ∈ word, keyCharacter c = true) :
      (∀ c ∈ word.head?, decide (c = '_') = false) ∧
        ∀ c ∈ word.getLast?, decide (c = '_') = false :=
    ⟨fun c first => plain (run c (List.mem_of_mem_head? first)),
      fun c last => plain (run c (List.mem_of_mem_getLast? last))⟩
  induction words with
  | nil => exact ⟨fun c first => (by cases first), fun c last => (by cases last)⟩
  | cons word words ih =>
    obtain ⟨⟨shown, run⟩, later⟩ := List.forall_mem_cons.mp each
    have here := ends shown run
    cases words with
    | nil =>
      rw [List.intercalate_singleton]
      exact ⟨here.1, here.2⟩
    | cons second more =>
      have rest := ih later
      have inner : ['_'].intercalate (second :: more) ≠ [] := by
        intro none
        have first := (later second List.mem_cons_self).1
        cases more with
        | nil => exact first (by rwa [List.intercalate_singleton] at none)
        | cons third more =>
          rw [List.intercalate_cons_cons] at none
          exact first (List.append_eq_nil_iff.mp (List.append_eq_nil_iff.mp none).1).1
      rw [List.intercalate_cons_cons]
      constructor
      · rw [List.append_assoc, List.head?_append_of_ne_nil _ shown]
        exact here.1
      · rw [List.getLast?_append_of_ne_nil _ inner]
        exact rest.last

end Words

/-- A normalized key is its words with underscores between them. -/
theorem normalizedKey_words (chars : CharacterTables) (key : Text) :
    normalizedKey chars key = ['_'].intercalate (keyWords chars key) := by
  have whole : ∃ before left, (∀ c ∈ before, c = '_') ∧ (∀ c ∈ left, c = '_') ∧
      joinKeyWords false (casefold chars key) =
        before ++ ['_'].intercalate (wordsOf (casefold chars key)) ++ left := by
    cases casefold chars key with
    | nil => exact ⟨[], [], fun c member => (by cases member), fun c member => (by cases member), rfl⟩
    | cons c text =>
      cases kept : keyCharacter c with
      | false =>
        obtain ⟨-, left, under, joined, -⟩ := joinKeyWords_words text
        refine ⟨['_'], left, fun c member => by simpa using member, under, ?_⟩
        rw [wordsOf_separator kept, List.append_assoc, ← joined, joinKeyWords, kept]
        rfl
      | true =>
        obtain ⟨left, under, joined⟩ := (joinKeyWords_words text).1 [c] (List.cons_ne_nil c [])
          (fun d member => by rw [List.mem_singleton.mp member]; exact kept)
        refine ⟨[], left, fun c member => (by cases member), under, ?_⟩
        rw [joinKeyWords, kept]
        exact joined
  obtain ⟨before, left, leading, trailing, whole⟩ := whole
  have trimmed := @trim_append _ (fun c => decide (c = '_'))
    (['_'].intercalate (wordsOf (casefold chars key))) before left
    (fun c member => decide_eq_true (leading c member))
    (fun c member => decide_eq_true (trailing c member))
  have bare := bare_intercalate fun word (member : word ∈ wordsOf (casefold chars key)) =>
    mem_wordsOf member
  rw [trim_of_bare bare] at trimmed
  rw [normalizedKey, whole]
  exact trimmed

/-! ## The names the lists find -/

theorem splitOn_normalizedKey (chars : CharacterTables) {key : Text}
    (some_ : keyWords chars key ≠ []) :
    (normalizedKey chars key).splitOn '_' = keyWords chars key := by
  rw [normalizedKey_words]
  refine List.splitOn_intercalate '_' (fun word member mark => ?_) some_
  have kept := (mem_wordsOf member).2 '_' mark
  cases kept

/-- The last words of a key are a name where the name stands behind an underscore, or is the key. -/
theorem trailing_words_iff (chars : CharacterTables) {key name : Text} (shown : name ≠ []) :
    name.splitOn '_' <:+ keyWords chars key ↔
      normalizedKey chars key = name ∨ '_' :: name <:+ normalizedKey chars key := by
  have some_ (held : normalizedKey chars key ≠ []) : keyWords chars key ≠ [] := by
    intro none
    rw [normalizedKey_words, none] at held
    exact held rfl
  constructor
  · rintro ⟨before, whole⟩
    have unmarked : ∀ word ∈ before, '_' ∉ word := fun word member mark => by
      have inside : word ∈ keyWords chars key := by
        rw [← whole]
        exact List.mem_append_left _ member
      have kept := (mem_wordsOf inside).2 '_' mark
      cases kept
    by_cases none : before = []
    · rw [none, List.nil_append] at whole
      rw [normalizedKey_words, ← whole]
      exact .inl (List.intercalate_splitOn '_')
    · refine .inr ⟨['_'].intercalate before, ?_⟩
      have pieces := List.splitOn_append_cons_self (a := '_') (['_'].intercalate before) name
      rw [List.splitOn_intercalate '_' unmarked none, whole] at pieces
      rw [normalizedKey_words, ← pieces, List.intercalate_splitOn]
  · rintro (same | ⟨before, whole⟩)
    · rw [← splitOn_normalizedKey chars (some_ (by rwa [same])), same]
    · have held : normalizedKey chars key ≠ [] := by
        rw [← whole]
        exact List.append_ne_nil_of_right_ne_nil _ (List.cons_ne_nil _ _)
      rw [← splitOn_normalizedKey chars (some_ held), ← whole, List.splitOn_append_cons_self]
      exact List.suffix_append _ _

theorem suffixName_listed {name : Text} (member : name ∈ suffixNames) :
    name ≠ [] ∧ (name ∈ sensitiveKeys ∨ name = accessToken) := by
  revert name
  decide

/-- A key that names a secret is found by the lists, or is the one name that is not. -/
theorem namedSecret_iff (chars : CharacterTables) (key : Text) : NamedSecret chars key ↔
    isSensitiveKey chars key = true ∨ isAccessToken chars key = true := by
  simp only [NamedSecret, isSensitiveKey, isAccessToken, Bool.or_eq_true, List.contains_iff_mem,
    List.any_eq_true, List.isSuffixOf_iff_suffix, decide_eq_true_eq, ← normalizedKey_words]
  constructor
  · rintro (listed | ⟨name, member, trailing⟩)
    · exact .inl (.inl listed)
    · obtain ⟨shown, known⟩ := suffixName_listed member
      rcases (trailing_words_iff chars shown).mp trailing with same | behind
      · rw [same]
        exact known.imp_left .inl
      · exact .inl (.inr ⟨name, member, behind⟩)
  · rintro ((listed | ⟨name, member, behind⟩) | same)
    · exact .inl listed
    · exact .inr ⟨name, member, (trailing_words_iff chars (suffixName_listed member).1).mpr
        (.inr behind)⟩
    · refine .inr ⟨accessToken, by decide, ?_⟩
      exact (trailing_words_iff chars (by decide)).mpr (.inl same)

/-- The lists do not find the one name. -/
theorem isAccessToken_free {chars : CharacterTables} {key : Text}
    (same : isAccessToken chars key = true) : isSensitiveKey chars key = false := by
  rw [isAccessToken, decide_eq_true_eq] at same
  rw [isSensitiveKey, same]
  decide

end Pathfinder
