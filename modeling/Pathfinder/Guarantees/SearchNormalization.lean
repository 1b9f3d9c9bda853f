import Pathfinder.Library.Trim
import Pathfinder.Tools.Search

/-!
# Normalized search results

A result of the provider is normalized, and stays as it is when that is done again, exactly where
neither its title nor its snippet is cut behind whitespace.
-/
namespace Pathfinder
open Trimming

/-- The last character that is left of a text that is too long is not whitespace. -/
def CutBehindInk (limit : Nat) (text : Text) : Prop :=
  limit < text.length → ∀ c ∈ (text.take limit).getLast?, isPythonSpace c = false

section Cut
variable {limit : Nat} {text : Text}

theorem bare_stripText (text : Text) : Bare isPythonSpace (stripText text) := bare_trim

theorem stripText_of_bare (bare : Bare isPythonSpace text) : stripText text = text :=
  trim_of_bare bare

/-- What is left of a trimmed text is trimmed where it is not cut behind whitespace. -/
theorem stripText_take_iff (positive : 0 < limit) :
    (stripText text).take limit = stripText ((stripText text).take limit) ↔
      CutBehindInk limit (stripText text) := by
  constructor
  · intro same _ c last
    rw [same] at last
    exact (bare_stripText _).last c last
  · intro cut
    refine (stripText_of_bare ⟨fun c first => ?_, fun c last => ?_⟩).symm
    · rw [List.head?_take, if_neg (Nat.ne_of_gt positive)] at first
      exact (bare_stripText text).head c first
    · by_cases long : limit < (stripText text).length
      · exact cut long c last
      · rw [List.take_of_length_le (Nat.not_lt.mp long)] at last
        exact (bare_stripText text).last c last

end Cut

/-! ## Results -/

section Results
variable (canonicalizeSearchUrl : Text → Option Text) (sha256 : Text → Text)

/-- A result for the inputs: its title and snippet are what the bounds leave of them, and it is
normalized to itself. -/
structure Normalizes (title url snippet : Text) (publishedAt : Option Text)
    (result : SearchResult) : Prop where
  returned : normalizeSearchResult canonicalizeSearchUrl sha256 title url snippet publishedAt =
    some result
  title_prefix : result.title <+: stripText title
  title_bound : result.title.length ≤ 500
  snippet_prefix : result.snippet <+: stripText snippet
  snippet_bound : result.snippet.length ≤ 4000
  truncated : result.truncated = true ↔
    result.title ≠ stripText title ∨ result.snippet ≠ stripText snippet
  again : ∃ other, normalizeSearchResult canonicalizeSearchUrl sha256 result.title result.url
      result.snippet result.publishedAt = some other ∧ other.title = result.title ∧
    other.snippet = result.snippet ∧ other.url = result.url ∧ other.sourceId = result.sourceId

variable {canonicalizeSearchUrl sha256} {title url snippet canonicalUrl : Text}
  {publishedAt : Option Text}

/-- The result that is checked. -/
def searchDraft (sha256 : Text → Text) (title canonicalUrl snippet : Text)
    (publishedAt : Option Text) : SearchResult where
  sourceId := "web-v1:".toList ++ sha256 canonicalUrl
  title := (stripText title).take 500
  url := canonicalUrl
  snippet := (stripText snippet).take 4000
  publishedAt := publishedAt.map stripText
  truncated := 500 < (stripText title).length ∨ 4000 < (stripText snippet).length

/-- What the function does with inputs it does not refuse by themselves. -/
theorem normalizeSearchResult_draft (shown : stripText title ≠ [])
    (published : ∀ text ∈ publishedAt, stripText text ≠ [] ∧ (stripText text).length ≤ 64)
    (accepted : canonicalizeSearchUrl url = some canonicalUrl)
    (fixed : canonicalizeSearchUrl canonicalUrl = some canonicalUrl) :
    normalizeSearchResult canonicalizeSearchUrl sha256 title url snippet publishedAt =
      if searchContract canonicalizeSearchUrl sha256
        (searchDraft sha256 title canonicalUrl snippet publishedAt) then
        some (searchDraft sha256 title canonicalUrl snippet publishedAt) else none := by
  have source : searchSourceId canonicalizeSearchUrl sha256 canonicalUrl =
      some ("web-v1:".toList ++ sha256 canonicalUrl) := by
    rw [searchSourceId, fixed]
    rfl
  cases publishedAt with
  | none =>
    simp only [normalizeSearchResult, if_neg shown, accepted, source, bind, Option.bind]
    rfl
  | some text =>
    obtain ⟨visible, short⟩ := published text rfl
    have allowed : ¬(stripText text = [] ∨ 64 < (stripText text).length) :=
      not_or.mpr ⟨visible, Nat.not_lt.mpr short⟩
    simp only [normalizeSearchResult, if_neg shown, if_neg allowed, accepted, source, bind,
      Option.bind]
    rfl

theorem trimmed_stripText {text : Text} (shown : stripText text ≠ []) :
    trimmed (stripText text) = true := by
  have same := stripText_of_bare (bare_stripText text)
  simp [trimmed, same, shown]

/-- The checks of the result refuse a title or a snippet that is cut behind whitespace, and nothing
else. -/
theorem searchContract_draft (hex : ∀ text, isHexDigest (sha256 text) = true)
    (shown : stripText title ≠ [])
    (published : ∀ text ∈ publishedAt, stripText text ≠ [] ∧ (stripText text).length ≤ 64)
    (fixed : canonicalizeSearchUrl canonicalUrl = some canonicalUrl) :
    searchContract canonicalizeSearchUrl sha256
        (searchDraft sha256 title canonicalUrl snippet publishedAt) = true ↔
      CutBehindInk 500 (stripText title) ∧ CutBehindInk 4000 (stripText snippet) := by
  have source : searchSourceId canonicalizeSearchUrl sha256 canonicalUrl =
      some ("web-v1:".toList ++ sha256 canonicalUrl) := by
    rw [searchSourceId, fixed]
    rfl
  have dates : ((publishedAt.map stripText).all fun text => text.length ≤ 64 && trimmed text) =
      true := by
    cases publishedAt with
    | none => rfl
    | some text =>
      obtain ⟨visible, short⟩ := published text rfl
      simp [short, trimmed_stripText visible]
  have kept : (stripText title).take 500 ≠ [] := by
    rw [Ne, List.take_eq_nil_iff]
    exact fun none => none.elim (by omega) shown
  have identity : isSearchSourceId (searchDraft sha256 title canonicalUrl snippet
      publishedAt).sourceId = true := isSearchSourceId_digest (hex _)
  have titled := @stripText_take_iff 500 title (by omega)
  have quoted := @stripText_take_iff 4000 snippet (by omega)
  rw [searchContract, identity, ← titled, ← quoted]
  simp only [Bool.and_eq_true, decide_eq_true_eq, trimmed]
  constructor
  · exact fun checked => ⟨checked.1.2.2, checked.2⟩
  · intro bare
    have still : stripText ((stripText title).take 500) ≠ [] := bare.1 ▸ kept
    exact ⟨⟨⟨⟨⟨⟨⟨trivial, List.length_take_le _ _⟩, List.length_take_le _ _⟩, dates⟩, fixed⟩,
      source⟩, still, bare.1⟩, bare.2⟩

theorem searchDraft_truncated :
    (searchDraft sha256 title canonicalUrl snippet publishedAt).truncated = true ↔
      (stripText title).take 500 ≠ stripText title ∨
        (stripText snippet).take 4000 ≠ stripText snippet := by
  dsimp only [searchDraft]
  rw [decide_eq_true_eq, Ne, List.take_eq_self_iff, Ne, List.take_eq_self_iff, Nat.not_le,
    Nat.not_le]

/-- A result that passes its checks is the draft of itself. -/
theorem searchDraft_again (titled : CutBehindInk 500 (stripText title))
    (quoted : CutBehindInk 4000 (stripText snippet)) :
    searchDraft sha256 ((stripText title).take 500) canonicalUrl ((stripText snippet).take 4000)
        (publishedAt.map stripText) =
      { searchDraft sha256 title canonicalUrl snippet publishedAt with truncated := false } := by
  have title_ := (stripText_take_iff (by omega)).mpr titled
  have snippet_ := (stripText_take_iff (by omega)).mpr quoted
  have dates : (publishedAt.map stripText).map stripText = publishedAt.map stripText := by
    rw [Option.map_map]
    exact Option.map_congr fun text _ => stripText_of_bare (bare_stripText text)
  have short : ¬(500 < ((stripText title).take 500).length ∨
      4000 < ((stripText snippet).take 4000).length) :=
    not_or.mpr ⟨Nat.not_lt.mpr (List.length_take_le _ _), Nat.not_lt.mpr (List.length_take_le _ _)⟩
  unfold searchDraft
  dsimp only
  rw [← title_, ← snippet_, dates, decide_eq_false short, List.take_take, List.take_take,
    Nat.min_self, Nat.min_self]

/-- Inputs that are not refused by themselves are normalized exactly where neither text is cut
behind whitespace. -/
theorem normalizeSearchResult_iff (hex : ∀ text, isHexDigest (sha256 text) = true)
    (shown : stripText title ≠ [])
    (published : ∀ text ∈ publishedAt, stripText text ≠ [] ∧ (stripText text).length ≤ 64)
    (accepted : canonicalizeSearchUrl url = some canonicalUrl)
    (fixed : canonicalizeSearchUrl canonicalUrl = some canonicalUrl) (result : SearchResult) :
    normalizeSearchResult canonicalizeSearchUrl sha256 title url snippet publishedAt = some result ↔
      (CutBehindInk 500 (stripText title) ∧ CutBehindInk 4000 (stripText snippet)) ∧
        searchDraft sha256 title canonicalUrl snippet publishedAt = result := by
  rw [normalizeSearchResult_draft shown published accepted fixed,
    ← searchContract_draft hex shown published fixed]
  split
  next passed => simp [passed]
  next refused => simp [refused]

/-- What is left of a text is not cut once more. -/
theorem cutBehindInk_take {limit : Nat} {text : Text} (positive : 0 < limit)
    (cut : CutBehindInk limit (stripText text)) :
    CutBehindInk limit (stripText ((stripText text).take limit)) := by
  intro long
  rw [← (stripText_take_iff positive).mpr cut] at long
  exact absurd (List.length_take_le _ _) (Nat.not_le.mpr long)

theorem normalizes_iff (idempotent : ∀ address canonical,
      canonicalizeSearchUrl address = some canonical →
        canonicalizeSearchUrl canonical = some canonical)
    (hex : ∀ text, isHexDigest (sha256 text) = true) (shown : stripText title ≠ [])
    (published : ∀ text ∈ publishedAt, stripText text ≠ [] ∧ (stripText text).length ≤ 64)
    (accepted : (canonicalizeSearchUrl url).isSome) :
    (∃ result, Normalizes canonicalizeSearchUrl sha256 title url snippet publishedAt result) ↔
      CutBehindInk 500 (stripText title) ∧ CutBehindInk 4000 (stripText snippet) := by
  obtain ⟨canonicalUrl, accepted⟩ := Option.isSome_iff_exists.mp accepted
  have fixed := idempotent _ _ accepted
  constructor
  · rintro ⟨result, normalized⟩
    exact ((normalizeSearchResult_iff hex shown published accepted fixed result).mp
      normalized.returned).1
  · intro cut
    have titled := (stripText_take_iff (by omega)).mpr cut.1
    have still : stripText ((stripText title).take 500) ≠ [] := by
      rw [← titled, Ne, List.take_eq_nil_iff]
      exact fun none => none.elim (by omega) shown
    have dates : ∀ text ∈ publishedAt.map stripText,
        stripText text ≠ [] ∧ (stripText text).length ≤ 64 := by
      intro text member
      obtain ⟨date, given, rfl⟩ := Option.mem_map.mp member
      rw [stripText_of_bare (bare_stripText date)]
      exact published date given
    refine ⟨searchDraft sha256 title canonicalUrl snippet publishedAt,
      (normalizeSearchResult_iff hex shown published accepted fixed _).mpr ⟨cut, rfl⟩,
      List.take_prefix _ _, List.length_take_le _ _, List.take_prefix _ _, List.length_take_le _ _,
      searchDraft_truncated, _,
      (normalizeSearchResult_iff hex still dates fixed fixed _).mpr
        ⟨⟨cutBehindInk_take (by omega) cut.1, cutBehindInk_take (by omega) cut.2⟩,
          searchDraft_again cut.1 cut.2⟩, rfl, rfl, rfl, rfl⟩

end Results

/-! ## An address -/

/-- The address as it is canonicalized. -/
def sampleUrl : Text := "https://example.com/".toList

def canonicalizeSample (address : Text) : Option Text :=
  if address = "HTTPS://Example.com:443".toList ∨ address = sampleUrl then some sampleUrl else none

/-- SHA-256 of the address. -/
def sampleDigest (_ : Text) : Text :=
  "0f115db062b7c0dd030b16878c99dea5c354b49dc37b38eb8846179c7783e9d7".toList

theorem canonicalizeSample_idempotent : ∀ address canonical,
    canonicalizeSample address = some canonical →
      canonicalizeSample canonical = some canonical := by
  intro address canonical accepted
  unfold canonicalizeSample at accepted
  split at accepted
  · cases accepted
    exact if_pos (.inr rfl)
  · cases accepted

theorem sampleDigest_hex (text : Text) : isHexDigest (sampleDigest text) = true :=
  isHexDigest_ofList (by decide)

/-- A title of 501 characters. -/
def longTitle : Text := List.replicate 501 'a'

/-- The long title is cut, and the result is normalized. -/
theorem sample_normalized : stripText longTitle ≠ (stripText longTitle).take 500 ∧
    ∃ result, Normalizes canonicalizeSample sampleDigest longTitle
      "HTTPS://Example.com:443".toList " A theorem prover ".toList (some "2026-01-02".toList)
        result := by
  refine ⟨by decide +kernel, ?_⟩
  refine (normalizes_iff canonicalizeSample_idempotent sampleDigest_hex (by decide +kernel) ?_
    (by decide +kernel)).mpr ⟨?_, ?_⟩
  · rintro text ⟨⟩
    decide +kernel
  · have last : ((stripText longTitle).take 500).getLast? = some 'a' := by decide +kernel
    intro _ c seen
    cases last.symm.trans seen
    decide
  · exact fun long => absurd long (by decide +kernel)

/-- A title of 501 characters whose 500th is a space. -/
def spacedTitle : Text := List.replicate 499 'a' ++ [' ', 'b']

/-- The inputs are in order, but the title is cut behind a space and the result refused. -/
theorem spacedTitle_refused : stripText spacedTitle ≠ [] ∧
    canonicalizeSample sampleUrl = some sampleUrl ∧
    (∀ address canonical, canonicalizeSample address = some canonical →
      canonicalizeSample canonical = some canonical) ∧
    (∀ text, isHexDigest (sampleDigest text) = true) ∧
    normalizeSearchResult canonicalizeSample sampleDigest spacedTitle sampleUrl [] none = none ∧
    ¬∃ result, Normalizes canonicalizeSample sampleDigest spacedTitle sampleUrl [] none result := by
  have refused : normalizeSearchResult canonicalizeSample sampleDigest spacedTitle sampleUrl []
      none = none := by decide +kernel
  refine ⟨by decide +kernel, by decide +kernel, canonicalizeSample_idempotent, sampleDigest_hex,
    refused, ?_⟩
  rintro ⟨result, normalized⟩
  exact absurd (refused.symm.trans normalized.returned) (Option.some_ne_none result).symm

end Pathfinder
