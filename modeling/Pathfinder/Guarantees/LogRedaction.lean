import Pathfinder.Obs.RedactedValues

/-!
# What is written to logs and traces

A redacted value tells no secret where the key `access_token` is not reached, no URL comes to hold
a bearer credential without its tabs and line breaks, and none stops being a URL with its query.
-/
namespace Pathfinder

-- What is said of the characters of a text is decided along the text, not over the type.
attribute [local instance (2000)] List.decidableBAll

section Statement
variable {chars : CharacterTables} (authorityAllowed : Text → Bool) (heap : LoggedHeap chars)
  (value : LoggedValue chars)

/-- Every key that names a secret is sealed, no string holds a bearer credential, no URL keeps its
query, and a value that differs only in its secrets has the same result. -/
structure Redacts : Prop where
  sealed : Sealed chars (redactValue authorityAllowed heap value)
  bearer : ∀ text, Inside (.string text) (redactValue authorityAllowed heap value) →
    ¬HoldsBearer chars text
  query : ∀ text, Inside (.string text) (redactValue authorityAllowed heap value) →
    IsHttpUrl authorityAllowed text → ¬KeepsQuery text
  url : EachReached heap (fun _ => True) (fun text => IsHttpUrl authorityAllowed text →
    ¬KeepsQuery (redactString chars authorityAllowed text)) (maxRedactionDepth + 1) [] value
  alike : ∀ heap' value', DifferInSecrets heap value heap' value' →
    redactValue authorityAllowed heap' value' = redactValue authorityAllowed heap value

end Statement

section Written
variable {chars : CharacterTables} {authorityAllowed : Text → Bool} {text : Text}

/-- A text that holds a credential holds an `r` and whitespace. -/
theorem HoldsBearer.signs (held : HoldsBearer chars text) :
    (∃ c ∈ text, c = 'r' ∨ c = 'R') ∧ ∃ c ∈ text, chars.isSpace c = true := by
  obtain ⟨before, rest, group, credential, whole, here, -⟩ := held
  obtain ⟨word, spaces, behind, rfl, -, found⟩ := bearerAt_some here
  have inside {c : Char} (member : c ∈ word ∨ c ∈ spaces) : c ∈ text := by
    rw [whole]
    simp only [List.mem_append]
    tauto
  constructor
  · have letters : ∃ c ∈ word, matchesIgnoringCase 'r' c = true := by
      cases found.written with
      | cons _ rest => cases rest with
        | cons _ rest => cases rest with
          | cons _ rest => cases rest with
            | cons letter _ =>
              exact ⟨_, by simp, letter⟩
    obtain ⟨c, member, letter⟩ := letters
    have known : ∀ c ∈ 'r' :: 'r'.toUpper :: caseFixes 'r', c = 'r' ∨ c = 'R' := by decide
    exact ⟨c, inside (.inl member), known c (matchesIgnoringCase_mem.mp letter)⟩
  · obtain ⟨c, rest, shown⟩ := List.exists_cons_of_ne_nil found.spaced
    have member : c ∈ spaces := by rw [shown]; exact List.mem_cons_self
    exact ⟨c, inside (.inr member), found.spaces_ c member⟩

/-- The text of a URL with a query holds a slash. -/
theorem KeepsQuery.slash (keeps : KeepsQuery text) : '/' ∈ text := by
  obtain ⟨scheme, fragment, shape⟩ := httpText keeps.1 keeps.2.1
  have inside : '/' ∈ urlText text := by
    rw [shape.whole]
    simp
  exact (List.dropWhile_sublist _).subset (List.mem_filter.mp inside).1

/-- No URL begins with an angle bracket. -/
theorem not_http_shown (name : TypeName chars) : ¬KeepsQuery name.shown := by
  rintro ⟨http, -⟩
  have read : ∃ rest, urlText name.shown = '<' :: rest := ⟨_, rfl⟩
  obtain ⟨rest, same⟩ := read
  have scheme : (urlParts name.shown).scheme = [] := by
    rw [urlParts, same, splitScheme]
    simp
  have known := http_scheme http
  rw [scheme] at known
  revert known
  decide

theorem writes_bearerFree (ascii : AsciiAgree chars) :
    WalkWrites chars fun text => ¬HoldsBearer chars text := by
  have plain {text : Text} (none : ∀ c ∈ text, ¬(c = 'r' ∨ c = 'R')) : ¬HoldsBearer chars text :=
    fun held => held.signs.1.elim fun c here => none c here.1 here.2
  have solid {text : Text} (none : ∀ c ∈ text, chars.isSpace c = false) :
      ¬HoldsBearer chars text := fun held => held.signs.2.elim fun c here => by
    rw [none c here.1] at here
    cases here.2
  have bracket {c : Char} (angle : c = '<' ∨ c = '>') : chars.isSpace c = false := by
    rcases angle with rfl | rfl
    · rw [(ascii '<' (by decide)).1]; decide
    · rw [(ascii '>' (by decide)).1]; decide
  exact
    { mark := solid fun c member => sign_not_space (mark_signs ascii c member)
      depth := plain (by decide)
      cycle := plain (by decide)
      nan := plain (by decide)
      infinity := plain (by decide)
      negativeInfinity := plain (by decide)
      plain := fun written => plain fun c member => not_or.mpr
        ⟨(written.plain c member).1, (written.plain c member).2.1⟩
      type := fun name => solid fun c member => by
        rcases List.mem_cons.mp member with rfl | member
        · exact bracket (.inl rfl)
        · rcases List.mem_append.mp member with inside | last
          · exact name.word c inside
          · exact bracket (.inr (List.mem_singleton.mp last)) }

theorem writes_query :
    WalkWrites chars fun text => IsHttpUrl authorityAllowed text → ¬KeepsQuery text := by
  have plain {text : Text} (none : ∀ c ∈ text, c ≠ '/') :
      IsHttpUrl authorityAllowed text → ¬KeepsQuery text :=
    fun _ keeps => none '/' keeps.slash rfl
  exact
    { mark := plain (by decide)
      depth := plain (by decide)
      cycle := plain (by decide)
      nan := plain (by decide)
      infinity := plain (by decide)
      negativeInfinity := plain (by decide)
      plain := fun written => plain fun c member => (written.plain c member).2.2
      type := fun name _ => not_http_shown name }

end Written

/-- A walk redacts exactly where it reaches no `access_token`, and no string that comes to hold a
credential or that stops being a URL. -/
theorem redacts_iff {chars : CharacterTables} (ascii : AsciiAgree chars)
    (authorityAllowed : Text → Bool) (heap : LoggedHeap chars) (value : LoggedValue chars) :
    Redacts authorityAllowed heap value ↔
      EachReached heap (fun key => isAccessToken chars key = false)
        (fun text => StaysBearerFree chars authorityAllowed text ∧
          StaysUrl chars authorityAllowed text) (maxRedactionDepth + 1) [] value := by
  constructor
  · intro holds
    have keys := reached_of_sealed _ _ _ holds.sealed
      (holds.alike _ _ (plant_differs heap value))
    have bearer := (result_texts_iff (writes_bearerFree ascii) _ _ _).mp holds.bearer
    refine ((keys.and bearer).and holds.url).imp (fun _ here => here.1.1) fun text here => ?_
    exact ⟨(redactString_bearer_iff ascii).mp here.1.2, redactString_url_iff.mp here.2⟩
  · intro each
    have strings : EachReached heap (fun _ => True) (fun text =>
        StaysBearerFree chars authorityAllowed text ∧ StaysUrl chars authorityAllowed text)
        (maxRedactionDepth + 1) [] value := each.imp (fun _ _ => trivial) fun _ here => here
    have keys : EachReached heap (fun key => isAccessToken chars key = false) (fun _ => True)
        (maxRedactionDepth + 1) [] value := each.imp (fun _ here => here) fun _ _ => trivial
    exact
      { sealed := sealed_of_reached _ _ _ keys
        bearer := (result_texts_iff (writes_bearerFree ascii) _ _ _).mpr
          (strings.imp (fun _ here => here) fun _ here => (redactString_bearer_iff ascii).mpr here.1)
        query := (result_texts_iff writes_query _ _ _).mpr
          (strings.imp (fun _ here => here) fun _ _ => redactString_query)
        url := strings.imp (fun _ here => here) fun _ here => redactString_url_iff.mpr here.2
        alike := fun heap' value' ⟨related, corresponds, same⟩ =>
          (safeValue_same corresponds _ [] same keys).symm }

/-! ## Examples -/

theorem ascii_agrees : AsciiAgree asciiTables := fun _ _ => ⟨rfl, rfl⟩

/-- An authority without brackets. -/
def unbracketed (netloc : Text) : Bool := !netloc.contains '[' && !netloc.contains ']'

/-- A mapping with one entry. -/
def entryHeap (key : String) (value : LoggedValue asciiTables) : LoggedHeap asciiTables :=
  fun _ => .mapping [(.string key.toList, value)]

theorem link_redacts : Redacts unbracketed
    (entryHeap "link" (.string "http://h/p?sig=1".toList)) (.object 0) := by
  refine (redacts_iff ascii_agrees unbracketed _ _).mpr fun _ => ?_
  have shown : shownEntries [(.string "link".toList, .string "http://h/p?sig=1".toList)] =
      [("link".toList, (.string "http://h/p?sig=1".toList : LoggedValue asciiTables))] := rfl
  simp only [entryHeap, shown, List.forall_mem_singleton]
  refine ⟨by decide, fun _ => ⟨fun _ _ _ broken => ?_, fun _ _ => by decide⟩⟩
  have unbroken : ∀ c ∈ "http://h/p?sig=1".toList, urlBreak c = false := by decide
  obtain ⟨c, member, breaks⟩ := broken
  rw [unbroken c member] at breaks
  cases breaks

/-- A line with a tab inside a word. -/
def brokenLine : Text := "http://h/bea\trer abc?x=1".toList

/-- A URL whose authority holds a credential. -/
def credentialUrl : Text := "http://bearer tok;x/p?sig=abc".toList

/-- An access token is written as it is, a credential comes to stand in a URL without its tab, and
a URL with a credential for its authority keeps its query. -/
theorem access_token_written :
    ¬Redacts unbracketed (entryHeap "access_token" (.string "abc".toList)) (.object 0) ∧
    ¬Redacts unbracketed (entryHeap "line" (.string brokenLine)) (.object 0) ∧
    ¬Redacts unbracketed (entryHeap "line" (.string credentialUrl)) (.object 0) := by
  refine ⟨fun holds => ?_, fun holds => ?_, fun holds => ?_⟩
  · have written : redactValue unbracketed (entryHeap "access_token" (.string "abc".toList))
        (.object 0) = .object [("access_token".toList, .string "abc".toList)] := by rfl
    have entry := holds.sealed _ (by rw [written]; exact .self) _ List.mem_cons_self (by decide)
    exact absurd (Redacted.string.inj entry) (by decide)
  · have redacted : redactString asciiTables unbracketed brokenLine =
        "http://h/bearer abc?[REDACTED]".toList := by decide +kernel
    have written : redactValue unbracketed (entryHeap "line" (.string brokenLine)) (.object 0) =
        .object [("line".toList, .string "http://h/bearer abc?[REDACTED]".toList)] := by
      rw [← redacted]
      rfl
    refine holds.bearer "http://h/bearer abc?[REDACTED]".toList ?_ ?_
    · rw [written]
      exact .value List.mem_cons_self .self
    · exact ⟨"http://h/".toList, "bearer abc?[REDACTED]".toList, "bearer ".toList,
        "abc?[REDACTED]".toList, rfl, by decide, by decide⟩
  · have reached := holds.url (by decide) _ List.mem_cons_self
    refine reached.2 (by decide) ⟨urlParts credentialUrl, by decide, by decide⟩ ?_
    have redacted : redactString asciiTables unbracketed credentialUrl =
        "http://bearer [REDACTED];x/p?sig=abc".toList := by decide +kernel
    rw [redacted]
    exact ⟨by decide, by decide, by decide⟩

end Pathfinder
