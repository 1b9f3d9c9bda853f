import Pathfinder.Obs.Bearer

/-!
# URLs with a redacted query

What the parts of an `http` URL say about its text, and what the text that is put together again
holds.
-/
namespace Pathfinder

-- What is said of the characters of a text is decided along the text, not over the type.
attribute [local instance (2000)] List.decidableBAll

variable {chars : CharacterTables} {text : Text}

theorem splitAt_whole (mark : Char) (text : Text) : mark ∉ (splitAt mark text).1 ∧
    ((text = (splitAt mark text).1 ∧ (splitAt mark text).2 = []) ∨
      text = (splitAt mark text).1 ++ mark :: (splitAt mark text).2) := by
  have none : mark ∉ text.takeWhile (· ≠ mark) := fun member => by
    simpa using List.mem_takeWhile_imp member
  refine ⟨none, ?_⟩
  cases rest : text.dropWhile (· ≠ mark) with
  | nil =>
    refine .inl ⟨?_, by rw [splitAt, rest]; rfl⟩
    conv_lhs => rw [← List.takeWhile_append_dropWhile (p := (· ≠ mark)) (l := text), rest]
    exact List.append_nil _
  | cons c behind =>
    have stop : c = mark := by
      have first := @head?_dropWhile_stop _ (fun c => decide (c ≠ mark)) text c (by rw [rest]; rfl)
      simpa using first
    refine .inr ?_
    conv_lhs => rw [← List.takeWhile_append_dropWhile (p := (· ≠ mark)) (l := text), rest, stop]
    rw [splitAt, rest]
    rfl

theorem splitAt_append {mark : Char} {front behind : Text} (none : mark ∉ front) :
    splitAt mark (front ++ mark :: behind) = (front, behind) := by
  have kept : ∀ c ∈ front, decide (c ≠ mark) = true := fun c member =>
    decide_eq_true fun same => none (same ▸ member)
  obtain ⟨taken, dropped⟩ := @takeWhile_append_stop _ (fun c => decide (c ≠ mark)) front
    (mark :: behind) kept (by rintro c ⟨⟩; simp)
  rw [splitAt, taken, dropped]
  rfl

theorem splitAt_none {mark : Char} {front : Text} (none : mark ∉ front) :
    splitAt mark front = (front, []) := by
  have kept : ∀ c ∈ front, decide (c ≠ mark) = true := fun c member =>
    decide_eq_true fun same => none (same ▸ member)
  rw [splitAt, List.takeWhile_eq_self_iff.mpr kept, List.dropWhile_eq_nil_iff.mpr kept]
  rfl

/-- How the text of an `http` URL with a query is made of its parts. -/
structure HttpText (text : Text) (parts : SplitUrl) (scheme fragment : Text) : Prop where
  lower : scheme.map Char.toLower = parts.scheme
  whole : urlText text = scheme ++ ':' :: '/' :: '/' ::
    (parts.netloc ++ (parts.path ++ '?' :: (parts.query ++ fragment)))
  fragment_ : (fragment = [] ∧ parts.fragment = []) ∨ fragment = '#' :: parts.fragment
  authority : ∀ c ∈ parts.netloc, authoritySign c = true
  rooted : parts.path = [] ∨ parts.path.head? = some '/'
  path : '#' ∉ parts.path ∧ '?' ∉ parts.path
  unbroken : ∀ c ∈ urlText text, urlBreak c = false

theorem splitScheme_whole {url : Text} (shown : (splitScheme url).1 ≠ []) :
    ∃ scheme, scheme.map Char.toLower = (splitScheme url).1 ∧
      url = scheme ++ ':' :: (splitScheme url).2 := by
  unfold splitScheme at shown ⊢
  simp only at shown ⊢
  split at shown
  next valid =>
    rw [if_pos valid]
    refine ⟨url.takeWhile (· ≠ ':'), rfl, ?_⟩
    simp only [Bool.and_eq_true] at valid
    have member : ':' ∈ url := by simpa using valid.1.1
    rcases (splitAt_whole ':' url).2 with ⟨same, -⟩ | whole
    · have none := (splitAt_whole ':' url).1
      rw [← same] at none
      exact absurd member none
    · exact whole
  next => exact absurd rfl shown

theorem splitAuthority_whole {url : Text} (shown : (splitAuthority url).1 ≠ []) :
    url = '/' :: '/' :: ((splitAuthority url).1 ++ (splitAuthority url).2) ∧
      (∀ c ∈ (splitAuthority url).1, authoritySign c = true) ∧
      ∀ c ∈ (splitAuthority url).2.head?, authoritySign c = false := by
  unfold splitAuthority at shown ⊢
  split
  next rest =>
    refine ⟨?_, fun c member => List.mem_takeWhile_imp member, head?_dropWhile_stop rest⟩
    rw [List.takeWhile_append_dropWhile]
  next other =>
    exfalso
    revert shown
    split
    next rest => exact fun _ => other rest rfl
    next => exact fun shown => shown rfl

theorem urlText_unbroken (text : Text) : ∀ c ∈ urlText text, urlBreak c = false := by
  intro c member
  simpa using (List.mem_filter.mp member).2

/-- The parts, read one behind the other. -/
theorem urlParts_read (text : Text) : ∃ scheme netloc target path,
    scheme = splitScheme (urlText text) ∧ netloc = splitAuthority scheme.2 ∧
      target = splitAt '#' netloc.2 ∧ path = splitAt '?' target.1 ∧
      urlParts text = ⟨scheme.1, netloc.1, path.1, path.2, target.2⟩ :=
  ⟨_, _, _, _, rfl, rfl, rfl, rfl, rfl⟩

theorem httpText (http : (urlParts text).isHttp = true) (query : (urlParts text).query ≠ []) :
    ∃ scheme fragment, HttpText text (urlParts text) scheme fragment := by
  obtain ⟨scheme', netloc, target, path, schemeRead, netlocRead, targetRead, pathRead, parts⟩ :=
    urlParts_read text
  rw [parts] at http query ⊢
  simp only [SplitUrl.isHttp, Bool.and_eq_true, Bool.or_eq_true, decide_eq_true_eq] at http
  obtain ⟨scheme_, netloc_⟩ := http
  have shown : (splitScheme (urlText text)).1 ≠ [] := by
    rw [← schemeRead]
    rcases scheme_ with same | same <;>
      exact fun none => absurd (none.symm.trans same) (by decide)
  obtain ⟨scheme, lower, whole⟩ := splitScheme_whole shown
  obtain ⟨behind, authority, ends⟩ := splitAuthority_whole (netlocRead ▸ netloc_)
  obtain ⟨noHash, whole'⟩ := splitAt_whole '#' netloc.2
  obtain ⟨noMark, inner⟩ := splitAt_whole '?' target.1
  rw [← schemeRead] at lower whole
  rw [← netlocRead] at behind authority ends
  rw [← targetRead] at noHash whole'
  rw [← pathRead] at noMark inner
  have inner : target.1 = path.1 ++ '?' :: path.2 := by
    rcases inner with ⟨-, none⟩ | inner
    · exact absurd none query
    · exact inner
  have pathHash : '#' ∉ path.1 := fun member =>
    noHash (by rw [inner]; exact List.mem_append_left _ member)
  -- What is behind the authority begins with a slash, or the path is empty.
  have rooted (tail : Text) (same : netloc.2 = path.1 ++ tail) :
      path.1 = [] ∨ path.1.head? = some '/' := by
    cases shown : path.1 with
    | nil => exact .inl rfl
    | cons c rest =>
      refine .inr ?_
      have stop := ends c (by rw [same, shown]; rfl)
      have hash : c ≠ '#' := fun same => pathHash (by rw [shown, same]; exact List.mem_cons_self)
      have mark : c ≠ '?' := fun same => noMark (by rw [shown, same]; exact List.mem_cons_self)
      have slash : c = '/' := by simpa [authoritySign, hash, mark] using stop
      rw [slash]
      rfl
  rcases whole' with ⟨same, none⟩ | same
  · rw [inner] at same
    refine ⟨scheme, [], lower, ?_, .inl ⟨rfl, none⟩, authority, rooted _ same,
      ⟨pathHash, noMark⟩, urlText_unbroken text⟩
    rw [whole, behind, same, List.append_nil]
  · rw [inner, List.append_assoc] at same
    refine ⟨scheme, '#' :: target.2, lower, ?_, .inr rfl, authority, rooted _ same,
      ⟨pathHash, noMark⟩, urlText_unbroken text⟩
    rw [whole, behind, same]
    rfl

/-! ## The text with a redacted query -/

section Rebuilt
variable {parts : SplitUrl} {scheme fragment : Text}

/-- The fragment as it is written. -/
def writtenFragment (parts : SplitUrl) : Text :=
  if parts.fragment = [] then [] else '#' :: parts.fragment

theorem HttpText.rebuilt (shape : HttpText text parts scheme fragment) :
    urlUnsplit { parts with query := redactedMark } = parts.scheme ++ ':' :: '/' :: '/' ::
      (parts.netloc ++ (parts.path ++ '?' :: (redactedMark ++ writtenFragment parts))) := by
  have mark : redactedMark ≠ [] := List.cons_ne_nil _ _
  have slashes : "://".toList = [':', '/', '/'] := rfl
  rw [urlUnsplit, if_pos shape.rooted, if_neg mark, slashes, writtenFragment]
  simp

theorem http_scheme (http : parts.isHttp = true) :
    parts.scheme = "http".toList ∨ parts.scheme = "https".toList := by
  simp only [SplitUrl.isHttp, Bool.and_eq_true, Bool.or_eq_true, decide_eq_true_eq] at http
  exact http.1

theorem splitScheme_http {scheme rest : Text}
    (http : scheme = "http".toList ∨ scheme = "https".toList) :
    splitScheme (scheme ++ ':' :: rest) = (scheme, rest) := by
  have known : ∀ scheme ∈ ["http".toList, "https".toList], ':' ∉ scheme ∧
      scheme.head?.any (fun c => ('a' ≤ c && c ≤ 'z') || ('A' ≤ c && c ≤ 'Z')) = true ∧
      scheme.all schemeSign = true ∧ scheme.map Char.toLower = scheme := by decide
  obtain ⟨none, head, signs, lower⟩ := known scheme (by simpa using http)
  have read := @splitAt_append ':' scheme rest none
  simp only [splitAt, Prod.mk.injEq] at read
  have colon : (scheme ++ ':' :: rest).contains ':' = true := by simp
  simp only [splitScheme, read.1, read.2, colon, head, signs, lower, Bool.and_self, if_true]

/-- The redacted text is read as the same parts with the mark for their query. -/
theorem HttpText.parts_rebuilt (shape : HttpText text parts scheme fragment)
    (http : parts.isHttp = true) :
    urlParts (urlUnsplit { parts with query := redactedMark }) =
      { parts with query := redactedMark } := by
  have schemes := http_scheme http
  have unbroken : ∀ c ∈ parts.scheme ++ ':' :: '/' :: '/' ::
      (parts.netloc ++ (parts.path ++ '?' :: (redactedMark ++ writtenFragment parts))),
      urlBreak c = false := by
    have inside : ∀ c ∈ parts.netloc ++ parts.path ++ fragment, urlBreak c = false := by
      intro c member
      refine shape.unbroken c ?_
      rw [shape.whole]
      simp only [List.mem_append, List.mem_cons] at member ⊢
      tauto
    have mark : ∀ c ∈ redactedMark, urlBreak c = false := by decide
    have signs : ∀ c ∈ [':', '/', '?'], urlBreak c = false := by decide
    have schemeSigns : ∀ c ∈ parts.scheme, urlBreak c = false := by
      have known : ∀ scheme ∈ ["http".toList, "https".toList], ∀ c ∈ scheme,
          urlBreak c = false := by decide
      exact known _ (by simpa using schemes)
    have tail : ∀ c ∈ writtenFragment parts, c ∈ fragment := by
      intro c member
      rw [writtenFragment] at member
      rcases shape.fragment_ with ⟨-, none⟩ | same
      · rw [if_pos none] at member
        cases member
      · rw [same]
        split at member
        · cases member
        · exact member
    intro c member
    simp only [List.mem_append, List.mem_cons] at member inside signs
    rcases member with here | rfl | rfl | rfl | here | here | rfl | here | here
    · exact schemeSigns c here
    · exact signs _ (.inl rfl)
    · exact signs _ (.inr (.inl rfl))
    · exact signs _ (.inr (.inl rfl))
    · exact inside c (.inl (.inl here))
    · exact inside c (.inl (.inr here))
    · exact signs _ (.inr (.inr (.inl rfl)))
    · exact mark c here
    · exact inside c (.inr (tail c here))
  have read : urlText (parts.scheme ++ ':' :: '/' :: '/' ::
      (parts.netloc ++ (parts.path ++ '?' :: (redactedMark ++ writtenFragment parts)))) =
      parts.scheme ++ ':' :: '/' :: '/' ::
        (parts.netloc ++ (parts.path ++ '?' :: (redactedMark ++ writtenFragment parts))) := by
    have kept : ∀ rest : Text, (parts.scheme ++ rest).dropWhile (fun c => decide (c.toNat ≤ 32)) =
        parts.scheme ++ rest := by
      rcases schemes with same | same <;> rw [same] <;> exact fun rest => rfl
    rw [urlText, kept]
    refine List.filter_eq_self.mpr fun c member => ?_
    rw [unbroken c member]
    rfl
  have stop : ∀ c ∈ (parts.path ++ '?' :: (redactedMark ++ writtenFragment parts)).head?,
      authoritySign c = false := by
    rcases shape.rooted with none | slash
    · rw [none]
      rintro c ⟨⟩
      decide
    · cases shown : parts.path with
      | nil =>
        rw [shown] at slash
        cases slash
      | cons d rest =>
        rw [shown] at slash
        rintro c ⟨⟩
        rw [Option.some.inj slash]
        decide
  obtain ⟨netloc, behind⟩ := takeWhile_append_stop shape.authority stop
  have hash : '#' ∉ parts.path ++ '?' :: redactedMark := by
    intro member
    rcases List.mem_append.mp member with path | mark
    · exact shape.path.1 path
    · revert mark
      decide
  have target : splitAt '#' (parts.path ++ '?' :: (redactedMark ++ writtenFragment parts)) =
      (parts.path ++ '?' :: redactedMark, parts.fragment) := by
    rw [writtenFragment]
    split
    next none => rw [List.append_nil, splitAt_none hash, none]
    next =>
      rw [← List.cons_append, ← List.append_assoc, splitAt_append hash]
  rw [shape.rebuilt, urlParts, read, splitScheme_http schemes]
  simp only [splitAuthority, netloc, behind, target, splitAt_append shape.path.2]

/-- Where no tab or line break is taken out, no credential but the mark comes to be. -/
theorem HttpText.rebuilt_free (ascii : AsciiAgree chars)
    (shape : HttpText text parts scheme fragment) (http : parts.isHttp = true)
    (unbroken : ∀ c ∈ text, urlBreak c = false) (free : BearerFree chars none text) :
    BearerFree chars none (urlUnsplit { parts with query := redactedMark }) := by
  have read : urlText text = text.dropWhile fun c => decide (c.toNat ≤ 32) := by
    refine List.filter_eq_self.mpr fun c member => ?_
    rw [unbroken c ((List.dropWhile_suffix _).subset member)]
    rfl
  have whole : text = (text.takeWhile (fun c => decide (c.toNat ≤ 32)) ++ scheme) ++
      ((':' :: '/' :: '/' :: (parts.netloc ++ parts.path)) ++
        '?' :: (parts.query ++ fragment)) := by
    conv_lhs => rw [← List.takeWhile_append_dropWhile (p := fun c : Char => decide (c.toNat ≤ 32))
      (l := text), ← read, shape.whole]
    simp
  rw [whole] at free
  have behind := free.suffix
  have fragment_ : BearerFree chars (redactedMark.getLast?.or (some '?')) (writtenFragment parts) := by
    rw [writtenFragment]
    split
    next => exact trivial
    next shown =>
      rcases shape.fragment_ with ⟨-, none⟩ | same
      · exact absurd none shown
      · have later := behind
        rw [same] at later
        have split_ : (':' :: '/' :: '/' :: (parts.netloc ++ parts.path)) ++
            '?' :: (parts.query ++ '#' :: parts.fragment) =
            ((':' :: '/' :: '/' :: (parts.netloc ++ parts.path)) ++ '?' :: parts.query) ++
              '#' :: parts.fragment := by simp
        rw [split_] at later
        exact later.suffix.behind (by rintro c ⟨⟩; decide)
  have marks : ∀ c ∈ redactedMark, bearerStart c = false := by decide
  have exchanged := behind.exchange ascii (BearerFree.append marks fragment_)
  have schemes : ∀ c ∈ parts.scheme, bearerStart c = false := by
    have known : ∀ scheme ∈ ["http".toList, "https".toList], ∀ c ∈ scheme,
        bearerStart c = false := by decide
    exact known _ (by simpa using http_scheme http)
  have joined : ':' :: '/' :: '/' :: (parts.netloc ++
      (parts.path ++ '?' :: (redactedMark ++ writtenFragment parts))) =
      (':' :: '/' :: '/' :: (parts.netloc ++ parts.path)) ++
        '?' :: (redactedMark ++ writtenFragment parts) := by simp
  rw [shape.rebuilt, joined]
  refine BearerFree.append schemes (exchanged.behind ?_)
  rintro c ⟨⟩
  decide

end Rebuilt

end Pathfinder

/-!
## Redacted strings

When a redacted string holds no bearer credential, and when a URL loses its query.
-/
namespace Pathfinder

attribute [local instance (2000)] List.decidableBAll

section Texts
variable (chars : CharacterTables) (authorityAllowed : Text → Bool)

/-- `urlsplit` reads an `http` URL. -/
def IsHttpUrl (text : Text) : Prop :=
  ∃ parts, urlSplit authorityAllowed text = some parts ∧ parts.isHttp = true

/-- A query other than the mark stands in the text of an `http` URL. -/
def KeepsQuery (text : Text) : Prop :=
  (urlParts text).isHttp = true ∧ (urlParts text).query ≠ [] ∧ (urlParts text).query ≠ redactedMark

/-- Where a URL is put together again without its tabs and line breaks, no credential comes to stand
in front of its query or in its fragment. -/
def StaysBearerFree (text : Text) : Prop :=
  let parts := urlParts (redactBearer chars none 0 text)
  authorityAllowed parts.netloc = true → parts.isHttp = true → parts.query ≠ [] →
    (∃ c ∈ text, urlBreak c = true) →
    BearerFree chars (some '/') ((parts.netloc ++ parts.path) ++ ['?']) ∧
      BearerFree chars (some '#') parts.fragment

/-- The authority of a URL is still one without its bearer credentials. -/
def StaysUrl (text : Text) : Prop :=
  IsHttpUrl authorityAllowed text → KeepsQuery (redactBearer chars none 0 text) →
    authorityAllowed (urlParts (redactBearer chars none 0 text)).netloc = true

end Texts

variable {chars : CharacterTables} {authorityAllowed : Text → Bool} {text : Text}

theorem urlSplit_some {parts : SplitUrl} (read : urlSplit authorityAllowed text = some parts) :
    parts = urlParts text ∧ authorityAllowed (urlParts text).netloc = true := by
  rw [urlSplit] at read
  split at read
  next allowed => exact ⟨(Option.some.inj read).symm, allowed⟩
  · cases read

/-- What is put together again, or what is left of the text. -/
theorem redactString_cases (chars : CharacterTables) (authorityAllowed : Text → Bool)
    (text : Text) : ∀ left, left = redactBearer chars none 0 text →
    (authorityAllowed (urlParts left).netloc = true ∧ (urlParts left).isHttp = true ∧
      (urlParts left).query ≠ [] ∧ redactString chars authorityAllowed text =
        urlUnsplit { urlParts left with query := redactedMark }) ∨
    (¬(authorityAllowed (urlParts left).netloc = true ∧ (urlParts left).isHttp = true ∧
        (urlParts left).query ≠ []) ∧
      redactString chars authorityAllowed text = left) := by
  rintro left rfl
  rw [redactString]
  simp only [urlSplit]
  by_cases allowed : authorityAllowed (urlParts (redactBearer chars none 0 text)).netloc = true
  · rw [if_pos allowed]
    by_cases shape : (urlParts (redactBearer chars none 0 text)).isHttp = true ∧
        (urlParts (redactBearer chars none 0 text)).query ≠ []
    · exact .inl ⟨allowed, shape.1, shape.2, if_pos shape⟩
    · exact .inr ⟨fun all => shape all.2, if_neg shape⟩
  · rw [if_neg allowed]
    exact .inr ⟨fun all => allowed all.1, rfl⟩

/-- The substitution writes the characters of the text and of the mark. -/
theorem mem_redactBearer {previous : Option Char} {skip : Nat} {c : Char}
    (member : c ∈ redactBearer chars previous skip text) : c ∈ text ∨ c ∈ redactedMark := by
  induction text generalizing previous skip with
  | nil =>
    cases skip <;> cases member
  | cons d text ih =>
    have later {previous : Option Char} {skip : Nat}
        (inside : c ∈ redactBearer chars previous skip text) :
        c ∈ d :: text ∨ c ∈ redactedMark := (ih inside).imp_left (List.mem_cons_of_mem d)
    cases skip with
    | succ skip => exact later member
    | zero =>
      rw [redactBearer] at member
      split at member
      · rcases List.mem_cons.mp member with rfl | inside
        · exact .inl List.mem_cons_self
        · exact later inside
      next group credential here =>
        obtain ⟨word, spaces, behind, whole, same, -⟩ := bearerAt_some here
        rcases List.mem_append.mp member with front | inside
        · rcases List.mem_append.mp front with group_ | mark
          · rw [same] at group_
            refine .inl ?_
            rw [whole, ← List.append_assoc]
            exact List.mem_append_left _ group_
          · exact .inr mark
        · exact later inside

theorem redactBearer_unbroken (unbroken : ∀ c ∈ text, urlBreak c = false) :
    ∀ c ∈ redactBearer chars none 0 text, urlBreak c = false := by
  intro c member
  rcases mem_redactBearer member with inside | mark
  · exact unbroken c inside
  · have marks : ∀ c ∈ redactedMark, urlBreak c = false := by decide
    exact marks c mark

/-! ## Bearer credentials -/

theorem bearerFree_mark {previous : Option Char} {parts : SplitUrl} :
    BearerFree chars previous (redactedMark ++ writtenFragment parts) ↔
      BearerFree chars (some '#') parts.fragment := by
  have marks : ∀ c ∈ redactedMark, bearerStart c = false := by decide
  constructor
  · intro free
    have behind := free.suffix
    rw [writtenFragment] at behind
    split at behind
    next none =>
      rw [none]
      trivial
    · exact behind.2
  · intro free
    refine BearerFree.append marks ?_
    rw [writtenFragment]
    split
    · trivial
    · refine ⟨fun group credential here => ?_, free⟩
      exact absurd (bearerAt_start here) (by decide)

/-- The credentials of what is put together are those of its parts. -/
theorem HttpText.bearerFree_iff (ascii : AsciiAgree chars) {parts : SplitUrl}
    {scheme fragment : Text} (shape : HttpText text parts scheme fragment)
    (http : parts.isHttp = true) :
    BearerFree chars none (urlUnsplit { parts with query := redactedMark }) ↔
      BearerFree chars (some '/') ((parts.netloc ++ parts.path) ++ ['?']) ∧
        BearerFree chars (some '#') parts.fragment := by
  have joined : parts.scheme ++ ':' :: '/' :: '/' :: (parts.netloc ++
      (parts.path ++ '?' :: (redactedMark ++ writtenFragment parts))) =
      (parts.scheme ++ [':', '/', '/']) ++ ((parts.netloc ++ parts.path) ++
        '?' :: (redactedMark ++ writtenFragment parts)) := by simp
  have front : ∀ c ∈ parts.scheme ++ [':', '/', '/'], bearerStart c = false := by
    have known : ∀ scheme ∈ ["http".toList, "https".toList], ∀ c ∈ scheme ++ [':', '/', '/'],
        bearerStart c = false := by decide
    exact known _ (by simpa using http_scheme http)
  have last : (parts.scheme ++ [':', '/', '/']).getLast?.or none = some '/' := by
    rw [List.getLast?_append_of_ne_nil _ (List.cons_ne_nil _ _)]
    rfl
  rw [shape.rebuilt, joined]
  constructor
  · intro free
    have behind := free.suffix
    rw [last] at behind
    refine ⟨behind.exchange ascii (trivial : BearerFree chars (some '?') []), ?_⟩
    exact bearerFree_mark.mp behind.suffix.2
  · rintro ⟨before, after⟩
    refine BearerFree.append front ?_
    rw [last]
    exact BearerFree.exchange ascii before (bearerFree_mark.mpr after)

theorem redactString_bearer_iff (ascii : AsciiAgree chars) :
    ¬HoldsBearer chars (redactString chars authorityAllowed text) ↔
      StaysBearerFree chars authorityAllowed text := by
  have free := redactBearer_free ascii none text
  rw [holdsBearer_iff, not_not, StaysBearerFree]
  rcases redactString_cases chars authorityAllowed text _ rfl with
    ⟨allowed, http, query, same⟩ | ⟨other, same⟩
  · obtain ⟨scheme, fragment, shape⟩ := httpText http query
    rw [same, shape.bearerFree_iff ascii http]
    constructor
    · exact fun free _ _ _ _ => free
    · intro condition
      by_cases broken : ∃ c ∈ text, urlBreak c = true
      · exact condition allowed http query broken
      · have unbroken : ∀ c ∈ text, urlBreak c = false := fun c member =>
          Bool.eq_false_iff.mpr fun breaks => broken ⟨c, member, breaks⟩
        exact (shape.bearerFree_iff ascii http).mp
          (shape.rebuilt_free ascii http (redactBearer_unbroken unbroken) free)
  · rw [same]
    exact ⟨fun _ allowed http query _ => absurd ⟨allowed, http, query⟩ other, fun _ => free⟩

/-! ## Queries -/

/-- No redacted string is a URL that keeps its query. -/
theorem redactString_query (url : IsHttpUrl authorityAllowed
    (redactString chars authorityAllowed text)) :
    ¬KeepsQuery (redactString chars authorityAllowed text) := by
  rintro ⟨http_, shown, other⟩
  obtain ⟨parts, read, -⟩ := url
  obtain ⟨-, allowed_⟩ := urlSplit_some read
  rcases redactString_cases chars authorityAllowed text _ rfl with
    ⟨-, http, query, same⟩ | ⟨none, same⟩
  · obtain ⟨scheme, fragment, shape⟩ := httpText http query
    rw [same, shape.parts_rebuilt http] at other
    exact other rfl
  · rw [same] at allowed_ http_ shown
    exact none ⟨allowed_, http_, shown⟩

/-- A URL keeps its query where it stops being one. -/
theorem redactString_url_iff :
    (IsHttpUrl authorityAllowed text → ¬KeepsQuery (redactString chars authorityAllowed text)) ↔
      StaysUrl chars authorityAllowed text := by
  rcases redactString_cases chars authorityAllowed text _ rfl with
    ⟨allowed, http, query, same⟩ | ⟨none, same⟩
  · obtain ⟨scheme, fragment, shape⟩ := httpText http query
    refine ⟨fun _ _ _ => allowed, fun _ _ keeps => ?_⟩
    have other := keeps.2.2
    rw [same, shape.parts_rebuilt http] at other
    exact other rfl
  · rw [same]
    constructor
    · exact fun loses url keeps => absurd keeps (loses url)
    · intro stays url keeps
      exact none ⟨stays url keeps, keeps.1, keeps.2.1⟩

end Pathfinder
