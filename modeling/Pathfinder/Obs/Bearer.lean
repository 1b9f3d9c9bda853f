import Pathfinder.Obs.Redaction

/-!
# Bearer credentials

Where a text holds a bearer credential, and that none but the mark is left behind the substitution.
-/
namespace Pathfinder

-- What is said of the characters of a text is decided along the text, not over the type.
attribute [local instance (2000)] List.decidableBAll

variable {chars : CharacterTables}

/-- The tables agree with ASCII on ASCII characters. -/
def AsciiAgree (chars : CharacterTables) : Prop :=
  ∀ c : Char, c.toNat < 128 →
    chars.isSpace c = asciiTables.isSpace c ∧ chars.isWord c = asciiTables.isWord c

/-- A credential other than the mark stands behind the word. -/
def HoldsBearer (chars : CharacterTables) (text : Text) : Prop :=
  ∃ before rest group credential, text = before ++ rest ∧
    bearerAt chars before.getLast? rest = some (group, credential) ∧ credential ≠ redactedMark

/-- No credential but the mark stands in a text behind a character. -/
def BearerFree (chars : CharacterTables) (previous : Option Char) : Text → Prop
  | [] => True
  | c :: rest =>
    (∀ group credential, bearerAt chars previous (c :: rest) = some (group, credential) →
      credential = redactedMark) ∧ BearerFree chars (some c) rest

theorem getLast?_or_cons (c : Char) (rest : Text) (previous : Option Char) :
    (c :: rest).getLast?.or previous = rest.getLast?.or (some c) := by
  cases rest with
  | nil => rfl
  | cons d rest =>
    rw [List.getLast?_cons_cons]
    cases held : (d :: rest).getLast? with
    | none => cases List.getLast?_eq_none_iff.mp held
    | some last => rfl

theorem bearerFree_iff {previous : Option Char} {text : Text} : BearerFree chars previous text ↔
    ∀ before rest group credential, text = before ++ rest →
      bearerAt chars (before.getLast?.or previous) rest = some (group, credential) →
      credential = redactedMark := by
  induction text generalizing previous with
  | nil =>
    refine ⟨fun _ before rest group credential whole here => ?_, fun _ => trivial⟩
    obtain ⟨rfl, rfl⟩ := List.append_eq_nil_iff.mp whole.symm
    rw [bearerAt] at here
    split at here
    · cases here
    · cases here
  | cons c text ih =>
    rw [BearerFree, ih]
    constructor
    · rintro ⟨first, later⟩ before rest group credential whole here
      cases before with
      | nil => exact first group credential (by rw [whole]; exact here)
      | cons d before =>
        obtain ⟨rfl, rfl⟩ := List.cons.inj whole
        rw [getLast?_or_cons] at here
        exact later before rest group credential rfl here
    · intro each
      refine ⟨fun group credential here => each [] _ group credential rfl here, ?_⟩
      intro before rest group credential whole here
      refine each (c :: before) rest group credential (by rw [whole]; rfl) ?_
      rw [getLast?_or_cons]
      exact here

theorem holdsBearer_iff {text : Text} : HoldsBearer chars text ↔ ¬BearerFree chars none text := by
  rw [bearerFree_iff]
  constructor
  · rintro ⟨before, rest, group, credential, whole, here, other⟩ free
    exact other (free before rest group credential whole (by rwa [Option.or_none]))
  · intro held
    by_contra none
    refine held fun before rest group credential whole here => ?_
    by_contra other
    rw [Option.or_none] at here
    exact none ⟨before, rest, group, credential, whole, here, other⟩

/-! ## What the pattern matches -/

theorem takeWhile_append_stop {α : Type*} {keep : α → Bool} {run behind : List α}
    (kept : ∀ item ∈ run, keep item = true) (stops : ∀ item ∈ behind.head?, keep item = false) :
    (run ++ behind).takeWhile keep = run ∧ (run ++ behind).dropWhile keep = behind := by
  rw [List.takeWhile_append_of_pos kept, List.dropWhile_append_of_pos kept]
  cases behind with
  | nil => simp
  | cons item rest =>
    have stop : ¬keep item = true := by simp [stops item rfl]
    rw [List.takeWhile_cons_of_neg stop, List.dropWhile_cons_of_neg stop, List.append_nil]
    exact ⟨rfl, rfl⟩

theorem head?_dropWhile_stop {α : Type*} {keep : α → Bool} (items : List α) :
    ∀ item ∈ (items.dropWhile keep).head?, keep item = false := by
  intro item first
  have none := List.head?_dropWhile_not keep items
  rw [Option.mem_def] at first
  rw [first] at none
  exact none

/-- The parts of a match: the word, its spaces and a credential that ends where it must. -/
structure BearerMatch (chars : CharacterTables) (previous : Option Char)
    (word spaces credential behind : Text) : Prop where
  boundary : previous.any chars.isWord ≠ word.head?.any chars.isWord
  written : List.Forall₂ (fun letter c => matchesIgnoringCase letter c = true)
    "bearer".toList word
  spaced : spaces ≠ []
  spaces_ : ∀ c ∈ spaces, chars.isSpace c = true
  shown : credential ≠ []
  signs : ∀ c ∈ credential, credentialSign chars c = true
  stops : ∀ c ∈ behind.head?, credentialSign chars c = false

theorem BearerMatch.word_length {previous : Option Char} {word spaces credential behind : Text}
    (found : BearerMatch chars previous word spaces credential behind) : word.length = 6 :=
  found.written.length_eq.symm

theorem sign_not_space {c : Char} (sign : credentialSign chars c = true) :
    chars.isSpace c = false := by
  simp only [credentialSign, Bool.not_eq_true', Bool.or_eq_false_iff] at sign
  exact sign.1.1

theorem BearerMatch.bearerAt {previous : Option Char} {word spaces credential behind : Text}
    (found : BearerMatch chars previous word spaces credential behind) :
    bearerAt chars previous (word ++ (spaces ++ (credential ++ behind))) =
      some (word ++ spaces, credential) := by
  have head : (word ++ (spaces ++ (credential ++ behind))).head? = word.head? := by
    cases here : word with
    | nil =>
      have length := found.word_length
      rw [here] at length
      cases length
    | cons c rest => rfl
  have read : behindWord "bearer".toList (word ++ (spaces ++ (credential ++ behind))) =
      some (spaces ++ (credential ++ behind)) :=
    behindWord_some.mpr ⟨word, rfl, found.written⟩
  have first : ∀ c ∈ (credential ++ behind).head?, chars.isSpace c = false := by
    obtain ⟨c, rest, same⟩ := List.exists_cons_of_ne_nil found.shown
    rw [same]
    rintro d ⟨⟩
    exact sign_not_space (found.signs c (by rw [same]; exact List.mem_cons_self))
  obtain ⟨taken, dropped⟩ := takeWhile_append_stop found.spaces_ first
  obtain ⟨credential_, -⟩ := takeWhile_append_stop found.signs found.stops
  rw [Pathfinder.bearerAt, head, if_neg found.boundary, read]
  simp only [taken, dropped, credential_]
  rw [if_neg (by simp [found.spaced, found.shown]), ← found.word_length,
    List.take_length_add_append, List.take_left]

theorem bearerAt_some {previous : Option Char} {text group credential : Text}
    (here : bearerAt chars previous text = some (group, credential)) :
    ∃ word spaces behind, text = word ++ (spaces ++ (credential ++ behind)) ∧
      group = word ++ spaces ∧ BearerMatch chars previous word spaces credential behind := by
  rw [bearerAt] at here
  split at here
  next => cases here
  next boundary =>
    split at here
    next => cases here
    next rest read =>
      obtain ⟨word, rfl, written⟩ := behindWord_some.mp read
      simp only at here
      split at here
      next => cases here
      next some_ =>
        rw [not_or] at some_
        obtain ⟨spaced, shown⟩ := some_
        have length : word.length = 6 := written.length_eq.symm
        simp only [Option.some.injEq, Prod.mk.injEq] at here
        obtain ⟨group_, rfl⟩ := here
        have head : (word ++ rest).head? = word.head? := by
          cases same : word with
          | nil =>
            rw [same] at length
            cases length
          | cons c more => rfl
        refine ⟨word, rest.takeWhile chars.isSpace,
          (rest.dropWhile chars.isSpace).dropWhile (credentialSign chars), ?_, ?_, ?_⟩
        · rw [List.takeWhile_append_dropWhile, List.takeWhile_append_dropWhile]
        · rw [← group_, ← length, List.take_length_add_append]
          exact congrArg _ (List.prefix_iff_eq_take.mp (List.takeWhile_prefix _)).symm
        · rw [head] at boundary
          exact
            { boundary, written, spaced, shown
              spaces_ := fun c member => List.mem_takeWhile_imp member
              signs := fun c member => List.mem_takeWhile_imp member
              stops := head?_dropWhile_stop _ }

/-- The letters at which the word may begin. -/
def bearerStart (c : Char) : Bool := c = 'b' || c = 'B'

theorem BearerMatch.word_split {previous : Option Char} {word spaces credential behind : Text}
    (found : BearerMatch chars previous word spaces credential behind) :
    ∃ c rest, word = c :: rest ∧ bearerStart c = true ∧ ∀ d ∈ rest, bearerStart d = false := by
  have written := found.written
  cases written with
  | @cons _ c _ rest first later =>
    refine ⟨c, rest, rfl, ?_, ?_⟩
    · have starts : ∀ c ∈ 'b' :: 'b'.toUpper :: caseFixes 'b', bearerStart c = true := by decide
      exact starts c (matchesIgnoringCase_mem.mp first)
    · exact matched_all (by decide) later

theorem bearerAt_start {previous : Option Char} {c : Char} {rest group credential : Text}
    (here : bearerAt chars previous (c :: rest) = some (group, credential)) :
    bearerStart c = true := by
  obtain ⟨word, spaces, behind, whole, -, found⟩ := bearerAt_some here
  obtain ⟨d, more, rfl, starts, -⟩ := found.word_split
  rw [(List.cons.inj whole).1]
  exact starts

section Ascii
variable (ascii : AsciiAgree chars)
include ascii

theorem start_sign {c : Char} (starts : bearerStart c = true) :
    credentialSign chars c = true := by
  have small : c.toNat < 128 ∧ credentialSign asciiTables c = true := by
    simp only [bearerStart, Bool.or_eq_true, decide_eq_true_eq] at starts
    rcases starts with rfl | rfl <;> decide
  rw [credentialSign, (ascii c small.1).1]
  exact small.2

theorem space_not_start {c : Char} (space : chars.isSpace c = true) : bearerStart c = false := by
  refine Bool.eq_false_iff.mpr fun starts => ?_
  rw [sign_not_space (start_sign ascii starts)] at space
  cases space

theorem mark_signs : ∀ c ∈ redactedMark, credentialSign chars c = true := by
  have small : ∀ c ∈ redactedMark, c.toNat < 128 ∧ credentialSign asciiTables c = true := by
    decide
  intro c member
  obtain ⟨below, sign⟩ := small c member
  rw [credentialSign, (ascii c below).1]
  exact sign

end Ascii

/-! ## Texts without credentials -/

/-- The character in front of a text does not matter where the word does not begin there. -/
theorem BearerFree.behind {previous other : Option Char} {text : Text}
    (free : BearerFree chars previous text) (start : ∀ c ∈ text.head?, bearerStart c = false) :
    BearerFree chars other text := by
  cases text with
  | nil => trivial
  | cons c rest =>
    refine ⟨fun group credential here => ?_, free.2⟩
    have begins := bearerAt_start here
    rw [start c rfl] at begins
    cases begins

theorem BearerFree.append {previous : Option Char} {front text : Text}
    (start : ∀ c ∈ front, bearerStart c = false)
    (free : BearerFree chars (front.getLast?.or previous) text) :
    BearerFree chars previous (front ++ text) := by
  induction front generalizing previous with
  | nil => exact free
  | cons c front ih =>
    obtain ⟨first, rest⟩ := List.forall_mem_cons.mp start
    refine ⟨fun group credential here => ?_, ih rest (by rwa [getLast?_or_cons] at free)⟩
    have begins := bearerAt_start here
    rw [first] at begins
    cases begins

theorem BearerFree.suffix {previous : Option Char} {front text : Text}
    (free : BearerFree chars previous (front ++ text)) :
    BearerFree chars (front.getLast?.or previous) text := by
  induction front generalizing previous with
  | nil => exact free
  | cons c front ih =>
    rw [getLast?_or_cons]
    exact ih free.2

/-- The credential of a match is all of its signs. -/
theorem BearerMatch.credential_eq {previous : Option Char} {word spaces credential behind : Text}
    (found : BearerMatch chars previous word spaces credential behind) :
    (credential ++ behind).takeWhile (credentialSign chars) = credential :=
  (takeWhile_append_stop found.signs found.stops).1

/-- A match goes on behind its spaces as the text does. -/
theorem BearerMatch.continued {previous : Option Char} {word spaces credential behind rest : Text}
    (found : BearerMatch chars previous word spaces credential behind)
    (sign : ∃ c, rest.head? = some c ∧ credentialSign chars c = true) :
    BearerMatch chars previous word spaces (rest.takeWhile (credentialSign chars))
      (rest.dropWhile (credentialSign chars)) := by
  obtain ⟨c, first, fits⟩ := sign
  exact
    { boundary := found.boundary, written := found.written, spaced := found.spaced
      spaces_ := found.spaces_
      shown := by
        cases rest with
        | nil => cases first
        | cons d rest =>
          obtain rfl : d = c := Option.some.inj first
          rw [List.takeWhile_cons_of_pos fits]
          exact List.cons_ne_nil _ _
      signs := fun c member => List.mem_takeWhile_imp member
      stops := head?_dropWhile_stop _ }

/-- What is behind a question mark may be exchanged: no credential but the mark begins in front. -/
theorem BearerFree.exchange (ascii : AsciiAgree chars) {previous : Option Char}
    {front behind behind' : Text} (free : BearerFree chars previous (front ++ '?' :: behind))
    (free' : BearerFree chars (some '?') behind') :
    BearerFree chars previous (front ++ '?' :: behind') := by
  have question : credentialSign chars '?' = true := by
    rw [credentialSign, (ascii '?' (by decide)).1]
    decide
  induction front generalizing previous with
  | nil =>
    refine ⟨fun group credential here => ?_, free'⟩
    exact absurd (bearerAt_start here) (by decide)
  | cons c front ih =>
    refine ⟨fun group credential here => ?_, ih free.2⟩
    obtain ⟨word, spaces, after, whole, -, found⟩ := bearerAt_some here
    -- The word and its spaces end in front of the question mark.
    have inside : '?' ∉ word ++ spaces := by
      intro member
      rcases List.mem_append.mp member with letter | space
      · have letters := matched_all (P := fun c => c ≠ '?') (by decide) found.written
        exact letters '?' letter rfl
      · have none := sign_not_space question
        rw [found.spaces_ '?' space] at none
        cases none
    have whole : (c :: front) ++ '?' :: behind' = (word ++ spaces) ++ (credential ++ after) := by
      rw [List.append_assoc]
      exact whole
    obtain ⟨rest, fronts, left⟩ : ∃ rest, c :: front = (word ++ spaces) ++ rest ∧
        credential ++ after = rest ++ '?' :: behind' := by
      rcases List.append_eq_append_iff.mp whole with ⟨excess, first, second⟩ | ⟨rest, first, second⟩
      · cases excess with
        | nil => exact ⟨[], by rw [first]; simp, by rw [second]; rfl⟩
        | cons d excess =>
          obtain ⟨rfl, -⟩ := List.cons.inj second
          exact absurd (by rw [first]; exact List.mem_append_right _ List.mem_cons_self) inside
      · exact ⟨rest, first, second⟩
    have sign : ∃ c, (rest ++ '?' :: behind).head? = some c ∧ credentialSign chars c = true := by
      cases rest with
      | nil => exact ⟨'?', rfl, question⟩
      | cons d rest =>
        refine ⟨d, rfl, ?_⟩
        obtain ⟨e, more, shown⟩ := List.exists_cons_of_ne_nil found.shown
        rw [shown] at left
        rw [← (List.cons.inj left).1]
        exact found.signs e (by rw [shown]; exact List.mem_cons_self)
    have before := (found.continued sign).bearerAt
    rw [List.takeWhile_append_dropWhile, ← List.append_assoc, ← List.append_assoc, ← fronts] at before
    have marked := free.1 _ _ before
    have here_ := found.credential_eq
    rw [left] at here_
    rw [List.takeWhile_append] at marked here_
    split at marked
    next all =>
      have mark : '?' ∉ redactedMark := by decide
      rw [List.takeWhile_cons_of_pos question] at marked
      exact absurd (by rw [← marked]; exact List.mem_append_right _ List.mem_cons_self) mark
    next some_ =>
      rw [if_neg some_] at here_
      rw [← here_, marked]

/-! ## The substitution -/

theorem redactBearer_skip (previous : Option Char) (skipped text : Text) :
    redactBearer chars previous skipped.length (skipped ++ text) =
      redactBearer chars (skipped.getLast?.or previous) 0 text := by
  induction skipped generalizing previous with
  | nil => rfl
  | cons c skipped ih =>
    rw [List.length_cons, List.cons_append, redactBearer, ih, getLast?_or_cons]

/-- A match is left with the mark for its credential. -/
theorem redactBearer_match {previous : Option Char} {word spaces credential behind : Text}
    (found : BearerMatch chars previous word spaces credential behind) :
    ∃ last, redactBearer chars previous 0 (word ++ (spaces ++ (credential ++ behind))) =
      word ++ spaces ++ redactedMark ++ redactBearer chars last 0 behind := by
  have here := found.bearerAt
  obtain ⟨c, rest, rfl, -, -⟩ := found.word_split
  rw [List.cons_append, List.cons_append] at here
  rw [List.cons_append, redactBearer, here]
  have length : (c :: (rest ++ spaces)).length + credential.length - 1 =
      (rest ++ (spaces ++ credential)).length := by
    simp only [List.length_cons, List.length_append]
    omega
  have whole : rest ++ (spaces ++ (credential ++ behind)) =
      (rest ++ (spaces ++ credential)) ++ behind := by simp
  refine ⟨(rest ++ (spaces ++ credential)).getLast?.or (some c), ?_⟩
  simp only [length]
  rw [whole, redactBearer_skip]
  rfl

theorem redactBearer_other {previous : Option Char} {c : Char} {rest : Text}
    (none : bearerAt chars previous (c :: rest) = none) :
    redactBearer chars previous 0 (c :: rest) = c :: redactBearer chars (some c) 0 rest := by
  rw [redactBearer, none]

/-- The first character stays. -/
theorem redactBearer_head (chars : CharacterTables) (previous : Option Char) (text : Text) :
    (redactBearer chars previous 0 text).head? = text.head? := by
  cases text with
  | nil => rfl
  | cons c rest =>
    cases here : bearerAt chars previous (c :: rest) with
    | none => rw [redactBearer_other here]; rfl
    | some entry =>
      obtain ⟨word, spaces, behind, whole, -, found⟩ := bearerAt_some here
      obtain ⟨last, left⟩ := redactBearer_match found
      obtain ⟨d, more, rfl, -, -⟩ := found.word_split
      rw [whole, left]
      rfl

/-- A part at the beginning in which the word does not begin is one of the text before. -/
theorem redactBearer_front {previous : Option Char} {text front left : Text}
    (start : ∀ c ∈ front, bearerStart c = false)
    (whole : redactBearer chars previous 0 text = front ++ left) :
    ∃ rest last, text = front ++ rest ∧ left = redactBearer chars last 0 rest := by
  induction front generalizing previous text with
  | nil => exact ⟨text, previous, rfl, whole.symm⟩
  | cons c front ih =>
    obtain ⟨first, start⟩ := List.forall_mem_cons.mp start
    have head := redactBearer_head chars previous text
    rw [whole] at head
    cases text with
    | nil => cases head
    | cons d text =>
      obtain rfl : c = d := Option.some.inj head
      have none : bearerAt chars previous (c :: text) = none := by
        cases here : bearerAt chars previous (c :: text) with
        | none => rfl
        | some entry =>
          have begins := bearerAt_start here
          rw [first] at begins
          cases begins
      rw [redactBearer_other none] at whole
      obtain ⟨rest, last, rfl, left_⟩ := ih start (List.cons.inj whole).2
      exact ⟨rest, last, rfl, left_⟩

/-- No credential is left that is not the mark. -/
theorem redactBearer_free (ascii : AsciiAgree chars) (previous : Option Char) (text : Text) :
    BearerFree chars previous (redactBearer chars previous 0 text) := by
  induction length : text.length using Nat.strong_induction_on generalizing previous text with
  | _ size ih =>
    subst length
    cases text with
    | nil => trivial
    | cons c rest =>
      cases here : bearerAt chars previous (c :: rest) with
      | none =>
        rw [redactBearer_other here]
        refine ⟨fun group credential left => ?_, ih _ (Nat.lt_succ_self _) _ _ rfl⟩
        -- A match that is left begins as one of the text, up to the first sign of its credential.
        obtain ⟨word, spaces, behind, whole, -, found⟩ := bearerAt_some left
        obtain ⟨d, more, rfl, -, start⟩ := found.word_split
        obtain ⟨rfl, tail⟩ := List.cons.inj whole
        have front : ∀ e ∈ more ++ spaces, bearerStart e = false := fun e member =>
          (List.mem_append.mp member).elim (start e)
            fun space => space_not_start ascii (found.spaces_ e space)
        have tail : redactBearer chars (some c) 0 rest =
            (more ++ spaces) ++ (credential ++ behind) := by rw [List.append_assoc]; exact tail
        obtain ⟨rest', last, same, left_⟩ := redactBearer_front front tail
        obtain ⟨sign, signs, shown⟩ := List.exists_cons_of_ne_nil found.shown
        have head := redactBearer_head chars last rest'
        rw [← left_, shown] at head
        cases rest' with
        | nil => cases head
        | cons e rest' =>
          obtain rfl : sign = e := Option.some.inj head
          have first : credentialSign chars sign = true :=
            found.signs sign (by rw [shown]; exact List.mem_cons_self)
          have again := @BearerMatch.continued _ _ _ _ _ _ (sign :: rest') found ⟨sign, rfl, first⟩
          have matched := again.bearerAt
          rw [List.takeWhile_append_dropWhile, List.cons_append, ← List.append_assoc, ← same,
            here] at matched
          cases matched
      | some entry =>
        obtain ⟨word, spaces, behind, whole, -, found⟩ := bearerAt_some here
        obtain ⟨last, left⟩ := redactBearer_match found
        have stops : ∀ e ∈ (redactBearer chars last 0 behind).head?,
            credentialSign chars e = false := by
          rw [redactBearer_head]
          exact found.stops
        have marked : BearerMatch chars previous word spaces redactedMark
            (redactBearer chars last 0 behind) :=
          { boundary := found.boundary, written := found.written, spaced := found.spaced
            spaces_ := found.spaces_, shown := List.cons_ne_nil _ _
            signs := mark_signs ascii, stops }
        have shorter : behind.length < (c :: rest).length := by
          have length := found.word_length
          rw [whole]
          simp only [List.length_append]
          omega
        have later := ih _ shorter last behind rfl
        have start : ∀ e ∈ (redactBearer chars last 0 behind).head?, bearerStart e = false := by
          intro e first
          refine Bool.eq_false_iff.mpr fun starts => ?_
          have stop := stops e first
          rw [start_sign ascii starts] at stop
          cases stop
        rw [whole, left]
        obtain ⟨d, more, rfl, -, others⟩ := found.word_split
        have matched := marked.bearerAt
        rw [List.append_assoc, List.append_assoc]
        refine ⟨fun group credential again => ?_, ?_⟩
        · have both := matched.symm.trans again
          exact (Prod.mk.inj (Option.some.inj both)).2.symm
        · have inner : ∀ e ∈ more ++ (spaces ++ redactedMark), bearerStart e = false := by
            intro e member
            rcases List.mem_append.mp member with letter | behind
            · exact others e letter
            rcases List.mem_append.mp behind with space | sign
            · exact space_not_start ascii (found.spaces_ e space)
            · have none : ∀ e ∈ redactedMark, bearerStart e = false := by decide
              exact none e sign
          have joined : more.append (spaces ++ (redactedMark ++ redactBearer chars last 0 behind)) =
              (more ++ (spaces ++ redactedMark)) ++ redactBearer chars last 0 behind := by simp
          rw [joined]
          exact BearerFree.append inner (later.behind start)

end Pathfinder
