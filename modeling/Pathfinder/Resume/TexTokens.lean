import Pathfinder.Library.Lines
import Pathfinder.Library.PrefixCode
import Pathfinder.Library.Tex
import Pathfinder.Resume.Rendering

/-!
# The tokens of what is rendered

Every text that is rendered ends between two tokens and leaves its groups balanced. The
characters TeX reads as commands appear in it only as the words and symbols they are
escaped to.
-/
namespace Pathfinder
open TexLexing PrefixCodes Lines

/-- The characters that `_ESCAPES` replaces. -/
def texSpecials : List Char := ['\\', '\x7b', '\x7d', '$', '&', '#', '_', '%', '~', '^']

/-- A character that stands for itself in TeX, or a group, and does not end a line. -/
def plainChar (c : Char) : Prop :=
  c ∉ ['\\', '$', '&', '#', '_', '%', '~', '^'] ∧ c ≠ '\r' ∧ c ≠ '\n'

/-- What the escaping writes. -/
def TextToken : Token → Prop
  | .char c => plainChar c
  | .symbol c => c ∈ ['\x7b', '\x7d', '$', '&', '#', '_', '%']
  | .word name => name ∈ ["textbackslash".toList, "textasciitilde".toList,
      "textasciicircum".toList]

/-- What `_styled` writes besides. -/
def StyledToken (token : Token) : Prop := TextToken token ∨ token = .word "textbf".toList

/-- The commands of the section builders. -/
def builderWords : List (List Char) :=
  ["textbf".toList, "skilltag".toList, "skillgap".toList, "resumeEducationListStart".toList,
    "resumeEducationHeading".toList, "resumeEducationListEnd".toList, "vspace".toList,
    "resumeProjectListStart".toList, "resumeProjectHeading".toList, "resumeItemListStart".toList,
    "resumeItem".toList, "resumeItemListEnd".toList, "resumeProjectListEnd".toList,
    "begin".toList, "end".toList, "normalsize".toList, "item".toList]

/-- What a section builder writes besides: its commands, a line break, the end of a line. -/
def BuilderToken (token : Token) : Prop :=
  TextToken token ∨ (∃ name ∈ builderWords, token = .word name) ∨ token = .symbol '\\' ∨
    token = .char '\n'

instance : DecidablePred plainChar := fun _ => inferInstanceAs (Decidable (_ ∧ _))

instance : DecidablePred TextToken
  | .char c => inferInstanceAs (Decidable (plainChar c))
  | .symbol _ | .word _ => inferInstanceAs (Decidable (_ ∈ _))

instance : DecidablePred BuilderToken := fun _ => inferInstanceAs (Decidable (_ ∨ _))

/-! ## Escaping -/

theorem escapeChar_cases (c : Char) : c ∈ texSpecials ∨ c ∉ texSpecials ∧ escapeChar c = [c] := by
  unfold escapeChar
  split
  all_goals first
    | exact .inl (by decide)
    | skip
  next backslash opens closes dollar ampersand hash underscore percent tilde caret =>
  refine .inr ⟨?_, rfl⟩
  simp only [texSpecials, List.mem_cons, List.not_mem_nil, or_false, not_or]
  exact ⟨backslash, opens, closes, dollar, ampersand, hash, underscore, percent, tilde, caret⟩

/-- A decidable property of each special character. -/
theorem specials_all {P : Char → Prop} [DecidablePred P]
    (all : (texSpecials.all fun c => decide (P c)) = true) : ∀ c ∈ texSpecials, P c :=
  fun c member => of_decide_eq_true (List.all_eq_true.mp all c member)

theorem escapeChar_prefixCode : PrefixCode escapeChar where
  nonempty c := by
    rcases escapeChar_cases c with special | ⟨-, same⟩
    · have all : ∀ c ∈ texSpecials, escapeChar c ≠ [] := specials_all (by decide)
      exact all c special
    · rw [same]
      exact List.cons_ne_nil c []
  begins a b begins := by
    rcases escapeChar_cases a with special | ⟨plain, same⟩
    · rcases escapeChar_cases b with special' | ⟨plain', same'⟩
      · have pairs : (texSpecials.all fun a => texSpecials.all fun b =>
            decide (escapeChar a <+: escapeChar b → a = b)) = true := by decide
        have all := List.all_eq_true.mp (List.all_eq_true.mp pairs a special) b special'
        exact of_decide_eq_true all begins
      · have heads : ∀ a ∈ texSpecials, (escapeChar a).head? = some '\\' :=
          specials_all (by decide)
        rw [same'] at begins
        obtain ⟨tail, whole⟩ := begins
        have head := heads a special
        cases written : escapeChar a with
        | nil =>
          rw [written] at head
          cases head
        | cons initial rest =>
          rw [written] at head whole
          cases head
          have initial : '\\' = b := (List.cons.inj whole).1
          subst initial
          exact absurd (by decide) plain'
    · rw [same] at begins
      rcases escapeChar_cases b with special' | ⟨-, same'⟩
      · have heads : ∀ b ∈ texSpecials, (escapeChar b).head? = some '\\' :=
          specials_all (by decide)
        have head := heads b special'
        obtain ⟨tail, whole⟩ := begins
        rw [← whole] at head
        cases head
        exact absurd (by decide) plain
      · rw [same'] at begins
        obtain ⟨tail, whole⟩ := begins
        cases whole
        rfl

/-- The text with every character that is rendered as a space replaced by one. -/
def spaced (text : Text) : Text := text.map fun c => if spacing c then ' ' else c

theorem texOf_spaced (text : Text) : texOf text = (spaced text).flatMap escapeChar := by
  simp only [texOf, spaced, List.flatMap_map]
  refine List.flatMap_congr fun c _ => ?_
  simp only [texChar]
  split
  · rfl
  · rfl

theorem texOf_injective {first second : Text} (same : texOf first = texOf second) :
    spaced first = spaced second := by
  rw [texOf_spaced, texOf_spaced] at same
  exact escapeChar_prefixCode.flatMap_injective same

theorem special_safe : ∀ c ∈ texSpecials, Safe TextToken (escapeChar c) := by
  have symbols (c : Char) (outside : letter c = false) (ok : TextToken (.symbol c)) :
      Safe TextToken ['\\', c] :=
    ⟨[.symbol c], by simp [Lexes, lex, step, fresh, outside], .token nofun nofun, by simpa using ok⟩
  have words (name : List Char) (letters : name.all letter = true) (named : name ≠ [])
      (ok : TextToken (.word name)) : Safe TextToken ('\\' :: name ++ ['\x7b', '\x7d']) :=
    Safe.command (by decide) (by decide) letters named ok .nil
  intro c special
  simp only [texSpecials, List.mem_cons, List.not_mem_nil, or_false] at special
  rcases special with rfl | rfl | rfl | rfl | rfl | rfl | rfl | rfl | rfl | rfl
  · exact words "textbackslash".toList (by decide) (by decide) (by decide)
  · exact symbols _ (by decide) (by decide)
  · exact symbols _ (by decide) (by decide)
  · exact symbols _ (by decide) (by decide)
  · exact symbols _ (by decide) (by decide)
  · exact symbols _ (by decide) (by decide)
  · exact symbols _ (by decide) (by decide)
  · exact symbols _ (by decide) (by decide)
  · exact words "textasciitilde".toList (by decide) (by decide) (by decide)
  · exact words "textasciicircum".toList (by decide) (by decide) (by decide)

theorem texChar_safe (c : Char) : Safe TextToken (texChar c) := by
  unfold texChar
  split
  · exact .char (by decide) (by decide) (by decide) (by decide)
  next text =>
    rcases escapeChar_cases c with special | ⟨plain, same⟩
    · exact special_safe c special
    · rw [same]
      simp only [texSpecials, List.mem_cons, List.not_mem_nil, or_false, not_or] at plain
      simp only [spacing, Bool.or_eq_true, decide_eq_true_eq, not_or] at text
      refine .char plain.1 plain.2.1 plain.2.2.1 ⟨?_, text.1.1.1.1, text.1.1.1.2⟩
      simp only [List.mem_cons, List.not_mem_nil, or_false, not_or]
      exact ⟨plain.1, plain.2.2.2⟩

theorem texOf_safe (text : Text) : Safe TextToken (texOf text) :=
  .flatMap fun c _ => texChar_safe c

/-! ## Styled texts -/

theorem styledTexFrom_safe (text : Text) (offset : Nat) (spans : List (Nat × Nat)) :
    Safe StyledToken (styledTexFrom text offset spans) := by
  have plain (part : Text) : Safe StyledToken (texOf part) := (texOf_safe part).mono fun _ => .inl
  induction spans generalizing offset with
  | nil => exact plain _
  | cons span rest ih =>
    have bold : Safe StyledToken ('\\' :: "textbf".toList ++
        ('\x7b' :: texOf (slice text span.1 span.2) ++ ['\x7d'])) :=
      .command (.inl (by decide)) (.inl (by decide)) (by decide) (by decide) (.inr rfl) (plain _)
    have whole := ((plain (slice text offset span.1)).append bold).append (ih span.2)
    simpa [styledTexFrom] using whole

theorem styledTex_safe (value : StyledText) : Safe StyledToken (styledTex value) :=
  styledTexFrom_safe value.text 0 _

/-! ## Lines -/

/-- The text stays on its line. -/
def Unbroken (text : Text) : Prop := '\r' ∉ text ∧ '\n' ∉ text

@[simp] theorem unbroken_append {first second : Text} :
    Unbroken (first ++ second) ↔ Unbroken first ∧ Unbroken second := by
  simp only [Unbroken, List.mem_append, not_or]
  exact and_and_and_comm

@[simp] theorem unbroken_cons {c : Char} {text : Text} :
    Unbroken (c :: text) ↔ (c ≠ '\r' ∧ c ≠ '\n') ∧ Unbroken text := by
  simp only [Unbroken, List.mem_cons, not_or, ne_eq, eq_comm]
  exact and_and_and_comm

@[simp] theorem unbroken_nil : Unbroken [] := ⟨nofun, nofun⟩

instance : DecidablePred Unbroken := fun _ => inferInstanceAs (Decidable (_ ∧ _))

@[simp] theorem unbroken_braced {body : Text} : Unbroken (braced body) ↔ Unbroken body := by
  simp [braced]

@[simp] theorem unbroken_texOf (text : Text) : Unbroken (texOf text) :=
  ⟨(texOf_safe text).not_mem (by decide) (by decide) (by decide) (by decide),
    (texOf_safe text).not_mem (by decide) (by decide) (by decide) (by decide)⟩

@[simp] theorem unbroken_styledTex (value : StyledText) : Unbroken (styledTex value) := by
  have none (c : Char) (outside : letter c = false) (plain : c ≠ '\\')
      (char : ¬ TextToken (.char c)) (symbol : ¬ TextToken (.symbol c)) : c ∉ styledTex value :=
    (styledTex_safe value).not_mem outside plain
      (fun allowed => allowed.elim char nofun) (fun allowed => allowed.elim symbol nofun)
  exact ⟨none _ (by decide) (by decide) (by decide) (by decide),
    none _ (by decide) (by decide) (by decide) (by decide)⟩

theorem unbroken_intercalate {separator : Text} {parts : List Text}
    (between : Unbroken separator) (each : ∀ part ∈ parts, Unbroken part) :
    Unbroken (List.intercalate separator parts) :=
  intercalate_closed unbroken_nil (fun _ _ first second => unbroken_append.mpr ⟨first, second⟩)
    between each

theorem safe_intercalate {allowed : Token → Prop} {separator : Text} {parts : List Text}
    (between : Safe allowed separator) (each : ∀ part ∈ parts, Safe allowed part) :
    Safe allowed (List.intercalate separator parts) :=
  intercalate_closed .nil (fun _ _ => .append) between each

/-! ## Sections -/

/-- The lines of a section, each with its end. -/
def endedLines (lines : List Text) : Text := lines.flatMap fun line => line ++ ['\n']

theorem endedLines_append (first second : List Text) :
    endedLines (first ++ second) = endedLines first ++ endedLines second :=
  List.flatMap_append

theorem endedLines_flatten (parts : List (List Text)) :
    endedLines parts.flatten = parts.flatMap endedLines := by
  induction parts with
  | nil => rfl
  | cons first rest ih =>
    rw [List.flatten_cons, endedLines_append, ih, List.flatMap_cons]

theorem builder_plain {body : Text} (safe : Safe TextToken body) : Safe BuilderToken body :=
  safe.mono fun _ => .inl

theorem builder_styled (value : StyledText) : Safe BuilderToken (styledTex value) := by
  refine (styledTex_safe value).mono fun token allowed => ?_
  rcases allowed with text | rfl
  · exact .inl text
  · exact .inr (.inl ⟨_, by decide, rfl⟩)

theorem builder_end : Safe BuilderToken ['\n'] :=
  .char (by decide) (by decide) (by decide) (by decide)

theorem builder_group {body : Text} (safe : Safe BuilderToken body) :
    Safe BuilderToken (braced body) :=
  .group (by decide) (by decide) safe

/-- The text is a backslash in front of one of the builders' commands. -/
def isCommand : Text → Bool
  | '\\' :: name => name.all letter && !name.isEmpty && builderWords.contains name
  | _ => false

theorem isCommand_elim {command : Text} (known : isCommand command = true) :
    ∃ name, command = '\\' :: name ∧ name.all letter = true ∧ name ≠ [] ∧ name ∈ builderWords := by
  unfold isCommand at known
  split at known
  next name =>
    simp only [Bool.and_eq_true, List.contains_iff_mem, Bool.not_eq_true',
      List.isEmpty_eq_false_iff] at known
    exact ⟨name, rfl, known.1.1, known.1.2, known.2⟩
  · cases known

theorem builder_command {command body : Text} (known : isCommand command = true)
    (safe : Safe BuilderToken body) : Safe BuilderToken (command ++ braced body) := by
  obtain ⟨name, rfl, letters, named, member⟩ := isCommand_elim known
  exact .command (by decide) (by decide) letters named (.inr (.inl ⟨name, member, rfl⟩)) safe

/-- A command alone on its line. -/
theorem builder_line {command : Text} (known : isCommand command = true) :
    Safe BuilderToken (command ++ ['\n']) := by
  obtain ⟨name, rfl, letters, named, member⟩ := isCommand_elim known
  have word : Balanced [Token.word name] := .token nofun nofun
  have line : Balanced [Token.char '\n'] := .token (by decide) (by decide)
  refine ⟨[.word name, .char '\n'], .word letters named (by decide) (by decide),
    word.append line, ?_⟩
  intro token inside
  rcases List.mem_cons.mp inside with rfl | last
  · exact .inr (.inl ⟨name, member, rfl⟩)
  · rw [List.mem_singleton.mp last]
    decide

theorem educationTex_safe (entry : EducationEntry) :
    Safe BuilderToken (educationTex entry ++ ['\n']) := by
  have heading : Safe BuilderToken
      ("\\resumeEducationHeading".toList ++ braced (styledTex entry.institution)) :=
    builder_command (by decide +kernel) (builder_styled entry.institution)
  exact ((heading.append (builder_group (builder_styled entry.qualification))).append
    (builder_group (builder_styled entry.period))).append builder_end

def skillTag (value : Text) : Text := "\\skilltag".toList ++ braced (texOf value)

theorem skillTag_starts (value : Text) : ∃ rest, skillTag value = '\\' :: rest := by
  have known : isCommand "\\skilltag".toList = true := by decide +kernel
  obtain ⟨name, written, -⟩ := isCommand_elim known
  exact ⟨name ++ braced (texOf value), congrArg (· ++ braced (texOf value)) written⟩

/-- The tags with gaps between them. The word of a gap ends where the next tag begins. -/
theorem skillTags_safe (first : Text) (rest : List Text) :
    ∃ behind, List.intercalate "\\skillgap".toList ((first :: rest).map skillTag) = '\\' :: behind ∧
      Safe BuilderToken ('\\' :: behind) := by
  obtain ⟨inner, starts⟩ := skillTag_starts first
  have tag : Safe BuilderToken ('\\' :: inner) := by
    rw [← starts]
    exact builder_command (by decide +kernel) (builder_plain (texOf_safe first))
  induction rest generalizing first inner with
  | nil => exact ⟨inner, by simp [starts], tag⟩
  | cons second rest ih =>
    obtain ⟨next, starts'⟩ := skillTag_starts second
    have tag' : Safe BuilderToken ('\\' :: next) := by
      rw [← starts']
      exact builder_command (by decide +kernel) (builder_plain (texOf_safe second))
    obtain ⟨behind, written, safe⟩ := ih second next starts' tag'
    have known : "\\skillgap".toList = '\\' :: "skillgap".toList := by decide +kernel
    have gap : Safe BuilderToken ("\\skillgap".toList ++ '\\' :: behind) := by
      rw [known]
      exact safe.word_command (by decide) (by decide) (.inr (.inl ⟨_, by decide, rfl⟩))
    refine ⟨inner ++ ("\\skillgap".toList ++ '\\' :: behind), ?_, tag.append gap⟩
    rw [List.map_cons, List.map_cons, List.intercalate_cons_cons, ← List.map_cons, written, starts,
      List.append_assoc, List.cons_append]

theorem technologies_safe (technologies : List Text) :
    Safe BuilderToken (List.intercalate "\\skillgap".toList
      (technologies.map fun value => "\\skilltag".toList ++ braced (texOf value))) := by
  change Safe BuilderToken (List.intercalate _ (technologies.map skillTag))
  cases technologies with
  | nil => exact .nil
  | cons first rest =>
    obtain ⟨behind, written, safe⟩ := skillTags_safe first rest
    rw [written]
    exact safe

theorem projectTex_safe (entry : ProjectEntry) :
    Safe BuilderToken (endedLines (projectTex entry)) := by
  have heading : Safe BuilderToken
      ("\\resumeProjectHeading".toList ++ braced (styledTex entry.title)) :=
    builder_command (by decide +kernel) (builder_styled entry.title)
  have headingLine := (((heading.append (builder_group (builder_styled entry.period))).append
    (builder_group (technologies_safe entry.technologies))).append
      (builder_group (builder_styled entry.summary))).append builder_end
  have starts : Safe BuilderToken ("\\resumeItemListStart".toList ++ ['\n']) :=
    builder_line (by decide +kernel)
  have bullets : Safe BuilderToken (endedLines (entry.bullets.map fun bullet =>
      "\\resumeItem".toList ++ braced (styledTex bullet.styled))) := by
    unfold endedLines
    rw [List.flatMap_map]
    exact .flatMap fun bullet _ =>
      (builder_command (by decide +kernel) (builder_styled bullet.styled)).append builder_end
  have ends : Safe BuilderToken ("\\resumeItemListEnd".toList ++ ['\n']) :=
    builder_line (by decide +kernel)
  have whole := ((headingLine.append starts).append bullets).append ends
  rw [projectTex, endedLines_append, endedLines_append]
  simpa only [endedLines, List.flatMap_cons, List.flatMap_nil, List.append_nil,
    List.append_assoc] using whole

/-- A command whose argument is a word of the template. -/
theorem builder_argument {line : Text} (command body : Text)
    (written : line = command ++ braced body) (known : isCommand command = true)
    (plain : texOf body = body) : Safe BuilderToken (line ++ ['\n']) := by
  have argument : Safe TextToken body := plain ▸ texOf_safe body
  rw [written]
  exact (builder_command known (builder_plain argument)).append builder_end

theorem skillTex_safe (entry : SkillCategory) : Safe BuilderToken (skillTex entry ++ ['\n']) := by
  have label : Safe BuilderToken ("\\textbf".toList ++ braced (texOf entry.label)) :=
    builder_command (by decide +kernel) (builder_plain (texOf_safe entry.label))
  have colon : Safe TextToken ['：'] := .char (by decide) (by decide) (by decide) (by decide)
  have comma : Safe TextToken "、".toList := .char (by decide) (by decide) (by decide) (by decide)
  have items : Safe TextToken (List.intercalate "、".toList (entry.items.map texOf)) := by
    refine safe_intercalate comma fun part member => ?_
    obtain ⟨item, -, rfl⟩ := List.mem_map.mp member
    exact texOf_safe item
  have breaks : Safe BuilderToken " \\\\".toList := by
    have space : Balanced [Token.char ' '] := .token (by decide) (by decide)
    have symbol : Balanced [Token.symbol '\\'] := .token nofun nofun
    exact ⟨[.char ' ', .symbol '\\'], by decide +kernel, space.append symbol, by decide⟩
  exact ((label.append (builder_group (builder_plain (colon.append items)))).append breaks).append
    builder_end

/-- What a section builder writes stands where it is put: it closes its own groups only. -/
theorem sectionTex_safe (content : ResumeContent) (part : ResumeSection) :
    Safe BuilderToken (endedLines (sectionTex content part)) := by
  cases part with
  | education =>
    have starts : Safe BuilderToken ("\\resumeEducationListStart".toList ++ ['\n']) :=
      builder_line (by decide +kernel)
    have entries : Safe BuilderToken (endedLines (content.education.map educationTex)) := by
      unfold endedLines
      rw [List.flatMap_map]
      exact .flatMap fun entry _ => educationTex_safe entry
    have ends : Safe BuilderToken ("\\resumeEducationListEnd".toList ++ ['\n']) :=
      builder_line (by decide +kernel)
    have whole := (starts.append entries).append ends
    simpa only [sectionTex, endedLines, List.flatMap_append, List.flatMap_cons, List.flatMap_nil,
      List.append_nil, List.nil_append, List.append_assoc, List.cons_append] using whole
  | projects =>
    have raised : Safe BuilderToken ("\\vspace\x7b-5pt\x7d".toList ++ ['\n']) :=
      builder_argument "\\vspace".toList "-5pt".toList (by decide +kernel)
        (by decide +kernel) (by decide +kernel)
    have starts : Safe BuilderToken ("\\resumeProjectListStart".toList ++ ['\n']) :=
      builder_line (by decide +kernel)
    have entries : Safe BuilderToken (endedLines (content.projects.map projectTex).flatten) := by
      rw [endedLines_flatten, List.flatMap_map]
      exact .flatMap fun entry _ => projectTex_safe entry
    have ends : Safe BuilderToken ("\\resumeProjectListEnd".toList ++ ['\n']) :=
      builder_line (by decide +kernel)
    have lowered : Safe BuilderToken ("\\vspace\x7b-15pt\x7d".toList ++ ['\n']) :=
      builder_argument "\\vspace".toList "-15pt".toList (by decide +kernel)
        (by decide +kernel) (by decide +kernel)
    have whole := (((raised.append starts).append entries).append ends).append lowered
    simpa only [sectionTex, endedLines, List.flatMap_append, List.flatMap_cons, List.flatMap_nil,
      List.append_nil, List.nil_append, List.append_assoc, List.cons_append] using whole
  | skills =>
    have begins : Safe BuilderToken ("\\begin\x7bitemize\x7d".toList ++ ['\n']) :=
      builder_argument "\\begin".toList "itemize".toList (by decide +kernel)
        (by decide +kernel) (by decide +kernel)
    have entries : Safe BuilderToken (endedLines (content.skills.map skillTex)) := by
      unfold endedLines
      rw [List.flatMap_map]
      exact .flatMap fun entry _ => skillTex_safe entry
    have item : Safe BuilderToken
        ("\\item".toList ++ braced ('\n' :: endedLines (content.skills.map skillTex))) :=
      builder_command (by decide +kernel) (builder_end.append entries)
    have sized : Safe BuilderToken ("\\normalsize".toList ++ braced ("\\item".toList ++
        braced ('\n' :: endedLines (content.skills.map skillTex)))) :=
      builder_command (by decide +kernel) item
    have ends : Safe BuilderToken ("\\end\x7bitemize\x7d".toList ++ ['\n']) :=
      builder_argument "\\end".toList "itemize".toList (by decide +kernel)
        (by decide +kernel) (by decide +kernel)
    have lowered : Safe BuilderToken ("\\vspace\x7b-16pt\x7d".toList ++ ['\n']) :=
      builder_argument "\\vspace".toList "-16pt".toList (by decide +kernel)
        (by decide +kernel) (by decide +kernel)
    have whole := (((begins.append sized).append builder_end).append ends).append lowered
    have opening : "\\normalsize\x7b\\item\x7b".toList =
        "\\normalsize".toList ++ '\x7b' :: ("\\item".toList ++ ['\x7b']) := by decide +kernel
    have closing : "\x7d\x7d".toList = ['\x7d', '\x7d'] := by decide +kernel
    simpa only [sectionTex, endedLines, braced, opening, closing, List.flatMap_append,
      List.flatMap_cons, List.flatMap_nil, List.append_nil, List.nil_append, List.append_assoc,
      List.cons_append] using whole

end Pathfinder
