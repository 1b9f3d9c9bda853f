import Mathlib.Algebra.Order.BigOperators.Group.List
import Mathlib.Data.Prod.Lex
import Pathfinder.Guarantees.EvidenceAddressability

/-!
# The size of the material context

`_context` budgets the bodies it shows and not the headers between them. What it shows is always a
beginning of the ordered files with beginnings of their numbered lines; its size is within the
bound exactly where everything the files can show fits in it.
-/
namespace Pathfinder

/-! ## Cutting -/

/-- A cut leaves less than one character of room. -/
theorem takeUtf8_of_room {bound : Nat} {text : Text}
    (room : utf8Length (takeUtf8 bound text) + 3 < bound) : takeUtf8 bound text = text := by
  induction text generalizing bound with
  | nil => rfl
  | cons c rest ih =>
    have small := c.utf8Size_le_four
    unfold takeUtf8 at room ⊢
    split at room
    next fits =>
      rw [if_pos fits]
      simp only [utf8Length, List.map_cons, List.sum_cons] at room ih
      rw [ih (by omega)]
    · simp only [utf8Length, List.map_nil, List.sum_nil] at room
      omega

/-- A smaller bound that what is kept fits in keeps the same. -/
theorem takeUtf8_of_kept {bound small : Nat} {text : Text}
    (kept : utf8Length (takeUtf8 bound text) ≤ small) (less : small ≤ bound) :
    takeUtf8 small text = takeUtf8 bound text := by
  induction text generalizing bound small with
  | nil => rfl
  | cons c rest ih =>
    unfold takeUtf8 at kept ⊢
    split at kept
    next fits =>
      simp only [utf8Length, List.map_cons, List.sum_cons] at kept ih
      have tail := @ih (bound - c.utf8Size) (small - c.utf8Size) (by omega) (by omega)
      rw [if_pos fits, if_pos (by omega), tail]
    next excess => rw [if_neg excess, if_neg (by omega)]

/-! ## Parts -/

/-- `FILE_REF {item.id} PATH {item.path}\n`. -/
def contextHeader (item : SnapshotText) : Text :=
  "FILE_REF ".toList ++ uuidText item.id ++ " PATH ".toList ++ item.path.toList ++ ['\n']

/-- The numbered lines of a file. -/
def fileLines (item : SnapshotText) : Text :=
  ['\n'].intercalate (numberedLines (splitlines ((decodeUtf8 item.content).getD [])))

/-- What a file shows when the budget of the whole context does not cut it. -/
def fileBody (item : SnapshotText) : Text := takeUtf8 maxContextFileBytes (fileLines item)

/-- `"\n\n".join(parts)`. -/
def contextText (parts : List (SnapshotText × Text)) : Text :=
  "\n\n".toList.intercalate (parts.map fun part => contextHeader part.1 ++ part.2)

/-- The headers of all files, their bodies, and two line feeds between them are within the
bound. -/
def ContextFits (files : List SnapshotText) : Prop :=
  (files.map fun item => utf8Length (contextHeader item) + utf8Length (fileBody item) + 2).sum ≤
    maxContextBytes + 2

theorem materialContext_eq (files : List SnapshotText) : materialContext files =
    (contextParts maxContextBytes (files.mergeSort contextOrder)).map contextText := by
  unfold materialContext contextText contextHeader
  cases contextParts maxContextBytes (files.mergeSort contextOrder) with
  | none => rfl
  | some parts =>
    simp only [Option.bind_eq_bind, Option.bind_some, Option.pure_def, Option.map_some,
      List.append_assoc, List.singleton_append]

theorem utf8Length_joined {separator first : Text} {rest : List Text} :
    utf8Length (separator.intercalate (first :: rest)) + utf8Length separator =
      ((first :: rest).map fun segment => utf8Length segment + utf8Length separator).sum := by
  induction rest generalizing first with
  | nil => simp
  | cons second rest ih =>
    rw [List.intercalate_cons_cons, utf8Length_append, utf8Length_append, List.map_cons,
      List.sum_cons, ← ih]
    omega

theorem contextText_size {parts : List (SnapshotText × Text)} (nonempty : parts ≠ []) :
    utf8Length (contextText parts) + 2 = (parts.map fun part =>
      utf8Length (contextHeader part.1) + utf8Length part.2 + 2).sum := by
  cases parts with
  | nil => exact absurd rfl nonempty
  | cons part rest =>
    have two : utf8Length "\n\n".toList = 2 := by decide
    have whole := @utf8Length_joined "\n\n".toList (contextHeader part.1 ++ part.2)
      (rest.map fun part => contextHeader part.1 ++ part.2)
    rw [two, ← List.map_cons (f := fun part : SnapshotText × Text =>
      contextHeader part.1 ++ part.2), List.map_map] at whole
    rw [contextText, whole]
    simp only [Function.comp_def, utf8Length_append]

/-! ## The loop -/

/-- The parts of all files when none is cut by the budget of the context. -/
def wholeParts (files : List SnapshotText) : List (SnapshotText × Text) :=
  files.map fun item => (item, fileBody item)

/-- One turn of the loop. -/
theorem contextParts_cons {remaining : Nat} {item : SnapshotText} {rest : List SnapshotText}
    {parts : List (SnapshotText × Text)} (left : remaining ≠ 0)
    (built : contextParts remaining (item :: rest) = some parts) :
    ∃ behind, parts = (item, takeUtf8 (min maxContextFileBytes remaining) (fileLines item)) ::
        behind ∧
      contextParts (remaining -
        utf8Length (takeUtf8 (min maxContextFileBytes remaining) (fileLines item))) rest =
        some behind := by
  rw [contextParts, if_neg left] at built
  simp only [Option.bind_eq_bind, Option.bind_eq_some_iff, Option.pure_def,
    Option.some.injEq] at built
  obtain ⟨text, decoded, behind, tail, rfl⟩ := built
  have lines : takeUtf8 (min maxContextFileBytes remaining) (fileLines item) =
      contextBody (min maxContextFileBytes remaining) (splitlines text) := by
    rw [contextBody, fileLines, decoded, Option.getD_some]
  exact ⟨behind, by rw [lines], by rw [lines, tail]⟩

/-- The loop shows the first files. -/
theorem contextParts_begins {remaining : Nat} {files : List SnapshotText}
    {parts : List (SnapshotText × Text)} (built : contextParts remaining files = some parts) :
    parts.map Prod.fst <+: files := by
  induction files generalizing remaining parts with
  | nil =>
    cases built
    exact List.prefix_refl _
  | cons item rest ih =>
    by_cases left : remaining = 0
    · rw [contextParts, if_pos left] at built
      cases built
      exact List.nil_prefix
    · obtain ⟨behind, rfl, tail⟩ := contextParts_cons left built
      exact List.cons_prefix_cons.mpr ⟨rfl, ih tail⟩

/-- Bodies that leave some of the budget are not cut by it. -/
theorem contextParts_whole {remaining : Nat} {files : List SnapshotText}
    {parts : List (SnapshotText × Text)} (built : contextParts remaining files = some parts)
    (room : (files.map fun item => utf8Length (fileBody item)).sum < remaining) :
    parts = wholeParts files := by
  induction files generalizing remaining parts with
  | nil =>
    cases built
    rfl
  | cons item rest ih =>
    rw [List.map_cons, List.sum_cons] at room
    have left : remaining ≠ 0 := by omega
    obtain ⟨behind, rfl, tail⟩ := contextParts_cons left built
    have small : utf8Length (fileBody item) ≤ min maxContextFileBytes remaining :=
      le_min (takeUtf8_length _ _) (by omega)
    have body : takeUtf8 (min maxContextFileBytes remaining) (fileLines item) = fileBody item :=
      takeUtf8_of_kept small (min_le_left _ _)
    rw [body] at tail ⊢
    rw [ih tail (by omega)]
    rfl

/-- Where the parts leave room for a character, nothing was cut by the budget. -/
theorem contextParts_room {remaining : Nat} {files : List SnapshotText}
    {parts : List (SnapshotText × Text)} (built : contextParts remaining files = some parts)
    (room : (parts.map fun part => utf8Length part.2).sum + 3 < remaining) :
    parts = wholeParts files := by
  induction files generalizing remaining parts with
  | nil =>
    cases built
    rfl
  | cons item rest ih =>
    have left : remaining ≠ 0 := by omega
    obtain ⟨behind, rfl, tail⟩ := contextParts_cons left built
    rw [List.map_cons, List.sum_cons] at room
    dsimp only at room
    have body : takeUtf8 (min maxContextFileBytes remaining) (fileLines item) = fileBody item := by
      rcases Nat.le_total maxContextFileBytes remaining with more | less
      · rw [min_eq_left more, fileBody]
      · rw [min_eq_right less] at room ⊢
        have whole : takeUtf8 remaining (fileLines item) = fileLines item :=
          takeUtf8_of_room (by omega)
        have small := takeUtf8_length remaining (fileLines item)
        rw [whole] at small
        rw [whole, fileBody, takeUtf8_of_fits (small.trans less)]
    rw [body] at tail room ⊢
    rw [ih tail (by omega)]
    rfl

/-- Every body is a beginning of the numbered lines of its file, cut between characters. -/
theorem contextParts_bodies {remaining : Nat} {files : List SnapshotText}
    {parts : List (SnapshotText × Text)} (built : contextParts remaining files = some parts) :
    ∀ part ∈ parts, ∃ text, decodeUtf8 part.1.content = some text ∧
      part.2 <+: ['\n'].intercalate (numberedLines (splitlines text)) ∧
      utf8Length part.2 ≤ maxContextFileBytes := by
  rintro ⟨item, body⟩ member
  obtain ⟨-, text, bound, decoded, bounded, rfl⟩ := contextParts_part built member
  exact ⟨text, decoded, takeUtf8_begins _ _, (takeUtf8_length _ _).trans bounded⟩

theorem words_least {first second third middle last : Text}
    (words : utf8Length first = 9 ∧ utf8Length second = 6 ∧ utf8Length third = 1) :
    16 ≤ utf8Length (first ++ middle ++ second ++ last ++ third) := by
  simp only [utf8Length_append]
  omega

theorem header_least (item : SnapshotText) : 16 ≤ utf8Length (contextHeader item) :=
  words_least (by decide +kernel)

/-! ## The order of the files -/

theorem contextOrder_iff {first second : SnapshotText} : contextOrder first second = true ↔
    toLex (first.path, uuidText first.id) ≤ toLex (second.path, uuidText second.id) := by
  simp [contextOrder, Prod.Lex.toLex_le_toLex]

theorem ordered_sorted (files : List SnapshotText) :
    (files.mergeSort contextOrder).Pairwise fun first second =>
      toLex (first.path, uuidText first.id) ≤ toLex (second.path, uuidText second.id) := by
  refine (List.pairwise_mergeSort (fun first second third => ?_) (fun first second => ?_)
    files).imp contextOrder_iff.mp
  · simp only [contextOrder_iff]
    exact le_trans
  · rw [Bool.or_eq_true, contextOrder_iff, contextOrder_iff]
    exact le_total _ _

/-! ## The bound -/

theorem whole_size (files : List SnapshotText) (nonempty : files ≠ []) :
    utf8Length (contextText (wholeParts files)) + 2 = (files.map fun item =>
      utf8Length (contextHeader item) + utf8Length (fileBody item) + 2).sum := by
  rw [contextText_size (by simpa [wholeParts] using nonempty), wholeParts, List.map_map]
  rfl

theorem bodies_below {α : Type} {header body : α → Nat} {items : List α} (nonempty : items ≠ [])
    (each : ∀ item, 16 ≤ header item) :
    (items.map body).sum + 18 ≤ (items.map fun item => header item + body item + 2).sum := by
  induction items with
  | nil => exact absurd rfl nonempty
  | cons item rest ih =>
    have here := each item
    simp only [List.map_cons, List.sum_cons]
    cases rest with
    | nil => simp; omega
    | cons => have := ih (by simp); omega

theorem contextFits_perm {first second : List SnapshotText} (same : first.Perm second) :
    ContextFits first ↔ ContextFits second := by
  rw [ContextFits, ContextFits, (same.map _).sum_nat]

theorem context_size_iff {files : List SnapshotText} {parts : List (SnapshotText × Text)}
    (built : contextParts maxContextBytes files = some parts) :
    utf8Length (contextText parts) ≤ maxContextBytes ↔ ContextFits files := by
  by_cases none : files = []
  · subst none
    cases built
    exact ⟨fun _ => Nat.zero_le _, fun _ => Nat.zero_le _⟩
  have whole := whole_size files none
  constructor
  · intro small
    have nonempty : parts ≠ [] := by
      obtain ⟨item, rest, rfl⟩ := List.exists_cons_of_ne_nil none
      obtain ⟨behind, rfl, -⟩ := contextParts_cons (by decide) built
      simp
    have size := contextText_size nonempty
    have below := @bodies_below _ (fun part : SnapshotText × Text =>
      utf8Length (contextHeader part.1)) (fun part => utf8Length part.2) parts nonempty
      fun part => header_least part.1
    rw [contextParts_room built (by omega)] at small
    rw [ContextFits, ← whole]
    omega
  · intro fits
    rw [ContextFits] at fits
    have below := @bodies_below _ (fun item => utf8Length (contextHeader item))
      (fun item => utf8Length (fileBody item)) files none header_least
    rw [contextParts_whole built (by omega)]
    omega

/-- What the context shows, and when it is within its bound. -/
theorem context_bounded_iff {files : List SnapshotText} {text : Text}
    (built : materialContext files = some text) :
    (∃ parts ordered, text = contextText parts ∧ ordered.Perm files ∧
      (ordered.Pairwise fun first second : SnapshotText =>
        toLex (first.path, uuidText first.id) ≤ toLex (second.path, uuidText second.id)) ∧
      parts.map Prod.fst <+: ordered ∧
      ∀ part ∈ parts, ∃ source, decodeUtf8 part.1.content = some source ∧
        part.2 <+: ['\n'].intercalate (numberedLines (splitlines source)) ∧
        utf8Length part.2 ≤ maxContextFileBytes) ∧
      (utf8Length text ≤ maxContextBytes ↔ ContextFits files) := by
  rw [materialContext_eq] at built
  obtain ⟨parts, shown, rfl⟩ := Option.map_eq_some_iff.mp built
  have same := List.mergeSort_perm files contextOrder
  refine ⟨⟨parts, _, rfl, same, ordered_sorted files, contextParts_begins shown,
    contextParts_bodies shown⟩, ?_⟩
  rw [context_size_iff shown, contextFits_perm same]

/-- One small file, whose context is within the bound. -/
theorem smallModule_fits : ∃ text, materialContext [⟨7, "app.py", "x = 1".toByteArray⟩] = some text ∧
    utf8Length text ≤ maxContextBytes := by
  have built : (materialContext [⟨7, "app.py", "x = 1".toByteArray⟩]).isSome = true := by
    decide +kernel
  obtain ⟨text, built⟩ := Option.isSome_iff_exists.mp built
  exact ⟨text, built, (context_bounded_iff built).2.mpr (by unfold ContextFits; decide +kernel)⟩

/-- Nine hundred modules of one line. -/
def manyModules : List SnapshotText :=
  (List.range 900).map fun number => ⟨number, s!"src/m{number}.py", "x".toByteArray⟩

theorem contextParts_built {remaining : Nat} {files : List SnapshotText}
    (decodes : ∀ item ∈ files, (decodeUtf8 item.content).isSome = true) :
    (contextParts remaining files).isSome = true := by
  induction files generalizing remaining with
  | nil => rfl
  | cons item rest ih =>
    rw [contextParts]
    split
    · rfl
    obtain ⟨text, decoded⟩ := Option.isSome_iff_exists.mp (decodes item List.mem_cons_self)
    obtain ⟨behind, later⟩ := Option.isSome_iff_exists.mp (@ih (remaining - utf8Length
      (contextBody (min maxContextFileBytes remaining) (splitlines text))) fun other member =>
        decodes other (List.mem_cons_of_mem _ member))
    simp [decoded, later]

/-- The headers of many small files alone are past the bound. -/
theorem manyModules_exceed : ¬ ∀ files text, materialContext files = some text →
    utf8Length text ≤ maxContextBytes := by
  intro all
  have same := List.mergeSort_perm manyModules contextOrder
  have built : (contextParts maxContextBytes (manyModules.mergeSort contextOrder)).isSome =
      true := by
    refine contextParts_built fun item member => ?_
    obtain ⟨number, -, rfl⟩ := List.mem_map.mp (same.mem_iff.mp member)
    rw [decodeUtf8_toByteArray]
    rfl
  obtain ⟨parts, built⟩ := Option.isSome_iff_exists.mp built
  have shown : materialContext manyModules = some (contextText parts) := by
    rw [materialContext_eq, built, Option.map_some]
  have fits := (contextFits_perm same).mp ((context_size_iff built).mp (all _ _ shown))
  have headers := List.card_nsmul_le_sum (manyModules.map fun item =>
    utf8Length (contextHeader item) + utf8Length (fileBody item) + 2) 18 fun cost member => by
      obtain ⟨item, -, rfl⟩ := List.mem_map.mp member
      have least := header_least item
      omega
  rw [List.length_map, show manyModules.length = 900 from by simp [manyModules]] at headers
  have total := headers.trans fits
  revert total
  decide

end Pathfinder
