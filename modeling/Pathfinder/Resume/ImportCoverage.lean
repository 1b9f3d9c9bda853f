import Pathfinder.Resume.ImportParts

/-!
# What stands at the items of an import

The items that are marked are made of commands, blanks, braces and groups, and every group is a
part that was read.
-/
namespace Pathfinder
open Scanning Trimming

/-! ## Groups and items -/

theorem holds_iff {range : MarkedRange} {place : Nat} :
    range.holds place = true ↔ range.start ≤ place ∧ place < range.stop := by
  simp [MarkedRange.holds]

section Groups
variable {body : Text} {index place : Nat} {groups : List SourceGroup} {found : SourceGroup}

/-- What stands in a group, from the blanks in front of it to its closing brace. -/
theorem group_place (opened : group index (body.drop index) = .ok found) (behind : index ≤ place)
    (before : place < found.stop) :
    (body[place]?.any fun c => isPythonSpace c || !notBrace c) = true ∨
      found.start + 1 ≤ place ∧ place < found.start + 1 + found.value.length := by
  obtain ⟨blanks, spaces, whole, start, stop⟩ := group_ok opened
  have here : body[place]? =
      (blanks ++ '\x7b' :: (found.value ++ '\x7d' :: found.behind))[place - index]? := by
    rw [← whole, List.getElem?_drop]
    congr 1
    omega
  by_cases leading : place - index < blanks.length
  · rw [List.getElem?_append_left leading, List.getElem?_eq_getElem leading] at here
    exact .inl (by simp [here, spaces _ (List.getElem_mem leading)])
  rw [List.getElem?_append_right (Nat.le_of_not_lt leading)] at here
  rcases Nat.eq_zero_or_eq_succ_pred (place - index - blanks.length) with opening | within
  · rw [opening, List.getElem?_cons_zero] at here
    exact .inl (by rw [here]; rfl)
  rw [within, List.getElem?_cons_succ] at here
  by_cases inside : place < found.start + 1 + found.value.length
  · exact .inr ⟨by omega, inside⟩
  · rw [List.getElem?_append_right (by omega)] at here
    have closing : (place - index - blanks.length).pred - found.value.length = 0 := by
      rw [Nat.pred_eq_sub_one]
      omega
    rw [closing, List.getElem?_cons_zero] at here
    exact .inl (by rw [here]; rfl)

theorem group_closing (opened : group index (body.drop index) = .ok found) :
    body[found.stop - 1]? = some '\x7d' := by
  obtain ⟨blanks, -, whole, start, stop⟩ := group_ok opened
  have here : body[found.stop - 1]? =
      ((blanks ++ '\x7b' :: found.value) ++ '\x7d' :: found.behind)[found.stop - 1 - index]? := by
    rw [List.append_assoc, List.cons_append, ← whole, List.getElem?_drop]
    congr 1
    omega
  rw [here, List.getElem?_append_right (by simp; omega)]
  have last : found.stop - 1 - index - (blanks ++ '\x7b' :: found.value).length = 0 := by
    simp
    omega
  rw [last]
  rfl

/-- Between the groups stand blanks and their braces. -/
theorem GroupsAt.covers (stand : GroupsAt body index groups) {stop : Nat}
    (last : groups.getLast?.map SourceGroup.stop = some stop) (behind : index ≤ place)
    (before : place < stop) :
    (body[place]?.any fun c => isPythonSpace c || !notBrace c) = true ∨
      ∃ found ∈ groups,
        found.start + 1 ≤ place ∧ place < found.start + 1 + found.value.length := by
  induction groups generalizing index with
  | nil => cases last
  | cons first rest ih =>
    by_cases early : place < first.stop
    · exact (group_place stand.1 behind early).imp_right fun inside =>
        ⟨first, List.mem_cons_self, inside⟩
    · cases rest with
      | nil =>
        cases last
        exact absurd before early
      | cons second rest =>
        rw [List.getLast?_cons_cons] at last
        exact (ih stand.2 last (Nat.le_of_not_lt early)).imp_right
          fun ⟨found, member, inside⟩ => ⟨found, List.mem_cons_of_mem _ member, inside⟩

theorem GroupsAt.closing (stand : GroupsAt body index groups) {stop : Nat}
    (last : groups.getLast?.map SourceGroup.stop = some stop) :
    body[stop - 1]? = some '\x7d' := by
  induction groups generalizing index with
  | nil => cases last
  | cons first rest ih =>
    cases rest with
    | nil =>
      cases last
      exact group_closing stand.1
    | cons second rest =>
      rw [List.getLast?_cons_cons] at last
      exact ih stand.2 last

end Groups

/-! ## Skills -/

/-- Up to the first brace a group takes in every character. -/
theorem closeGroup_braceless {front : Text} (plain : ∀ c ∈ front, notBrace c = true)
    (skipped : Bool) (depth : Nat) (rest : Text) :
    ∃ later, closeGroup skipped depth (front ++ rest) =
      (closeGroup later depth rest).map fun found => (front ++ found.1, found.2) := by
  induction front generalizing skipped with
  | nil => exact ⟨skipped, by simp⟩
  | cons c front ih =>
    obtain ⟨notBrace_c, plain⟩ := List.forall_mem_cons.mp plain
    have brace : c ≠ '\x7b' ∧ c ≠ '\x7d' := by simpa [notBrace] using notBrace_c
    have step : ∃ next, closeGroup skipped depth (c :: (front ++ rest)) =
        (closeGroup next depth (front ++ rest)).map fun found => (c :: found.1, found.2) := by
      simp only [closeGroup, if_neg brace.1, if_neg brace.2]
      split
      · exact ⟨false, rfl⟩
      split
      · exact ⟨true, rfl⟩
      · exact ⟨false, rfl⟩
    obtain ⟨next, step⟩ := step
    obtain ⟨later, here⟩ := ih plain next
    refine ⟨later, ?_⟩
    rw [List.cons_append, step, here, Option.map_map]
    rfl

/-- A group that goes on behind an escaped brace takes in the group behind it. -/
theorem closeGroup_adjacent {first second rest value behind : Text}
    (plain : ∀ c ∈ first, notBrace c = true) (plain' : ∀ c ∈ second, notBrace c = true)
    (closed : closeGroup false 0 (first ++ '\x7d' :: '\x7b' :: (second ++ '\x7d' :: rest)) =
      some (value, behind)) :
    value = first ∨ first.length + second.length + 3 ≤ value.length := by
  obtain ⟨skipped, here⟩ := closeGroup_braceless plain false 0
    ('\x7d' :: '\x7b' :: (second ++ '\x7d' :: rest))
  rw [here] at closed
  obtain ⟨⟨inner, behind'⟩, within, made⟩ := Option.map_eq_some_iff.mp closed
  obtain ⟨rfl, -⟩ := Prod.mk.inj made
  cases skipped with
  | false =>
    cases within
    exact .inl (List.append_nil _)
  | true =>
    obtain ⟨again, past⟩ := closeGroup_braceless plain' false 1 ('\x7d' :: rest)
    have shape : closeGroup true 0 ('\x7d' :: '\x7b' :: (second ++ '\x7d' :: rest)) =
        (closeGroup again 1 ('\x7d' :: rest)).map fun found =>
          ('\x7d' :: '\x7b' :: (second ++ found.1), found.2) := by
      rw [closeGroup, if_pos rfl, closeGroup, if_neg (by simp), if_neg (by simp), if_pos rfl,
        past, Option.map_map, Option.map_map]
      rfl
    rw [shape] at within
    obtain ⟨⟨last, _⟩, ends, made'⟩ := Option.map_eq_some_iff.mp within
    obtain ⟨rfl, -⟩ := Prod.mk.inj made'
    have more : last ≠ [] := by
      rintro rfl
      cases again with
      | false => simp [closeGroup] at ends
      | true => simp [closeGroup] at ends
    have positive := List.length_pos_iff.mpr more
    refine .inr ?_
    simp only [List.length_append, List.length_cons]
    omega

theorem bracedLength_pos {text : Text} (matched : 0 < bracedLength text) :
    ∃ inner rest, text = '\x7b' :: (inner ++ '\x7d' :: rest) ∧
      (∀ c ∈ inner, notBrace c = true) ∧ bracedLength text = inner.length + 2 := by
  unfold bracedLength at matched ⊢
  split at matched
  next rest =>
    dsimp only at matched ⊢
    split at matched
    next closed =>
      have whole := List.prefix_iff_eq_append.mp (List.takeWhile_prefix notBrace (l := rest))
      rw [← List.cons_head?_tail closed.2] at whole
      exact ⟨rest.takeWhile notBrace, _, congrArg _ whole.symm,
        fun _ => List.mem_takeWhile_imp, if_pos closed⟩
    · exact absurd matched (Nat.lt_irrefl 0)
  · exact absurd matched (Nat.lt_irrefl 0)

theorem headed_pos {word text : Text} {behind : Text → Nat} (matched : 0 < headed word behind text) :
    word <+: text ∧ 0 < behind (text.drop word.length) ∧
      headed word behind text = word.length + behind (text.drop word.length) := by
  unfold headed at matched ⊢
  split at matched
  next begins =>
    split at matched
    · exact absurd matched (Nat.lt_irrefl 0)
    next length here =>
      rw [if_pos begins, here]
      exact ⟨List.isPrefixOf_iff_prefix.mp begins, Nat.succ_pos _, rfl⟩
  · exact absurd matched (Nat.lt_irrefl 0)

theorem group_opened {index : Nat} {rest : Text} {found : SourceGroup}
    (opened : group index ('\x7b' :: rest) = .ok found) :
    closeGroup false 0 rest = some (found.value, found.behind) ∧
      found.stop = index + found.value.length + 2 := by
  have brace : isPythonSpace '\x7b' = false := by decide
  simp only [group, List.dropWhile_cons, List.takeWhile_cons, brace, Bool.false_eq_true, if_false,
    List.length_nil, Nat.add_zero] at opened
  split at opened
  next closed =>
    cases opened
    exact ⟨closed, rfl⟩
  · cases opened

/-- The two groups of a category of skills reach to the end of its match. -/
theorem braced_groups {body : Text} {index : Nat} {label items : SourceGroup}
    (stand : GroupsAt body index [label, items]) (first : 0 < bracedLength (body.drop index))
    (second : 0 < bracedLength (body.drop (index + bracedLength (body.drop index)))) :
    index + bracedLength (body.drop index) +
      bracedLength (body.drop (index + bracedLength (body.drop index))) ≤ items.stop := by
  obtain ⟨opened, opened', -⟩ := stand
  obtain ⟨inner, rest, here, plain, length⟩ := bracedLength_pos first
  have next : body.drop (index + bracedLength (body.drop index)) = rest := by
    rw [← List.drop_drop, length, here]
    simp
  rw [next] at second ⊢
  obtain ⟨inner', rest', rfl, plain', length'⟩ := bracedLength_pos second
  rw [here] at opened
  obtain ⟨closed, stop⟩ := group_opened opened
  obtain ⟨blanks, -, -, start', stop'⟩ := group_ok opened'
  rw [length, length']
  rcases closeGroup_adjacent plain plain' closed with same | long
  · have next' : body.drop label.stop = '\x7b' :: (inner' ++ '\x7d' :: rest') := by
      rw [stop, same, ← next, length]
      rfl
    rw [next'] at opened'
    obtain ⟨closed', stop'⟩ := group_opened opened'
    obtain ⟨later, reads⟩ := closeGroup_braceless plain' false 0 ('\x7d' :: rest')
    rw [reads] at closed'
    obtain ⟨⟨last, _⟩, -, made⟩ := Option.map_eq_some_iff.mp closed'
    have long := congrArg List.length (Prod.mk.inj made).1
    rw [List.length_append] at long
    have lengths := congrArg List.length same
    omega
  · omega

/-! ## Items -/

/-- The place of a group's text. -/
def valueRange (found : SourceGroup) : MarkedRange :=
  ⟨found.start + 1, found.start + 1 + found.value.length⟩

/-- A place of an item: blank, a brace, in its command or in one of its groups. -/
def ItemPlace {α : Type} (body command : Text) (item : MacroItem α) (place : Nat) : Prop :=
  (body[place]?.any fun c => isPythonSpace c || !notBrace c) = true ∨
    (commandRange command item).holds place = true ∨
    ∃ found ∈ item.groups, (valueRange found).holds place = true

section Items
variable {α : Type} {body command : Text} {place : Nat}

theorem GroupsAt.itemPlace {item : MacroItem α} {stop : Nat}
    (stand : GroupsAt body (item.range.start + command.length) item.groups)
    (last : item.groups.getLast?.map SourceGroup.stop = some stop)
    (behind : item.range.start ≤ place) (before : place < stop) :
    ItemPlace body command item place := by
  by_cases word : place < item.range.start + command.length
  · exact .inr (.inl (holds_iff.mpr ⟨behind, word⟩))
  · rcases stand.covers last (Nat.le_of_not_lt word) before with blank | ⟨found, member, inside⟩
    · exact .inl blank
    · exact .inr (.inr ⟨found, member, holds_iff.mpr inside⟩)

theorem MacroRead.itemPlace {item : MacroItem α} {values : List StyledText}
    (read : MacroRead body command item values) (inside : item.range.holds place = true) :
    ItemPlace body command item place :=
  read.groups.itemPlace read.stop (holds_iff.mp inside).1 (holds_iff.mp inside).2

theorem MacroRead.closing {item : MacroItem α} {values : List StyledText}
    (read : MacroRead body command item values) : body[item.range.stop - 1]? = some '\x7d' :=
  read.groups.closing read.stop

theorem skillLength_pos {text : Text} (matched : 0 < skillLength text) :
    0 < headed "\\textbf".toList bracedLength text ∧
      0 < bracedLength (text.drop (headed "\\textbf".toList bracedLength text)) ∧
      skillLength text = headed "\\textbf".toList bracedLength text +
        bracedLength (text.drop (headed "\\textbf".toList bracedLength text)) := by
  unfold skillLength at matched ⊢
  split at matched
  · exact absurd matched (Nat.lt_irrefl 0)
  next label here =>
    split at matched
    · exact absurd matched (Nat.lt_irrefl 0)
    next items here' =>
      rw [here, here']
      exact ⟨Nat.succ_pos _, Nat.succ_pos _, rfl⟩

/-- The match of a category of skills is its command and two braced groups. -/
theorem SkillRead.braced {item : MacroItem SkillCategory} (read : SkillRead body item) :
    ∃ start, start = item.range.start + "\\textbf".toList.length ∧
      0 < bracedLength (body.drop start) ∧
      0 < bracedLength (body.drop (start + bracedLength (body.drop start))) ∧
      item.range.stop = start + bracedLength (body.drop start) +
        bracedLength (body.drop (start + bracedLength (body.drop start))) := by
  obtain ⟨label, items, whole⟩ := skillLength_pos read.matched
  obtain ⟨-, first, length⟩ := headed_pos label
  rw [List.drop_drop] at first length
  rw [length, List.drop_drop, ← Nat.add_assoc] at items
  refine ⟨_, rfl, first, items, ?_⟩
  rw [read.pattern, whole, length, List.drop_drop]
  simp only [Nat.add_assoc]

theorem SkillRead.itemPlace {item : MacroItem SkillCategory} (read : SkillRead body item)
    (inside : item.range.holds place = true) :
    ItemPlace body "\\textbf".toList item place := by
  obtain ⟨start, rfl, first, second, stop⟩ := read.braced
  obtain ⟨label, items, groups, stand, -⟩ := read.groups
  have reach := braced_groups stand first second
  have before := (holds_iff.mp inside).2
  have last : item.groups.getLast?.map SourceGroup.stop = some items.stop := by
    rw [groups]
    rfl
  exact GroupsAt.itemPlace (groups.symm ▸ stand) last (holds_iff.mp inside).1 (by omega)

theorem SkillRead.closing {item : MacroItem SkillCategory} (read : SkillRead body item) :
    body[item.range.stop - 1]? = some '\x7d' := by
  obtain ⟨start, -, -, second, stop⟩ := read.braced
  obtain ⟨inner, rest, here, -, length⟩ := bracedLength_pos second
  have last : item.range.stop - 1 = start + bracedLength (body.drop start) + (inner.length + 1) := by
    omega
  rw [last, ← List.getElem?_drop, here, List.getElem?_cons_succ,
    List.getElem?_append_right (Nat.le_refl _), Nat.sub_self]
  rfl

end Items

/-! ## Parts -/

/-- Every group has its part, at the place of its text. -/
theorem exists_part {groups : List SourceGroup} {makes : List (SourceGroup → ReadPart)}
    (same : groups.length = makes.length)
    (placed : ∀ make ∈ makes, ∀ found, (make found).range = valueRange found)
    {found : SourceGroup} (member : found ∈ groups) :
    ∃ part ∈ partsOf groups makes, part.range = valueRange found := by
  obtain ⟨index, inside, rfl⟩ := List.mem_iff_getElem.mp member
  have inside' : index < makes.length := same ▸ inside
  have here : (partsOf groups makes)[index]? = some (makes[index] groups[index]) := by
    rw [partsOf, List.getElem?_zipWith, List.getElem?_eq_getElem inside,
      List.getElem?_eq_getElem inside']
  exact ⟨_, List.mem_of_getElem? here, placed _ (List.getElem_mem inside') _⟩

theorem styledPart_range (between shown : Text) (found : SourceGroup) :
    (styledPart between shown found).range = valueRange found := rfl

theorem groupPart_range (between shown : Text) (found : SourceGroup) :
    (groupPart between shown found).range = valueRange found := rfl

theorem StyledFrom.length {groups : List SourceGroup} {values : List StyledText}
    (accepted : StyledFrom groups values) : groups.length = values.length :=
  List.Forall₂.length_eq accepted

namespace ImportedBody
variable {imported : ImportedBody} {place : Nat}

theorem accounted_blank
    (blank : (imported.body[place]?.any fun c => isPythonSpace c || !notBrace c) = true) :
    imported.accounted place = true := by
  simp [accounted, blank]

theorem accounted_part {part : ReadPart} (member : part ∈ imported.parts)
    (inside : part.range.holds place = true) : imported.accounted place = true := by
  have held : (imported.parts.any fun part => part.range.holds place) = true :=
    List.any_eq_true.mpr ⟨part, member, inside⟩
  simp [accounted, held]

theorem accounted_command {range : MarkedRange} (member : range ∈ imported.commands)
    (inside : range.holds place = true) : imported.accounted place = true := by
  have held : (imported.commands.any fun range => range.holds place) = true :=
    List.any_eq_true.mpr ⟨range, member, inside⟩
  simp [accounted, held]

theorem accounted_layout (layout : imported.inLayout place = true) :
    imported.accounted place = true := by
  simp [accounted, layout]

theorem accounted_comment (comment : inComment imported.body place = true) :
    imported.accounted place = true := by
  simp [accounted, comment]

/-- An item with its command and its parts among those of the import. -/
theorem accounted_item {α : Type} {command : Text} {item : MacroItem α}
    {makes : List (SourceGroup → ReadPart)} (here : ItemPlace imported.body command item place)
    (named : commandRange command item ∈ imported.commands)
    (listed : ∀ part ∈ partsOf item.groups makes, part ∈ imported.parts)
    (same : item.groups.length = makes.length)
    (placed : ∀ make ∈ makes, ∀ found, (make found).range = valueRange found) :
    imported.accounted place = true := by
  rcases here with blank | word | ⟨found, member, inside⟩
  · exact accounted_blank blank
  · exact accounted_command named word
  · obtain ⟨part, known, range⟩ := exists_part same placed member
    exact accounted_part (listed part known) (range ▸ inside)

section Members
variable (imported)

theorem education_parts {item : MacroItem EducationEntry} (known : item ∈ imported.education) :
    ∀ part ∈ educationParts item, part ∈ imported.parts := fun _ here =>
  List.mem_append_left _ (List.mem_append_left _
    (List.mem_append_right _ (List.mem_flatMap.mpr ⟨item, known, here⟩)))

theorem project_parts {project : ProjectItem} (known : project ∈ imported.projects) :
    ∀ part ∈ projectParts project, part ∈ imported.parts := fun _ here =>
  List.mem_append_left _ (List.mem_append_right _ (List.mem_flatMap.mpr ⟨project, known, here⟩))

theorem skill_parts {item : MacroItem SkillCategory} (known : item ∈ imported.skills) :
    ∀ part ∈ skillParts item, part ∈ imported.parts := fun _ here =>
  List.mem_append_right _ (List.mem_flatMap.mpr ⟨item, known, here⟩)

theorem education_command {item : MacroItem EducationEntry} (known : item ∈ imported.education) :
    commandRange "\\resumeEducationHeading".toList item ∈ imported.commands :=
  List.mem_append_left _ (List.mem_append_left _ (List.mem_append_right _
    (List.mem_map_of_mem known)))

theorem project_commands {project : ProjectItem} (known : project ∈ imported.projects) :
    ∀ range ∈ projectCommands project, range ∈ imported.commands := fun _ here =>
  List.mem_append_left _ (List.mem_append_right _ (List.mem_flatMap.mpr ⟨project, known, here⟩))

theorem skill_command {item : MacroItem SkillCategory} (known : item ∈ imported.skills) :
    commandRange "\\textbf".toList item ∈ imported.commands :=
  List.mem_append_right _ (List.mem_map_of_mem known)

end Members

/-- What stands at a marked item is accounted for. -/
theorem accounted_range (read : BodyRead imported.body imported) {range : MarkedRange}
    (member : range ∈ imported.itemRanges) (inside : range.holds place = true) :
    imported.accounted place = true := by
  simp only [itemRanges, List.mem_append, List.mem_map, List.mem_flatMap, List.mem_cons] at member
  rcases member with (⟨item, known, rfl⟩ | ⟨project, known, rfl | ⟨bullet, listed, rfl⟩⟩) |
    ⟨item, known, rfl⟩
  · have item_read := read.education item known
    exact accounted_item (item_read.itemPlace inside) (imported.education_command known)
      (imported.education_parts known) item_read.styled.length (by simp [styledPart_range])
  · have heading := (read.projects project known).heading
    have parts := imported.project_parts known
    exact accounted_item (heading.itemPlace inside)
      (imported.project_commands known _ List.mem_cons_self)
      (fun part here => parts part (List.mem_append_left _ here)) heading.styled.length
      (by simp [styledPart_range])
  · have bullet_read := (read.projects project known).bullets bullet listed
    have parts := imported.project_parts known
    exact accounted_item (bullet_read.itemPlace inside)
      (imported.project_commands known _
        (List.mem_cons_of_mem _ (List.mem_map_of_mem listed)))
      (fun part here => parts part
        (List.mem_append_right _ (List.mem_flatMap.mpr ⟨bullet, listed, here⟩)))
      bullet_read.styled.length (by simp [styledPart_range])
  · have item_read := read.skills item known
    obtain ⟨label, items, groups, -⟩ := item_read.groups
    exact accounted_item (item_read.itemPlace inside) (imported.skill_command known)
      (imported.skill_parts known) (congrArg List.length groups) (by simp [groupPart_range])

theorem range_closing (read : BodyRead imported.body imported) {range : MarkedRange}
    (member : range ∈ imported.itemRanges) : imported.body[range.stop - 1]? = some '\x7d' := by
  simp only [itemRanges, List.mem_append, List.mem_map, List.mem_flatMap, List.mem_cons] at member
  rcases member with (⟨item, known, rfl⟩ | ⟨project, known, rfl | ⟨bullet, listed, rfl⟩⟩) |
    ⟨item, known, rfl⟩
  · exact (read.education item known).closing
  · exact (read.projects project known).heading.closing
  · exact ((read.projects project known).bullets bullet listed).closing
  · exact (read.skills item known).closing

end ImportedBody

end Pathfinder
