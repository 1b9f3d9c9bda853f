import Pathfinder.Domain.ModelInput
import Pathfinder.Library.Conditional

/-!
# What the privacy check lets through

A value that passes the check holds no protected data in its strings, but for addresses that
touch a word and digits that only an identifier holds. Keys and numbers are not looked at.
-/
namespace Pathfinder
open Backtracking Conditional

-- What is said of the characters of a text is decided along the text, not over the type.
attribute [local instance (2000)] List.decidableBAll

variable {chars : CharacterTables} {isDigit : Char → Bool} {content : ResumeContent}

/-! ## E-mail addresses -/

/-- An address, wherever it stands. -/
structure IsAddress (address : Text) : Prop where
  parts : ∃ mailbox domain top, address = mailbox ++ '@' :: (domain ++ '.' :: top) ∧
    mailbox ≠ [] ∧ (∀ c ∈ mailbox, localSign c = true) ∧
    domain ≠ [] ∧ (∀ c ∈ domain, domainSign c = true) ∧
    2 ≤ top.length ∧ ∀ c ∈ top, letterIgnoringCase c = true

/-- An address begins and ends at the boundaries of words. -/
def AddressAtBoundaries (chars : CharacterTables) (text : Text) : Prop :=
  ∃ before address behind, text = before ++ (address ++ behind) ∧ IsAddress address ∧
    atBoundary chars (before.reverse, address ++ behind) = true ∧
    atBoundary chars (address.reverse ++ before.reverse, behind) = true

/-- One item and any number of others are a list of items that is not empty. -/
theorem mem_one_many {accepts : Char → Bool} {before rest : Text} {place : Place Char} :
    (∃ between ∈ one accepts (before, rest), place ∈ many accepts between) ↔
      ∃ run behind, rest = run ++ behind ∧ run ≠ [] ∧ (∀ c ∈ run, accepts c = true) ∧
        place = (run.reverse ++ before, behind) := by
  constructor
  · rintro ⟨between, first, more⟩
    obtain ⟨c, tail, rfl, fits, rfl⟩ := mem_one.mp first
    obtain ⟨run, behind, rfl, all, rfl⟩ := mem_many.mp more
    exact ⟨c :: run, behind, rfl, List.cons_ne_nil _ _, List.forall_mem_cons.mpr ⟨fits, all⟩,
      by simp⟩
  · rintro ⟨run, behind, rfl, shown, all, rfl⟩
    obtain ⟨c, run, rfl⟩ := List.exists_cons_of_ne_nil shown
    obtain ⟨fits, all⟩ := List.forall_mem_cons.mp all
    exact ⟨_, mem_one.mpr ⟨c, run ++ behind, rfl, fits, rfl⟩,
      mem_many.mpr ⟨run, behind, rfl, all, by simp⟩⟩

theorem mem_exactly {c : Char} {before rest : Text} {place : Place Char} :
    place ∈ exactly c (before, rest) ↔
      ∃ behind, rest = c :: behind ∧ place = (c :: before, behind) := by
  rw [exactly, mem_one]
  constructor
  · rintro ⟨d, behind, rfl, same, rfl⟩
    obtain rfl := of_decide_eq_true same
    exact ⟨behind, rfl, rfl⟩
  · rintro ⟨behind, rfl, rfl⟩
    exact ⟨c, behind, rfl, decide_eq_true rfl, rfl⟩

/-- The pattern matches an address between boundaries. -/
theorem mem_emailPattern {before rest : Text} {place : Place Char} :
    place ∈ emailPattern chars (before, rest) ↔
      ∃ address behind, rest = address ++ behind ∧ IsAddress address ∧
        atBoundary chars (before, rest) = true ∧
        atBoundary chars (address.reverse ++ before, behind) = true ∧
        place = (address.reverse ++ before, behind) := by
  simp only [emailPattern, mem_sequence_cons, mem_sequence_nil]
  constructor
  · rintro ⟨_, start, _, first, _, more, _, sign, _, first', _, more', _, dot, _, one_, _, two,
      _, rest', _, stop, rfl⟩
    obtain ⟨begins, rfl⟩ := mem_look.mp start
    obtain ⟨mailbox, _, rfl, shown, locals, rfl⟩ := mem_one_many.mp ⟨_, first, more⟩
    obtain ⟨_, rfl, rfl⟩ := mem_exactly.mp sign
    obtain ⟨domain, _, rfl, shown', domains, rfl⟩ := mem_one_many.mp ⟨_, first', more'⟩
    obtain ⟨_, rfl, rfl⟩ := mem_exactly.mp dot
    obtain ⟨c, _, rfl, letter, rfl⟩ := mem_one.mp one_
    obtain ⟨tail, behind, rfl, long, letters, rfl⟩ := mem_one_many.mp ⟨_, two, rest'⟩
    obtain ⟨ends, rfl⟩ := mem_look.mp stop
    have length : 2 ≤ (c :: tail).length := Nat.succ_le_succ (List.length_pos_of_ne_nil long)
    refine ⟨mailbox ++ '@' :: (domain ++ '.' :: (c :: tail)), behind, by simp, ⟨mailbox, domain,
      c :: tail, rfl, shown, locals, shown', domains, length,
      List.forall_mem_cons.mpr ⟨letter, letters⟩⟩, begins, ?_, by simp⟩
    simpa using ends
  · rintro ⟨_, behind, rfl, ⟨mailbox, domain, top, rfl, shown, locals, shown', domains, length,
      letters⟩, begins, ends, rfl⟩
    obtain ⟨c, tail, rfl⟩ := List.exists_cons_of_length_pos (Nat.lt_of_succ_lt length)
    obtain ⟨letter, letters⟩ := List.forall_mem_cons.mp letters
    have more : tail ≠ [] := List.ne_nil_of_length_pos (Nat.le_of_succ_le_succ length)
    obtain ⟨_, first, mailbox'⟩ := mem_one_many.mpr
      ⟨mailbox, '@' :: (domain ++ '.' :: (c :: tail) ++ behind), rfl, shown, locals, rfl⟩
    obtain ⟨_, head, domain'⟩ := mem_one_many.mpr
      ⟨domain, '.' :: (c :: tail ++ behind), rfl, shown', domains, rfl⟩
    obtain ⟨_, two, top'⟩ := mem_one_many.mpr ⟨tail, behind, rfl, more, letters, rfl⟩
    refine ⟨_, mem_look.mpr ⟨begins, rfl⟩, _, ?_, _, mailbox', _, mem_exactly.mpr ⟨_, rfl, rfl⟩,
      _, ?_, _, domain', _, mem_exactly.mpr ⟨_, rfl, rfl⟩, _,
      mem_one.mpr ⟨c, _, rfl, letter, rfl⟩, _, two, _, top', _, mem_look.mpr ⟨?_, rfl⟩, ?_⟩
    · simpa using first
    · simpa using head
    · simpa using ends
    · simp

theorem emailPattern_search {text : Text} :
    search (emailPattern chars) text = true ↔ AddressAtBoundaries chars text := by
  rw [search_iff]
  constructor
  · rintro ⟨before, rest, place, rfl, member⟩
    obtain ⟨address, behind, rfl, shaped, begins, ends, -⟩ := mem_emailPattern.mp member
    exact ⟨before, address, behind, rfl, shaped, begins, ends⟩
  · rintro ⟨before, address, behind, rfl, shaped, begins, ends⟩
    exact ⟨before, address ++ behind, _, rfl,
      mem_emailPattern.mpr ⟨address, behind, rfl, shaped, begins, ends, rfl⟩⟩

/-! ## What is looked at -/

mutual

/-- The strings that are looked at. -/
def ModelInput.leaves : ModelInput → List Text
  | .string text => [text]
  | .list items => leavesOfItems items
  | .object members => leavesOfMembers members
  | .null => []
  | .bool _ => []
  | .number _ => []

def leavesOfItems : List ModelInput → List Text
  | [] => []
  | item :: rest => item.leaves ++ leavesOfItems rest

def leavesOfMembers : List (Text × ModelInput) → List Text
  | [] => []
  | (_, child) :: rest => child.leaves ++ leavesOfMembers rest

end

mutual

/-- The keys and the numbers as text. -/
def ModelInput.unseen : ModelInput → List Text
  | .string _ => []
  | .list items => unseenOfItems items
  | .object members => unseenOfMembers members
  | .null => []
  | .bool _ => []
  | .number written => [written.1]

def unseenOfItems : List ModelInput → List Text
  | [] => []
  | item :: rest => item.unseen ++ unseenOfItems rest

def unseenOfMembers : List (Text × ModelInput) → List Text
  | [] => []
  | (key, child) :: rest => key :: child.unseen ++ unseenOfMembers rest

end

mutual

/-- The strings, the keys and the numbers of the serialized value, in their order. -/
def ModelInput.texts : ModelInput → List Text
  | .string text => [text]
  | .list items => textsOfItems items
  | .object members => textsOfMembers members
  | .null => []
  | .bool _ => []
  | .number written => [written.1]

def textsOfItems : List ModelInput → List Text
  | [] => []
  | item :: rest => item.texts ++ textsOfItems rest

def textsOfMembers : List (Text × ModelInput) → List Text
  | [] => []
  | (key, child) :: rest => key :: child.texts ++ textsOfMembers rest

end

mutual

theorem ModelInput.mem_texts {text : Text} : (value : ModelInput) →
    (text ∈ value.texts ↔ text ∈ value.leaves ∨ text ∈ value.unseen)
  | .string part => by simp [ModelInput.texts, ModelInput.leaves, ModelInput.unseen]
  | .null => by simp [ModelInput.texts, ModelInput.leaves, ModelInput.unseen]
  | .bool value => by simp [ModelInput.texts, ModelInput.leaves, ModelInput.unseen]
  | .number written => by simp [ModelInput.texts, ModelInput.leaves, ModelInput.unseen]
  | .list items => by
    rw [ModelInput.texts, ModelInput.leaves, ModelInput.unseen, mem_textsOfItems items]
  | .object members => by
    rw [ModelInput.texts, ModelInput.leaves, ModelInput.unseen, mem_textsOfMembers members]

theorem mem_textsOfItems {text : Text} : (items : List ModelInput) →
    (text ∈ textsOfItems items ↔ text ∈ leavesOfItems items ∨ text ∈ unseenOfItems items)
  | [] => by simp [textsOfItems, leavesOfItems, unseenOfItems]
  | item :: rest => by
    rw [textsOfItems, leavesOfItems, unseenOfItems, List.mem_append, List.mem_append,
      List.mem_append, item.mem_texts, mem_textsOfItems rest, or_or_or_comm]

theorem mem_textsOfMembers {text : Text} : (members : List (Text × ModelInput)) →
    (text ∈ textsOfMembers members ↔
      text ∈ leavesOfMembers members ∨ text ∈ unseenOfMembers members)
  | [] => by simp [textsOfMembers, leavesOfMembers, unseenOfMembers]
  | (key, child) :: rest => by
    rw [textsOfMembers, leavesOfMembers, unseenOfMembers, List.cons_append, List.cons_append,
      List.mem_cons, List.mem_cons, List.mem_append, List.mem_append, List.mem_append,
      child.mem_texts, mem_textsOfMembers rest, or_or_or_comm, or_left_comm]

end

mutual

/-- The check passes where no string that is looked at holds protected data. -/
theorem inspect_ok : (value : ModelInput) → (inspect chars isDigit content value = .ok () ↔
    ∀ text ∈ value.leaves, holdsProtected chars isDigit content text = false)
  | .string part => by
    rw [inspect, ModelInput.leaves, List.forall_mem_singleton]
    cases holdsProtected chars isDigit content part <;> simp
  | .null => by simp [inspect, ModelInput.leaves]
  | .bool value => by simp [inspect, ModelInput.leaves]
  | .number written => by simp [inspect, ModelInput.leaves]
  | .list items => by rw [inspect, ModelInput.leaves, inspectItems_ok items]
  | .object members => by rw [inspect, ModelInput.leaves, inspectMembers_ok members]

theorem inspectItems_ok : (items : List ModelInput) →
    (inspectItems chars isDigit content items = .ok () ↔
      ∀ text ∈ leavesOfItems items, holdsProtected chars isDigit content text = false)
  | [] => by simp [inspectItems, leavesOfItems]
  | item :: rest => by
    rw [inspectItems, leavesOfItems, List.forall_mem_append, ← inspect_ok item,
      ← inspectItems_ok rest, bind_ok]
    exact ⟨fun ⟨_, first, later⟩ => ⟨first, later⟩, fun ⟨first, later⟩ => ⟨(), first, later⟩⟩

theorem inspectMembers_ok : (members : List (Text × ModelInput)) →
    (inspectMembers chars isDigit content members = .ok () ↔
      ∀ text ∈ leavesOfMembers members, holdsProtected chars isDigit content text = false)
  | [] => by simp [inspectMembers, leavesOfMembers]
  | (_, child) :: rest => by
    rw [inspectMembers, leavesOfMembers, List.forall_mem_append, ← inspect_ok child,
      ← inspectMembers_ok rest, bind_ok]
    exact ⟨fun ⟨_, first, later⟩ => ⟨first, later⟩, fun ⟨first, later⟩ => ⟨(), first, later⟩⟩

end

/-! ## What stays protected -/

/-- A protected value occurs: an address, the name or a contact as it is, or the digits of a
telephone number among the digits. -/
def Discloses (isDigit : Char → Bool) (content : ResumeContent) (text : Text) : Prop :=
  (∃ address, IsAddress address ∧ address <:+: text) ∨
    (∃ secret ∈ protectedValues content, secret ≠ [] ∧ secret <:+: text) ∨
    ∃ phone ∈ phoneDigits isDigit content, 7 ≤ phone.length ∧ phone <:+: text.filter isDigit

/-- No address only touches a word, and no telephone number is only among the digits of an
identifier. -/
structure FoundWhereItStands (chars : CharacterTables) (isDigit : Char → Bool)
    (content : ResumeContent) (text : Text) : Prop where
  address : ∀ address, IsAddress address → address <:+: text → AddressAtBoundaries chars text
  phone : ∀ phone ∈ phoneDigits isDigit content, 7 ≤ phone.length →
    phone <:+: text.filter isDigit → phone <:+: (withoutIdentifiers text).filter isDigit

theorem undisclosed_iff {text : Text} (passes : holdsProtected chars isDigit content text = false) :
    ¬Discloses isDigit content text ↔ FoundWhereItStands chars isDigit content text := by
  simp only [holdsProtected, Bool.or_eq_false_iff, List.any_eq_false] at passes
  obtain ⟨⟨⟨email, -⟩, secrets⟩, phones⟩ := passes
  have unbounded : ¬AddressAtBoundaries chars text := by
    rw [← emailPattern_search, email]
    exact Bool.false_ne_true
  have phones : ∀ phone ∈ phoneDigits isDigit content, 7 ≤ phone.length →
      ¬phone <:+: (withoutIdentifiers text).filter isDigit := by
    intro phone listed long inside
    exact phones phone listed (by simp [occursIn, long, inside])
  constructor
  · intro hidden
    exact ⟨fun address shaped inside => absurd (.inl ⟨address, shaped, inside⟩) hidden,
      fun phone listed long inside => absurd (.inr (.inr ⟨phone, listed, long, inside⟩)) hidden⟩
  · rintro separated (⟨address, shaped, inside⟩ | ⟨secret, listed, shown, inside⟩ |
      ⟨phone, listed, long, inside⟩)
    · exact unbounded (separated.address address shaped inside)
    · exact secrets secret listed (by simp [occursIn, shown, inside])
    · exact phones phone listed long (separated.phone phone listed long inside)

theorem model_input_private_iff {value : ModelInput}
    (passes : checkModelInputPrivacy chars isDigit content value = .ok ()) :
    (∀ text ∈ value.texts, ¬Discloses isDigit content text) ↔
      (∀ text ∈ value.unseen, ¬Discloses isDigit content text) ∧
        ∀ text ∈ value.leaves, FoundWhereItStands chars isDigit content text := by
  have looked := (inspect_ok value).mp passes
  have seen : (∀ text ∈ value.leaves, ¬Discloses isDigit content text) ↔
      ∀ text ∈ value.leaves, FoundWhereItStands chars isDigit content text :=
    forall₂_congr fun text member => undisclosed_iff (looked text member)
  rw [← seen]
  constructor
  · intro hidden
    exact ⟨fun text member => hidden text (value.mem_texts.mpr (.inr member)),
      fun text member => hidden text (value.mem_texts.mpr (.inl member))⟩
  · rintro ⟨unseen, leaves⟩ text member
    rcases value.mem_texts.mp member with leaf | other
    · exact leaves text leaf
    · exact unseen text other

/-! ## Inputs with and without protected data -/

/-- The tables with CJK ideographs among the characters of words. -/
def cjkTables : CharacterTables :=
  { asciiTables with isWord := fun c => asciiTables.isWord c || 0x4e00 ≤ c.toNat }

def liField (id : UUID) (kind : ContactKind) (value : String) : ContactField where
  id := id
  kind := kind
  label := "contact".toList
  value := value.toList
  locked := true
  reviewStatus := .reviewed
  source := { startLine := 1, startColumn := 1, endLine := 1, endColumn := 2 }

def liContent : ResumeContent where
  displayNameId := 1
  displayName := "Li Lei".toList
  displayNameReviewStatus := .reviewed
  contact := [liField 2 .phone "138-0013-8000", liField 3 .email "lilei@example.com"]
  education := []
  projects := []
  skills := []

def checkLi (value : ModelInput) : Except DomainValidationError Unit :=
  checkModelInputPrivacy cjkTables Char.isDigit liContent value

def summaryInput : ModelInput :=
  .object [("summary".toList, .list [.string "3 services".toList, .null])]

theorem summary_undisclosed :
    ¬∃ text ∈ summaryInput.texts, Discloses Char.isDigit liContent text := by
  have passes : checkLi summaryInput = .ok () := by decide +kernel
  have phones : phoneDigits Char.isDigit liContent = ["13800138000".toList] := by decide
  -- Without an at sign there is no address, and with less than seven digits no telephone number.
  have plain (text : Text) (sign : '@' ∉ text)
      (digits : (text.filter Char.isDigit).length < 7) (address : Text) (phone : Text) :
      (IsAddress address → ¬address <:+: text) ∧
        (7 ≤ phone.length → ¬phone <:+: text.filter Char.isDigit) := by
    refine ⟨fun shaped inside => ?_, fun long inside => ?_⟩
    · obtain ⟨mailbox, domain, top, rfl, -⟩ := shaped
      exact sign (inside.subset (List.mem_append_right _ List.mem_cons_self))
    · exact absurd (Nat.lt_of_le_of_lt inside.length_le digits) (Nat.not_lt.mpr long)
  have name : ∀ text ∈ summaryInput.unseen, ¬Discloses Char.isDigit liContent text := by
    have keys : summaryInput.unseen = ["summary".toList] := by decide
    have secrets : ∀ secret ∈ protectedValues liContent, ¬secret <:+: "summary".toList := by
      decide +kernel
    rw [keys, List.forall_mem_singleton]
    rintro (⟨address, shaped, inside⟩ | ⟨secret, listed, -, inside⟩ | ⟨phone, -, long, inside⟩)
    · exact (plain _ (by decide) (by decide) address []).1 shaped inside
    · exact secrets secret listed inside
    · exact (plain _ (by decide) (by decide) [] phone).2 long inside
  have separated : ∀ text ∈ summaryInput.leaves,
      FoundWhereItStands cjkTables Char.isDigit liContent text := by
    have leaves : summaryInput.leaves = ["3 services".toList] := by decide
    rw [leaves, List.forall_mem_singleton]
    refine ⟨fun address shaped inside => ?_, fun phone listed long inside => ?_⟩
    · exact absurd inside ((plain _ (by decide) (by decide) address []).1 shaped)
    · exact absurd inside ((plain _ (by decide) (by decide) [] phone).2 long)
  rintro ⟨text, member, discloses⟩
  exact (model_input_private_iff passes).mpr ⟨name, separated⟩ text member discloses

def keyInput : ModelInput := .object [("Li Lei".toList, .null)]

def numberInput : ModelInput := .list [.number ⟨"13800138000".toList, by decide⟩]

def gluedInput : ModelInput := .string "邮箱hr@firm.com".toList

/-- An identifier whose last digits are those of the telephone number. -/
def identifierInput : ModelInput := .string "00000000-0000-4000-8000-013800138000".toList

/-- A name as a key, a telephone number as a number and in an identifier, and an address behind a
word pass. -/
theorem protected_data_passes :
    (checkLi keyInput = .ok () ∧
      ∃ text ∈ keyInput.texts, Discloses Char.isDigit liContent text) ∧
    (checkLi numberInput = .ok () ∧
      ∃ text ∈ numberInput.texts, Discloses Char.isDigit liContent text) ∧
    (checkLi gluedInput = .ok () ∧
      ∃ text ∈ gluedInput.texts, Discloses Char.isDigit liContent text) ∧
    (checkLi identifierInput = .ok () ∧
      ∃ text ∈ identifierInput.texts, Discloses Char.isDigit liContent text) := by
  refine ⟨⟨by decide +kernel, _, List.mem_cons_self,
      .inr (.inl ⟨"Li Lei".toList, by decide, by decide, ?_⟩)⟩,
    ⟨by decide +kernel, _, List.mem_cons_self,
      .inr (.inr ⟨"13800138000".toList, by decide, by decide, ?_⟩)⟩,
    ⟨by decide +kernel, _, List.mem_cons_self, .inl ⟨"hr@firm.com".toList, ?_, ?_⟩⟩,
    ⟨by decide +kernel, _, List.mem_cons_self,
      .inr (.inr ⟨"13800138000".toList, by decide, by decide, ?_⟩)⟩⟩
  · decide +kernel
  · decide +kernel
  · exact ⟨"hr".toList, "firm".toList, "com".toList, rfl, by decide, by decide, by decide,
      by decide, by decide, by decide⟩
  · decide +kernel
  · decide +kernel

end Pathfinder
