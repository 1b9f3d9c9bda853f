import Pathfinder.Obs.RedactedUrl
import Pathfinder.Obs.SensitiveKeys

/-!
# Redacted values

What a walk through a value reaches, what its result holds, and what two walks have in common.
-/
namespace Pathfinder
open Dictionaries

variable {chars : CharacterTables}

/-- A part of a redacted value. -/
inductive Inside (part : Redacted) : Redacted → Prop
  | self : Inside part part
  | item {items : List Redacted} {item : Redacted} (member : item ∈ items)
      (inside : Inside part item) : Inside part (.list items)
  | value {entries : List (Text × Redacted)} {entry : Text × Redacted} (member : entry ∈ entries)
      (inside : Inside part entry.2) : Inside part (.object entries)

/-- The values that a mapping stores under its keys as they are shown. -/
def shownEntries (entries : List (LoggedKey chars × LoggedValue chars)) :
    List (Text × LoggedValue chars) :=
  build (entries.map fun entry => (safeKey entry.1, entry.2))

section Walk
variable (authorityAllowed : Text → Bool) (heap : LoggedHeap chars) (keys texts : Text → Prop)

/-- Every key and every string that the walk reaches has the property. -/
def EachReached : Nat → List Nat → LoggedValue chars → Prop
  | 0, _, _ => True
  | _ + 1, _, .string text => texts text
  | room + 1, seen, .enum value => EachReached room seen value
  | room + 1, seen, .object identity => identity ∉ seen → match heap identity with
    | .mapping entries => ∀ entry ∈ shownEntries entries, keys entry.1 ∧
        (isSensitiveKey chars entry.1 = false → EachReached room (identity :: seen) entry.2)
    | .list items => ∀ item ∈ items, EachReached room (identity :: seen) item
  | _ + 1, _, _ => True

/-- What the walk writes under a key. -/
def safeItem (room : Nat) (seen : List Nat) (key : Text) (value : LoggedValue chars) : Redacted :=
  if isSensitiveKey chars key then .string redactedMark
  else safeValue authorityAllowed heap room seen value

variable {authorityAllowed heap keys texts} {room identity : Nat} {seen : List Nat}
  {entries : List (LoggedKey chars × LoggedValue chars)} {items : List (LoggedValue chars)}

theorem safeValue_cycle (member : identity ∈ seen) :
    safeValue authorityAllowed heap (room + 1) seen (.object identity) =
      .string "<cycle>".toList := by
  rw [safeValue, if_pos member]

theorem safeValue_mapping (fresh : identity ∉ seen) (held : heap identity = .mapping entries) :
    safeValue authorityAllowed heap (room + 1) seen (.object identity) =
      .object (mapValues (safeItem authorityAllowed heap room (identity :: seen))
        (shownEntries entries)) := by
  rw [safeValue, if_neg fresh, held, shownEntries, ← build_mapValues, mapValues, List.map_map]
  rfl

theorem safeValue_list (fresh : identity ∉ seen) (held : heap identity = .list items) :
    safeValue authorityAllowed heap (room + 1) seen (.object identity) =
      .list (items.map (safeValue authorityAllowed heap room (identity :: seen))) := by
  rw [safeValue, if_neg fresh, held]

theorem eachReached_cycle (member : identity ∈ seen) :
    EachReached heap keys texts (room + 1) seen (.object identity) :=
  fun fresh => absurd member fresh

theorem eachReached_mapping (fresh : identity ∉ seen) (held : heap identity = .mapping entries) :
    EachReached heap keys texts (room + 1) seen (.object identity) ↔
      ∀ entry ∈ shownEntries entries, keys entry.1 ∧ (isSensitiveKey chars entry.1 = false →
        EachReached heap keys texts room (identity :: seen) entry.2) := by
  rw [EachReached, held]
  exact ⟨fun each => each fresh, fun each _ => each⟩

theorem eachReached_list (fresh : identity ∉ seen) (held : heap identity = .list items) :
    EachReached heap keys texts (room + 1) seen (.object identity) ↔
      ∀ item ∈ items, EachReached heap keys texts room (identity :: seen) item := by
  rw [EachReached, held]
  exact ⟨fun each => each fresh, fun each _ => each⟩

section Properties
variable {keys' texts' : Text → Prop} {value : LoggedValue chars}

theorem EachReached.imp (key : ∀ text, keys text → keys' text)
    (string : ∀ text, texts text → texts' text)
    (each : EachReached heap keys texts room seen value) :
    EachReached heap keys' texts' room seen value := by
  induction room generalizing seen value with
  | zero => trivial
  | succ room ih =>
    cases value with
    | none | bool | int | float | secret | plain | other => trivial
    | string text => exact string text each
    | enum value => exact ih each
    | object identity =>
      by_cases member : identity ∈ seen
      · exact eachReached_cycle member
      · cases held : heap identity with
        | mapping entries =>
          rw [eachReached_mapping member held] at each ⊢
          exact fun entry shown =>
            ⟨key _ (each entry shown).1, fun open_ => ih ((each entry shown).2 open_)⟩
        | list items =>
          rw [eachReached_list member held] at each ⊢
          exact fun item listed => ih (each item listed)

theorem EachReached.and (first : EachReached heap keys texts room seen value)
    (second : EachReached heap keys' texts' room seen value) :
    EachReached heap (fun text => keys text ∧ keys' text) (fun text => texts text ∧ texts' text)
      room seen value := by
  induction room generalizing seen value with
  | zero => trivial
  | succ room ih =>
    cases value with
    | none | bool | int | float | secret | plain | other => trivial
    | string text => exact ⟨first, second⟩
    | enum value => exact ih first second
    | object identity =>
      by_cases member : identity ∈ seen
      · exact eachReached_cycle member
      · cases held : heap identity with
        | mapping entries =>
          rw [eachReached_mapping member held] at first second ⊢
          exact fun entry shown => ⟨⟨(first entry shown).1, (second entry shown).1⟩,
            fun open_ => ih ((first entry shown).2 open_) ((second entry shown).2 open_)⟩
        | list items =>
          rw [eachReached_list member held] at first second ⊢
          exact fun item listed => ih (first item listed) (second item listed)

end Properties

/-! ## What the result holds -/

section Inside
variable {part : Redacted} {text : Text} {entries : List (Text × Redacted)}

theorem Inside.trans {inner whole : Redacted} (first : Inside inner part)
    (second : Inside part whole) : Inside inner whole := by
  induction second with
  | self => exact first
  | item member _ ih => exact .item member ih
  | value member _ ih => exact .value member ih

theorem inside_list {items : List Redacted} : Inside part (.list items) ↔
    part = .list items ∨ ∃ item ∈ items, Inside part item := by
  constructor
  · intro inside
    cases inside with
    | self => exact .inl rfl
    | item member inside => exact .inr ⟨_, member, inside⟩
  · rintro (rfl | ⟨item, member, inside⟩)
    · exact .self
    · exact .item member inside

theorem inside_object : Inside part (.object entries) ↔
    part = .object entries ∨ ∃ entry ∈ entries, Inside part entry.2 := by
  constructor
  · intro inside
    cases inside with
    | self => exact .inl rfl
    | value member inside => exact .inr ⟨_, member, inside⟩
  · rintro (rfl | ⟨entry, member, inside⟩)
    · exact .self
    · exact .value member inside

theorem inside_string (inside : Inside part (.string text)) : part = .string text := by
  cases inside
  rfl

end Inside

/-- What the walk writes itself has the property. -/
structure WalkWrites (chars : CharacterTables) (texts : Text → Prop) : Prop where
  mark : texts redactedMark
  depth : texts "<max-depth>".toList
  cycle : texts "<cycle>".toList
  nan : texts "nan".toList
  infinity : texts "inf".toList
  negativeInfinity : texts "-inf".toList
  plain : ∀ written : PlainText, texts written.text
  type : ∀ name : TypeName chars, texts name.shown

/-- The strings of a result are the redacted strings that are reached, and what the walk writes. -/
theorem result_texts_iff (writes : WalkWrites chars texts) (room : Nat) (seen : List Nat)
    (value : LoggedValue chars) :
    (∀ text, Inside (.string text) (safeValue authorityAllowed heap room seen value) →
      texts text) ↔
      EachReached heap (fun _ => True)
        (fun text => texts (redactString chars authorityAllowed text)) room seen value := by
  have leaf {written : Text} : (∀ text, Inside (.string text) (.string written) → texts text) ↔
      texts written := by
    refine ⟨fun each => each written .self, fun here text inside => ?_⟩
    rw [Redacted.string.inj (inside_string inside)]
    exact here
  have known {written : Text} {reached : Prop} (here : texts written) (all : reached) :
      (∀ text, Inside (.string text) (.string written) → texts text) ↔ reached :=
    ⟨fun _ => all, fun _ => leaf.mpr here⟩
  induction room generalizing seen value with
  | zero => exact known writes.depth trivial
  | succ room ih =>
    cases value with
    | none | bool | int =>
      refine ⟨fun _ => trivial, fun _ text inside => ?_⟩
      cases inside
    | float value =>
      cases value with
      | finite written =>
        refine ⟨fun _ => trivial, fun _ text inside => ?_⟩
        cases inside
      | nan => exact known writes.nan trivial
      | infinity => exact known writes.infinity trivial
      | negativeInfinity => exact known writes.negativeInfinity trivial
    | string text => exact leaf
    | secret content => exact known writes.mark trivial
    | plain written => exact known (writes.plain written) trivial
    | enum value => exact ih seen value
    | other type => exact known (writes.type type) trivial
    | object identity =>
      by_cases member : identity ∈ seen
      · rw [safeValue_cycle member]
        exact known writes.cycle (eachReached_cycle member)
      · cases held : heap identity with
        | mapping entries =>
          rw [safeValue_mapping member held, eachReached_mapping member held]
          constructor
          · intro each entry shown
            refine ⟨trivial, fun open_ => (ih _ _).mp fun text inside => each text ?_⟩
            refine inside_object.mpr (.inr ⟨_, List.mem_map_of_mem shown, ?_⟩)
            rw [safeItem, open_]
            exact inside
          · intro each text inside
            rcases inside_object.mp inside with same | ⟨item, among, inside⟩
            · cases same
            · obtain ⟨entry, shown, rfl⟩ := List.mem_map.mp among
              simp only [safeItem] at inside
              split at inside
              · exact (known writes.mark trivial).mpr trivial text inside
              next open_ =>
                exact (ih _ _).mpr ((each entry shown).2 (Bool.eq_false_iff.mpr open_)) text inside
        | list items =>
          rw [safeValue_list member held, eachReached_list member held]
          constructor
          · exact fun each item among => (ih _ _).mp fun text inside =>
              each text (inside_list.mpr (.inr ⟨_, List.mem_map_of_mem among, inside⟩))
          · intro each text inside
            rcases inside_list.mp inside with same | ⟨_, among, inside⟩
            · cases same
            · obtain ⟨item, listed, rfl⟩ := List.mem_map.mp among
              exact (ih _ _).mpr (each item listed) text inside

/-! ## Keys -/

/-- Every key that names a secret has the mark for its value. -/
def Sealed (chars : CharacterTables) (result : Redacted) : Prop :=
  ∀ entries, Inside (.object entries) result → ∀ entry ∈ entries, NamedSecret chars entry.1 →
    entry.2 = .string redactedMark

theorem Sealed.inside {result part : Redacted} (whole : Sealed chars result)
    (inside : Inside part result) : Sealed chars part :=
  fun entries here => whole entries (here.trans inside)

theorem sealed_string (text : Text) : Sealed chars (.string text) := by
  intro entries inside
  cases inside

/-- Where the one name is not a key that is reached, every other name is found. -/
theorem sealed_of_reached (room : Nat) (seen : List Nat) (value : LoggedValue chars)
    (each : EachReached heap (fun key => isAccessToken chars key = false) texts room seen value) :
    Sealed chars (safeValue authorityAllowed heap room seen value) := by
  induction room generalizing seen value with
  | zero => exact sealed_string _
  | succ room ih =>
    cases value with
    | none | bool | int => exact fun entries inside => (by cases inside)
    | float value =>
      cases value with
      | finite written => exact fun entries inside => (by cases inside)
      | nan | infinity | negativeInfinity => exact sealed_string _
    | string | secret | plain | other => exact sealed_string _
    | enum value => exact ih seen value each
    | object identity =>
      by_cases member : identity ∈ seen
      · rw [safeValue_cycle member]
        exact sealed_string _
      · cases held : heap identity with
        | mapping entries =>
          rw [eachReached_mapping member held] at each
          rw [safeValue_mapping member held]
          intro found inside item among named
          rcases inside_object.mp inside with same | ⟨other, shown, inside⟩
          · obtain rfl := Redacted.object.inj same
            obtain ⟨entry, shown, rfl⟩ := List.mem_map.mp among
            have sensitive : isSensitiveKey chars entry.1 = true := by
              rcases (namedSecret_iff chars entry.1).mp named with listed | token
              · exact listed
              · rw [(each entry shown).1] at token
                cases token
            rw [safeItem, if_pos sensitive]
          · obtain ⟨entry, held_, rfl⟩ := List.mem_map.mp shown
            simp only [safeItem] at inside
            split at inside
            · exact sealed_string _ found inside item among named
            next open_ =>
              have below := (each entry held_).2 (Bool.eq_false_iff.mpr open_)
              exact ih _ _ below found inside item among named
        | list items =>
          rw [eachReached_list member held] at each
          rw [safeValue_list member held]
          intro found inside item among named
          rcases inside_list.mp inside with same | ⟨_, listed, inside⟩
          · cases same
          · obtain ⟨value, held_, rfl⟩ := List.mem_map.mp listed
            exact ih _ _ (each value held_) found inside item among named

end Walk

end Pathfinder

/-!
## Walks through values that differ in their secrets

Two values with the same shape, whatever is under their sensitive keys and in their wrappers, and
the value in which the one name that is not found holds another number.
-/
namespace Pathfinder
open Dictionaries

variable {chars : CharacterTables}

/-- Two values that differ at most in what their wrappers hold, and in objects that are related. -/
inductive SameValue (related : Nat → Nat → Prop) : LoggedValue chars → LoggedValue chars → Prop
  | none : SameValue related .none .none
  | bool (value : Bool) : SameValue related (.bool value) (.bool value)
  | int (value : Int) : SameValue related (.int value) (.int value)
  | float (value : LoggedFloat) : SameValue related (.float value) (.float value)
  | string (text : Text) : SameValue related (.string text) (.string text)
  | secret (content content' : Text) : SameValue related (.secret content) (.secret content')
  | plain (written : PlainText) : SameValue related (.plain written) (.plain written)
  | enum {value value' : LoggedValue chars} (same : SameValue related value value') :
      SameValue related (.enum value) (.enum value')
  | object {identity identity' : Nat} (same : related identity identity') :
      SameValue related (.object identity) (.object identity')
  | other (type : TypeName chars) : SameValue related (.other type) (.other type)

/-- Two entries have one key, and under one that names no secret the same value. -/
def SameEntry (related : Nat → Nat → Prop)
    (entry entry' : LoggedKey chars × LoggedValue chars) : Prop :=
  entry.1 = entry'.1 ∧
    (NamedSecret chars (safeKey entry.1) ∨ SameValue related entry.2 entry'.2)

inductive SameContainer (related : Nat → Nat → Prop) :
    LoggedContainer chars → LoggedContainer chars → Prop
  | mapping {entries entries' : List (LoggedKey chars × LoggedValue chars)}
      (each : List.Forall₂ (SameEntry related) entries entries') :
      SameContainer related (.mapping entries) (.mapping entries')
  | list {items items' : List (LoggedValue chars)}
      (each : List.Forall₂ (SameValue related) items items') :
      SameContainer related (.list items) (.list items')

/-- Which objects correspond inside the pairs of objects around them: both or none of the two are
around themselves, and their contents are the same. -/
structure Corresponds (heap heap' : LoggedHeap chars)
    (related : List (Nat × Nat) → Nat → Nat → Prop) : Prop where
  cycle : ∀ around identity identity', related around identity identity' →
    (identity ∈ around.map Prod.fst ↔ identity' ∈ around.map Prod.snd)
  content : ∀ around identity identity', related around identity identity' →
    identity ∉ around.map Prod.fst →
    SameContainer (related ((identity, identity') :: around)) (heap identity) (heap' identity')

/-- Two values that differ only in what is under keys that name secrets and in wrappers. -/
def DifferInSecrets (heap : LoggedHeap chars) (value : LoggedValue chars)
    (heap' : LoggedHeap chars) (value' : LoggedValue chars) : Prop :=
  ∃ related, Corresponds heap heap' related ∧ SameValue (related []) value value'

section Runs
variable {authorityAllowed : Text → Bool} {heap heap' : LoggedHeap chars} {texts : Text → Prop}

theorem forall₂_map_eq {α β γ : Type*} {related : α → β → Prop} {first : α → γ} {second : β → γ}
    {items : List α} {items' : List β} (each : List.Forall₂ related items items')
    (same : ∀ item ∈ items, ∀ item', related item item' → first item = second item') :
    items.map first = items'.map second := by
  induction each with
  | nil => rfl
  | cons here _ ih =>
    rw [List.map_cons, List.map_cons, same _ List.mem_cons_self _ here,
      ih fun item member => same item (List.mem_cons_of_mem _ member)]

/-- Where the one name is not a key that is reached, the walks write the same. -/
theorem safeValue_same {related : List (Nat × Nat) → Nat → Nat → Prop}
    (corresponds : Corresponds heap heap' related) (room : Nat) (around : List (Nat × Nat))
    {value value' : LoggedValue chars} (same : SameValue (related around) value value')
    (each : EachReached heap (fun key => isAccessToken chars key = false) texts room
      (around.map Prod.fst) value) :
    safeValue authorityAllowed heap room (around.map Prod.fst) value =
      safeValue authorityAllowed heap' room (around.map Prod.snd) value' := by
  induction room generalizing around value value' with
  | zero => rfl
  | succ room ih =>
    cases same with
    | none | bool | int | float | string | secret | plain | other => rfl
    | enum same => exact ih around same each
    | @object identity identity' same =>
      have cycle := corresponds.cycle around identity identity' same
      by_cases member : identity ∈ around.map Prod.fst
      · rw [safeValue_cycle member, safeValue_cycle (cycle.mp member)]
      · have fresh := fun member' => member (cycle.mpr member')
        have contents := corresponds.content around identity identity' same member
        cases held : heap identity with
        | mapping entries =>
          cases held' : heap' identity' with
          | list items =>
            rw [held, held'] at contents
            cases contents
          | mapping entries' =>
            rw [held, held'] at contents
            cases contents with
            | mapping pairs =>
              rw [eachReached_mapping member held] at each
              rw [safeValue_mapping member held, safeValue_mapping fresh held']
              have shown : List.Forall₂ (Paired fun key value value' => NamedSecret chars key ∨
                  SameValue (related ((identity, identity') :: around)) value value')
                  (shownEntries entries) (shownEntries entries') := by
                refine build_related (List.forall₂_map_left_iff.mpr
                  (List.forall₂_map_right_iff.mpr (pairs.imp fun entry entry' here => ?_)))
                exact ⟨congrArg safeKey here.1, here.2⟩
              refine congrArg Redacted.object (forall₂_map_eq shown ?_)
              rintro entry member_ entry' ⟨key, here⟩
              obtain ⟨free, open_⟩ := each entry member_
              rw [← key, safeItem, safeItem]
              split
              · rfl
              next other =>
                rcases here with named | here
                · rcases (namedSecret_iff chars entry.1).mp named with listed | token
                  · exact absurd listed other
                  · rw [free] at token
                    cases token
                · have below := ih ((identity, identity') :: around) here
                    (open_ (Bool.eq_false_iff.mpr other))
                  exact congrArg (Prod.mk entry.1) below
        | list items =>
          cases held' : heap' identity' with
          | mapping entries =>
            rw [held, held'] at contents
            cases contents
          | list items' =>
            rw [held, held'] at contents
            cases contents with
            | list pairs =>
              rw [eachReached_list member held] at each
              rw [safeValue_list member held, safeValue_list fresh held']
              refine congrArg Redacted.list (forall₂_map_eq pairs fun item listed item' here => ?_)
              exact ih ((identity, identity') :: around) here (each item listed)

/-! ## Another number under the one name -/

/-- What stands under the one name is a number. -/
def plantValue (chars : CharacterTables) (key : Text) (value : LoggedValue chars) :
    LoggedValue chars :=
  if isAccessToken chars key = true then .int 0 else value

def plant (heap : LoggedHeap chars) : LoggedHeap chars := fun identity =>
  match heap identity with
  | .mapping entries => .mapping (entries.map fun entry =>
      (entry.1, plantValue chars (safeKey entry.1) entry.2))
  | .list items => .list items

theorem shownEntries_plant (entries : List (LoggedKey chars × LoggedValue chars)) :
    shownEntries (entries.map fun entry =>
      (entry.1, plantValue chars (safeKey entry.1) entry.2)) =
      mapValues (plantValue chars) (shownEntries entries) := by
  rw [shownEntries, shownEntries, ← build_mapValues, mapValues, List.map_map, List.map_map]
  rfl

theorem sameValue_refl {related : Nat → Nat → Prop} (same : ∀ identity, related identity identity)
    (value : LoggedValue chars) : SameValue related value value := by
  induction value with
  | none => exact .none
  | bool value => exact .bool value
  | int value => exact .int value
  | float value => exact .float value
  | string text => exact .string text
  | secret content => exact .secret content content
  | plain written => exact .plain written
  | enum value ih => exact .enum ih
  | object identity => exact .object (same identity)
  | other type => exact .other type

/-- The number is under a key that names a secret. -/
theorem plant_differs (heap : LoggedHeap chars) (value : LoggedValue chars) :
    DifferInSecrets heap value (plant heap) value := by
  refine ⟨fun around identity identity' => identity = identity' ∧ ∀ pair ∈ around, pair.1 = pair.2,
    ⟨?_, ?_⟩, sameValue_refl (fun identity => ⟨rfl, fun pair member => by cases member⟩) value⟩
  · rintro around identity _ ⟨rfl, pairs⟩
    rw [List.map_congr_left pairs]
  · rintro around identity _ ⟨rfl, pairs⟩ -
    have pairs_ : ∀ pair ∈ (identity, identity) :: around, pair.1 = pair.2 :=
      List.forall_mem_cons.mpr ⟨rfl, pairs⟩
    have refl (value : LoggedValue chars) : SameValue (fun one other =>
        one = other ∧ ∀ pair ∈ (identity, identity) :: around, pair.1 = pair.2) value value :=
      sameValue_refl (fun _ => ⟨rfl, pairs_⟩) value
    rw [plant]
    cases heap identity with
    | mapping entries =>
      refine .mapping (List.forall₂_map_right_iff.mpr (List.forall₂_same.mpr fun entry _ => ?_))
      refine ⟨rfl, ?_⟩
      cases token : isAccessToken chars (safeKey entry.1) with
      | true => exact .inl ((namedSecret_iff chars _).mpr (.inr token))
      | false =>
        refine .inr ?_
        rw [plantValue, token]
        exact refl entry.2
    | list items => exact .list (List.forall₂_same.mpr fun item _ => refl item)

theorem plant_mapping {identity : Nat} {entries : List (LoggedKey chars × LoggedValue chars)}
    (held : heap identity = .mapping entries) : plant heap identity = .mapping (entries.map
      fun entry => (entry.1, plantValue chars (safeKey entry.1) entry.2)) := by
  rw [plant, held]

theorem plant_list {identity : Nat} {items : List (LoggedValue chars)}
    (held : heap identity = .list items) : plant heap identity = .list items := by
  rw [plant, held]

/-- A result that is sealed and does not tell the number reaches the one name nowhere. -/
theorem reached_of_sealed (room : Nat) (seen : List Nat) (value : LoggedValue chars)
    (whole : Sealed chars (safeValue authorityAllowed heap room seen value))
    (same : safeValue authorityAllowed (plant heap) room seen value =
      safeValue authorityAllowed heap room seen value) :
    EachReached heap (fun key => isAccessToken chars key = false) (fun _ => True) room seen
      value := by
  induction room generalizing seen value with
  | zero => trivial
  | succ room ih =>
    cases value with
    | none | bool | int | float | string | secret | plain | other => trivial
    | enum value => exact ih seen value whole same
    | object identity =>
      by_cases member : identity ∈ seen
      · exact eachReached_cycle member
      · cases held : heap identity with
        | mapping entries =>
          rw [eachReached_mapping member held]
          rw [safeValue_mapping member held] at whole same
          rw [safeValue_mapping member (plant_mapping held), shownEntries_plant] at same
          have each := List.map_inj_left.mp ((List.map_map ..).symm.trans
            (Redacted.object.inj same))
          intro entry shown
          have here := (Prod.mk.inj (each entry shown)).2
          have listed := List.mem_map_of_mem (f := fun entry : Text × LoggedValue chars =>
            (entry.1, safeItem authorityAllowed heap room (identity :: seen) entry.1 entry.2)) shown
          simp only [plantValue, safeItem] at here
          have free : isAccessToken chars entry.1 = false := by
            refine Bool.eq_false_iff.mpr fun token => ?_
            have mark := whole _ .self _ listed ((namedSecret_iff chars _).mpr (.inr token))
            simp only [safeItem, isAccessToken_free token] at mark here
            rw [if_pos token, mark] at here
            cases room with
            | zero => exact absurd (Redacted.string.inj here) (by decide)
            | succ room => cases here
          refine ⟨free, fun open_ => ?_⟩
          have below := whole.inside (.value listed .self)
          simp only [free, open_, safeItem, Bool.false_eq_true, if_false] at here below
          exact ih _ _ below here
        | list items =>
          rw [eachReached_list member held]
          rw [safeValue_list member held] at whole same
          rw [safeValue_list member (plant_list held)] at same
          have each := List.map_inj_left.mp (Redacted.list.inj same)
          intro item listed
          refine ih _ _ (whole.inside (.item (List.mem_map_of_mem listed) .self)) (each item listed)

end Runs

end Pathfinder
