import Mathlib.Data.List.Perm.Basic
import Pathfinder.Domain.CanonicalJson

/-!
# What JSON values mean

Two values are the same JSON where every object holds the same under the same keys. Values with
one meaning, and only those, are written with the same canonical bytes.
-/
namespace Pathfinder
open JsonTexts Dictionaries

/-- A JSON value up to the order in its objects; `True` is not 1. -/
inductive JsonMeaning where
  | null
  | bool (value : Bool)
  | str (value : String)
  | int (value : Int)
  | float (finite : Bool)
  | list (items : List JsonMeaning)
  | dict (entries : String → Option JsonMeaning)

mutual

def JsonValue.meaning : JsonValue → JsonMeaning
  | .null => .null
  | .bool value => .bool value
  | .str value => .str value
  | .int value => .int value
  | .float finite => .float finite
  | .list items => .list (meanings items)
  | .dict fields => .dict fun key => meaningAt key fields

def meanings : List JsonValue → List JsonMeaning
  | [] => []
  | item :: rest => item.meaning :: meanings rest

/-- What an object holds under a key. -/
def meaningAt (key : String) : List (String × JsonValue) → Option JsonMeaning
  | [] => none
  | (other, item) :: rest => if other = key then some item.meaning else meaningAt key rest

end

/-- A value that Python holds: the keys of a dictionary are distinct. -/
inductive Held : JsonValue → Prop
  | null : Held .null
  | bool (value : Bool) : Held (.bool value)
  | str (value : String) : Held (.str value)
  | int (value : Int) : Held (.int value)
  | float (finite : Bool) : Held (.float finite)
  | list {items : List JsonValue} : (∀ item ∈ items, Held item) → Held (.list items)
  | dict {fields : List (String × JsonValue)} : (fields.map Prod.fst).Nodup →
      (∀ field ∈ fields, Held field.2) → Held (.dict fields)

/-- A value that Python holds, without floats. -/
inductive Plain : JsonValue → Prop
  | null : Plain .null
  | bool (value : Bool) : Plain (.bool value)
  | str (value : String) : Plain (.str value)
  | int (value : Int) : Plain (.int value)
  | list {items : List JsonValue} : (∀ item ∈ items, Plain item) → Plain (.list items)
  | dict {fields : List (String × JsonValue)} : (fields.map Prod.fst).Nodup →
      (∀ field ∈ fields, Plain field.2) → Plain (.dict fields)

/-! ## Items and fields -/

section Parts
variable {items : List JsonValue} {fields : List (String × JsonValue)}

theorem validateItems_iff : validateItems items = .ok () ↔
    ∀ item ∈ items, validateCanonicalJson item = .ok () := by
  induction items with
  | nil => exact iff_of_true rfl nofun
  | cons item rest ih =>
    rw [validateItems, List.forall_mem_cons, ← ih]
    cases validateCanonicalJson item with
    | error => exact iff_of_false nofun fun both => nomatch both.1
    | ok => exact ⟨fun passed => ⟨rfl, passed⟩, fun both => both.2⟩

theorem validateFields_iff : validateFields fields = .ok () ↔
    ∀ field ∈ fields, validateCanonicalJson field.2 = .ok () := by
  induction fields with
  | nil => exact iff_of_true rfl nofun
  | cons field rest ih =>
    rw [validateFields, List.forall_mem_cons, ← ih]
    cases validateCanonicalJson field.2 with
    | error => exact iff_of_false nofun fun both => nomatch both.1
    | ok => exact ⟨fun passed => ⟨rfl, passed⟩, fun both => both.2⟩

theorem sortedItems_eq : sortedItems items = items.map JsonValue.sorted := by
  induction items with
  | nil => rfl
  | cons item rest ih => rw [sortedItems, ih, List.map_cons]

theorem sortedFields_eq :
    sortedFields fields = fields.map fun field => (field.1.toList, field.2.sorted) := by
  induction fields with
  | nil => rfl
  | cons field rest ih => rw [sortedFields, ih, List.map_cons]

theorem meanings_eq : meanings items = items.map JsonValue.meaning := by
  induction items with
  | nil => rfl
  | cons item rest ih => rw [meanings, ih, List.map_cons]

theorem ofItems_eq {items : List Json} : ofItems items = items.map JsonValue.ofJson := by
  induction items with
  | nil => rfl
  | cons item rest ih => rw [ofItems, ih, List.map_cons]

theorem ofMembers_eq {members : List (Text × Json)} : ofMembers members =
    members.map fun member => (String.ofList member.1, JsonValue.ofJson member.2) := by
  induction members with
  | nil => rfl
  | cons member rest ih => rw [ofMembers, ih, List.map_cons]

/-- Lists that agree item by item under one function agree under another where their items do. -/
theorem map_of_map {α β γ : Type*} {first : α → β} {second : α → γ} {items others : List α}
    (alike : ∀ item ∈ items, ∀ other ∈ others, first item = first other →
      second item = second other)
    (same : items.map first = others.map first) : items.map second = others.map second := by
  induction items generalizing others with
  | nil => rw [List.map_eq_nil_iff.mp same.symm]
  | cons item rest ih =>
    cases others with
    | nil => cases same
    | cons other later =>
      rw [List.map_cons, List.map_cons] at same ⊢
      obtain ⟨here, behind⟩ := List.cons.inj same
      rw [alike item List.mem_cons_self other List.mem_cons_self here,
        ih (fun item member other member' => alike item (.tail _ member) other (.tail _ member'))
          behind]

/-- What an object with distinct keys holds under a key is what one of its fields gives it. -/
theorem meaningAt_eq_some (distinct : (fields.map Prod.fst).Nodup) {key : String}
    {meaning : JsonMeaning} : meaningAt key fields = some meaning ↔
      ∃ item, (key, item) ∈ fields ∧ item.meaning = meaning := by
  induction fields with
  | nil => exact iff_of_false nofun fun ⟨_, member, _⟩ => nomatch member
  | cons field rest ih =>
    obtain ⟨other, value⟩ := field
    rw [List.map_cons, List.nodup_cons] at distinct
    rw [meaningAt]
    split
    next same =>
      subst same
      constructor
      · exact fun found => ⟨value, List.mem_cons_self, Option.some.inj found⟩
      · rintro ⟨item, member, rfl⟩
        rcases List.mem_cons.mp member with here | later
        · cases here
          rfl
        · exact absurd (List.mem_map_of_mem later) distinct.1
    next apart =>
      rw [ih distinct.2]
      refine exists_congr fun item => and_congr_left fun _ => ?_
      rw [List.mem_cons, or_iff_right fun here => apart (Prod.mk.inj here).1.symm]

end Parts

/-! ## One text for one meaning -/

section Canonical
variable {value other : JsonValue}

/-- The canonicalizer accepts no float. -/
theorem plain_of_held (held : Held value) (valid : validateCanonicalJson value = .ok ()) :
    Plain value := by
  induction held with
  | null => exact .null
  | bool value => exact .bool value
  | str value => exact .str value
  | int value => exact .int value
  | float finite => cases valid
  | list each ih =>
    rw [validateCanonicalJson, validateItems_iff] at valid
    exact .list fun item member => ih item member (valid item member)
  | dict distinct each ih =>
    rw [validateCanonicalJson, validateFields_iff] at valid
    exact .dict distinct fun field member => ih field member (valid field member)

theorem keys_nodup {fields : List (String × JsonValue)} (distinct : (fields.map Prod.fst).Nodup) :
    ((sortedFields fields).map Prod.fst).Nodup := by
  have keys : (sortedFields fields).map Prod.fst = (fields.map Prod.fst).map String.toList := by
    rw [sortedFields_eq, List.map_map, List.map_map]
    rfl
  rw [keys]
  exact distinct.map fun _ _ same => String.toList_inj.mp same

/-- Fields whose values of one meaning are written alike are written alike. -/
theorem mem_sortedFields {fields others : List (String × JsonValue)}
    (distinct : (fields.map Prod.fst).Nodup) (distinct' : (others.map Prod.fst).Nodup)
    (same : ∀ key, meaningAt key fields = meaningAt key others)
    (alike : ∀ field ∈ fields, ∀ other ∈ others, field.2.meaning = other.2.meaning →
      field.2.sorted = other.2.sorted) {entry : Text × Json}
    (member : entry ∈ sortedFields fields) : entry ∈ sortedFields others := by
  rw [sortedFields_eq] at member
  obtain ⟨⟨key, item⟩, here, rfl⟩ := List.mem_map.mp member
  have found := (meaningAt_eq_some distinct).mpr ⟨item, here, rfl⟩
  rw [same] at found
  obtain ⟨item', there, meaning⟩ := (meaningAt_eq_some distinct').mp found
  rw [sortedFields_eq]
  refine List.mem_map.mpr ⟨(key, item'), there, ?_⟩
  rw [alike _ here _ there meaning.symm]

theorem sorted_of_meaning (plain : Plain value) (plain' : Plain other)
    (same : value.meaning = other.meaning) : value.sorted = other.sorted := by
  induction plain generalizing other with
  | null => cases plain' <;> cases same; rfl
  | bool value => cases plain' <;> cases same; rfl
  | str value => cases plain' <;> cases same; rfl
  | int value => cases plain' <;> cases same; rfl
  | @list items each ih =>
    cases plain' with
    | @list items' each' =>
      have values := JsonMeaning.list.inj same
      rw [meanings_eq, meanings_eq] at values
      rw [JsonValue.sorted, JsonValue.sorted, sortedItems_eq, sortedItems_eq]
      rw [map_of_map (fun item here item' there => ih item here (each' item' there)) values]
    | null => cases same
    | bool => cases same
    | str => cases same
    | int => cases same
    | dict => cases same
  | @dict fields distinct each ih =>
    cases plain' with
    | @dict others distinct' each' =>
      have held := congrFun (JsonMeaning.dict.inj same)
      have members (entry : Text × Json) :
          entry ∈ sortedFields fields ↔ entry ∈ sortedFields others := by
        constructor
        · refine mem_sortedFields distinct distinct' held fun field here item there meaning => ?_
          exact ih field here (each' item there) meaning
        · refine mem_sortedFields distinct' distinct (fun key => (held key).symm)
            fun item there field here meaning => ?_
          exact (ih field here (each' item there) meaning.symm).symm
      have perm := (List.perm_ext_iff_of_nodup (keys_nodup distinct).of_map
        (keys_nodup distinct').of_map).mpr members
      rw [JsonValue.sorted, JsonValue.sorted, sortKeys_eq_of_perm (keys_nodup distinct) perm]
    | null => cases same
    | bool => cases same
    | str => cases same
    | int => cases same
    | list => cases same

/-- The sorted members of an object are its fields in another order. -/
theorem ofJson_dict {fields : List (String × JsonValue)}
    (distinct : (fields.map Prod.fst).Nodup) :
    ∃ later, JsonValue.ofJson (JsonValue.dict fields).sorted = .dict later ∧
      later.Perm (fields.map fun field => (field.1, .ofJson field.2.sorted)) := by
  have written : ofMembers (sortedFields fields) =
      fields.map fun field => (field.1, .ofJson field.2.sorted) := by
    rw [ofMembers_eq, sortedFields_eq, List.map_map]
    exact List.map_congr_left fun field _ => by
      rw [Function.comp_apply, String.ofList_toList]
  have perm : (ofMembers (sortKeys (sortedFields fields))).Perm
      (fields.map fun field => (field.1, .ofJson field.2.sorted)) := by
    rw [← written, ofMembers_eq, ofMembers_eq]
    exact (sortKeys_perm _).map _
  refine ⟨_, ?_, perm⟩
  rw [JsonValue.sorted, JsonValue.ofJson, build_distinct]
  rw [(perm.map Prod.fst).nodup_iff, List.map_map]
  exact distinct

/-- What the sorted JSON of a value is as a Python value: a value with the same meaning. -/
theorem ofJson_sorted (plain : Plain value) : Plain (.ofJson value.sorted) ∧
    (JsonValue.ofJson value.sorted).meaning = value.meaning := by
  induction plain with
  | null => exact ⟨.null, rfl⟩
  | bool value => exact ⟨.bool value, rfl⟩
  | str value =>
    rw [JsonValue.sorted, JsonValue.ofJson, String.ofList_toList]
    exact ⟨.str value, rfl⟩
  | int value =>
    cases value
    · exact ⟨.int _, rfl⟩
    · exact ⟨.int _, rfl⟩
  | @list items each ih =>
    have parts : JsonValue.ofJson (JsonValue.list items).sorted =
        .list (items.map fun item => .ofJson item.sorted) := by
      rw [JsonValue.sorted, JsonValue.ofJson, sortedItems_eq, ofItems_eq, List.map_map]
      rfl
    rw [parts]
    refine ⟨.list ?_, ?_⟩
    · exact List.forall_mem_map.mpr fun item member => (ih item member).1
    · rw [JsonValue.meaning, JsonValue.meaning, meanings_eq, meanings_eq, List.map_map]
      exact congrArg JsonMeaning.list
        (List.map_congr_left fun item member => (ih item member).2)
  | @dict fields distinct each ih =>
    obtain ⟨later, whole, perm⟩ := ofJson_dict distinct
    have keys : (later.map Prod.fst).Nodup := by
      rw [(perm.map Prod.fst).nodup_iff, List.map_map]
      exact distinct
    rw [whole]
    constructor
    · refine .dict keys fun entry member => ?_
      obtain ⟨field, here, rfl⟩ := List.mem_map.mp (perm.mem_iff.mp member)
      exact (ih field here).1
    · rw [JsonValue.meaning, JsonValue.meaning]
      refine congrArg JsonMeaning.dict (funext fun key => Option.ext fun meaning => ?_)
      rw [meaningAt_eq_some keys, meaningAt_eq_some distinct]
      constructor
      · rintro ⟨item, member, rfl⟩
        obtain ⟨field, here, same⟩ := List.mem_map.mp (perm.mem_iff.mp member)
        cases same
        exact ⟨field.2, here, (ih field here).2.symm⟩
      · rintro ⟨item, member, rfl⟩
        exact ⟨_, perm.mem_iff.mpr (List.mem_map_of_mem member), (ih (key, item) member).2⟩

theorem meaning_of_sorted (plain : Plain value) (plain' : Plain other)
    (same : value.sorted = other.sorted) : value.meaning = other.meaning := by
  rw [← (ofJson_sorted plain).2, same, (ofJson_sorted plain').2]

/-- A value of the same meaning is accepted as well. -/
theorem valid_of_meaning (plain : Plain value) (held : Held other)
    (same : other.meaning = value.meaning) (valid : validateCanonicalJson value = .ok ()) :
    validateCanonicalJson other = .ok () := by
  induction plain generalizing other with
  | null => cases held <;> cases same; rfl
  | bool value => cases held <;> cases same; rfl
  | str value => cases held <;> cases same; rfl
  | int value => cases held <;> cases same; exact valid
  | @list items each ih =>
    cases held with
    | @list others each' =>
      have values := JsonMeaning.list.inj same
      rw [meanings_eq, meanings_eq] at values
      rw [validateCanonicalJson, validateItems_iff] at valid ⊢
      intro other there
      have found : other.meaning ∈ items.map JsonValue.meaning :=
        values ▸ List.mem_map_of_mem there
      obtain ⟨item, here, meaning⟩ := List.mem_map.mp found
      exact ih item here (each' other there) meaning.symm (valid item here)
    | null => cases same
    | bool => cases same
    | str => cases same
    | int => cases same
    | float => cases same
    | dict => cases same
  | @dict fields distinct each ih =>
    cases held with
    | @dict others distinct' each' =>
      have values := congrFun (JsonMeaning.dict.inj same)
      rw [validateCanonicalJson, validateFields_iff] at valid ⊢
      rintro ⟨key, other⟩ there
      have found := (meaningAt_eq_some distinct').mpr ⟨other, there, rfl⟩
      rw [values] at found
      obtain ⟨item, here, meaning⟩ := (meaningAt_eq_some distinct).mp found
      exact ih _ here (each' _ there) meaning.symm (valid _ here)
    | null => cases same
    | bool => cases same
    | str => cases same
    | int => cases same
    | float => cases same
    | list => cases same

/-! ## Bytes -/

theorem canonicalJsonBytes_ok {bytes : ByteArray} : canonicalJsonBytes value = .ok bytes ↔
    (∃ fields, value = .dict fields) ∧ validateCanonicalJson value = .ok () ∧
      encodeUtf8 (dumps value) = bytes := by
  cases value with
  | dict fields =>
    rw [canonicalJsonBytes]
    cases validateCanonicalJson (.dict fields) with
    | error => exact iff_of_false nofun fun parts => nomatch parts.2.1
    | ok =>
      exact ⟨fun made => ⟨⟨fields, rfl⟩, rfl, Except.ok.inj made⟩,
        fun parts => congrArg Except.ok parts.2.2⟩
  | null => exact iff_of_false nofun fun parts => nomatch parts.1
  | bool => exact iff_of_false nofun fun parts => nomatch parts.1
  | str => exact iff_of_false nofun fun parts => nomatch parts.1
  | int => exact iff_of_false nofun fun parts => nomatch parts.1
  | float => exact iff_of_false nofun fun parts => nomatch parts.1
  | list => exact iff_of_false nofun fun parts => nomatch parts.1

theorem dumps_injective (plain : Plain value) (plain' : Plain other)
    (same : encodeUtf8 (dumps value) = encodeUtf8 (dumps other)) :
    value.meaning = other.meaning :=
  meaning_of_sorted plain plain' (write_injective (encodeUtf8_injective same))

theorem loads_dumps (value : JsonValue) :
    loads (encodeUtf8 (dumps value)) = some (.ofJson value.sorted) := by
  rw [loads, decodeUtf8_encodeUtf8, Option.bind_some, dumps, read_write]
  rfl

/-- An accepted value shares its bytes with the values of its meaning. -/
theorem canonicalJsonBytes_iff {bytes : ByteArray} (held : Held value) (held' : Held other)
    (accepted : canonicalJsonBytes value = .ok bytes) :
    canonicalJsonBytes other = .ok bytes ↔ other.meaning = value.meaning := by
  obtain ⟨⟨fields, rfl⟩, valid, rfl⟩ := canonicalJsonBytes_ok.mp accepted
  have plain := plain_of_held held valid
  constructor
  · intro accepted'
    obtain ⟨-, valid', same⟩ := canonicalJsonBytes_ok.mp accepted'
    exact dumps_injective (plain_of_held held' valid') plain same
  · intro same
    have valid' := valid_of_meaning plain held' same valid
    have object : ∃ others, other = .dict others := by
      cases other with
      | dict others => exact ⟨others, rfl⟩
      | null => cases same
      | bool => cases same
      | str => cases same
      | int => cases same
      | float => cases same
      | list => cases same
    have written := sorted_of_meaning (plain_of_held held' valid') plain same
    exact canonicalJsonBytes_ok.mpr ⟨object, valid', by rw [dumps, written, dumps]⟩

theorem held_of_plain (plain : Plain value) : Held value := by
  induction plain with
  | null => exact .null
  | bool value => exact .bool value
  | str value => exact .str value
  | int value => exact .int value
  | list each ih => exact .list ih
  | dict distinct each ih => exact .dict distinct ih

/-- What accepted bytes are read as: a value that Python holds, of the same meaning. -/
theorem parsed_held {bytes : ByteArray} (held : Held value)
    (accepted : canonicalJsonBytes value = .ok bytes) : Held (.ofJson value.sorted) ∧
      (JsonValue.ofJson value.sorted).meaning = value.meaning ∧
      loads bytes = some (.ofJson value.sorted) := by
  obtain ⟨-, valid, rfl⟩ := canonicalJsonBytes_ok.mp accepted
  obtain ⟨plain, meaning⟩ := ofJson_sorted (plain_of_held held valid)
  exact ⟨held_of_plain plain, meaning, loads_dumps value⟩

end Canonical

end Pathfinder
