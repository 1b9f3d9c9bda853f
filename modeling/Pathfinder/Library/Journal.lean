import Mathlib.Data.List.Nodup
import Mathlib.Data.List.Range

/-!
# Numbered journals

An append-only list whose entries carry consecutive numbers, and the counter the
next entry takes; and what a reader gets from one by its numbers. What the
entries are is left open.
-/
namespace Journals

universe u

variable {α : Type u}

/-- The entries carry `start`, `start + 1`, and so on. -/
def NumberedFrom (seq : α → Nat) (start : Nat) (entries : List α) : Prop :=
  entries.map seq = List.range' start entries.length

variable {seq : α → Nat} {start : Nat}

theorem numberedFrom_nil : NumberedFrom seq start [] := rfl

theorem numberedFrom_append {first second : List α} (before : NumberedFrom seq start first)
    (added : NumberedFrom seq (start + first.length) second) :
    NumberedFrom seq start (first ++ second) := by
  unfold NumberedFrom at *
  rw [List.map_append, before, added, List.length_append, ← List.range'_append_1]

theorem numberedFrom_singleton {entry : α} (numbered : seq entry = start) :
    NumberedFrom seq start [entry] := by
  simp [NumberedFrom, numbered]

theorem numberedFrom_cons {entry : α} {rest : List α} :
    NumberedFrom seq start (entry :: rest) ↔
      seq entry = start ∧ NumberedFrom seq (start + 1) rest := by
  simp [NumberedFrom, List.range'_succ]

theorem numberedFrom_begins {entries more : List α} (numbered : NumberedFrom seq start more)
    (grown : entries <+: more) : NumberedFrom seq start entries := by
  obtain ⟨added, rfl⟩ := grown
  unfold NumberedFrom at *
  rw [List.length_append, List.map_append, ← List.range'_append_1] at numbered
  exact (List.append_inj numbered (by simp)).1

theorem numberedFrom_drop {entries : List α} (numbered : NumberedFrom seq start entries) (n : Nat) :
    NumberedFrom seq (start + n) (entries.drop n) := by
  unfold NumberedFrom at *
  rw [List.map_drop, numbered, List.drop_range', List.length_drop, Nat.mul_one]

/-- The last entry carries the length of the journal. -/
theorem numberedFrom_last {rest : List α} {last : α}
    (numbered : NumberedFrom seq 1 (rest ++ [last])) : seq last = rest.length + 1 := by
  have tail := numberedFrom_drop numbered rest.length
  rw [List.drop_left, numberedFrom_cons] at tail
  rw [tail.1, Nat.add_comm]

/-! ## Entries and what is in front of them -/

/-- Every entry relates by `P` to the journal as it was when the entry was added. -/
def EachAfter (P : List α → α → Prop) (entries : List α) : Prop :=
  ∀ before entry after, entries = before ++ entry :: after → P before entry

theorem eachAfter_nil {P : List α → α → Prop} : EachAfter P [] := by
  intro before entry after split
  simp at split

theorem eachAfter_concat {P : List α → α → Prop} {entries : List α} {last : α} :
    EachAfter P (entries ++ [last]) ↔ EachAfter P entries ∧ P entries last := by
  constructor
  · intro all
    refine ⟨fun before entry after split => ?_, all entries last [] rfl⟩
    refine all before entry (after ++ [last]) ?_
    rw [split, List.append_assoc, List.cons_append]
  · rintro ⟨earlier, here⟩ before entry after split
    cases after using List.reverseRecOn with
    | nil =>
      obtain ⟨same, lasts⟩ := List.append_inj' split rfl
      cases lasts
      exact same ▸ here
    | append_singleton after other =>
      rw [← List.cons_append, ← List.append_assoc] at split
      exact earlier before entry after (List.append_inj' split rfl).1

/-! ## Reading -/

/-- The entries with a number above `n`. -/
def entriesAfter (seq : α → Nat) (n : Nat) (entries : List α) : List α :=
  entries.filter fun entry => n < seq entry

theorem entriesAfter_from {entries : List α} (numbered : NumberedFrom seq start entries) {n : Nat}
    (from_start : start ≤ n + 1) :
    entriesAfter seq n entries = entries.drop (n + 1 - start) := by
  induction entries generalizing start with
  | nil => simp [entriesAfter]
  | cons entry rest ih =>
    have whole : (entry :: rest).map seq = List.range' start (entry :: rest).length := numbered
    obtain ⟨carries, numbered⟩ := numberedFrom_cons.mp numbered
    by_cases here : start = n + 1
    · -- from here on every number is above
      have all : ∀ other ∈ entry :: rest, n < seq other := by
        intro other member
        have listed : seq other ∈ List.range' start (entry :: rest).length :=
          whole ▸ List.mem_map_of_mem member
        have bounds := (List.mem_range'_1.mp listed).1
        omega
      rw [here, Nat.sub_self, List.drop_zero]
      exact List.filter_eq_self.mpr fun other member => by simpa using all other member
    · have passed : n + 1 - start = (n + 1 - (start + 1)) + 1 := by omega
      have below : ¬ n < seq entry := by omega
      have rest_eq := ih numbered (by omega)
      simp only [entriesAfter] at rest_eq ⊢
      rw [List.filter_cons_of_neg (by simpa using below), rest_eq, passed, List.drop_succ_cons]

/-- In a journal numbered from one, the entries above `n` are those after the first `n`. -/
theorem entriesAfter_eq_drop {entries : List α} (numbered : NumberedFrom seq 1 entries) (n : Nat) :
    entriesAfter seq n entries = entries.drop n := by
  rw [entriesAfter_from numbered (Nat.succ_le_succ (Nat.zero_le n)), Nat.add_sub_cancel]

/-- The last number of a journal, zero for an empty one. -/
def lastNumber (seq : α → Nat) (entries : List α) : Nat :=
  entries.foldr (fun entry highest => max (seq entry) highest) 0

theorem lastNumber_from {entries : List α} (numbered : NumberedFrom seq start entries) :
    lastNumber seq entries = if entries = [] then 0 else start + entries.length - 1 := by
  induction entries generalizing start with
  | nil => rfl
  | cons entry rest ih =>
    obtain ⟨carries, numbered⟩ := numberedFrom_cons.mp numbered
    have rest_eq := ih numbered
    simp only [lastNumber, List.foldr_cons] at rest_eq ⊢
    rw [rest_eq, carries, if_neg (List.cons_ne_nil entry rest), List.length_cons]
    cases rest with
    | nil => simp
    | cons => simp; omega

theorem lastNumber_eq_length {entries : List α} (numbered : NumberedFrom seq 1 entries) :
    lastNumber seq entries = entries.length := by
  rw [lastNumber_from numbered]
  split
  next empty => rw [empty, List.length_nil]
  · omega

theorem numberedFrom_sorted {entries : List α} (numbered : NumberedFrom seq start entries) :
    entries.Pairwise fun first second => seq first < seq second := by
  have ordered : (entries.map seq).Pairwise (· < ·) := by
    rw [numbered]
    exact List.pairwise_lt_range'
  exact List.pairwise_map.mp ordered

/-- The entry with the highest number, the first of these if several carry it. -/
def latestBy (seq : α → Nat) (entries : List α) : Option α :=
  entries.foldl (fun latest entry => match latest with
    | none => some entry
    | some found => if seq found < seq entry then some entry else some found) none

theorem latestBy_numbered {entries : List α} (numbered : NumberedFrom seq start entries) :
    latestBy seq entries = entries.getLast? := by
  induction entries using List.reverseRecOn with
  | nil => rfl
  | append_singleton rest entry ih =>
    have before := ih (numberedFrom_begins numbered (List.prefix_append _ _))
    rw [latestBy, List.foldl_append, ← latestBy, before, List.getLast?_concat]
    cases found : rest.getLast? with
    | none => rfl
    | some last =>
      have lower := (List.pairwise_append.mp (numberedFrom_sorted numbered)).2.2 last
        (List.mem_of_getLast? found) entry (List.mem_singleton.mpr rfl)
      exact if_pos lower

/-! ## Up to a mark -/

/-- The entries up to the first marked one, which is the last of them. -/
def upTo (marked : α → Bool) : List α → List α
  | [] => []
  | entry :: rest => if marked entry then [entry] else entry :: upTo marked rest

variable {marked : α → Bool}

/-- Unmarked entries come before what is left up to the mark. -/
theorem upTo_append {first second : List α} (none : ∀ entry ∈ first, marked entry = false) :
    upTo marked (first ++ second) = first ++ upTo marked second := by
  induction first with
  | nil => rfl
  | cons entry rest ih =>
    rw [List.cons_append, upTo, none entry List.mem_cons_self, if_neg Bool.false_ne_true,
      ih fun other member => none other (List.mem_cons_of_mem _ member), List.cons_append]

theorem upTo_begins (entries : List α) : upTo marked entries <+: entries := by
  induction entries with
  | nil => exact List.prefix_refl _
  | cons entry rest ih =>
    rw [upTo]
    split
    · exact ⟨rest, rfl⟩
    · exact List.prefix_cons_inj entry |>.mpr ih

theorem upTo_mono {entries more : List α} (grown : entries <+: more) :
    upTo marked entries <+: upTo marked more := by
  obtain ⟨added, rfl⟩ := grown
  induction entries with
  | nil => exact List.nil_prefix
  | cons entry rest ih =>
    rw [List.cons_append, upTo, upTo]
    split
    · exact List.prefix_refl _
    · exact (List.prefix_cons_inj entry).mpr ih

/-- What has been read of the entries up to a mark is up to the mark itself. -/
theorem upTo_of_prefix {read entries : List α} (seen : read <+: upTo marked entries) :
    upTo marked read = read := by
  induction entries generalizing read with
  | nil => rw [List.prefix_nil.mp seen, upTo]
  | cons entry rest ih =>
    cases read with
    | nil => rfl
    | cons first read =>
      rw [upTo] at seen ⊢
      split at seen
      next here =>
        obtain ⟨rfl, nothing⟩ := List.cons_prefix_cons.mp seen
        rw [if_pos here, List.prefix_nil.mp nothing]
      next passed =>
        obtain ⟨rfl, later⟩ := List.cons_prefix_cons.mp seen
        rw [if_neg passed, ih later]

/-- Only the last of the entries up to a mark can carry it. -/
theorem upTo_reached {read entries : List α} (seen : read <+: upTo marked entries)
    (found : ∃ entry ∈ read, marked entry = true) : read = upTo marked entries := by
  induction entries generalizing read with
  | nil =>
    rw [upTo, List.prefix_nil] at seen
    rw [seen, upTo]
  | cons entry rest ih =>
    rw [upTo] at seen ⊢
    obtain ⟨other, member, there⟩ := found
    cases read with
    | nil => cases member
    | cons first read =>
      split at seen
      next here =>
        rw [if_pos here]
        obtain ⟨rfl, nothing⟩ := List.cons_prefix_cons.mp seen
        rw [List.prefix_nil.mp nothing]
      next passed =>
        rw [if_neg passed]
        obtain ⟨rfl, later⟩ := List.cons_prefix_cons.mp seen
        rcases List.mem_cons.mp member with rfl | member
        · exact absurd there passed
        · rw [← ih later ⟨other, member, there⟩]

end Journals

/-!
## Chains

An append-only list whose entries name the one before them, and its tip. With
consecutive numbers it is a history without branches or gaps.
-/
namespace Chains
open Journals

universe u v
variable {α : Type u} {κ : Type v} (id : α → κ) (parent : α → Option κ)

/-- Every entry names the one before it; the first names `before`. -/
def LinkedFrom : Option κ → List α → Prop
  | _, [] => True
  | before, entry :: rest => parent entry = before ∧ LinkedFrom (some (id entry)) rest

/-- The last entry, or what the chain started behind. -/
def tipFrom (before : Option κ) (entries : List α) : Option κ :=
  entries.foldl (fun _ entry => some (id entry)) before

variable {id parent}

@[simp] theorem tipFrom_nil (before : Option κ) : tipFrom id before [] = before := rfl

@[simp] theorem tipFrom_snoc (before : Option κ) (entries : List α) (entry : α) :
    tipFrom id before (entries ++ [entry]) = some (id entry) := by
  simp [tipFrom]

theorem tipFrom_none {entries : List α} (empty : tipFrom id none entries = none) : entries = [] := by
  rcases List.eq_nil_or_concat entries with rfl | ⟨front, entry, rfl⟩
  · rfl
  · rw [List.concat_eq_append, tipFrom_snoc] at empty
    cases empty

theorem linkedFrom_snoc {before : Option κ} {entries : List α} {entry : α}
    (linked : LinkedFrom id parent before entries)
    (onTip : parent entry = tipFrom id before entries) :
    LinkedFrom id parent before (entries ++ [entry]) := by
  induction entries generalizing before with
  | nil => exact ⟨onTip, trivial⟩
  | cons first rest ih => exact ⟨linked.1, ih linked.2 onTip⟩

/-- Neighbours in a chain are parent and child. -/
theorem linkedFrom_next {before : Option κ} {entries : List α}
    (linked : LinkedFrom id parent before entries) {i : Nat} {first second : α}
    (here : entries[i]? = some first) (next : entries[i + 1]? = some second) :
    parent second = some (id first) := by
  induction entries generalizing before i with
  | nil => simp at here
  | cons entry rest ih =>
    cases i with
    | zero =>
      obtain rfl : entry = first := by simpa using here
      cases rest with
      | nil => simp at next
      | cons other rest =>
        obtain rfl : other = second := by simpa using next
        exact linked.2.1
    | succ i => exact ih linked.2 (by simpa using here) (by simpa using next)

/-- The tip is the entry with the last number. -/
theorem tipFrom_last {number : α → Nat} {entries : List α}
    (numbered : NumberedFrom number 1 entries) {tip : κ}
    (last : tipFrom id none entries = some tip) :
    ∃ entry ∈ entries, id entry = tip ∧ number entry = entries.length ∧
      ∀ other ∈ entries, number other ≤ number entry := by
  rcases List.eq_nil_or_concat entries with rfl | ⟨front, entry, rfl⟩
  · cases last
  · rw [List.concat_eq_append] at numbered last ⊢
    rw [tipFrom_snoc] at last
    have bounded : ∀ other ∈ front ++ [entry], number other ≤ (front ++ [entry]).length := by
      intro other member
      have listed := List.mem_map_of_mem (f := number) member
      rw [numbered, List.mem_range'_1] at listed
      omega
    have whole : number entry = (front ++ [entry]).length := by
      have numbers := congrArg List.getLast? numbered
      simpa [List.getLast?_range'] using numbers
    refine ⟨entry, by simp, Option.some.inj last, whole, fun other member => ?_⟩
    rw [whole]
    exact bounded other member

end Chains
