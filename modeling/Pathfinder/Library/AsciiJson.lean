import Mathlib.Data.List.Basic
import Pathfinder.Library.PrefixCode

/-!
# JSON strings in ASCII

Strings whose other characters are written as UTF-16 escapes, and arrays of them. Both are read
back from what is written, also in front of other text.
-/
namespace JsonTexts
open PrefixCodes

/-- The characters with an escape of two signs, and its second sign. -/
def shortEscapes : List (Char × Char) :=
  [('"', '"'), ('\\', '\\'), ('\n', 'n'), ('\r', 'r'), ('\t', 't'), ('\u000c', 'f'),
    ('\u0008', 'b')]

/-- A number below 65536 in four hexadecimal digits. -/
def fourHex (value : Nat) : List Char :=
  [Nat.digitChar (value / 4096 % 16), Nat.digitChar (value / 256 % 16),
    Nat.digitChar (value / 16 % 16), Nat.digitChar (value % 16)]

/-- The escapes of the UTF-16 units of a character. -/
def unicodeEscape (c : Char) : List Char :=
  if c.toNat < 0x10000 then '\\' :: 'u' :: fourHex c.toNat
  else
    let above := c.toNat - 0x10000
    '\\' :: 'u' :: fourHex (0xd800 + above / 0x400) ++
      '\\' :: 'u' :: fourHex (0xdc00 + above % 0x400)

/-- A character of a string in ASCII. -/
def escapeAscii (c : Char) : List Char :=
  match shortEscapes.lookup c with
  | some sign => ['\\', sign]
  | none => if 32 ≤ c.toNat ∧ c.toNat ≤ 126 then [c] else unicodeEscape c

def quotedAscii (text : List Char) : List Char := '"' :: text.flatMap escapeAscii ++ ['"']

/-- The strings behind the first one, and the end of the array. -/
def restAscii : List (List Char) → List Char
  | [] => [']']
  | text :: rest => ',' :: quotedAscii text ++ restAscii rest

/-- An array of strings. -/
def arrayAscii : List (List Char) → List Char
  | [] => "[]".toList
  | text :: rest => '[' :: quotedAscii text ++ restAscii rest

/-! ## Characters -/

theorem digitChar_injective : ∀ m < 16, ∀ n < 16, Nat.digitChar m = Nat.digitChar n → m = n := by
  decide

theorem fourHex_injective {m n : Nat} (small : m < 65536) (small' : n < 65536)
    (same : fourHex m = fourHex n) : m = n := by
  simp only [fourHex, List.cons.injEq, and_true] at same
  obtain ⟨first, second, third, fourth⟩ := same
  have digit (a b : Nat) (same : Nat.digitChar (a % 16) = Nat.digitChar (b % 16)) :
      a % 16 = b % 16 :=
    digitChar_injective _ (Nat.mod_lt _ (by decide)) _ (Nat.mod_lt _ (by decide)) same
  have first := digit _ _ first
  have second := digit _ _ second
  have third := digit _ _ third
  have fourth := digit _ _ fourth
  omega

/-- A UTF-16 unit is read back from the beginning of a text. -/
theorem unit_begins {m n : Nat} (small : m < 65536) (small' : n < 65536) {rest rest' : List Char}
    (begins : '\\' :: 'u' :: fourHex m ++ rest <+: '\\' :: 'u' :: fourHex n ++ rest') :
    m = n ∧ rest <+: rest' := by
  simp only [fourHex, List.cons_append, List.nil_append, List.cons_prefix_cons] at begins
  obtain ⟨-, -, first, second, third, fourth, behind⟩ := begins
  refine ⟨fourHex_injective small small' ?_, behind⟩
  rw [fourHex, fourHex, first, second, third, fourth]

theorem char_of_toNat {c d : Char} (same : c.toNat = d.toNat) : c = d :=
  Char.ext (UInt32.toNat_inj.mp same)

/-- A character outside the basic plane has two units, the first of which is no character. -/
theorem unicodeEscape_begins {c d : Char} (begins : unicodeEscape c <+: unicodeEscape d) :
    c = d := by
  have valid (c : Char) : c.toNat < 0xd800 ∨ (0xdfff < c.toNat ∧ c.toNat < 0x110000) := c.valid
  have first := valid c
  have second := valid d
  unfold unicodeEscape at begins
  by_cases basic : c.toNat < 0x10000 <;> by_cases basic' : d.toNat < 0x10000
  · rw [if_pos basic, if_pos basic', ← List.append_nil ('\\' :: 'u' :: fourHex c.toNat),
      ← List.append_nil ('\\' :: 'u' :: fourHex d.toNat)] at begins
    exact char_of_toNat (unit_begins basic basic' begins).1
  · rw [if_pos basic, if_neg basic', ← List.append_nil ('\\' :: 'u' :: fourHex c.toNat)] at begins
    have high := (unit_begins basic (by omega) begins).1
    omega
  · rw [if_neg basic, if_pos basic', ← List.append_nil ('\\' :: 'u' :: fourHex d.toNat)] at begins
    have low := (unit_begins (by omega) basic' begins).2
    exact absurd (List.prefix_nil.mp low) (List.cons_ne_nil _ _)
  · rw [if_neg basic, if_neg basic'] at begins
    obtain ⟨high, behind⟩ := unit_begins (by omega) (by omega) begins
    rw [← List.append_nil ('\\' :: 'u' :: fourHex (0xdc00 + (c.toNat - 0x10000) % 0x400)),
      ← List.append_nil ('\\' :: 'u' :: fourHex (0xdc00 + (d.toNat - 0x10000) % 0x400))] at behind
    have low := (unit_begins (by omega) (by omega) behind).1
    exact char_of_toNat (by omega)

/-- The three ways a character is written. -/
theorem escapeAscii_cases (c : Char) :
    (∃ sign, shortEscapes.lookup c = some sign ∧ escapeAscii c = ['\\', sign]) ∨
      (c ≠ '\\' ∧ c ≠ '"' ∧ escapeAscii c = [c]) ∨ escapeAscii c = unicodeEscape c := by
  unfold escapeAscii
  cases found : shortEscapes.lookup c with
  | some sign => exact .inl ⟨sign, rfl, rfl⟩
  | none =>
    by_cases plain : 32 ≤ c.toNat ∧ c.toNat ≤ 126
    · refine .inr (.inl ⟨?_, ?_, if_pos plain⟩) <;> rintro rfl <;> cases found
    · exact .inr (.inr (if_neg plain))

theorem shortEscapes_signs : ∀ c sign, shortEscapes.lookup c = some sign →
    (c, sign) ∈ shortEscapes := by
  intro c sign found
  obtain ⟨before, behind, whole, -⟩ := List.lookup_eq_some_iff.mp found
  rw [whole]
  exact List.mem_append_right _ List.mem_cons_self

theorem escapeAscii_prefixCode : PrefixCode escapeAscii where
  nonempty c := by
    obtain ⟨sign, -, written⟩ | ⟨-, -, written⟩ | written := escapeAscii_cases c
    · rw [written]
      exact List.cons_ne_nil _ _
    · rw [written]
      exact List.cons_ne_nil _ _
    · rw [written, unicodeEscape]
      split <;> exact List.cons_ne_nil _ _
  begins c d begins := by
    have unicode (c : Char) : ∃ rest, unicodeEscape c = '\\' :: 'u' :: rest := by
      unfold unicodeEscape
      split
      · exact ⟨_, rfl⟩
      · exact ⟨_, rfl⟩
    have signs : ∀ entry ∈ shortEscapes, entry.2 ≠ 'u' ∧ ∀ other ∈ shortEscapes,
        entry.2 = other.2 → entry.1 = other.1 := by decide
    obtain ⟨sign, found, written⟩ | ⟨slash, -, written⟩ | written := escapeAscii_cases c <;>
      obtain ⟨sign', found', written'⟩ | ⟨slash', -, written'⟩ | written' := escapeAscii_cases d <;>
      rw [written, written'] at begins
    · have same := (List.cons_prefix_cons.mp (List.cons_prefix_cons.mp begins).2).1
      exact (signs _ (shortEscapes_signs _ _ found)).2 _ (shortEscapes_signs _ _ found') same
    · exact absurd (List.cons_prefix_cons.mp begins).1.symm slash'
    · obtain ⟨rest, unit⟩ := unicode d
      rw [unit] at begins
      have same := (List.cons_prefix_cons.mp (List.cons_prefix_cons.mp begins).2).1
      exact absurd same (signs _ (shortEscapes_signs _ _ found)).1
    · exact absurd (List.cons_prefix_cons.mp begins).1 slash
    · exact (List.cons_prefix_cons.mp begins).1
    · obtain ⟨rest, unit⟩ := unicode d
      rw [unit] at begins
      exact absurd (List.cons_prefix_cons.mp begins).1 slash
    · obtain ⟨rest, unit⟩ := unicode c
      rw [unit] at begins
      have same := (List.cons_prefix_cons.mp (List.cons_prefix_cons.mp begins).2).1
      exact absurd same.symm (signs _ (shortEscapes_signs _ _ found')).1
    · obtain ⟨rest, unit⟩ := unicode c
      rw [unit] at begins
      exact absurd (List.cons_prefix_cons.mp begins).1.symm slash'
    · exact unicodeEscape_begins begins

theorem escapeAscii_not_quote (c : Char) : (escapeAscii c).head? ≠ some '"' := by
  obtain ⟨sign, -, written⟩ | ⟨-, quote, written⟩ | written := escapeAscii_cases c
  · rw [written]
    exact fun same => by cases same
  · rw [written]
    exact fun same => quote (Option.some.inj same)
  · rw [written, unicodeEscape]
    split <;> exact fun same => by cases same

/-! ## Strings and arrays -/

theorem quotedAscii_cancel {first second rest rest' : List Char}
    (same : quotedAscii first ++ rest = quotedAscii second ++ rest') :
    first = second ∧ rest = rest' := by
  have inside : first.flatMap escapeAscii ++ '"' :: rest =
      second.flatMap escapeAscii ++ '"' :: rest' := by
    simpa [quotedAscii] using same
  exact escapeAscii_prefixCode.flatMap_cancel escapeAscii_not_quote inside

theorem restAscii_cancel {first second : List (List Char)} {rest rest' : List Char}
    (same : restAscii first ++ rest = restAscii second ++ rest') :
    first = second ∧ rest = rest' := by
  induction first generalizing second with
  | nil =>
    cases second with
    | nil => exact ⟨rfl, (List.cons.inj same).2⟩
    | cons text more => exact absurd (List.cons.inj same).1 (by decide)
  | cons text more ih =>
    cases second with
    | nil => exact absurd (List.cons.inj same).1 (by decide)
    | cons text' more' =>
      simp only [restAscii, List.cons_append, List.append_assoc, List.cons.injEq, true_and] at same
      obtain ⟨rfl, behind⟩ := quotedAscii_cancel same
      obtain ⟨rfl, later⟩ := ih behind
      exact ⟨rfl, later⟩

theorem arrayAscii_cancel {first second : List (List Char)} {rest rest' : List Char}
    (same : arrayAscii first ++ rest = arrayAscii second ++ rest') :
    first = second ∧ rest = rest' := by
  cases first with
  | nil =>
    cases second with
    | nil => exact ⟨rfl, List.append_cancel_left same⟩
    | cons text more => exact absurd (List.cons.inj (List.cons.inj same).2).1 (by decide)
  | cons text more =>
    cases second with
    | nil => exact absurd (List.cons.inj (List.cons.inj same).2).1 (by decide)
    | cons text' more' =>
      simp only [arrayAscii, List.cons_append, List.append_assoc, List.cons.injEq, true_and] at same
      obtain ⟨rfl, behind⟩ := quotedAscii_cancel same
      obtain ⟨rfl, later⟩ := restAscii_cancel behind
      exact ⟨rfl, later⟩

end JsonTexts
