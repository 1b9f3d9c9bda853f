import Pathfinder.Resume.ImportLines
import Pathfinder.Guarantees.ImportFixpoint

/-!
# What a complete import leaves out

The lines of the name and of the contact fields are marked as a whole, and macros are read
wherever they stand. An import shows all the text of its body, and no comment, exactly where these
two lines hold nothing else and no text that is read stands in a comment.
-/
namespace Pathfinder
open Scanning

theorem inComment_iff {body : Text} {place : Nat} : inComment body place = true ↔
    ∃ opening ≤ place, opensComment body opening = true ∧
      ∀ index, opening ≤ index → index < place → body[index]? ≠ some '\n' := by
  constructor
  · intro comment
    obtain ⟨opening, early, opens⟩ := List.any_eq_true.mp comment
    rw [Bool.and_eq_true, Bool.not_eq_true', Bool.eq_false_iff, Ne, List.contains_iff_mem] at opens
    refine ⟨opening, Nat.le_of_lt_succ (List.mem_range.mp early), opens.1, ?_⟩
    intro index behind before feed
    refine opens.2 (List.mem_of_getElem? (i := index - opening) ?_)
    rw [List.getElem?_drop, List.getElem?_take_of_lt (by omega), ← feed]
    congr 1
    omega
  · rintro ⟨opening, behind, opens, same⟩
    exact inComment_of opens behind same

/-- No comment is open where the part begins, and no percent sign in it opens one. -/
def OutsideComments (body : Text) (part : ReadPart) : Prop :=
  inComment body part.start = false ∧
    ∀ place, part.range.holds place = true → opensComment body place = false

instance (body : Text) (part : ReadPart) : Decidable (OutsideComments body part) :=
  decidable_of_iff (inComment body part.start = false ∧
      ∀ place < part.range.stop, part.range.holds place = true → opensComment body place = false)
    (and_congr_right fun _ => ⟨fun plain place holds => plain place (holds_iff.mp holds).2 holds,
      fun plain place _ holds => plain place holds⟩)

theorem outsideComments_iff {body : Text} {part : ReadPart} (shown : part.tex ≠ []) :
    OutsideComments body part ↔
      ∀ place, part.range.holds place = true → inComment body place = false := by
  have positive := List.length_pos_iff.mpr shown
  have stop : part.range.stop = part.start + part.tex.length := rfl
  have start : part.range.start = part.start := rfl
  constructor
  · rintro ⟨first, plain⟩ place holds
    rw [Bool.eq_false_iff, Ne, inComment_iff] at first ⊢
    rintro ⟨opening, before, opens, same⟩
    obtain ⟨behind, inside⟩ := holds_iff.mp holds
    by_cases early : opening < part.start
    · -- a comment from in front is still open at the beginning
      exact first ⟨opening, by omega, opens, fun index late here => same index late (by omega)⟩
    · have none := plain opening (holds_iff.mpr ⟨by omega, by omega⟩)
      rw [none] at opens
      cases opens
  · intro none
    refine ⟨none part.start (holds_iff.mpr ⟨Nat.le_refl _, by omega⟩), fun place holds => ?_⟩
    have outside := none place holds
    rw [Bool.eq_false_iff, Ne, inComment_iff] at outside
    exact Bool.eq_false_iff.mpr fun opens =>
      outside ⟨place, Nat.le_refl _, opens, fun index behind inside => by omega⟩

namespace ImportedBody

/-- The two header lines hold nothing but what is accounted for; no group that is read begins in a
comment, and none holds a percent sign that opens one. -/
structure PlainLines (imported : ImportedBody) : Prop where
  name : ∀ place < imported.body.length,
    (lineRange imported.body imported.displayName.start).holds place = true →
      imported.accounted place = true
  contact : ∀ place < imported.body.length,
    (lineRange imported.body imported.contactLine.start).holds place = true →
      imported.accounted place = true
  outside : ∀ part ∈ imported.parts, part.tex ≠ [] → OutsideComments imported.body part

instance (imported : ImportedBody) : Decidable imported.PlainLines :=
  decidable_of_iff
    ((∀ place < imported.body.length,
        (lineRange imported.body imported.displayName.start).holds place = true →
          imported.accounted place = true) ∧
      (∀ place < imported.body.length,
        (lineRange imported.body imported.contactLine.start).holds place = true →
          imported.accounted place = true) ∧
      ∀ part ∈ imported.parts, part.tex ≠ [] → OutsideComments imported.body part)
    ⟨fun ⟨name, contact, outside⟩ => ⟨name, contact, outside⟩,
      fun ⟨name, contact, outside⟩ => ⟨name, contact, outside⟩⟩

theorem showsBody_iff {imported : ImportedBody} (read : BodyRead imported.body imported) :
    imported.ShowsBody ↔ imported.PlainLines := by
  constructor
  · rintro ⟨whole, -, uncommented⟩
    exact ⟨fun place inside _ => whole place inside, fun place inside _ => whole place inside,
      fun part member shown => (outsideComments_iff shown).mpr (uncommented part member)⟩
  · rintro ⟨name, contact, outside⟩
    refine ⟨fun place inside => ?_, parts_shown read, fun part member place holds => ?_⟩
    · cases first : (lineRange imported.body imported.displayName.start).holds place with
      | true => exact name place inside first
      | false =>
        cases second : (lineRange imported.body imported.contactLine.start).holds place with
        | true => exact contact place inside second
        | false => exact accounted_outside read inside first second
    · by_cases shown : part.tex = []
      · have holds := holds_iff.mp holds
        have stop : part.range.stop = part.range.start := by
          simp [ReadPart.range, shown]
        omega
      · exact (outsideComments_iff shown).mp (outside part member shown) place holds

end ImportedBody

/-- A complete import shows all the text of its body, and none of its comments, exactly where its
lines are plain. -/
theorem import_shows_body_iff {uuid5 : Text → UUID} {chars : CharacterTables}
    {sha256 : ByteArray → Text} {expected expectedPreamble source : Text}
    (complete :
      (parseResumeSource uuid5 chars sha256 expected expectedPreamble source).complete = true) :
    ∃ imported, readSource uuid5 chars sha256 expected expectedPreamble source = .ok imported ∧
      (partitionAt beginDocument source).map Prod.snd = some imported.body ∧
      (parseResumeSource uuid5 chars sha256 expected expectedPreamble source).content =
        some (imported.content
          (importId uuid5 (sha256 (encodeUtf8 source)) "display_name".toList)) ∧
      (imported.ShowsBody ↔ imported.PlainLines) := by
  obtain ⟨imported, read, content⟩ := parseResumeSource_complete complete
  obtain ⟨body, parsed⟩ := readSource_ok read
  exact ⟨imported, read, body, content, ImportedBody.showsBody_iff parsed⟩

theorem plainSource_shown : ∃ imported,
    readSource Sample.importUuid asciiTables
      (Sample.importSha256 (Sample.importSource Sample.plainName Sample.plainContact)
        Sample.plainDigest) Sample.plainDigest Sample.importPreambleDigest
      (Sample.importSource Sample.plainName Sample.plainContact) = .ok imported ∧
    imported.ShowsBody := by
  have shown : Sample.importShows Sample.plainName Sample.plainContact Sample.plainDigest
      (fun imported => decide imported.PlainLines) = true := by decide +kernel
  obtain ⟨imported, read, seen⟩ := Sample.readSource_shows shown
  obtain ⟨imported', read', -, -, exactly⟩ := import_shows_body_iff (Sample.shown_complete shown)
  obtain rfl : imported = imported' := Except.ok.inj (read.symm.trans read')
  exact ⟨imported, read, exactly.mpr (of_decide_eq_true seen)⟩

namespace Sample

def titledName : Text := "Ada\x7d Engineer \\\\".toList

def titledDigest : Text :=
  "047c94010344a75de1c5cb4d7832b3b7aff1f1e8b697b7e00cd0226b5701a3e8".toList

end Sample

/-- A word behind the group of the name is on its line, and is shown nowhere. -/
theorem titledName_lost :
    ¬ ∀ (uuid5 : Text → UUID) (chars : CharacterTables) (sha256 : ByteArray → Text)
      (expected expectedPreamble source : Text) (imported : ImportedBody),
      readSource uuid5 chars sha256 expected expectedPreamble source = .ok imported →
        imported.ShowsBody := by
  intro all
  have lost : Sample.importShows Sample.titledName Sample.plainContact Sample.titledDigest
      (fun imported => 35 < imported.body.length && !imported.accounted 35) = true := by
    decide +kernel
  obtain ⟨imported, read, seen⟩ := Sample.readSource_shows lost
  rw [Bool.and_eq_true, decide_eq_true_eq, Bool.not_eq_true'] at seen
  have whole := (all _ _ _ _ _ _ imported read).whole 35 seen.1
  rw [seen.2] at whole
  cases whole

end Pathfinder
