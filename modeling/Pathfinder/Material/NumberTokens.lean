import Pathfinder.Domain.ProjectFacts

/-!
# Numbers in a text

A number of one text that stands in another is a number of that text or a part of one.
-/
namespace Pathfinder

/-- `[.,%]` -/
def numberMark (c : Char) : Bool := c = '.' || c = ',' || c = '%'

section Scan
variable (chars : CharacterTables)

/-- The scan behind one more character. -/
def scanStep : DigitScan → Char → DigitScan
  | .outside, c => if chars.isDecimal c then .digits [c] else .outside
  | .digits read, c =>
    if chars.isDecimal c then .digits (read ++ [c])
    else if numberMark c then .mark read c else .outside
  | .mark read mark, c =>
    if chars.isDecimal c then .digits (read ++ [mark, c]) else .outside

def scanned (front : Text) : DigitScan := front.foldl (scanStep chars) .outside

end Scan

variable {chars : CharacterTables}

theorem scanned_snoc (front : Text) (c : Char) :
    scanned chars (front ++ [c]) = scanStep chars (scanned chars front) c := by
  rw [scanned, List.foldl_append]
  rfl

theorem isNumberMark {c : Char} (separator : c = '.' ∨ c = ',' ∨ c = '%') : numberMark c = true := by
  rcases separator with rfl | rfl | rfl <;> rfl

theorem not_numberMark {c : Char} (other : ¬ (c = '.' ∨ c = ',' ∨ c = '%')) :
    numberMark c = false := by
  simp only [not_or] at other
  simp [numberMark, other]

/-- What is found behind some text is found in the whole. -/
theorem found_behind {scan : DigitScan} (front : Text) {rest number : Text}
    (found : number ∈ digitTokensFrom chars (front.foldl (scanStep chars) scan) rest) :
    number ∈ digitTokensFrom chars scan (front ++ rest) := by
  induction front generalizing scan with
  | nil => exact found
  | cons c front ih =>
    have later := ih found
    rw [List.cons_append]
    cases scan with
    | outside =>
      simp only [scanStep] at later
      simp only [digitTokensFrom]
      split at later
      next decimal => rwa [if_pos decimal]
      next other => rwa [if_neg other]
    | digits read =>
      simp only [scanStep] at later
      simp only [digitTokensFrom]
      split at later
      next decimal => rwa [if_pos decimal]
      next other =>
        rw [if_neg other]
        by_cases separator : c = '.' ∨ c = ',' ∨ c = '%'
        · rw [if_pos (isNumberMark separator)] at later
          rwa [if_pos separator]
        · rw [not_numberMark separator, if_neg Bool.false_ne_true] at later
          rw [if_neg separator]
          exact List.mem_cons_of_mem _ later
    | mark read mark =>
      simp only [scanStep] at later
      simp only [digitTokensFrom]
      split at later
      next decimal => rwa [if_pos decimal]
      next other =>
        rw [if_neg other]
        exact List.mem_cons_of_mem _ later

/-- What the scan has read is one number. -/
def DigitScan.Whole (chars : CharacterTables) : DigitScan → Prop
  | .outside => True
  | .digits read => scanned chars read = .digits read
  | .mark read c => scanned chars read = .digits read ∧ numberMark c = true ∧
    chars.isDecimal c = false

/-- A number that is found is read as one number by itself. -/
theorem found_scanned {scan : DigitScan} {rest number : Text} (whole : scan.Whole chars)
    (found : number ∈ digitTokensFrom chars scan rest) :
    scanned chars number = .digits number := by
  fun_induction digitTokensFrom chars scan rest with
  | case1 => cases found
  | case2 read =>
    obtain rfl := List.mem_singleton.mp found
    exact whole
  | case3 read mark =>
    obtain rfl := List.mem_singleton.mp found
    exact whole.1
  | case4 c rest decimal ih =>
    exact ih (by simp [DigitScan.Whole, scanned, scanStep, decimal]) found
  | case5 c rest other ih => exact ih trivial found
  | case6 read c rest decimal ih =>
    have read_whole : scanned chars read = .digits read := whole
    exact ih (by simp [DigitScan.Whole, scanned_snoc, read_whole, scanStep, decimal]) found
  | case7 read c rest other separator ih =>
    exact ih ⟨whole, isNumberMark separator, by simpa using other⟩ found
  | case8 read c rest other plain ih =>
    rcases List.mem_cons.mp found with rfl | later
    · exact whole
    · exact ih trivial later
  | case9 read mark c rest decimal ih =>
    refine ih ?_ found
    change scanned chars (read ++ [mark, c]) = _
    have split : read ++ [mark, c] = read ++ [mark] ++ [c] := by simp
    rw [split, scanned_snoc, scanned_snoc, whole.1]
    simp [scanStep, whole.2.1, whole.2.2, decimal]
  | case10 read mark c rest other ih =>
    rcases List.mem_cons.mp found with rfl | later
    · exact whole.1
    · exact ih trivial later

/-! ## Numbers within numbers -/

/-- The second scan has read at least what the first has. -/
def DigitScan.Within : DigitScan → DigitScan → Prop
  | .outside, _ => True
  | .digits read, .digits more => read <:+ more
  | .mark read c, .mark more d => read <:+ more ∧ c = d
  | .digits _, _ | .mark .., _ => False

theorem DigitScan.Within.step {scan more : DigitScan} (within : scan.Within more) (c : Char) :
    (scanStep chars scan c).Within (scanStep chars more c) := by
  have snoc {read longer : Text} (suffix : read <:+ longer) (tail : Text) :
      read ++ tail <:+ longer ++ tail := by
    obtain ⟨front, rfl⟩ := suffix
    exact ⟨front, (List.append_assoc ..).symm⟩
  by_cases decimal : chars.isDecimal c = true
  · cases scan with
    | outside =>
      cases more with
      | outside => simp [scanStep, decimal, Within]
      | digits longer => simp [scanStep, decimal, Within]
      | mark longer mark =>
        have last : [c] <:+ longer ++ [mark, c] := ⟨longer ++ [mark], by simp⟩
        simpa [scanStep, decimal, Within] using last
    | digits read =>
      cases more with
      | digits longer => simpa [scanStep, decimal, Within] using snoc within [c]
      | outside | mark => exact within.elim
    | mark read mark =>
      cases more with
      | mark longer other =>
        obtain ⟨suffix, rfl⟩ := within
        simpa [scanStep, decimal, Within] using snoc suffix [mark, c]
      | outside | digits => exact within.elim
  · cases scan with
    | outside => simp [scanStep, decimal, Within]
    | digits read =>
      cases more with
      | digits longer =>
        by_cases mark : numberMark c = true
        · simpa [scanStep, decimal, mark, Within] using within
        · simp [scanStep, decimal, mark, Within]
      | outside | mark => exact within.elim
    | mark read mark => simp [scanStep, decimal, Within]

/-- What a text reads by itself is read behind any text. -/
theorem scanned_within (text : Text) {scan more : DigitScan} (within : scan.Within more) :
    (text.foldl (scanStep chars) scan).Within (text.foldl (scanStep chars) more) := by
  induction text generalizing scan more with
  | nil => exact within
  | cons c rest ih => exact ih (within.step c)

/-- What a scan has read of a number. -/
def DigitScan.read : DigitScan → Text
  | .outside => []
  | .digits read | .mark read _ => read

/-- What is read of a number is the beginning of one that is found. -/
theorem found_read {scan : DigitScan} {rest : Text} (inside : scan ≠ .outside) :
    ∃ number ∈ digitTokensFrom chars scan rest, scan.read <+: number := by
  fun_induction digitTokensFrom chars scan rest with
  | case1 | case4 | case5 => exact absurd rfl inside
  | case2 read => exact ⟨read, List.mem_cons_self, List.prefix_rfl⟩
  | case3 read mark => exact ⟨read, List.mem_cons_self, List.prefix_rfl⟩
  | case6 read c rest decimal ih =>
    obtain ⟨number, found, longer⟩ := ih (by simp)
    exact ⟨number, found, (List.prefix_append read [c]).trans longer⟩
  | case7 read c rest other separator ih => exact ih (by simp)
  | case8 read c rest other plain ih => exact ⟨read, List.mem_cons_self, List.prefix_rfl⟩
  | case9 read mark c rest decimal ih =>
    obtain ⟨number, found, longer⟩ := ih (by simp)
    exact ⟨number, found, (List.prefix_append read [mark, c]).trans longer⟩
  | case10 read mark c rest other ih => exact ⟨read, List.mem_cons_self, List.prefix_rfl⟩

/-- A number of a text that stands in another lies within a number of that text. -/
theorem digitTokens_within {claim number text : Text} (number_of : number ∈ digitTokens chars claim)
    (stands : number <:+: text) : ∃ longer ∈ digitTokens chars text, number <:+: longer := by
  obtain ⟨before, after, rfl⟩ := stands
  have alone : scanned chars number = .digits number :=
    @found_scanned chars .outside _ _ trivial number_of
  have within : (scanned chars number).Within (number.foldl (scanStep chars) (scanned chars before)) :=
    scanned_within number trivial
  rw [alone] at within
  cases behind : number.foldl (scanStep chars) (scanned chars before) with
  | outside | mark =>
    rw [behind] at within
    exact within.elim
  | digits read =>
    rw [behind] at within
    obtain ⟨longer, found, starts⟩ := @found_read chars (.digits read) after (by simp)
    refine ⟨longer, ?_, within.isInfix.trans starts.isInfix⟩
    rw [digitTokens, List.append_assoc]
    refine found_behind before (found_behind number ?_)
    change longer ∈ digitTokensFrom chars
      (number.foldl (scanStep chars) (scanned chars before)) after
    rw [behind]
    exact found

end Pathfinder
