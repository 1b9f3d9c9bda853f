import Mathlib.Data.List.TakeWhile
import Pathfinder.Domain.PythonText
import Pathfinder.Domain.ResumeProfile

/-!
# Reading styled TeX

The scanner of `resume/template_import.py`. A text that is read from an index on is the rest
of the text with that index.
-/
namespace Pathfinder

/-- `_ParseFailure`, or the `ValueError` of a model. -/
inductive ImportFailure where
  | parse (code : String) (offset : Nat)
  | value
  deriving DecidableEq, Repr

/-- `char in "{}%&#_$"`, behind a backslash. -/
def escapable (c : Char) : Bool := c ∈ ['\x7b', '\x7d', '%', '&', '#', '_', '$']

/-- The loop of `_group`, where `depth` groups are open inside the one it closes and `skipped`
says that the next character is escaped: what the group holds, and what follows it. -/
def closeGroup (skipped : Bool) (depth : Nat) : Text → Option (Text × Text)
  | [] => none
  | c :: rest =>
    let keep := fun (inner, behind) => (c :: inner, behind)
    if skipped then (closeGroup false depth rest).map keep
    else if c = '\\' ∧ rest.head?.any escapable then (closeGroup true depth rest).map keep
    else if c = '\x7b' then (closeGroup false (depth + 1) rest).map keep
    else if c = '\x7d' then
      match depth with
      | 0 => some ([], rest)
      | depth + 1 => (closeGroup false depth rest).map keep
    else (closeGroup false depth rest).map keep

/-- What `_group` returns, with the text behind the group. -/
structure SourceGroup where
  value : Text
  start : Nat
  stop : Nat
  behind : Text
  deriving DecidableEq, Repr

/-- `_group`. -/
def group (index : Nat) (rest : Text) : Except ImportFailure SourceGroup :=
  let start := index + (rest.takeWhile isPythonSpace).length
  match rest.dropWhile isPythonSpace with
  | '\x7b' :: body =>
    match closeGroup false 0 body with
    | some (value, behind) => .ok ⟨value, start, start + value.length + 2, behind⟩
    | none => .error (.parse "unclosed_group" start)
  | _ => .error (.parse "expected_group" start)

def EmphasisSpanV1.shifted (span : EmphasisSpanV1) (width : Nat) : EmphasisSpanV1 :=
  ⟨span.start + width, span.stop + width⟩

@[simp] theorem EmphasisSpanV1.shifted_start (span : EmphasisSpanV1) (width : Nat) :
    (span.shifted width).start = span.start + width := rfl

@[simp] theorem EmphasisSpanV1.shifted_stop (span : EmphasisSpanV1) (width : Nat) :
    (span.shifted width).stop = span.stop + width := rfl

@[simp] theorem EmphasisSpanV1.shifted_zero (span : EmphasisSpanV1) : span.shifted 0 = span := rfl

/-- The end of `_styled`. -/
def styledResult (offset : Nat) (result : Text) (spans : List EmphasisSpanV1) :
    Except ImportFailure StyledText :=
  let cleaned := stripText result
  if cleaned = [] then .error (.parse "empty_content" offset)
  else
    let leading := result.length - (result.dropWhile isPythonSpace).length
    let value : StyledText := ⟨cleaned, (spans.filter fun span =>
        leading ≤ span.start && span.stop ≤ leading + cleaned.length).map fun span =>
      ⟨span.start - leading, span.stop - leading⟩⟩
    if value.valid then .ok value else .error .value

/-- The group, its closing brace and what follows are the text it was read from. -/
def ClosedIn (text : Text) (found : Option (Text × Text)) : Prop :=
  ∀ inner behind, found = some (inner, behind) → text = inner ++ '\x7d' :: behind

theorem ClosedIn.keep {c : Char} {rest : Text} {found : Option (Text × Text)}
    (closed : ClosedIn rest found) :
    ClosedIn (c :: rest) (found.map fun (inner, behind) => (c :: inner, behind)) := by
  intro inner behind mapped
  obtain ⟨⟨inner', behind'⟩, here, same⟩ := Option.map_eq_some_iff.mp mapped
  cases same
  rw [closed _ _ here]
  rfl

theorem closeGroup_closed (skipped : Bool) (depth : Nat) (text : Text) :
    ClosedIn text (closeGroup skipped depth text) := by
  induction text generalizing skipped depth with
  | nil => exact nofun
  | cons c rest ih =>
    simp only [closeGroup]
    split
    · exact (ih _ _).keep
    split
    · exact (ih _ _).keep
    split
    · exact (ih _ _).keep
    split
    next closing =>
      split
      · intro inner behind closed
        cases closed
        rw [closing]
        rfl
      · exact (ih _ _).keep
    · exact (ih _ _).keep

/-- A group that was read stands between its braces, behind blanks. -/
theorem group_ok {index : Nat} {rest : Text} {found : SourceGroup}
    (opened : group index rest = .ok found) : ∃ blanks, (∀ c ∈ blanks, isPythonSpace c = true) ∧
      rest = blanks ++ '\x7b' :: (found.value ++ '\x7d' :: found.behind) ∧
      found.start = index + blanks.length ∧ found.stop = found.start + found.value.length + 2 := by
  refine ⟨rest.takeWhile isPythonSpace, fun _ => List.mem_takeWhile_imp, ?_⟩
  simp only [group] at opened
  split at opened
  next body shape =>
    split at opened
    next value behind closed =>
      cases opened
      refine ⟨?_, rfl, rfl⟩
      conv_lhs => rw [← List.takeWhile_append_dropWhile (p := isPythonSpace) (l := rest), shape,
        closeGroup_closed _ _ _ _ _ closed]
    · cases opened
  · cases opened

theorem group_length {index : Nat} {rest : Text} {found : SourceGroup}
    (opened : group index rest = .ok found) :
    found.value.length + found.behind.length < rest.length := by
  obtain ⟨blanks, -, whole, -⟩ := group_ok opened
  rw [whole]
  simp only [List.length_append, List.length_cons]
  omega

/-- What is read behind a command is shorter than the text from its backslash on. -/
theorem afterCommand_shorter {c : Char} (rest : Text) :
    (rest.dropWhile Char.isAlpha).length < (c :: rest).length :=
  Nat.lt_succ_of_le (List.dropWhile_suffix _).length_le

theorem group_shorter {index : Nat} {c : Char} {rest : Text} {found : SourceGroup}
    (opened : group index (rest.dropWhile Char.isAlpha) = .ok found) :
    found.value.length < (c :: rest).length ∧ found.behind.length < (c :: rest).length := by
  have less := group_length opened
  have suffix := afterCommand_shorter (c := c) rest
  omega

/-- The loop of `_styled` over `value`, at `index`: the joined result and the spans. -/
def styledFrom (offset index : Nat) (rest result : Text) (spans : List EmphasisSpanV1) :
    Except ImportFailure (Text × List EmphasisSpanV1) :=
  match rest with
  | [] => .ok (result, spans)
  | c :: rest =>
    if c ≠ '\\' then styledFrom offset (index + 1) rest (result ++ [c]) spans
    else if rest.head?.any escapable then
      styledFrom offset (index + 2) rest.tail (result ++ rest.take 1) spans
    else
      let command := rest.takeWhile Char.isAlpha
      let after := index + 1 + command.length
      if command = "textbf".toList ∨ command = "skilltag".toList then
        match _opened : group after (rest.dropWhile Char.isAlpha) with
        | .error failure => .error failure
        | .ok found =>
          match styledFrom (offset + after + 1) 0 found.value [] [] with
          | .error failure => .error failure
          | .ok (inner, marks) =>
            match styledResult (offset + after + 1) inner marks with
            | .error failure => .error failure
            | .ok rendered =>
              let begin := result.length
              styledFrom offset found.stop found.behind (result ++ rendered.text)
                (spans ++ (if command = "textbf".toList then
                    [⟨begin, begin + rendered.text.length⟩] else []) ++
                  rendered.emphasis.map fun span => span.shifted begin)
      else if command = "skillgap".toList then
        styledFrom offset after (rest.dropWhile Char.isAlpha) (result ++ ", ".toList) spans
      else .error (.parse "unsupported_inline_command" (offset + index))
termination_by rest.length
decreasing_by
  · simp
  · simp only [List.length_tail, List.length_cons]
    omega
  · exact (group_shorter _opened).1
  · exact (group_shorter _opened).2
  · exact afterCommand_shorter rest

/-- `_styled`. -/
def styled (value : Text) (offset : Nat) : Except ImportFailure StyledText :=
  match styledFrom offset 0 value [] [] with
  | .error failure => .error failure
  | .ok (result, spans) => styledResult offset result spans

example : styled "\\skilltag\x7bC\\#\x7d\\skillgap a\\textbf\x7b\\$1\x7d ".toList 5 =
    .ok ⟨"C#,  a$1".toList, [⟨6, 8⟩]⟩ := by decide +kernel

end Pathfinder
