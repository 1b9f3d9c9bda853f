import Mathlib.Data.List.Basic

/-!
# Lexing of TeX

How TeX cuts a text into tokens, without comments and catcode changes: a backslash with the
letters behind it, a backslash with one other character, or a character. A text that ends
between two tokens can be followed by any other without a change to its own tokens.
-/
namespace TexLexing

inductive Token where
  | word (name : List Char)
  | symbol (c : Char)
  | char (c : Char)
  deriving DecidableEq, Repr

/-- What has been read of the next token. -/
inductive State where
  | text
  | escape
  | word (name : List Char)
  deriving DecidableEq, Repr

def letter (c : Char) : Bool := ('a' ≤ c && c ≤ 'z') || ('A' ≤ c && c ≤ 'Z')

/-- A character in front of which no token is open. -/
def fresh (c : Char) : State × List Token := if c = '\\' then (.escape, []) else (.text, [.char c])

def step : State → Char → State × List Token
  | .text, c => fresh c
  | .escape, c => if letter c then (.word [c], []) else (.text, [.symbol c])
  | .word name, c =>
    if letter c then (.word (name ++ [c]), [])
    else ((fresh c).1, .word name :: (fresh c).2)

/-- The tokens of a text, and what it ends in. -/
def lex : State → List Char → State × List Token
  | state, [] => (state, [])
  | state, c :: rest =>
    ((lex (step state c).1 rest).1, (step state c).2 ++ (lex (step state c).1 rest).2)

theorem lex_append (state : State) (first second : List Char) :
    lex state (first ++ second) =
      ((lex (lex state first).1 second).1,
        (lex state first).2 ++ (lex (lex state first).1 second).2) := by
  induction first generalizing state with
  | nil => rfl
  | cons c rest ih => simp [lex, ih]

/-- The text is these tokens, and ends between two of them. -/
def Lexes (text : List Char) (tokens : List Token) : Prop := lex .text text = (.text, tokens)

instance (text : List Char) (tokens : List Token) : Decidable (Lexes text tokens) :=
  inferInstanceAs (Decidable (_ = _))

namespace Lexes
variable {first second text name : List Char} {tokens more : List Token}

theorem nil : Lexes [] [] := rfl

theorem append (left : Lexes first tokens) (right : Lexes second more) :
    Lexes (first ++ second) (tokens ++ more) := by
  unfold Lexes at *
  rw [lex_append, left, right]

theorem char {c : Char} (plain : c ≠ '\\') : Lexes [c] [.char c] := by
  simp [Lexes, lex, step, fresh, plain]

theorem lex_letters (read : List Char) (name : List Char) (letters : name.all letter = true) :
    lex (.word read) name = (.word (read ++ name), []) := by
  induction name generalizing read with
  | nil => simp [lex]
  | cons c rest ih =>
    rw [List.all_cons, Bool.and_eq_true] at letters
    have tail := ih (read ++ [c]) letters.2
    rw [List.append_assoc] at tail
    simp [lex, step, letters.1, tail]

theorem lex_word (letters : name.all letter = true) (named : name ≠ []) :
    lex .text ('\\' :: name) = (.word name, []) := by
  cases name with
  | nil => exact absurd rfl named
  | cons initial rest =>
    rw [List.all_cons, Bool.and_eq_true] at letters
    simp [lex, step, fresh, letters.1, lex_letters [initial] rest letters.2]

/-- A control word in front of a character that is no letter. -/
theorem word {c : Char} (letters : name.all letter = true) (named : name ≠ [])
    (outside : letter c = false) (plain : c ≠ '\\') :
    Lexes ('\\' :: name ++ [c]) [.word name, .char c] := by
  unfold Lexes
  rw [lex_append, lex_word letters named]
  simp [lex, step, outside, fresh, plain]

/-- A control word in front of another command. -/
theorem word_command {rest : List Char} (letters : name.all letter = true) (named : name ≠ [])
    (behind : Lexes ('\\' :: rest) tokens) :
    Lexes ('\\' :: name ++ '\\' :: rest) (.word name :: tokens) := by
  have opened : lex .text ('\\' :: rest) = lex .escape rest := by simp [lex, step, fresh]
  have closed (read : List Char) :
      lex (.word read) ('\\' :: rest) =
        ((lex .escape rest).1, .word read :: (lex .escape rest).2) := by
    simp [lex, step, fresh, letter]
  unfold Lexes at *
  rw [lex_append, lex_word letters named, closed, ← opened, behind]
  rfl

end Lexes

/-- A character that is neither a letter nor a backslash is a token, or a symbol's. -/
theorem mem_lex {text : List Char} {state : State} {c : Char} (member : c ∈ text)
    (outside : letter c = false) (plain : c ≠ '\\') :
    .char c ∈ (lex state text).2 ∨ .symbol c ∈ (lex state text).2 := by
  induction text generalizing state with
  | nil => cases member
  | cons d rest ih =>
    rcases List.mem_cons.mp member with rfl | later
    · cases state with
      | text => exact .inl (by simp [lex, step, fresh, plain])
      | escape => exact .inr (by simp [lex, step, outside])
      | word name => exact .inl (by simp [lex, step, fresh, outside, plain])
    · rcases @ih (step state d).1 later with token | token
      · exact .inl (List.mem_append_right _ token)
      · exact .inr (List.mem_append_right _ token)

/-! ## Groups -/

/-- The depth of groups behind the tokens; none where a group is closed that was not opened. -/
def depthAfter : Nat → List Token → Option Nat
  | depth, [] => some depth
  | depth, token :: rest =>
    if token = .char '\x7b' then depthAfter (depth + 1) rest
    else if token = .char '\x7d' then
      match depth with
      | 0 => none
      | depth + 1 => depthAfter depth rest
    else depthAfter depth rest

theorem depthAfter_append (depth : Nat) (first second : List Token) :
    depthAfter depth (first ++ second) =
      (depthAfter depth first).bind fun between => depthAfter between second := by
  induction first generalizing depth with
  | nil => rfl
  | cons token rest ih =>
    simp only [List.cons_append, depthAfter]
    split
    · exact ih _
    · split
      · cases depth with
        | zero => rfl
        | succ depth => exact ih _
      · exact ih _

/-- Every group is closed, and none that was open before. -/
def Balanced (tokens : List Token) : Prop := ∀ depth, depthAfter depth tokens = some depth

namespace Balanced
variable {first second inner : List Token}

theorem nil : Balanced [] := fun _ => rfl

theorem append (left : Balanced first) (right : Balanced second) : Balanced (first ++ second) := by
  intro depth
  rw [depthAfter_append, left depth]
  exact right depth

theorem token {token : Token} (opens : token ≠ .char '\x7b') (closes : token ≠ .char '\x7d') :
    Balanced [token] := by
  intro depth
  simp [depthAfter, opens, closes]

theorem group (body : Balanced inner) :
    Balanced (.char '\x7b' :: inner ++ [.char '\x7d']) := by
  intro depth
  have opened : depthAfter depth (.char '\x7b' :: (inner ++ [.char '\x7d'])) =
      depthAfter (depth + 1) (inner ++ [.char '\x7d']) := rfl
  rw [List.cons_append, opened, depthAfter_append, body (depth + 1)]
  rfl

end Balanced

/-! ## Texts that can stand anywhere -/

/-- The text ends between two tokens, its groups are balanced and its tokens allowed. -/
def Safe (allowed : Token → Prop) (text : List Char) : Prop :=
  ∃ tokens, Lexes text tokens ∧ Balanced tokens ∧ ∀ token ∈ tokens, allowed token

namespace Safe
variable {allowed wider : Token → Prop} {first second body name : List Char}

theorem mono (safe : Safe allowed body) (wide : ∀ token, allowed token → wider token) :
    Safe wider body := by
  obtain ⟨tokens, lexes, balanced, inside⟩ := safe
  exact ⟨tokens, lexes, balanced, fun token member => wide token (inside token member)⟩

theorem nil : Safe allowed [] := ⟨[], .nil, .nil, nofun⟩

theorem append (left : Safe allowed first) (right : Safe allowed second) :
    Safe allowed (first ++ second) := by
  obtain ⟨tokens, lexes, balanced, inside⟩ := left
  obtain ⟨more, lexes', balanced', inside'⟩ := right
  refine ⟨tokens ++ more, lexes.append lexes', balanced.append balanced', ?_⟩
  intro token member
  rcases List.mem_append.mp member with early | late
  · exact inside token early
  · exact inside' token late

theorem char {c : Char} (plain : c ≠ '\\') (opens : c ≠ '\x7b') (closes : c ≠ '\x7d')
    (ok : allowed (.char c)) : Safe allowed [c] :=
  ⟨[.char c], .char plain, .token (by simpa using opens) (by simpa using closes), by simpa using ok⟩

theorem flatMap {α : Type*} {code : α → List Char} {items : List α}
    (each : ∀ item ∈ items, Safe allowed (code item)) : Safe allowed (items.flatMap code) := by
  induction items with
  | nil => exact nil
  | cons item rest ih =>
    exact (each item List.mem_cons_self).append
      (ih fun other member => each other (List.mem_cons_of_mem item member))

/-- What no token may be does not occur. -/
theorem not_mem {c : Char} (safe : Safe allowed body) (outside : letter c = false)
    (plain : c ≠ '\\') (char : ¬ allowed (.char c)) (symbol : ¬ allowed (.symbol c)) :
    c ∉ body := by
  obtain ⟨tokens, lexes, -, inside⟩ := safe
  intro member
  have token := @mem_lex _ .text _ member outside plain
  rw [show lex .text body = (.text, tokens) from lexes] at token
  rcases token with token | token
  · exact char (inside _ token)
  · exact symbol (inside _ token)

/-- A control word in front of another command. -/
theorem word_command {rest : List Char} (letters : name.all letter = true) (named : name ≠ [])
    (ok : allowed (.word name)) (safe : Safe allowed ('\\' :: rest)) :
    Safe allowed ('\\' :: name ++ '\\' :: rest) := by
  obtain ⟨tokens, lexes, balanced, inside⟩ := safe
  have word : Balanced [Token.word name] := .token nofun nofun
  refine ⟨.word name :: tokens, lexes.word_command letters named, word.append balanced, ?_⟩
  intro token member
  rcases List.mem_cons.mp member with rfl | later
  · exact ok
  · exact inside token later

section Group
variable (opens : allowed (.char '\x7b')) (closes : allowed (.char '\x7d'))
include opens closes

theorem group (safe : Safe allowed body) : Safe allowed ('\x7b' :: body ++ ['\x7d']) := by
  obtain ⟨tokens, lexes, balanced, inside⟩ := safe
  refine ⟨.char '\x7b' :: tokens ++ [.char '\x7d'], ?_, balanced.group, ?_⟩
  · exact ((Lexes.char (by decide)).append lexes).append (Lexes.char (by decide))
  · intro token member
    rcases List.mem_append.mp member with early | late
    · rcases List.mem_cons.mp early with rfl | within
      · exact opens
      · exact inside token within
    · rw [List.mem_singleton.mp late]
      exact closes

/-- A control word with one argument. -/
theorem command (letters : name.all letter = true) (named : name ≠ [])
    (ok : allowed (.word name)) (safe : Safe allowed body) :
    Safe allowed ('\\' :: name ++ ('\x7b' :: body ++ ['\x7d'])) := by
  obtain ⟨tokens, lexes, balanced, inside⟩ := safe
  have opened : Lexes ('\\' :: name ++ ['\x7b']) [.word name, .char '\x7b'] :=
    .word letters named (by decide) (by decide)
  have closed : Lexes ['\x7d'] [.char '\x7d'] := .char (by decide)
  have word : Balanced [Token.word name] := .token nofun nofun
  refine ⟨[.word name] ++ ((.char '\x7b' :: tokens) ++ [.char '\x7d']), ?_,
    word.append balanced.group, ?_⟩
  · simpa using (opened.append lexes).append closed
  · intro token member
    rcases List.mem_append.mp member with first | rest
    · rw [List.mem_singleton.mp first]
      exact ok
    rcases List.mem_append.mp rest with early | late
    · rcases List.mem_cons.mp early with rfl | within
      · exact opens
      · exact inside token within
    · rw [List.mem_singleton.mp late]
      exact closes

end Group
end Safe
end TexLexing
