/-!
# Wildcards

A wildcard is a pattern for whole paths. A question mark stands for any
character and a star for any run of characters, slashes included; brackets
give a choice of characters, or, with an exclamation mark, the characters that
are not to be chosen. Two stars that make a component of their own stand for
any number of components.

`Wildcard.accepts` reads a pattern piece by piece: a `Token` says what may be
left of a text behind it (`Token.rests`).
-/

namespace PcdCatalog

namespace Wildcard

/-- What one piece of a pattern stands for. -/
inductive Token where
  | literal (c : Char)
  | one
  /-- A character between the ends of one of the ranges. -/
  | within (ranges : List (Char × Char))
  /-- A character outside all of the ranges. -/
  | outside (ranges : List (Char × Char))
  | run
  /-- Any number of components. -/
  | deep
deriving DecidableEq, Inhabited

/-! ## Matching -/

/-- All the suffixes of a text, itself the first. -/
def suffixes : List Char → List (List Char)
  | [] => [[]]
  | c :: cs => (c :: cs) :: suffixes cs

/-- What is left behind each slash of a text. -/
def behindSlashes : List Char → List (List Char)
  | [] => []
  | c :: cs => if c = '/' then cs :: behindSlashes cs else behindSlashes cs

/-- Whether a character is in one of the ranges. -/
def inRanges (ranges : List (Char × Char)) (c : Char) : Bool :=
  ranges.any fun r => r.1 ≤ c && c ≤ r.2

/-- **What may be left of a text behind a token.** -/
def Token.rests : Token → List Char → List (List Char)
  | literal x, c :: cs => if c = x then [cs] else []
  | one, _ :: cs => [cs]
  | within ranges, c :: cs => if inRanges ranges c then [cs] else []
  | outside ranges, c :: cs => if inRanges ranges c then [] else [cs]
  | run, cs => suffixes cs
  | deep, cs => cs :: behindSlashes cs ++ [[]]
  | _, [] => []

/-- Whether tokens, one after the other, stand for the whole of a text. -/
def accepts : List Token → List Char → Bool
  | [], cs => cs.isEmpty
  | t :: ts, cs => (t.rests cs).any (accepts ts)

/-! ## Reading -/

/-- Why a text is not a wildcard, and where. -/
inductive Fault where
  /-- More than two stars in a row. -/
  | stars (position : Nat)
  /-- Two stars beside something that is not a slash. -/
  | component (position : Nat)
  /-- Brackets that are not closed or hold nothing. -/
  | choice (position : Nat)
deriving DecidableEq, Inhabited

/-- The fault in words. -/
def Fault.message : Fault → String
  | stars p => text p "wildcards are either regular `*` or recursive `**`"
  | component p => text p "recursive wildcards must form a single path component"
  | choice p => text p "invalid range pattern"
where
  /-- A place and what is wrong there. -/
  text (p : Nat) (what : String) : String :=
    "Pattern syntax error near position " ++ toString p ++ ": " ++ what

/-- The ranges of a choice: three characters with a dash in the middle, or a
single one. -/
def ranges : List Char → List (Char × Char)
  | a :: '-' :: b :: cs => (a, b) :: ranges cs
  | a :: cs => (a, a) :: ranges cs
  | [] => []

/-- The characters of a choice and what follows it. The first one may be a
closing bracket. -/
def choice? : List Char → Option (List Char × List Char)
  | [] => none
  | c :: cs =>
    match cs.dropWhile (· != ']') with
    | [] => none
    | _ :: rest => some (c :: cs.takeWhile (· != ']'), rest)

theorem length_lt_of_choice? {cs inside rest : List Char} (h : choice? cs = some (inside, rest)) :
    rest.length < cs.length := by
  cases cs with
  | nil => simp [choice?] at h
  | cons c cs =>
    have hl := (List.dropWhile_suffix (l := cs) (· != ']')).length_le
    simp only [choice?] at h
    split at h
    · simp at h
    · next heq =>
      rw [heq] at hl
      simp only [Option.some.injEq, Prod.mk.injEq] at h
      simp only [← h.2, List.length_cons] at hl ⊢
      omega

/-- The tokens of a pattern from a position on, where `before` is the character
in front of it. -/
def tokensFrom (before : Option Char) (position : Nat) (cs : List Char) : Except Fault (List Token) :=
  match cs with
  | [] => .ok []
  | '*' :: '*' :: '*' :: _ => .error (.stars (position + 2))
  | '*' :: '*' :: rest =>
    if before.all (· = '/') then
      match rest with
      | [] => .ok [.deep]
      | c :: rest =>
        if c = '/' then (tokensFrom (some c) (position + 3) rest).map (.deep :: ·)
        else .error (.component (position + 2))
    else .error (.component (position - 1))
  | '*' :: rest => (tokensFrom (some '*') (position + 1) rest).map (.run :: ·)
  | '?' :: rest => (tokensFrom (some '?') (position + 1) rest).map (.one :: ·)
  | '[' :: '!' :: rest =>
    match h : choice? rest with
    | none => .error (.choice position)
    | some (inside, after) =>
      have := length_lt_of_choice? h
      (tokensFrom (some ']') (position + 3 + inside.length) after).map (.outside (ranges inside) :: ·)
  | '[' :: rest =>
    match h : choice? rest with
    | none => .error (.choice position)
    | some (inside, after) =>
      have := length_lt_of_choice? h
      (tokensFrom (some ']') (position + 2 + inside.length) after).map (.within (ranges inside) :: ·)
  | c :: rest => (tokensFrom (some c) (position + 1) rest).map (.literal c :: ·)
termination_by cs.length

end Wildcard

/-- **A pattern for paths.** -/
structure Wildcard where
  tokens : List Wildcard.Token
deriving DecidableEq, Inhabited

namespace Wildcard

/-- Read a wildcard. -/
def parse (s : String) : Except Fault Wildcard := (tokensFrom none 0 s.toList).map Wildcard.mk

/-- Whether a wildcard stands for the text of a path. -/
def selects (w : Wildcard) (text : String) : Bool := accepts w.tokens text.toList

end Wildcard

end PcdCatalog
