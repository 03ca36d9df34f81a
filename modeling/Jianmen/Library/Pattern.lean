import Mathlib.Data.List.Basic
import Mathlib.Tactic.Common

/-!
# Backtracking patterns

Regular patterns with capturing groups over an arbitrary alphabet.  A pattern run at a place of
a text yields every way it matches there, preferred ways first: the left alternative before the
right one, and more repetitions before fewer.  A search takes the first way at the leftmost
place, which is how Perl-like engines choose their match.
-/

namespace Jianmen

/-- A pattern; an edge is a place between a word letter and something else. -/
inductive Pattern (α : Type*) where
  | letter (accepts : α → Bool)
  | sequence (first second : Pattern α)
  | either (first second : Pattern α)
  | many (body : Pattern α)
  | edge
  | group (body : Pattern α)

namespace Pattern

variable {α : Type*} (word : α → Bool)

/-- A place of a text during a match: the letter before it, what was matched so far, the groups
closed so far and what follows. -/
structure Place (α : Type*) where
  previous : Option α
  taken : List α
  groups : List (List α)
  rest : List α

/-- Repeat a step as often as possible, then fewer times, down to not at all. -/
def repeatUpTo (step : Place α → List (Place α)) : ℕ → Place α → List (Place α)
  | 0, place => [place]
  | fuel + 1, place => (step place).flatMap (repeatUpTo step fuel) ++ [place]

/-- Every way a pattern matches at a place, preferred ways first. -/
def run : Pattern α → Place α → List (Place α)
  | letter accepts, place =>
    match place.rest with
    | [] => []
    | next :: rest =>
      if accepts next then
        [{ place with previous := some next, taken := place.taken ++ [next], rest := rest }]
      else []
  | sequence first second, place => (first.run place).flatMap second.run
  | either first second, place => first.run place ++ second.run place
  | many body, place => repeatUpTo body.run place.rest.length place
  | edge, place =>
    if place.previous.any word != place.rest.head?.any word then [place] else []
  | group body, place =>
    (body.run place).map fun reached =>
      { reached with
        groups := reached.groups ++ [reached.taken.drop place.taken.length] }

/-- The letters before the leftmost match, and the place it ends at. -/
def search (pattern : Pattern α) : Option α → List α → Option (List α × Place α)
  | previous, [] => (pattern.run word ⟨previous, [], [], []⟩).head?.map fun found => ([], found)
  | previous, next :: rest =>
    match (pattern.run word ⟨previous, [], [], next :: rest⟩).head? with
    | some found => some ([], found)
    | none =>
      (search pattern (some next) rest).map fun found => (next :: found.1, found.2)

/-- A sequence of patterns after a first one. -/
def chain (first : Pattern α) (others : List (Pattern α)) : Pattern α :=
  others.foldl sequence first

/-- Alternatives to a first pattern, in order of preference. -/
def choice (first : Pattern α) (others : List (Pattern α)) : Pattern α :=
  others.foldl either first

end Pattern
end Jianmen
