import Phrasebook.Regex.Basic

/-!
# Matching regular expressions

A regular expression is matched by backtracking: each part is given what
remains to be done after it and tries its ways in order, so the first way that
the whole expression can go decides the captures.
-/

namespace Phrasebook.Regex

/-- A place in the text being matched, with the groups captured on the way. -/
structure Place where
  previous : Option Char
  rest : Text
  captured : List (Nat × Text)

/-- What remains to be done from a place. -/
abbrev Continuation := Place → Option Place

namespace Place

def step (place : Place) (char : Char) (rest : Text) : Place :=
  { place with previous := some char, rest }

/-- Whether exactly one of the two neighbouring characters stands in a word. -/
def atWordEdge (place : Place) : Bool :=
  let before := place.previous.any Text.isWordChar
  let after := place.rest.head?.any Text.isWordChar
  before != after

def satisfies (place : Place) : Anchor → Bool
  | .start => place.previous.isNone
  | .stop => place.rest.isEmpty || place.rest == ['\n']
  | .textEnd => place.rest.isEmpty
  | .wordEdge => place.atWordEdge
  | .noWordEdge => !place.atWordEdge

/-- The place with the text from an earlier place on captured as a group. -/
def capture (place : Place) (group : Nat) (start : Text) : Place :=
  { place with
    captured := (group, start.take (start.length - place.rest.length)) ::
      place.captured }

end Place

/-- How one round of a repetition is matched. -/
abbrev Round := Place → Continuation → Option Place

/-- Whether another round is allowed after so many. -/
def allowsMore (most : Option Nat) (count : Nat) : Bool :=
  most.all (count < ·)

/-- Repeats as often as possible and gives rounds back one by one.  Beyond the
least number a round is tried only at a place where the last one did not
start. -/
def repeatGreedily (round : Round) (least : Nat) (most : Option Nat) :
    Nat → Nat → Option Nat → Place → Continuation → Option Place
  | 0, _, _, _, _ => none
  | fuel + 1, count, lastStart, place, next =>
      if count < least then
        round place fun after =>
          repeatGreedily round least most fuel (count + 1) lastStart after next
      else
        let here := place.rest.length
        let further :=
          if allowsMore most count && lastStart != some here then
            round place fun after =>
              repeatGreedily round least most fuel (count + 1)
                (some here) after next
          else none
        further.or (next place)

/-- Repeats as rarely as possible and adds rounds one by one. -/
def repeatLazily (round : Round) (least : Nat) (most : Option Nat) :
    Nat → Nat → Option Nat → Place → Continuation → Option Place
  | 0, _, _, _, _ => none
  | fuel + 1, count, lastStart, place, next =>
      if count < least then
        round place fun after =>
          repeatLazily round least most fuel (count + 1) lastStart after next
      else
        let here := place.rest.length
        (next place).or
          (if allowsMore most count && lastStart != some here then
            round place fun after =>
              repeatLazily round least most fuel (count + 1) (some here) after next
          else none)

/-- Repeats as often as possible; each round keeps the first way it finds. -/
def repeatPossessively (round : Round) (least : Nat) (most : Option Nat) :
    Nat → Nat → Place → Option Place
  | 0, _, _ => none
  | fuel + 1, count, place =>
      let further := if allowsMore most count then round place some else none
      match further with
      | some after =>
          if after.rest.length == place.rest.length && least ≤ count then some after
          else repeatPossessively round least most fuel (count + 1) after
      | none => if least ≤ count then some place else none

def run : Regex → Place → Continuation → Option Place
  | .empty, place, next => next place
  | .test check, place, next =>
      match place.rest with
      | [] => none
      | char :: rest => if check.passes char then next (place.step char rest)
          else none
  | .anchor spot, place, next => if place.satisfies spot then next place else none
  | .seq first second, place, next => run first place fun after =>
      run second after next
  | .alt first second, place, next =>
      (run first place next).or (run second place next)
  | .capture group body, place, next =>
      run body place fun after => next (after.capture group place.rest)
  | .repeated body least most appetite, place, next =>
      let fuel := least + place.rest.length + 2
      match appetite with
      | .greedy => repeatGreedily (run body) least most fuel 0 none place next
      | .lazy => repeatLazily (run body) least most fuel 0 none place next
      | .possessive =>
          (repeatPossessively (run body) least most fuel 0 place).bind next

/-- Matches the expression against a whole text.  The answer lists, for each
group, the text it captured last, if any. -/
def fullMatch? (regex : Regex) (groups : Nat) (text : Text) :
    Option (List (Option Text)) :=
  let finish : Continuation := fun place => if place.rest.isEmpty then
    some place else none
  (run regex ⟨none, text, []⟩ finish).map fun place =>
    (List.range groups).map fun group => place.captured.lookup group

end Phrasebook.Regex
