import Phrasebook.Text.Quoted

/-!
# Boundaries of a placeholder

A placeholder takes a piece of the input.  The candidates for its end are tried
from the nearest to the farthest, and quoted and braced runs are jumped over: a
run that starts at the place under consideration is taken as a whole.
-/

namespace Phrasebook

/-- A way to cut a text in two. -/
structure Cut where
  taken : Text
  rest : Text
  deriving DecidableEq

namespace Cut

/-- How the search for the next boundary proceeds. -/
inductive Gait where
  /-- Look out for a run that starts here. -/
  | look
  /-- Pass over so many more characters of a run and cut there. -/
  | pass (left : Nat)

/-- The cuts of the rest of a text, nearest first, after `taken` has been taken.
An unterminated run ends the list. -/
def onward : Gait → Text → Text → List Cut
  | .look, taken, [] => [⟨taken, []⟩]
  | .look, taken, char :: rest =>
      if Text.opensRun char then
        match Text.runLength char rest with
        | none => []
        | some length => Cut.onward (.pass (length - 1)) (taken ++ [char]) rest
      else ⟨taken, char :: rest⟩ :: Cut.onward .look (taken ++ [char]) rest
  | .pass 0, taken, [] => [⟨taken, []⟩]
  | .pass 0, taken, char :: rest =>
      ⟨taken, char :: rest⟩ :: Cut.onward .look (taken ++ [char]) rest
  | .pass (_ + 1), _, [] => []
  | .pass (left + 1), taken, char :: rest =>
      Cut.onward (.pass left) (taken ++ [char]) rest

/-- The cuts that a placeholder tries on a text.  The last placeholder of a pattern
takes everything; any other takes at least one character or run. -/
def ofPlaceholder (isLast : Bool) (text : Text) : List Cut :=
  if isLast then [⟨text, []⟩]
  else
    match text with
    | [] => []
    | char :: rest =>
        if Text.opensRun char then
          match Text.runLength char rest with
          | none => []
          | some length => Cut.onward .look (text.take length) (text.drop length)
        else Cut.onward .look [char] rest

/-- All cuts of a text after at least one character, nearest first. -/
def nonempty (text : Text) : List Cut :=
  (List.range text.length).map fun index =>
    ⟨text.take (index + 1), text.drop (index + 1)⟩

end Cut

end Phrasebook
