import Phrasebook.Text.Blank
import Phrasebook.Text.LetterCase
import Phrasebook.Text.Quoted

/-!
# Written lists

A list of values is written with commas and a final conjunction, as in
`a, b and c`.  Separators inside of quotes do not count.
-/

namespace Phrasebook.ListText

/-- The words that may separate items. -/
inductive Conjunction where
  | and
  | or
  | nor
  deriving DecidableEq

/-- What stands between two items: its length, and the word in it. -/
structure Separator where
  length : Nat
  word : Option Conjunction
  deriving DecidableEq

namespace Conjunction

def written : Conjunction → Text
  | .and => "and"
  | .or => "or"
  | .nor => "nor"

/-- The conjunction that the text starts with, in any case of letters, and what
follows it.  The word has to end at a blank. -/
def leading? (text : Text) : Option Conjunction :=
  [.and, .nor, .or].find? fun conjunction =>
    let word := conjunction.written
    (text.take word.length).map Char.toLower == word &&
      (text.drop word.length).head?.any Text.isBlank

end Conjunction

def blanks (text : Text) : Nat :=
  (text.takeWhile Text.isBlank).length

/-- A conjunction at the start of the text together with the blanks after it. -/
def leadingWord? (text : Text) : Option Separator :=
  (Conjunction.leading? text).map fun conjunction =>
    let length := conjunction.written.length
    ⟨length + blanks (text.drop length), some conjunction⟩

/-- The separator at the start of the text: a comma with blanks around it, which
may be followed by a conjunction and blanks, or else a conjunction between
blanks. -/
def separator? (text : Text) : Option Separator :=
  let before := blanks text
  match text.drop before with
  | ',' :: rest =>
      let length := before + 1 + blanks rest
      match leadingWord? (text.drop length) with
      | some word => some ⟨length + word.length, word.word⟩
      | none => some ⟨length, none⟩
  | rest =>
      if before = 0 then none
      else (leadingWord? rest).map fun word => ⟨before + word.length, word.word⟩

/-- Goes on splitting, with the part read so far.  An unterminated quote makes
the rest of the text one part. -/
def splitFrom : Nat → Text → Text → List Text × Bool
  | 0, part, text => ([part ++ text], true)
  | _ + 1, part, [] => ([part], true)
  | fuel + 1, part, char :: rest =>
      if char = '"' then
        match Text.closingQuote rest with
        | none => ([part ++ char :: rest], true)
        | some offset =>
            splitFrom fuel (part ++ char :: rest.take (offset + 1))
              (rest.drop (offset + 1))
      else
        match (if part.isEmpty then none else separator? (char :: rest)) with
        | some separator =>
            let (parts, andList) :=
              splitFrom fuel [] ((char :: rest).drop separator.length)
            let conjoins := separator.word.all (· == .and)
            (part :: parts, conjoins && andList)
        | none => splitFrom fuel (part ++ [char]) rest

/-- The items of a written list, and whether they are all meant together rather
than one of them. -/
def split (text : Text) : List Text × Bool :=
  splitFrom text.length [] text

/-- The written list of the items. -/
def join (items : List Text) (andList : Bool) : Text :=
  match items with
  | [] => []
  | [item] => item
  | items =>
      Text.join ", " items.dropLast ++ (if andList then " and " else " or ") ++
        (items.getLast?.getD [])

end Phrasebook.ListText
