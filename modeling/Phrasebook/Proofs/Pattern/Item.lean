import Phrasebook.Matching

/-!
# Patterns as sequences of items

A pattern without placeholders is a sequence of items.  Each item allows some ways
to take a piece of the input, in an order of preference, and a path takes the
pieces of all items one after the other.
-/

namespace Phrasebook

namespace Pattern

mutual

inductive Items where
  | done
  | letter (char : Char) (rest : Items)
  | space (rest : Items)
  | regex (program : RegexProgram) (rest : Items)
  | choice (alternatives : Alternatives) (rest : Items)
  /-- An optional sequence, and whether it takes the space behind it along when
  it is skipped. -/
  | optional (absorbing : Bool) (content rest : Items)

inductive Alternatives where
  | none
  | more (content : Items) (others : Alternatives)

end

/-- A way to take a piece of the input: the number of literal characters, the
captures and the choices on it, and the position behind it. -/
structure Path where
  matchedChars : Nat
  captures : List Capture
  choices : List Nat
  stop : Position

namespace Path

def stay (position : Position) : Path :=
  ⟨0, [], [], position⟩

def literal (count : Nat) (stop : Position) : Path :=
  ⟨count, [], [], stop⟩

def captured (capture : Capture) (stop : Position) : Path :=
  ⟨0, [capture], [], stop⟩

def join (first second : Path) : Path :=
  ⟨first.matchedChars + second.matchedChars, first.captures ++ second.captures,
    first.choices ++ second.choices, second.stop⟩

def choose (index : Nat) (path : Path) : Path :=
  { path with choices := index :: path.choices }

def isComplete (path : Path) : Bool :=
  path.stop.rest.isEmpty

/-- What a match of the whole text has bound if it takes this way. -/
def result (text : Text) (path : Path) : MatchResult :=
  ⟨text, [], path.captures, path.choices, path.matchedChars⟩

/-- Each way, and then each way from where it ends, in order. -/
def andThen (paths : List Path) (next : Position → List Path) : List Path :=
  paths.flatMap fun path => (next path.stop).map path.join

theorem stay_join (position : Position) (path : Path) :
    (stay position).join path = path := by
  simp [stay, join]

theorem join_assoc (first second third : Path) :
    (first.join second).join third = first.join (second.join third) := by
  simp [join, Nat.add_assoc]

theorem andThen_nil (next : Position → List Path) : andThen [] next = [] := rfl

theorem andThen_singleton (path : Path) (next : Position → List Path) :
    andThen [path] next = (next path.stop).map path.join := by
  simp [andThen]

theorem andThen_stay (position : Position) (next : Position → List Path) :
    andThen [stay position] next = next position := by
  have unchanged : (stay position).join = id := funext (stay_join position)
  rw [andThen_singleton, unchanged, List.map_id]
  rfl

theorem andThen_nothing (paths : List Path) :
    andThen paths (fun position => [stay position]) = paths := by
  have single : ∀ path : Path, [stay path.stop].map path.join = [path] := by
    intro path
    simp [stay, join]
  simp only [andThen, single]
  exact List.flatMap_singleton' paths

theorem andThen_append (first second : List Path) (next : Position → List Path) :
    andThen (first ++ second) next = andThen first next ++ andThen second next :=
  List.flatMap_append

private theorem andThen_map_join (path : Path) (paths : List Path)
    (next : Position → List Path) :
    andThen (paths.map path.join) next = (andThen paths next).map path.join := by
  simp only [andThen, List.flatMap_map, List.map_flatMap, List.map_map]
  congr 1
  funext later
  congr 1
  funext last
  exact join_assoc path later last

theorem andThen_assoc (paths : List Path) (next later : Position → List Path) :
    andThen (andThen paths next) later =
      andThen paths fun position => andThen (next position) later := by
  induction paths with
  | nil => rfl
  | cons path paths induction =>
      have split : ∀ following, andThen (path :: paths) following =
          andThen [path] following ++ andThen paths following :=
        fun following => andThen_append [path] paths following
      rw [split next, split, andThen_append, induction, andThen_singleton,
        andThen_singleton, andThen_map_join]

theorem andThen_filterMap {α : Type} (items : List α) (way : α → Option Path)
    (next : Position → List Path) :
    andThen (items.filterMap way) next =
      items.flatMap fun item => andThen (way item).toList next := by
  induction items with
  | nil => rfl
  | cons item items induction =>
      rw [List.flatMap_cons, ← induction, ← andThen_append]
      cases taken : way item <;> simp [taken]

/-- The choice of an alternative stands before all choices behind it. -/
theorem andThen_choose (index : Nat) (paths : List Path)
    (next : Position → List Path) :
    andThen (paths.map (choose index)) next =
      (andThen paths next).map (choose index) := by
  simp only [andThen, List.flatMap_map, List.map_flatMap, List.map_map]
  rfl

end Path

/-- How a literal character is taken: one character that equals it up to the case of
letters. -/
def letterPaths (char : Char) (position : Position) : List Path :=
  match position.rest with
  | [] => []
  | next :: rest =>
      if Text.sameLetter char next then [.literal 1 ⟨some next, rest⟩] else []

/-- How a space is taken: nothing at the end of the input or behind a space, and
otherwise exactly one space. -/
def spacePaths (position : Position) : List Path :=
  if position.rest = [] ∨ position.previous = some ' ' then [.stay position]
  else
    match position.rest with
    | ' ' :: rest => [.literal 1 ⟨some ' ', rest⟩]
    | _ => []

/-- How a regular expression slot takes a piece, if the expression matches it as
a whole. -/
def regexPath (program : RegexProgram) (position : Position) (cut : Cut) :
    Option Path :=
  (program.fullMatch? cut.taken).map fun captured =>
    .captured ⟨cut.taken, captured⟩ (position.after cut)

/-- How a regular expression slot is taken: some piece, the shorter the better. -/
def regexPaths (program : RegexProgram) (position : Position) : List Path :=
  (Cut.nonempty position.rest).filterMap (regexPath program position)

mutual

/-- The ways to take a sequence of items from a position on, the preferred ones
first. -/
def Items.paths : Items → Position → List Path
  | .done, position => [.stay position]
  | .letter char rest, position =>
      Path.andThen (letterPaths char position) rest.paths
  | .space rest, position => Path.andThen (spacePaths position) rest.paths
  | .regex program rest, position =>
      Path.andThen (regexPaths program position) rest.paths
  | .choice alternatives rest, position =>
      Path.andThen (alternatives.paths 0 position) rest.paths
  | .optional absorbing content rest, position =>
      Path.andThen (content.paths position) rest.paths ++
        (match absorbing, rest with
          | true, .space later => later.paths position
          | _, rest => rest.paths position)

def Alternatives.paths : Alternatives → Nat → Position → List Path
  | .none, _, _ => []
  | .more content others, index, position =>
      (content.paths position).map (Path.choose index) ++
        others.paths (index + 1) position

end

end Pattern

end Phrasebook
