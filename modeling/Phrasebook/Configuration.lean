import Phrasebook.Configuration.Toml
import Phrasebook.FileTree
import Phrasebook.Parsing

/-!
# Configurations

A configuration sets the parser's options and says which modules provide syntax.
It is written in a file that stands beside the scripts or in a directory above
them.
-/

namespace Phrasebook

/-- Settings for work on scripts. -/
structure Configuration where
  options : ParserOptions
  /-- Whether the bundled library provides syntax. -/
  withLibrary : Bool
  /-- The names of further modules that provide syntax. -/
  modules : List Text

namespace Configuration

def fileName : Text := "syntaxmatch.toml"

/-- The configuration that holds where no file sets another. -/
def standard : Configuration := ⟨.standard, true, []⟩

def integerAt? (entries : List Toml.Entry) (key : List Text) : Option Int :=
  match entries.lookup key with
  | some (.integer value) => some value
  | _ => none

def textAt? (entries : List Toml.Entry) (key : List Text) : Option Text :=
  match entries.lookup key with
  | some (.text value) => some value
  | _ => none

def truthAt? (entries : List Toml.Entry) (key : List Text) : Option Bool :=
  match entries.lookup key with
  | some (.truth value) => some value
  | _ => none

def textsAt? (entries : List Toml.Entry) (key : List Text) : Option (List Text) :=
  match entries.lookup key with
  | some (.texts values) => some values
  | _ => none

/-- The configuration that settings describe; what they leave out is as in the
standard one. -/
def ofEntries (entries : List Toml.Entry) : Configuration where
  options :=
    ⟨(integerAt? entries ["parser", "min_error_chars"]).getD
      standard.options.minErrorChars,
      (textAt? entries ["parser", "default_error"]).getD
        standard.options.defaultError⟩
  withLibrary :=
    (truthAt? entries ["providers", "library"]).getD standard.withLibrary
  modules := (textsAt? entries ["providers", "modules"]).getD standard.modules

end Configuration

namespace FileTree

/-- The first configuration file in the directories from a depth upwards on the way
to a place. -/
def configAbove? (tree : FileTree) (place : List Text) : Nat → Option (List Text)
  | 0 =>
      let candidate := [Configuration.fileName]
      (tree.contentAt? candidate).map fun _ => candidate
  | depth + 1 =>
      let candidate := place.take (depth + 1) ++ [Configuration.fileName]
      match tree.contentAt? candidate with
      | some _ => some candidate
      | none => tree.configAbove? place depth

/-- The place of the configuration file that is nearest to a path: in the directory
of a file, in the directory itself, or in one above. -/
def configFor? (tree : FileTree) (path : Text) : Option (List Text) :=
  let place := tree.resolve path
  let directory := match tree.nodeAt? place with
    | some (.file _) => place.dropLast
    | _ => place
  tree.configAbove? directory directory.length

def configAt (tree : FileTree) (place : List Text) : Configuration :=
  match tree.contentAt? place with
  | some content => .ofEntries (Toml.entries content)
  | none => .standard

/-- The configuration that holds for a path. -/
def configOf (tree : FileTree) (path : Text) : Configuration :=
  match tree.configFor? path with
  | some place => tree.configAt place
  | none => .standard

end FileTree

end Phrasebook
