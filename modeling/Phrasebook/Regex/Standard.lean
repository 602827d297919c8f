import Phrasebook.Regex.Engine
import Phrasebook.Regex.Match
import Phrasebook.Regex.Reader

/-!
# An engine

The engine that registries begin with.  Of the groups that a question mark
opens it reads `(?:…)` alone, so lookaround, conditions, comments and inline
flags are refused; so are references back to a group, characters escaped by
their names and the codes of surrogates.  A number of rounds that is too large
is a fault of the expression like any other.
-/

namespace Phrasebook.RegexEngine

def standard : RegexEngine where
  compile body :=
    match Regex.read body with
    | .error fault => .error (fault.message body)
    | .ok (regex, groups) => .ok ⟨regex.fullMatch? groups⟩

end Phrasebook.RegexEngine
