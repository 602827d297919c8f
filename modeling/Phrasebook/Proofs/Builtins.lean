import Phrasebook.Builtin
import Phrasebook.Parsing

/-!
# The registry of built-in types

Registering the built-in types in an empty registry succeeds, and what comes out is
the registry that most texts about plain values are matched against.
-/

namespace Phrasebook.Registry

def builtins : Registry :=
  { empty with
    types := RegisteredType.builtins
    plurals := (RegisteredType.builtins.map fun type =>
      (type.plural, type.name)).reverse }

theorem withBuiltins_eq : withBuiltins = .ok builtins := by
  rfl

end Phrasebook.Registry

def Phrasebook.Parser.builtins : Phrasebook.Parser :=
  ⟨.builtins, .standard⟩
