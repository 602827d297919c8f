import Phrasebook.BlockGame.Syntax
import Phrasebook.Configuration

/-!
# Provision of syntax

A registry for scripts is made as a configuration describes: from the built-in
types, the bundled library and further modules, in this order.  Then it is
closed.
-/

namespace Phrasebook

/-- A module that can be named in a configuration.  One that provides syntax has a
registration. -/
structure ProviderModule where
  name : Text
  register : Option (Registry → Except SetupError Registry)

/-- Why a configuration does not lead to a registry. -/
inductive ProvisionFault where
  | setup (error : SetupError)
  | unknownModule (name : Text)
  /-- The name continues that of a module which holds no others. -/
  | insideModule (name outer : Text)
  deriving DecidableEq

namespace ProvisionFault

def message : ProvisionFault → Text
  | .setup error => error.message
  | .unknownModule name => "No module named '" ++ name ++ "'"
  | .insideModule name outer =>
      "No module named '" ++ name ++ "'; '" ++ outer ++ "' is not a package"

end ProvisionFault

def BlockGame.providerModule : ProviderModule :=
  ⟨"syntaxmatch.library", some BlockGame.register⟩

namespace ProviderModule

def find? (modules : List ProviderModule) (name : Text) : Option ProviderModule :=
  modules.find? (·.name == name)

/-- Whether there are modules inside of the named one. -/
def holdsOthers (modules : List ProviderModule) (name : Text) : Bool :=
  modules.any fun module => (name ++ ['.']).isPrefixOf module.name

/-- Why there is no module of the name: the outermost module on the way to it that
is missing. -/
def missing (modules : List ProviderModule) (outer : Text) :
    List Text → ProvisionFault
  | [] => .unknownModule outer
  | part :: rest =>
      let name := if outer.isEmpty then part else outer ++ '.' :: part
      if (find? modules name).isSome || holdsOthers modules name then
        missing modules name rest
      else if outer.isEmpty || holdsOthers modules outer then .unknownModule name
      else .insideModule name outer

/-- Registers what the named module provides. -/
def load (modules : List ProviderModule) (registry : Registry) (name : Text) :
    Except ProvisionFault Registry :=
  match find? modules name with
  | none => .error (missing modules [] (Text.splitOnChar '.' name))
  | some ⟨_, none⟩ => .error (.setup (.noRegistration name))
  | some ⟨_, some register⟩ => (register registry).mapError .setup

end ProviderModule

namespace Configuration

/-- The registry that the configuration describes, closed, where the given modules
can be named. -/
def registry (config : Configuration) (modules : List ProviderModule) :
    Except ProvisionFault Registry := do
  let builtins ← Registry.withBuiltins.mapError .setup
  let base ← if config.withLibrary then
    (BlockGame.register builtins).mapError .setup
    else pure builtins
  let full ← config.modules.foldlM (ProviderModule.load modules) base
  pure full.freeze

/-- A parser with the configuration's options and registry. -/
def parser (config : Configuration) (modules : List ProviderModule) :
    Except ProvisionFault Parser := do
  let registry ← config.registry modules
  pure ⟨registry, config.options⟩

end Configuration

end Phrasebook
