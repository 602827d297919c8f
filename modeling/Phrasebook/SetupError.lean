import Phrasebook.Pattern.Fault

/-!
# Setup errors

A setup error means that a syntax provider, a type or a command has been
declared wrongly.  Bad user input never raises one.
-/

namespace Phrasebook

/-- Why a declaration cannot be used. -/
inductive SetupError where
  | malformedPattern (pattern : Text) (fault : PatternFault)
  | registrationClosed
  | duplicateType (name : Text)
  | unknownType (name : Text)
  | noPatterns
  | noDefault (type : Text)
  | defaultNotSingle (type : Text)
  | defaultWithoutTimes (type : Text)
  /-- The written default is no literal of the argument's type; arguments are
  counted from 1. -/
  | badArgumentDefault (written : Text) (position : Nat) (command : Text)
  | argumentCount (command : Text) (declared placeholders : Nat)
  | noRegistration (moduleName : Text)
  /-- Resolving a text led back to resolving the same text. -/
  | endlessNesting
  deriving DecidableEq

namespace SetupError

/-- The name under which the error is reported. -/
def kind : SetupError → Text
  | .malformedPattern _ _ => "MalformedPatternError"
  | _ => "SyntaxAPIError"

def message : SetupError → Text
  | .malformedPattern pattern fault => "\"" ++ pattern ++ "\": " ++ fault.message
  | .registrationClosed => "registration is closed; the registry is frozen"
  | .duplicateType name => "type '" ++ name ++ "' is already registered"
  | .unknownType name => "no type named '" ++ name ++ "' is registered"
  | .noPatterns => "a syntax element needs at least one pattern"
  | .noDefault type =>
      "The class '" ++ type ++ "' does not provide a default expression. " ++
        "Either allow null (with %-" ++ type ++ "%) or make it mandatory"
  | .defaultNotSingle type =>
      "The default expression of '" ++ type ++
        "' is not a single-element expression. " ++
        "Change your pattern to allow multiple elements or " ++
        "make the expression mandatory"
  | .defaultWithoutTimes type =>
      "The default expression of '" ++ type ++
        "' does not have distinct time states. " ++
        "Either allow null (with %-" ++ type ++ "%) or make it mandatory"
  | .badArgumentDefault written position command =>
      "'" ++ written ++ "' is not a valid default for argument " ++
        Text.ofNat position ++
        " of command '" ++ command ++ "'"
  | .argumentCount command declared placeholders =>
      "command '" ++ command ++ "' declares " ++ Text.ofNat declared ++
        " arguments " ++
        "but its pattern has " ++ Text.ofNat placeholders ++ " placeholders"
  | .noRegistration moduleName =>
      "provider module '" ++ moduleName ++ "' has no register(registry) function"
  | .endlessNesting => "resolving a text leads back to the same text"

end SetupError

end Phrasebook
