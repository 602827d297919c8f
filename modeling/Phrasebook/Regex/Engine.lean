import Phrasebook.Text

/-!
# Engines for regular expressions

The slots of a pattern hold regular expressions.  Which texts are expressions
and what they match is up to an engine, of which nothing is known here: what
holds of patterns holds whatever the engine is.
-/

namespace Phrasebook

/-- A compiled regular expression. -/
structure RegexProgram where
  /-- The texts that its groups have captured, if it matches the text as a whole. -/
  fullMatch? : Text → Option (List (Option Text))

structure RegexEngine where
  /-- The expression that a text is the written form of, or what is wrong with
  it. -/
  compile : Text → Except Text RegexProgram

end Phrasebook
