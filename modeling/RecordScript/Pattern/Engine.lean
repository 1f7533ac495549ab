/-!
# Engines of regular expressions

The language leaves the meaning of its patterns to an engine. All that it asks of the engine is that
a pattern text compiles to a test for texts or gives a report on what is wrong with it.
-/

namespace RecordScript

/-- An engine of regular expressions. A text compiles with or without regard to case; a text that is
no pattern gives the report of the engine. -/
class RegexEngine where
  compile (source : String) (ignoreCase : Bool) : Except String (String → Bool)

end RecordScript
