import RecordQuery.Pattern.Meaning
import RecordQuery.Pattern.Reader
import RecordQuery.Pattern.Size

/-!
# Patterns

A **pattern** is a regular expression together with its text.

* `Pattern.compile?` — reads a pattern; nothing if the text is malformed, asks for something
  unknown, or asks for too much;
* `Pattern.isFoundIn` — whether some part of a text matches.
-/

namespace RecordQuery

/-- A regular expression together with its text. -/
structure Pattern where
  source : String
  regex : Pattern.Regex

namespace Pattern

/-- Reads a pattern. -/
def compile? (source : String) : Option Pattern := do
  let written ← Written.read? source.toList
  let (regex, _) ← written.meaning? .initial
  if regex.fits then some ⟨source, regex⟩ else none

/-- Whether some part of a text matches. -/
def isFoundIn (pattern : Pattern) (text : String) : Bool := pattern.regex.isFoundIn text.toList

end Pattern

end RecordQuery
