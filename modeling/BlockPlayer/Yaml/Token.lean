/-!
# YAML tokens

What a text in YAML is made of. Blocks have no brackets of their own; where one begins and ends is told by tokens
that stand for no characters.
-/

namespace BlockPlayer.Yaml

/-- A line that says how a document is to be read. -/
inductive Directive
  | version
  /-- The handle stands for the beginning of tags. -/
  | tag (handle stem : String)
  | other
  deriving DecidableEq, Repr

/-- What a text is made of. -/
inductive Token
  | directive (d : Directive)
  | documentStart
  | documentEnd
  | blockSequence
  | blockMapping
  | blockEnd
  | flowSequence
  | flowSequenceEnd
  | flowMapping
  | flowMappingEnd
  | blockEntry
  | flowEntry
  | key
  | value
  | alias (name : String)
  | anchor (name : String)
  | tag (handle suffix : String)
  | plain (s : String)
  /-- A scalar that is a text whatever it looks like. -/
  | text (s : String)
  deriving DecidableEq, Repr

end BlockPlayer.Yaml
