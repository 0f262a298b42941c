/-!
# Tokens

The words of a document: brackets and separators, those that are written and those that follow from
the indentation, and the scalars with what stands before them.
-/

namespace AnalysisSettings.Yaml

/-- A word of a document. -/
inductive Token where
  /-- The version of the language that the document is written in. -/
  | version (major minor : Nat)
  /-- A short name for the beginning of tags. -/
  | tagHandle (handle lead : String)
  | documentStart
  | documentEnd
  | blockSequence
  | blockMapping
  /-- The end of a sequence or mapping that is told by indentation. -/
  | blockEnd
  | flowSequence
  | flowSequenceEnd
  | flowMapping
  | flowMappingEnd
  | blockEntry
  | flowEntry
  | key
  | value
  | alias (name : String)
  | anchor (name : String)
  | tag (handle suffix : String)
  | scalar (isPlain : Bool) (content : String)
deriving DecidableEq, Repr

end AnalysisSettings.Yaml
