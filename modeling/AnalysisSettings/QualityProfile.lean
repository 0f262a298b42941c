/-!
# Quality profiles

A quality profile is a named set of rules for one language. The server is asked which profiles a
project uses; they are handed on as they come.
-/

namespace AnalysisSettings

/-- A quality profile as the server describes it. -/
structure QualityProfile where
  key : String
  name : String
  language : String
  languageName : Option String := none
  isDefault : Bool := false
  isInherited : Bool := false
  parentKey : Option String := none
  activeRuleCount : Option UInt64 := none
  rulesUpdatedAt : Option String := none
  userUpdatedAt : Option String := none
deriving DecidableEq, Repr

end AnalysisSettings
