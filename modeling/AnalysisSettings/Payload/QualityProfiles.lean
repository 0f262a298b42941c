import AnalysisSettings.Json.Record
import AnalysisSettings.QualityProfile

/-!
# The quality profiles payload

`{"profiles": [{"key": …, "name": …, "language": …, …}, …]}`. Key, name and language are required;
of the others, flags are false and the rest is absent where they are left out.
-/

namespace AnalysisSettings.Payload

open Json

/-- The fields of a quality profile that were read. -/
structure QualityProfileParts where
  key : Option String := none
  name : Option String := none
  language : Option String := none
  languageName : Option (Option String) := none
  isDefault : Option Bool := none
  isInherited : Option Bool := none
  parentKey : Option (Option String) := none
  activeRuleCount : Option (Option UInt64) := none
  rulesUpdatedAt : Option (Option String) := none
  userUpdatedAt : Option (Option String) := none

/-- A quality profile in a payload. -/
def qualityProfileShape : Shape QualityProfileParts QualityProfile where
  name := "QualityProfileDto"
  start := {}
  fields := [
    { name := "key", required := true, isRead := fun p => p.key.isSome
      read := fun t p => t.asText.map fun v => { p with key := some v } },
    { name := "name", required := true, isRead := fun p => p.name.isSome
      read := fun t p => t.asText.map fun v => { p with name := some v } },
    { name := "language", required := true, isRead := fun p => p.language.isSome
      read := fun t p => t.asText.map fun v => { p with language := some v } },
    { name := "languageName", required := false, isRead := fun p => p.languageName.isSome
      read := fun t p =>
        (t.asOptional Tree.asText).map fun v => { p with languageName := some v } },
    { name := "isDefault", required := false, isRead := fun p => p.isDefault.isSome
      read := fun t p => t.asFlag.map fun v => { p with isDefault := some v } },
    { name := "isInherited", required := false, isRead := fun p => p.isInherited.isSome
      read := fun t p => t.asFlag.map fun v => { p with isInherited := some v } },
    { name := "parentKey", required := false, isRead := fun p => p.parentKey.isSome
      read := fun t p => (t.asOptional Tree.asText).map fun v => { p with parentKey := some v } },
    { name := "activeRuleCount", required := false, isRead := fun p => p.activeRuleCount.isSome
      read := fun t p =>
        (t.asOptional Tree.asCount).map fun v => { p with activeRuleCount := some v } },
    { name := "rulesUpdatedAt", required := false, isRead := fun p => p.rulesUpdatedAt.isSome
      read := fun t p =>
        (t.asOptional Tree.asText).map fun v => { p with rulesUpdatedAt := some v } },
    { name := "userUpdatedAt", required := false, isRead := fun p => p.userUpdatedAt.isSome
      read := fun t p =>
        (t.asOptional Tree.asText).map fun v => { p with userUpdatedAt := some v } }]
  build p :=
    { key := p.key.getD ""
      name := p.name.getD ""
      language := p.language.getD ""
      languageName := p.languageName.getD none
      isDefault := p.isDefault.getD false
      isInherited := p.isInherited.getD false
      parentKey := p.parentKey.getD none
      activeRuleCount := p.activeRuleCount.getD none
      rulesUpdatedAt := p.rulesUpdatedAt.getD none
      userUpdatedAt := p.userUpdatedAt.getD none }

/-- The whole payload. -/
def qualityProfilesShape : Shape (Option (List QualityProfile)) (List QualityProfile) where
  name := "SearchProfilesResponseDto"
  start := none
  fields := [
    { name := "profiles", required := false, isRead := Option.isSome
      read := fun t _ => (t.asList qualityProfileShape.read).map some }]
  build p := p.getD []

/-- The quality profiles of a payload, or the first fault in it. -/
def readQualityProfiles (octets : List UInt8) : Except Fault (List QualityProfile) :=
  readPayload qualityProfilesShape.read octets

end AnalysisSettings.Payload
