import AnalysisSettings.Failure
import AnalysisSettings.Property
import AnalysisSettings.QualityProfile
import AnalysisSettings.Setting

/-!
# Codecs

A codec reads the three kinds of payloads. Downloads depend on it only through these functions, so
they can be run with payloads of any format.
-/

namespace AnalysisSettings

/-- The readers of the three payloads. -/
structure Codec where
  settings : List UInt8 → Except Failure (List Setting)
  properties : List UInt8 → Except Failure (List Property)
  qualityProfiles : List UInt8 → Except Failure (List QualityProfile)

end AnalysisSettings
