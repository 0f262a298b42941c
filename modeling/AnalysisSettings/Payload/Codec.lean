import AnalysisSettings.Codec
import AnalysisSettings.Payload.Properties
import AnalysisSettings.Payload.QualityProfiles
import AnalysisSettings.Payload.Settings

/-!
# The JSON codec

The three readers of payloads with their failures: what was read, the wording of the fault and the
payload itself, shown as text.
-/

namespace AnalysisSettings

namespace Payload

/-- A reader of payloads whose faults are failures of the kind `what`. -/
def reporting {α : Type} (what : PayloadKind) (read : List UInt8 → Except Json.Fault α)
    (octets : List UInt8) : Except Failure α :=
  (read octets).mapError fun fault => .decode what fault.message (Utf8.lossy octets)

section Reporting

variable {α : Type} {what : PayloadKind} {read : List UInt8 → Except Json.Fault α} {octets : List UInt8}

/-- What is read is not changed by the report. -/
theorem reporting_eq_ok {a : α} : reporting what read octets = .ok a ↔ read octets = .ok a := by
  rw [reporting]
  cases read octets with
  | error fault => constructor <;> intro h <;> cases h
  | ok a => constructor <;> intro h <;> cases h <;> rfl

/-- A fault is reported with the payload that it is in. -/
theorem reporting_of_error (fault : Json.Fault) (h : read octets = .error fault) :
    reporting what read octets = .error (.decode what fault.message (Utf8.lossy octets)) := by
  rw [reporting, h]
  rfl

/-- A failure names the decoder and shows the payload. -/
theorem decode_of_reporting_eq_error {f : Failure} (h : reporting what read octets = .error f) :
    ∃ reason, f = .decode what reason (Utf8.lossy octets) := by
  rw [reporting] at h
  cases hread : read octets with
  | error fault =>
    rw [hread] at h
    cases h
    exact ⟨fault.message, rfl⟩
  | ok a =>
    rw [hread] at h
    cases h

/-- What is refused is refused as a payload of the decoder's kind, and shown. -/
theorem reporting_of_refused (h : ∀ a, read octets ≠ .ok a) :
    ∃ reason, reporting what read octets = .error (.decode what reason (Utf8.lossy octets)) := by
  cases result : read octets with
  | error fault => exact ⟨fault.message, reporting_of_error fault result⟩
  | ok a => exact absurd result (h a)

end Reporting

/-- The settings of a payload. -/
def decodeSettings : List UInt8 → Except Failure (List Setting) :=
  reporting .settings readSettings

/-- The properties of a payload. -/
def decodeProperties : List UInt8 → Except Failure (List Property) :=
  reporting .properties readProperties

/-- The quality profiles of a payload. -/
def decodeQualityProfiles : List UInt8 → Except Failure (List QualityProfile) :=
  reporting .qualityProfiles readQualityProfiles

end Payload

/-- The codec of JSON payloads. -/
def Codec.json : Codec where
  settings := Payload.decodeSettings
  properties := Payload.decodeProperties
  qualityProfiles := Payload.decodeQualityProfiles

end AnalysisSettings
