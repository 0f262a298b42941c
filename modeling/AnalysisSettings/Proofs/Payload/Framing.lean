import AnalysisSettings.Payload.Codec
import AnalysisSettings.Proofs.Json.Strict

/-!
# Payloads that are cut short, and payloads with something behind them

A payload that is accepted ends with the bracket that closes it, and blanks. So a part of it that
ends before that bracket is refused, and so is the payload with anything but blanks behind it
(`Complete`). This holds of all three decoders (`accepted_complete`), because each of them reads a
list or a record strictly: a list or a field that is missing has a default only where the brackets
around it are closed.
-/

namespace AnalysisSettings.Payload

open Json

/-! ## Complete payloads -/

/-- The payload decodes to `a`, and its end shows: it ends with a closing bracket, no part of it that
ends before that bracket is accepted, and nothing but blanks may follow. -/
structure Complete {α : Type} (what : PayloadKind) (decode : List UInt8 → Except Failure α)
    (payload : List UInt8) (a : α) : Prop where
  closing : ∃ body blanks, payload = body ++ blanks ∧ Blank blanks ∧
    ([0x5D] <:+ body ∨ [0x7D] <:+ body)
  cut : ∀ front tail, payload = front ++ tail → ¬ Blank tail →
    ∃ reason, decode front = .error (.decode what reason (Utf8.lossy front))
  blanks : ∀ blanks, Blank blanks → decode (payload ++ blanks) = .ok a
  junk : ∀ junk, ¬ Blank junk → decode (payload ++ junk) =
    .error (.decode what "trailing characters" (Utf8.lossy (payload ++ junk)))

/-- A decoder that reads strictly, lists and objects only, and may then check what was read. -/
theorem complete_of_strict {α β : Type} {what : PayloadKind} {read : Tree → Except Fault β}
    {check : β → Except Fault α} (strict : Strict read) (bracketing : Bracketing read)
    {payload : List UInt8} {a : α}
    (h : reporting what (fun octets => (readPayload read octets).bind check) payload = .ok a) :
    Complete what (reporting what fun octets => (readPayload read octets).bind check) payload a := by
  obtain ⟨b, accepted, checked⟩ := bind_eq_ok.mp (reporting_eq_ok.mp h)
  constructor
  · obtain ⟨t, ⟨before, bs, after, -, written, blank, rfl⟩, value⟩ :=
      (readPayload_eq_ok_iff strict).mp accepted
    have behind : bs <:+ before ++ bs := List.suffix_append ..
    exact ⟨before ++ bs, after, (List.append_assoc ..).symm, blank,
      (written.last (bracketing value)).imp (·.trans behind) (·.trans behind)⟩
  · rintro front tail rfl more
    refine reporting_of_refused fun a' h' => ?_
    obtain ⟨b', accepted', -⟩ := bind_eq_ok.mp h'
    exact readPayload_cut strict bracketing accepted more b' accepted'
  · intro blanks blank
    refine reporting_eq_ok.mpr ?_
    rw [readPayload_append_blanks strict accepted blank]
    exact checked
  · intro junk more
    refine reporting_of_error .trailingCharacters ?_
    rw [readPayload_append_junk strict bracketing accepted more]
    rfl

/-! ## The three decoders -/

/-- A value of a property that is accepted has no fault. -/
theorem strict_readPropertyValue : Strict readPropertyValue := by
  intro t value h
  rw [readPropertyValue.eq_def] at h
  split at h
  · rfl
  · obtain ⟨text, read, -⟩ := map_eq_ok.mp h
    exact Literal.skipFault?_of_text read
  · rfl
  · obtain ⟨text, -, refused⟩ := bind_eq_ok.mp h
    cases refused

/-- A group that is accepted has no fault. -/
theorem strict_readGroup : Strict readGroup :=
  strict_asText.asMap.map FieldGroup.ofList

/-- A record that is accepted has no fault. -/
theorem strict_settingShape : Strict settingShape.read := by
  refine Shape.strict_read fun f hf parts => ?_
  simp only [settingShape, List.mem_cons, List.not_mem_nil, or_false] at hf
  rcases hf with rfl | rfl | rfl | rfl | rfl
  · exact strict_asText.map _
  · exact strict_asText.asOptional.map _
  · exact strict_asText.asList.asOptional.map _
  · exact strict_readGroup.asList.asOptional.map _
  · exact strict_asFlag.map _

/-- A payload of settings that is accepted has no fault. -/
theorem strict_settingsShape : Strict settingsShape.read := by
  refine Shape.strict_read fun f hf parts => ?_
  cases List.mem_singleton.mp hf
  exact strict_settingShape.asList.map _

/-- A property that is accepted has no fault. -/
theorem strict_propertyShape : Strict propertyShape.read := by
  refine Shape.strict_read fun f hf parts => ?_
  simp only [propertyShape, List.mem_cons, List.not_mem_nil, or_false] at hf
  rcases hf with rfl | rfl
  · exact strict_asText.map _
  · exact strict_readPropertyValue.map _

/-- A profile that is accepted has no fault. -/
theorem strict_qualityProfileShape : Strict qualityProfileShape.read := by
  refine Shape.strict_read fun f hf parts => ?_
  simp only [qualityProfileShape, List.mem_cons, List.not_mem_nil, or_false] at hf
  rcases hf with rfl | rfl | rfl | rfl | rfl | rfl | rfl | rfl | rfl | rfl
  · exact strict_asText.map _
  · exact strict_asText.map _
  · exact strict_asText.map _
  · exact strict_asText.asOptional.map _
  · exact strict_asFlag.map _
  · exact strict_asFlag.map _
  · exact strict_asText.asOptional.map _
  · exact strict_asCount.asOptional.map _
  · exact strict_asText.asOptional.map _
  · exact strict_asText.asOptional.map _

/-- A payload of profiles that is accepted has no fault. -/
theorem strict_qualityProfilesShape : Strict qualityProfilesShape.read := by
  refine Shape.strict_read fun f hf parts => ?_
  cases List.mem_singleton.mp hf
  exact strict_qualityProfileShape.asList.map _

/-- **A payload that is accepted is complete.** Whichever of the three decoders accepts it: it ends
with its closing bracket and blanks; every part of it that ends before that bracket is refused as a
payload of that kind, and shown in the failure; blanks behind it change nothing; and with any other
octets behind it, it is refused because of them. -/
theorem accepted_complete (payload : List UInt8) :
    (∀ settings, decodeSettings payload = .ok settings →
      Complete .settings decodeSettings payload settings) ∧
    (∀ properties, decodeProperties payload = .ok properties →
      Complete .properties decodeProperties payload properties) ∧
    (∀ profiles, decodeQualityProfiles payload = .ok profiles →
      Complete .qualityProfiles decodeQualityProfiles payload profiles) := by
  have unchecked : readQualityProfiles =
      fun octets => (readPayload qualityProfilesShape.read octets).bind .ok := by
    funext octets
    rw [readQualityProfiles]
    cases readPayload qualityProfilesShape.read octets <;> rfl
  refine ⟨fun settings h => ?_, fun properties h => ?_, fun profiles h => ?_⟩
  · exact complete_of_strict strict_settingsShape Shape.bracketing_read h
  · exact complete_of_strict strict_propertyShape.asList bracketing_asList h
  · rw [decodeQualityProfiles, unchecked] at h ⊢
    exact complete_of_strict strict_qualityProfilesShape Shape.bracketing_read h

/-! ### Three short payloads

One of each kind, without blanks. -/

namespace Short

def record : Tree :=
  .plainObject [("key", .string (.plain "k")), ("value", .string (.plain "1"))]

def profile : Tree :=
  .plainObject [("key", .string (.plain "k")), ("name", .string (.plain "n")),
    ("language", .string (.plain "l"))]

def recordText : String := "\x7b\"key\":\"k\",\"value\":\"1\"\x7d"

def profileText : String := "\x7b\"key\":\"k\",\"name\":\"n\",\"language\":\"l\"\x7d"

def settingsText : String := "\x7b\"settings\":[" ++ recordText ++ "]\x7d"

def propertiesText : String := "[" ++ recordText ++ "]"

def profilesText : String := "\x7b\"profiles\":[" ++ profileText ++ "]\x7d"

/-- The record of the samples as it is written. -/
theorem record_written : record.Written (Utf8.encode recordText) := by
  have written : record.Written _ :=
    .tightObject <| .tight (by decide) (.plain (by decide)) <| .tight <|
      .tight (by decide) (.plain (by decide)) .closed
  exact Eq.mp (congrArg record.Written (by decide +kernel)) written

/-- The profile of the samples as it is written. -/
theorem profile_written : profile.Written (Utf8.encode profileText) := by
  have written : profile.Written _ :=
    .tightObject <| .tight (by decide) (.plain (by decide)) <| .tight <|
      .tight (by decide) (.plain (by decide)) <| .tight <|
      .tight (by decide) (.plain (by decide)) .closed
  exact Eq.mp (congrArg profile.Written (by decide +kernel)) written

/-- A payload of settings with one record. -/
theorem decodeSettings_short :
    decodeSettings (Utf8.encode settingsText) = .ok [⟨"k", false, some (.scalar "1")⟩] := by
  have document : Tree.Document (.plainObject [("settings", .list (.ofList [record]))])
      (Utf8.encode settingsText) :=
    ⟨[], _, [], by decide, .tightObject <|
      .tight (by decide) (.list (.tight record_written .closed)) .closed, by decide,
      by decide +kernel⟩
  refine reporting_eq_ok.mpr ?_
  rw [readSettings, readPayload_of_document document]
  rfl

/-- A payload of properties with one property. -/
theorem decodeProperties_short :
    decodeProperties (Utf8.encode propertiesText) = .ok [⟨"k", some "1"⟩] := by
  have document : Tree.Document (.list (.ofList [record])) (Utf8.encode propertiesText) :=
    ⟨[], _, [], by decide, .list (.tight record_written .closed), by decide, by decide +kernel⟩
  refine reporting_eq_ok.mpr ?_
  rw [readProperties, readPayload_of_document document]
  rfl

/-- A payload of profiles with one profile. -/
theorem decodeQualityProfiles_short :
    decodeQualityProfiles (Utf8.encode profilesText) =
      .ok [{ key := "k", name := "n", language := "l" }] := by
  have document : Tree.Document (.plainObject [("profiles", .list (.ofList [profile]))])
      (Utf8.encode profilesText) :=
    ⟨[], _, [], by decide, .tightObject <|
      .tight (by decide) (.list (.tight profile_written .closed)) .closed, by decide,
      by decide +kernel⟩
  refine reporting_eq_ok.mpr ?_
  rw [readQualityProfiles, readPayload_of_document document]
  rfl

/-- So each of the three is complete. -/
theorem short_complete :
    Complete .settings decodeSettings (Utf8.encode settingsText)
      [⟨"k", false, some (.scalar "1")⟩] ∧
    Complete .properties decodeProperties (Utf8.encode propertiesText) [⟨"k", some "1"⟩] ∧
    Complete .qualityProfiles decodeQualityProfiles (Utf8.encode profilesText)
      [{ key := "k", name := "n", language := "l" }] :=
  ⟨(accepted_complete _).1 _ decodeSettings_short,
    (accepted_complete _).2.1 _ decodeProperties_short,
    (accepted_complete _).2.2 _ decodeQualityProfiles_short⟩

end Short

end AnalysisSettings.Payload
