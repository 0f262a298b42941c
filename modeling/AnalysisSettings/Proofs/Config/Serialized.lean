import AnalysisSettings.Proofs.Config.Assignment
import AnalysisSettings.Proofs.Duration

/-!
# Configurations read back

What a configuration is written as is a layer of texts, from which it is read again
(`ofLayer_toLayer`): a text field has its text, whatever that looks like, because a text is not read as
a number or a truth value again; a field without a value is not written and keeps its default, which is
none; and the timeout is the text of a duration (`Duration.read?_write`).
-/

namespace AnalysisSettings.Config

theorem toLayer_names (c : Config) : c.toLayer.map Prod.fst ⊆ fieldNames := by
  obtain ⟨url, organization, timeout, agent⟩ := c
  cases organization <;> simp [toLayer, serialized, fieldNames]

/-- All that is written has a field. -/
theorem toLayer_known (c : Config) {name : String} {v : Value}
    (h : c.toLayer.lookup name = some v) : name ∈ fieldNames :=
  c.toLayer_names (List.mem_map.mpr ⟨_, mem_of_lookup h, rfl⟩)

/-- What is written is read as the configuration. -/
theorem toLayer_reading (c : Config) : Reading {} (fun name => c.toLayer.lookup name) c := by
  obtain ⟨url, organization, timeout, agent⟩ := c
  cases organization with
  | none => exact ⟨rfl, rfl, Duration.read?_write timeout, rfl⟩
  | some name => exact ⟨rfl, rfl, Duration.read?_write timeout, rfl⟩

/-- Other layers on top of a written configuration change it as they say. -/
theorem ofLayer_append_toLayer_eq_ok_iff (c : Config) (upper : Layer) {c' : Config} :
    ofLayer (upper ++ c.toLayer) = .ok c' ↔
      (∀ name v, upper.lookup name = some v → name ∈ fieldNames) ∧
        Reading c (fun name => upper.lookup name) c' := by
  rw [ofLayer_eq_ok_iff]
  simp only [List.lookup_append, Reading.or_base c.toLayer_reading, Option.or_eq_some_iff]
  refine and_congr_left fun _ => ⟨fun known name v h => known name v (.inl h), ?_⟩
  rintro known name v (found | ⟨-, written⟩)
  · exact known name v found
  · exact c.toLayer_known written

/-- **A configuration is read back from what it is written as**: all four fields, with no organization
if there was none, and the timeout to the nanosecond. So configurations that are written alike are
equal. As the lowest of several layers, as which the defaults are loaded, a written configuration is
what the others change. -/
theorem ofLayer_toLayer (c : Config) :
    ofLayer c.toLayer = .ok c ∧
      Duration.read? c.requestTimeout.write = some c.requestTimeout ∧
      (∀ c' : Config, c'.serialized = c.serialized → c' = c) ∧
      ∀ (upper : Layer) (c' : Config), ofLayer (upper ++ c.toLayer) = .ok c' ↔
        (∀ name v, upper.lookup name = some v → name ∈ fieldNames) ∧
          Reading c (fun name => upper.lookup name) c' := by
  have back (c : Config) : ofLayer c.toLayer = .ok c :=
    ofLayer_eq_ok_iff.mpr ⟨fun _ _ => c.toLayer_known, c.toLayer_reading⟩
  refine ⟨back c, Duration.read?_write _, fun c' same => ?_,
    fun upper c' => c.ofLayer_append_toLayer_eq_ok_iff upper⟩
  have read := back c'
  rw [toLayer, same] at read
  exact (Except.ok.inj ((back c).symm.trans read)).symm

end AnalysisSettings.Config
