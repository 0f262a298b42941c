import AnalysisSettings.Proofs.Delivery

/-!
# Inherited records

A modern server tells of each record whether it is inherited from the global scope, and a download
passes over the inherited ones before it looks at their values. So a download depends on its *own*
records alone (`Setting.deliver_own`), and of those on the ones up to the first without a value.

`settingsInto_own` is the whole behaviour of a modern download: when it succeeds, what it leaves in
the sink, where it stops otherwise, and that nothing but the own records can make a difference.
-/

namespace AnalysisSettings

namespace Setting

/-- The records that are not inherited, in their order. -/
def own (ss : List Setting) : List Setting :=
  ss.filter fun s => !s.inherited

/-- The entries of the records that have a value, one record after the other. -/
def flattened (ss : List Setting) : List Entry :=
  (ss.filterMap record?).flatMap Record.flatten

/-- The own settings of a project are not inherited. -/
theorem own_not_inherited {ss : List Setting} : ∀ s ∈ own ss, s.inherited = false := by
  intro s hs
  simpa using (List.mem_filter.mp hs).2

/-- An own record is delivered exactly if it has a value. -/
theorem deliverable_iff {s : Setting} (h : s.inherited = false) :
    s.Deliverable ↔ s.value.isSome = true := by
  simp [Deliverable, h]

/-- What own records deliver is their flattening. -/
theorem flatMap_entries {ss : List Setting} (h : ∀ s ∈ ss, s.inherited = false) :
    ss.flatMap entries = flattened ss := by
  induction ss with
  | nil => rfl
  | cons s ss ih =>
    obtain ⟨hs, hss⟩ := List.forall_mem_cons.mp h
    rw [List.flatMap_cons, ih hss, entries, hs]
    unfold flattened
    cases hr : s.record? <;> simp [hr]

/-- **Inherited records make no difference**, whatever they are and wherever they stand. -/
theorem deliver_own (ss : List Setting) : deliver (own ss) = deliver ss := by
  induction ss with
  | nil => rfl
  | cons s ss ih =>
    by_cases h : s.inherited = true
    · have skipped : own (s :: ss) = own ss := by simp [own, h]
      rw [skipped, ih, deliver, if_pos h]
    · have kept : own (s :: ss) = s :: own ss := by simp [own, h]
      rw [kept, deliver, deliver, ih]

/-- A delivery whose own records all have a value is their flattening. -/
theorem deliver_of_values {ss : List Setting} (h : ∀ s ∈ own ss, s.value.isSome = true) :
    deliver ss = ⟨flattened (own ss), .ok ()⟩ := by
  have deliverable : ∀ s ∈ own ss, s.Deliverable := by
    intro s hs
    exact (deliverable_iff (own_not_inherited s hs)).mpr (h s hs)
  rw [← deliver_own, deliver_of_all deliverable, flatMap_entries own_not_inherited]

/-- Any other delivery ends at the first own record without a value. -/
theorem deliver_of_missing {ss : List Setting} (h : ¬ ∀ s ∈ own ss, s.value.isSome = true) :
    ∃ front bad back, own ss = front ++ bad :: back ∧ (∀ s ∈ front, s.value.isSome = true) ∧
      bad.value = none ∧
      deliver ss = ⟨flattened front, .error (.unrecognizedValueShape bad.key)⟩ := by
  rcases deliver_split (own ss) with all | ⟨front, bad, back, split, before, hbad⟩
  · refine absurd (fun s hs => ?_) h
    exact (deliverable_iff (own_not_inherited s hs)).mp (all s hs)
  · have notInherited : ∀ s ∈ front ++ bad :: back, s.inherited = false := split ▸ own_not_inherited
    obtain ⟨hfront, hrest⟩ := List.forall_mem_append.mp notInherited
    refine ⟨front, bad, back, split, ?_, ?_, ?_⟩
    · intro s hs
      exact (deliverable_iff (hfront s hs)).mp (before s hs)
    · rw [deliverable_iff (hrest bad List.mem_cons_self)] at hbad
      simpa using hbad
    · rw [← deliver_own, split, deliver_of_split before hbad, flatMap_entries hfront]

end Setting

/-! ## Downloads -/

namespace Inquiry

open Setting (own flattened)

/-- **A modern download depends on its own records alone, and stops at the first bad one.** It
succeeds exactly if every own record has a value, and then the sink has taken the entries of all own
records, in order. Otherwise it fails with the key of the first own record without a value, and the
sink has taken the entries of the own records before that one, and nothing else. A sink with keys
gives each key the value that came last, or the one it had. A download with the same own records ends
the same way and leaves the same sink, whatever records are inherited there, wherever they come from,
and whatever the reference is. -/
theorem settingsInto_own {σ τ : Type} [Sink τ] {t : Transport σ} {s : σ} {codec : Codec}
    {project : Option String} {ss : List Setting} (told : t.Tells s codec project ss)
    (reference : Option Snapshot) (sink : τ) :
    let left := ((settingsInto codec .modern project reference sink).run t s).result
    (left.1 = .ok () ↔ ∀ x ∈ own ss, x.value.isSome = true) ∧
    (left.1 = .ok () → left.2 = Sink.putAll sink (flattened (own ss)) ∧
      ∀ {κ : Type} [KeyedSink κ] (kept : κ) (key : String),
        KeyedSink.get?
            ((settingsInto codec .modern project reference kept).run t s).result.2 key =
          (Entry.valuesAt key (flattened (own ss))).getLast?.or (KeyedSink.get? kept key)) ∧
    (left.1 ≠ .ok () → ∃ front bad back, own ss = front ++ bad :: back ∧
      (∀ x ∈ front, x.value.isSome = true) ∧ bad.value = none ∧
      left = (.error (.unrecognizedValueShape bad.key), Sink.putAll sink (flattened front))) ∧
    ∀ {σ' : Type} {t' : Transport σ'} {s' : σ'} {codec' : Codec} {project' : Option String}
      {ss' : List Setting}, t'.Tells s' codec' project' ss' → own ss' = own ss →
      ∀ reference' : Option Snapshot,
        ((settingsInto codec' .modern project' reference' sink).run t' s').result = left := by
  have run : ∀ {κ : Type} [Sink κ] (kept : κ),
      ((settingsInto codec .modern project reference kept).run t s).result =
        ((Setting.deliver ss).outcome, Sink.putAll kept (Setting.deliver ss).entries) := by
    intro κ _ kept
    rw [run_settingsInto, told.ofAnswer reference]
  intro left
  have hleft : left = _ := run sink
  have succeeds : left.1 = .ok () ↔ ∀ x ∈ own ss, x.value.isSome = true := by
    constructor
    · intro ok
      by_contra missing
      obtain ⟨front, bad, back, -, -, -, delivered⟩ := Setting.deliver_of_missing missing
      rw [hleft, delivered] at ok
      cases ok
    · intro values
      rw [hleft, Setting.deliver_of_values values]
  refine ⟨succeeds, fun ok => ?_, fun failed => ?_, ?_⟩
  · have delivered := Setting.deliver_of_values (succeeds.mp ok)
    refine ⟨by rw [hleft, delivered], ?_⟩
    intro κ _ kept key
    rw [run, delivered, KeyedSink.get?_putAll]
  · obtain ⟨front, bad, back, split, before, hbad, delivered⟩ :=
      Setting.deliver_of_missing (mt succeeds.mpr failed)
    exact ⟨front, bad, back, split, before, hbad, by rw [hleft, delivered]⟩
  · intro σ' t' s' codec' project' ss' told' same reference'
    rw [run_settingsInto, told'.ofAnswer reference', ← Setting.deliver_own ss', same,
      Setting.deliver_own, hleft]

/-! ### Inherited records in between

Two inherited records stand in front, one without a value and one with another value of `k`. The
own records give `k` two values, and behind a record without a value there is one more. -/

namespace Mixed

def settings : List Setting :=
  [⟨"old", true, none⟩, ⟨"k", false, some (.multi ["a", "b"])⟩, ⟨"k", true, some (.scalar "g")⟩,
    ⟨"k", false, some (.scalar "c")⟩, ⟨"bad", false, none⟩, ⟨"late", false, some (.scalar "d")⟩]

/-- It reads an empty payload as the settings, and any other as the own ones alone. -/
def codec : Codec where
  settings body := .ok (if body.isEmpty then settings else own settings)
  properties _ := .ok []
  qualityProfiles _ := .ok []

def server (body : List UInt8) : Canned :=
  { replies := [("/api/settings/values?component=p", .ok body)] }

theorem told : Canned.transport.Tells (server []) codec (some "p") settings :=
  ⟨⟨"/api/settings/values?component=p", []⟩, rfl, rfl⟩

theorem told_own : Canned.transport.Tells (server [0x20]) codec (some "p") (own settings) :=
  ⟨⟨"/api/settings/values?component=p", [0x20]⟩, rfl, rfl⟩

theorem settingsInto_mixed :
    ((settingsInto codec .modern (some "p") none Store.empty).run Canned.transport
        (server [])).result =
      (.error (.unrecognizedValueShape "bad"), Store.ofList [⟨"k", "a,b"⟩, ⟨"k", "c"⟩]) ∧
    ∀ reference, ((settingsInto codec .modern (some "p") reference Store.empty).run Canned.transport
        (server [0x20])).result =
      ((settingsInto codec .modern (some "p") none Store.empty).run Canned.transport
        (server [])).result := by
  obtain ⟨succeeds, -, fails, same⟩ := settingsInto_own told none Store.empty
  refine ⟨?_, same told_own rfl⟩
  obtain ⟨front, bad, back, split, before, missing, left⟩ := fails (mt succeeds.mp (by decide))
  have first : front = [⟨"k", false, some (.multi ["a", "b"])⟩, ⟨"k", false, some (.scalar "c")⟩] ∧
      bad = ⟨"bad", false, none⟩ := by
    rcases front with _ | ⟨a, _ | ⟨b, _ | ⟨c, front⟩⟩⟩
    · cases split
      cases missing
    · cases split
      cases missing
    · cases split
      exact ⟨rfl, rfl⟩
    · -- a longer front would hold the record without a value
      have third : c = ⟨"bad", false, none⟩ :=
        (List.cons.inj (List.cons.inj (List.cons.inj split).2).2).1.symm
      have value := before c (by simp)
      rw [third] at value
      cases value
  rw [left, first.1, first.2]
  rfl

end Mixed

end Inquiry

end AnalysisSettings
