import AnalysisSettings.Proofs.Delivery
import AnalysisSettings.Proofs.FlatKey

/-!
# Collisions in a delivery

A delivery is the flattened records, one after the other. `Setting.Record.flatMap_collision` finds
the two records behind two places of a delivery that have the same flat key: they are different
records, and they meet. Records of which no two meet have distinct flat keys altogether
(`Setting.Record.nodup_flatMap`), and then neither the order of the records nor what else is
delivered can change what a sink holds for an entry.

`settingsInto_collisions` says so of a modern download into any sink with keys.
-/

namespace AnalysisSettings

/-! ## Places in a flattened list -/

section Places

variable {α β : Type}

/-- An element of two lists one after the other stands in the first or in the second. -/
theorem place_of_append {xs ys as bs : List β} {e : β} (h : as ++ bs = xs ++ e :: ys) :
    (∃ more, as = xs ++ e :: more ∧ ys = more ++ bs) ∨
      ∃ more, xs = as ++ more ∧ bs = more ++ e :: ys := by
  rcases List.append_eq_append_iff.mp h with ⟨more, hxs, hbs⟩ | ⟨more, has, hys⟩
  · exact .inr ⟨more, hxs, hbs⟩
  · rcases List.cons_eq_append_iff.mp hys with ⟨rfl, rfl⟩ | ⟨more, rfl, rfl⟩
    · rw [List.append_nil] at has
      exact .inr ⟨[], by rw [has, List.append_nil], rfl⟩
    · exact .inl ⟨more, has, rfl⟩

/-- An element of a flattened list stands in what one of the elements is flattened to. -/
theorem place_of_flatMap {f : α → List β} {l : List α} {xs ys : List β} {e : β}
    (h : l.flatMap f = xs ++ e :: ys) :
    ∃ before a after as bs, l = before ++ a :: after ∧ f a = as ++ e :: bs ∧
      xs = before.flatMap f ++ as ∧ ys = bs ++ after.flatMap f := by
  induction l generalizing xs with
  | nil => simp at h
  | cons a l ih =>
    rw [List.flatMap_cons] at h
    rcases place_of_append h with ⟨bs, hfa, rfl⟩ | ⟨more, rfl, hl⟩
    · exact ⟨[], a, l, xs, bs, rfl, hfa, rfl, rfl⟩
    · obtain ⟨before, a', after, as, bs, rfl, hfa, rfl, rfl⟩ := ih hl
      exact ⟨a :: before, a', after, as, bs, rfl, hfa, by
        rw [List.flatMap_cons, List.append_assoc], rfl⟩

end Places

namespace Setting.Record

/-! ## The records behind a collision -/

/-- The entry `e`, with the entries `xs` in front of it, comes from the record `r`, with the records
`before` in front of it. -/
def Delivers (before : List Record) (r : Record) (xs : List Entry) (e : Entry) : Prop :=
  ∃ as bs, r.flatten = as ++ e :: bs ∧ xs = before.flatMap flatten ++ as

/-- A record delivers its own entries. -/
theorem Delivers.mem {before : List Record} {r : Record} {xs : List Entry} {e : Entry}
    (h : Delivers before r xs e) : e ∈ r.flatten := by
  obtain ⟨as, bs, hr, -⟩ := h
  exact hr ▸ List.mem_append_right as List.mem_cons_self

/-- **Two places with one flat key** belong to two different records, and these meet. -/
theorem flatMap_collision {rs : List Record} {xs ys zs : List Entry} {e f : Entry}
    (h : rs.flatMap flatten = xs ++ e :: (ys ++ f :: zs)) (same : e.key = f.key) :
    ∃ before r mid r' after, rs = before ++ r :: (mid ++ r' :: after) ∧ Delivers before r xs e ∧
      Delivers (before ++ r :: mid) r' (xs ++ e :: ys) f ∧ r.Meets r' := by
  obtain ⟨before, r, rest, as, bs, rfl, hr, rfl, hrest⟩ := place_of_flatMap h
  rcases place_of_append hrest.symm with ⟨more, rfl, -⟩ | ⟨more, rfl, hmore⟩
  · -- both places in one record
    have distinct := r.nodup_flatten
    rw [hr, List.map_append, List.map_cons, List.map_append, List.map_cons] at distinct
    have twice := (List.nodup_cons.mp (List.nodup_append.mp distinct).2.1).1
    exact absurd (same ▸ List.mem_append_right _ List.mem_cons_self) twice
  · obtain ⟨mid, r', after, cs, ds, rfl, hr', rfl, -⟩ := place_of_flatMap hmore
    have first : Delivers before r (before.flatMap flatten ++ as) e := ⟨as, bs, hr, rfl⟩
    have second : Delivers (before ++ r :: mid) r'
        (before.flatMap flatten ++ as ++ e :: (bs ++ (mid.flatMap flatten ++ cs))) f := by
      refine ⟨cs, ds, hr', ?_⟩
      simp only [List.flatMap_append, List.flatMap_cons, hr, List.append_assoc, List.cons_append]
    exact ⟨before, r, mid, r', after, rfl, first, second,
      meets_of_mem_flatten first.mem second.mem same⟩

/-- Records of which no two meet have distinct flat keys altogether. -/
theorem nodup_flatMap {rs : List Record} (apart : rs.Pairwise fun r r' => ¬ r.Meets r') :
    ((rs.flatMap flatten).map Entry.key).Nodup := by
  rw [List.map_flatMap, List.nodup_flatMap]
  refine ⟨fun r _ => r.nodup_flatten, apart.imp fun hapart key hk hk' => ?_⟩
  obtain ⟨e, he, hkey⟩ := List.mem_map.mp hk
  obtain ⟨f, hf, hkey'⟩ := List.mem_map.mp hk'
  exact hapart (meets_of_mem_flatten he hf (hkey.trans hkey'.symm))

end Setting.Record

/-- Where no record is refused, records that are told in another order are delivered in another
order. -/
theorem Setting.delivered_perm {ss ss' : List Setting} (all : ∀ x ∈ ss, x.Deliverable)
    (perm : ss'.Perm ss) : (delivered ss').Perm (delivered ss) := by
  rw [delivered_of_all all, delivered_of_all fun x hx => all x (perm.mem_iff.mp hx)]
  exact perm.filterMap _

/-! ## Downloads -/

namespace Inquiry

open Setting (delivered delivered_perm)

open Setting.Record (flatten Delivers)

variable {σ τ : Type} [KeyedSink τ]

/-- **Flat keys of different settings meet only through nesting.** A modern download puts the
flattened records that it delivers. Where two places of that sequence have one flat key, they belong
to two different records, and these have equal keys or one key lies inside the field set of the
other. So where no two of the delivered records are like that, the sink gives back every entry that
was delivered, and a download that delivers the same records in another order leaves the same in
it. -/
theorem settingsInto_collisions {t : Transport σ} {s : σ} {codec : Codec} {project : Option String}
    {ss : List Setting} (told : t.Tells s codec project ss) (reference : Option Snapshot)
    (sink : τ) :
    let left := ((settingsInto codec .modern project reference sink).run t s).result.2
    let es := (delivered ss).flatMap flatten
    left = Sink.putAll sink es ∧
    (∀ xs e ys f zs, es = xs ++ e :: (ys ++ f :: zs) → e.key = f.key →
      ∃ before r mid r' after, delivered ss = before ++ r :: (mid ++ r' :: after) ∧
        Delivers before r xs e ∧ Delivers (before ++ r :: mid) r' (xs ++ e :: ys) f ∧
        (r.key = r'.key ∨ r.Nests r' ∨ r'.Nests r)) ∧
    (((delivered ss).Pairwise fun r r' => r.key ≠ r'.key ∧ ¬ r.Nests r' ∧ ¬ r'.Nests r) →
      (∀ e ∈ es, KeyedSink.get? left e.key = some e.value) ∧
      ∀ {σ' : Type} {t' : Transport σ'} {s' : σ'} {codec' : Codec} {project' : Option String}
        {ss' : List Setting}, t'.Tells s' codec' project' ss' →
        (delivered ss').Perm (delivered ss) → ∀ (reference' : Option Snapshot) (key : String),
          KeyedSink.get?
            ((settingsInto codec' .modern project' reference' sink).run t' s').result.2 key =
              KeyedSink.get? left key) := by
  dsimp only
  rw [run_settingsInto_of_tells told]
  refine ⟨rfl, fun xs e ys f zs h same => Setting.Record.flatMap_collision h same, fun apart => ?_⟩
  have distinct := Setting.Record.nodup_flatMap <| apart.imp fun hapart hmeets =>
    hmeets.elim hapart.1 fun nested => nested.elim hapart.2.1 hapart.2.2
  refine ⟨fun e he => KeyedSink.get?_putAll_of_mem distinct he sink, ?_⟩
  intro σ' t' s' codec' project' ss' told' perm reference' key
  rw [run_settingsInto_of_tells told']
  exact (KeyedSink.get?_putAll_perm distinct (perm.symm.flatMap_right _) sink key).symm

/-! ### A field set and a scalar, in either order

The scalar has the key `k.2`, but `k` has one group only, so nothing is nested. -/

namespace EitherOrder

def settings : List Setting :=
  [⟨"k", false, some (.fieldSet [⟨[("a", "1")], by decide⟩])⟩, ⟨"old", true, none⟩,
    ⟨"k.2", false, some (.scalar "own")⟩]

/-- It reads an empty payload as the settings, and any other as the settings in the other order. -/
def codec : Codec where
  settings body := .ok (if body.isEmpty then settings else settings.reverse)
  properties _ := .ok []
  qualityProfiles _ := .ok []

def server (body : List UInt8) : Canned :=
  { replies := [("/api/settings/values", .ok body)] }

theorem told : Canned.transport.Tells (server []) codec none settings :=
  ⟨⟨"/api/settings/values", []⟩, rfl, rfl⟩

theorem told_reverse : Canned.transport.Tells (server [0x20]) codec none settings.reverse :=
  ⟨⟨"/api/settings/values", [0x20]⟩, rfl, rfl⟩

theorem apart : (delivered settings).Pairwise fun r r' =>
    r.key ≠ r'.key ∧ ¬ r.Nests r' ∧ ¬ r'.Nests r := by
  refine List.pairwise_pair.mpr ⟨by decide, ?_, fun h => absurd h.isPrefix (by decide)⟩
  rintro ⟨groups, number, value, low, high, hkey⟩
  cases value
  obtain rfl : number = 1 := Nat.le_antisymm high low
  rcases hkey with hkey | ⟨text, hkey⟩
  · exact absurd hkey (by decide)
  · have texts := congrArg String.toList hkey
    rw [Setting.Record.toList_fieldKey] at texts
    cases texts

theorem settingsInto_either_order :
    ((settingsInto codec .modern none none Store.empty).run Canned.transport
        (server [])).result.2.get? "k.2" = some "own" ∧
      ∀ key, ((settingsInto codec .modern none none Store.empty).run Canned.transport
          (server [0x20])).result.2.get? key =
        ((settingsInto codec .modern none none Store.empty).run Canned.transport
          (server [])).result.2.get? key := by
  obtain ⟨-, -, separate⟩ := settingsInto_collisions told none Store.empty
  obtain ⟨kept, reordered⟩ := separate apart
  exact ⟨kept ⟨"k.2", "own"⟩ (by decide), fun key =>
    reordered told_reverse (delivered_perm (by decide) (List.reverse_perm settings)) none key⟩

end EitherOrder

end Inquiry

end AnalysisSettings
