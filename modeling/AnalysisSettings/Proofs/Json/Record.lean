import AnalysisSettings.Json.Record
import AnalysisSettings.Proofs.Except
import AnalysisSettings.Proofs.Json.Literal
import Mathlib.Data.List.Forall2
import Mathlib.Data.List.Pairwise

/-!
# How values are rendered, and that they are read back

A text, a list, an object and a record each have a relation between the value and the trees that may
stand for it (`Tree.IsText`, `Tree.IsList`, `Tree.IsObject`, `Tree.IsRecord`). A record may have its
members in any order and members of other names between them.

Reading a record folds over its members, one field at a time (`Field.take`). The order does not
matter, because reading one field does not disturb another: `Field.take_swap` exchanges two
neighbours, and `Field.foldlM_take_perm` is the induction over the permutation. So the reader can be
followed along the order of the description (`Shape.read_of_isRecord`).

What is refused is refused because of a part: a list is read exactly if its values are
(`Tree.IsList.asList_eq_ok_iff`), and a record that is read has no member that could not be taken
(`Shape.take_of_isRecord`).
-/

namespace AnalysisSettings.Json

/-! ## Texts, lists and objects -/

/-- The tree is the text, escaped in any way. -/
def Tree.IsText (text : String) (t : Tree) : Prop :=
  ∃ l : Literal, l.Spells text ∧ t = .string l

/-- A list of values with its closing bracket. -/
def Items.ofList : List Tree → Items
  | [] => .finish .closed
  | t :: ts => .item t (ofList ts)

/-- A list of members with the closing brace. -/
def Members.ofList : List (Literal × Tree) → Members
  | [] => .finish .closed
  | m :: ms => .member m.1 m.2 (ofList ms)

/-- The tree is the list of the values, each rendered by `P`. -/
def Tree.IsList {α : Type} (P : α → Tree → Prop) (as : List α) (t : Tree) : Prop :=
  ∃ ts, List.Forall₂ P as ts ∧ t = .list (.ofList ts)

/-- The member has the name, escaped in any way, and the value. -/
def SpellsMember (named : String × Tree) (m : Literal × Tree) : Prop :=
  m.1.Spells named.1 ∧ m.2 = named.2

/-- The tree is the object of the named values, in their order. -/
def Tree.IsObject (named : List (String × Tree)) (t : Tree) : Prop :=
  ∃ ms, List.Forall₂ SpellsMember named ms ∧ t = .object (.ofList ms)

/-- The tree is an object of the known members in any order, mixed with members whose names are
not among `names`. -/
def Tree.IsRecord (names : List String) (known : List (String × Tree)) (t : Tree) : Prop :=
  ∃ extras named, (∀ e ∈ extras, e.1 ∉ names) ∧ named.Perm (known ++ extras) ∧ t.IsObject named

/-- A text without escapes stands for itself. -/
theorem Tree.isText_plain (text : String) : (Tree.string (.plain text)).IsText text :=
  ⟨.plain text, Literal.spells_plain text, rfl⟩

/-- The object of the named values, with names that are not escaped. -/
def Tree.plainObject (named : List (String × Tree)) : Tree :=
  .object (.ofList (named.map fun m => (.plain m.1, m.2)))

/-- An object whose keys have no escapes has these keys. -/
theorem Tree.isObject_plainObject (named : List (String × Tree)) :
    (plainObject named).IsObject named := by
  refine ⟨_, ?_, rfl⟩
  induction named with
  | nil => exact .nil
  | cons m named ih => exact .cons ⟨Literal.spells_plain m.1, rfl⟩ ih

/-! ## Reading what is rendered

A reader passes over members of other names, so these statements ask that the tree has no fault for
such a reader; a written tree has none. -/

/-- A list has no fault if none of its values has one. -/
@[simp] theorem Items.skipFault?_ofList {ts : List Tree} :
    (ofList ts).skipFault? = none ↔ ∀ t ∈ ts, t.skipFault? = none := by
  induction ts with
  | nil => simp [ofList, skipFault?]
  | cons t ts ih => rw [ofList, skipFault?, Option.or_eq_none_iff, ih, List.forall_mem_cons]

/-- An object has no fault if none of its keys and values has one. -/
@[simp] theorem Members.skipFault?_ofList {ms : List (Literal × Tree)} :
    (ofList ms).skipFault? = none ↔
      ∀ m ∈ ms, m.1.skipFault? = none ∧ m.2.skipFault? = none := by
  induction ms with
  | nil => simp [ofList, skipFault?]
  | cons m ms ih =>
    rw [ofList, skipFault?, Option.or_eq_none_iff, Option.or_eq_none_iff, ih, List.forall_mem_cons,
      and_assoc]

/-- A tree that stands for a text is read as it. -/
theorem Tree.IsText.asText {text : String} {t : Tree} (h : t.IsText text) :
    t.asText = .ok text := by
  obtain ⟨l, spells, rfl⟩ := h
  exact Literal.text_of_spells spells

/-- A text is not null. -/
theorem Tree.IsText.ne_null {text : String} {t : Tree} (h : t.IsText text) : t ≠ .null := by
  obtain ⟨l, -, rfl⟩ := h
  exact nofun

/-- A list is not null. -/
theorem Tree.IsList.ne_null {α : Type} {P : α → Tree → Prop} {as : List α} {t : Tree}
    (h : t.IsList P as) : t ≠ .null := by
  obtain ⟨ts, -, rfl⟩ := h
  exact nofun

/-- The values of a list are read one by one. -/
theorem Items.values_ofList_iff {α : Type} {read : Tree → Except Fault α} {as : List α}
    {ts : List Tree} :
    (ofList ts).values read = .ok as ↔ List.Forall₂ (fun a t => read t = .ok a) as ts := by
  induction ts generalizing as with
  | nil =>
    rw [List.forall₂_nil_right_iff]
    exact ⟨fun h => (Except.ok.inj h).symm, fun h => congrArg Except.ok h.symm⟩
  | cons t ts ih =>
    rw [ofList, values, bind_eq_ok, List.forall₂_cons_right_iff]
    constructor
    · rintro ⟨a, first, h⟩
      obtain ⟨as', others, h⟩ := bind_eq_ok.mp h
      cases h
      exact ⟨a, as', first, ih.mp others, rfl⟩
    · rintro ⟨a, as', first, others, rfl⟩
      exact ⟨a, first, bind_eq_ok.mpr ⟨as', ih.mpr others, rfl⟩⟩

/-- **What is read from a list**: element by element what is read from the values. -/
theorem Tree.IsList.asList_eq_ok_iff {α β : Type} {P : α → Tree → Prop} {R : α → β → Prop}
    {read : Tree → Except Fault β} {as : List α} {t : Tree} (h : t.IsList P as)
    (sound : t.skipFault? = none)
    (reads : ∀ a u, P a u → u.skipFault? = none → ∀ b, read u = .ok b ↔ R a b) {bs : List β} :
    t.asList read = .ok bs ↔ List.Forall₂ R as bs := by
  obtain ⟨ts, values, rfl⟩ := h
  rw [Tree.skipFault?] at sound
  have elements := Items.skipFault?_ofList.mp sound
  rw [Tree.asList, Items.values_ofList_iff]
  clear sound
  induction values generalizing bs with
  | nil => rw [List.forall₂_nil_right_iff, List.forall₂_nil_left_iff]
  | cons head _ ih =>
    obtain ⟨hu, hus⟩ := List.forall_mem_cons.mp elements
    simp only [List.forall₂_cons_right_iff, List.forall₂_cons_left_iff, reads _ _ head hu, ih hus]

/-- **A list is read back**, if its values are. -/
theorem Tree.IsList.asList {α : Type} {P : α → Tree → Prop} {read : Tree → Except Fault α}
    {as : List α} {t : Tree} (h : t.IsList P as) (sound : t.skipFault? = none)
    (reads : ∀ a u, P a u → u.skipFault? = none → read u = .ok a) : t.asList read = .ok as := by
  refine (h.asList_eq_ok_iff (R := Eq) sound fun a u hu soundu b => ?_).mpr
    (List.forall₂_refl as)
  rw [reads a u hu soundu]
  exact ⟨Except.ok.inj, congrArg Except.ok⟩

/-- The values in a tree without a fault have none either. -/
theorem Tree.IsObject.sound {named : List (String × Tree)} {t : Tree} (h : t.IsObject named)
    (sound : t.skipFault? = none) : ∀ m ∈ named, m.2.skipFault? = none := by
  obtain ⟨ms, spelled, rfl⟩ := h
  rw [Tree.skipFault?] at sound
  have members := Members.skipFault?_ofList.mp sound
  clear sound
  induction spelled with
  | nil => exact fun _ h => absurd h List.not_mem_nil
  | cons head _ ih =>
    obtain ⟨hm, hms⟩ := List.forall_mem_cons.mp members
    exact List.forall_mem_cons.mpr ⟨head.2 ▸ hm.2, ih hms⟩

/-- The known members of a record without a fault have none. -/
theorem Tree.IsRecord.sound {names : List String} {known : List (String × Tree)} {t : Tree}
    (h : t.IsRecord names known) (sound : t.skipFault? = none) :
    ∀ m ∈ known, m.2.skipFault? = none := by
  obtain ⟨extras, named, -, perm, object⟩ := h
  exact fun m hm => object.sound sound m (perm.mem_iff.mpr (List.mem_append_left extras hm))

/-- The members of an object with any keys are read one by one. -/
theorem Members.pairs_ofList {α : Type} {read : Tree → Except Fault α} {as : List (String × α)}
    {named : List (String × Tree)} {ms : List (Literal × Tree)}
    (values : List.Forall₂ (fun a m => m.1 = a.1 ∧ read m.2 = .ok a.2) as named)
    (spelled : List.Forall₂ SpellsMember named ms) : (ofList ms).pairs read = .ok as := by
  induction values generalizing ms with
  | nil =>
    cases spelled
    rfl
  | @cons a m as named head _ ih =>
    cases spelled with
    | cons spells tail =>
      rw [ofList, pairs, Literal.text_of_spells spells.1, spells.2, head.1, head.2, ih tail]
      rfl

/-- **A map is read back** in its order, if its values are read. -/
theorem Tree.IsObject.asMap {α : Type} {read : Tree → Except Fault α} {as : List (String × α)}
    {named : List (String × Tree)} {t : Tree} (h : t.IsObject named)
    (values : List.Forall₂ (fun a m => m.1 = a.1 ∧ read m.2 = .ok a.2) as named) :
    t.asMap read = .ok as := by
  obtain ⟨ms, spelled, rfl⟩ := h
  exact Members.pairs_ofList values spelled

/-! ## One member of a record -/

namespace Field

variable {ρ α β : Type}

/-- The fields read so far and one member more. -/
def take (fields : List (Field ρ)) (parts : ρ) (m : String × Tree) : Except Fault ρ :=
  match fields.find? fun f => f.name == m.1 with
  | some f => if f.isRead parts then .error (.duplicateField m.1) else f.read m.2 parts
  | none =>
    match m.2.skipFault? with
    | some fault => .error fault
    | none => .ok parts

/-- Reading an object is taking its members, one after the other. -/
theorem collect_ofList (fields : List (Field ρ)) {named : List (String × Tree)}
    {ms : List (Literal × Tree)} (spelled : List.Forall₂ SpellsMember named ms) (parts : ρ) :
    (Members.ofList ms).collect fields parts = named.foldlM (take fields) parts := by
  induction spelled generalizing parts with
  | nil => rfl
  | @cons n m named ms head _ ih =>
    rw [Members.ofList, Members.collect, Literal.text_of_spells head.1, head.2, List.foldlM_cons,
      take]
    show (match fields.find? fun f => f.name == n.1 with | some f => _ | none => _) = _
    cases fields.find? fun f => f.name == n.1 with
    | some f =>
      dsimp only
      by_cases hread : f.isRead parts = true
      · rw [if_pos hread, if_pos hread]
        rfl
      · rw [if_neg hread, if_neg hread]
        cases f.read n.2 parts with
        | error fault => rfl
        | ok parts' => exact ih parts'
    | none =>
      dsimp only
      cases n.2.skipFault? with
      | some fault => rfl
      | none => exact ih parts

/-- Reading the one field and reading the other can be exchanged. -/
structure Independent (f g : Field ρ) : Prop where
  keeps : ∀ {t p q}, f.read t p = .ok q → g.isRead q = g.isRead p
  swap : ∀ {t u p q r}, f.read t p = .ok q → g.read u q = .ok r →
    ∃ q', g.read u p = .ok q' ∧ f.read t q' = .ok r

/-- The fields of a record do not disturb each other, and each one marks that it was read. -/
structure Orderly (fields : List (Field ρ)) : Prop where
  marks : ∀ f ∈ fields, ∀ {t p q}, f.read t p = .ok q → f.isRead q = true
  independent : fields.Pairwise fun f g => f.Independent g ∧ g.Independent f

/-- Two different fields of an orderly record are independent. -/
theorem Orderly.of_ne {fields : List (Field ρ)} (orderly : Orderly fields) {f g : Field ρ}
    (hf : f ∈ fields) (hg : g ∈ fields) (ne : f ≠ g) : f.Independent g ∧ g.Independent f :=
  have : Std.Symm fun f g : Field ρ => f.Independent g ∧ g.Independent f := ⟨fun _ _ => And.symm⟩
  orderly.independent.forall hf hg ne

variable {fields : List (Field ρ)} {m m' : String × Tree} {ms ms' : List (String × Tree)}
  {p q r : ρ}

/-- What a member does, if it is no fault: it is read as the field of its name, which was not read
before, or there is no such field, and it is passed over. -/
theorem take_eq_ok : take fields p m = .ok q ↔
    (∃ f, (fields.find? fun f => f.name == m.1) = some f ∧ f.isRead p = false ∧
      f.read m.2 p = .ok q) ∨
    (fields.find? fun f => f.name == m.1) = none ∧ m.2.skipFault? = none ∧ p = q := by
  rw [take]
  cases fields.find? fun f => f.name == m.1 with
  | some f => by_cases hread : f.isRead p = true <;> simp [hread]
  | none => cases m.2.skipFault? <;> simp

/-- **Neighbours can be exchanged**: two members that can be taken one after the other can be taken
in the other order, with the same result. -/
theorem take_swap (orderly : Orderly fields) (first : take fields p m = .ok q)
    (second : take fields q m' = .ok r) :
    ∃ q', take fields p m' = .ok q' ∧ take fields q' m = .ok r := by
  rcases take_eq_ok.mp first with ⟨f, hf, fresh, read⟩ | ⟨hf, sound, rfl⟩
  · rcases take_eq_ok.mp second with ⟨g, hg, fresh', read'⟩ | ⟨hg, sound', rfl⟩
    · have memf := List.mem_of_find?_eq_some hf
      have memg := List.mem_of_find?_eq_some hg
      -- the second member is not the same field again: that one is marked as read
      have ne : f ≠ g := by
        rintro rfl
        rw [orderly.marks f memf read] at fresh'
        cases fresh'
      obtain ⟨fg, gf⟩ := orderly.of_ne memf memg ne
      obtain ⟨q', read'', last⟩ := fg.swap read read'
      rw [fg.keeps read] at fresh'
      rw [← gf.keeps read''] at fresh
      exact ⟨q', take_eq_ok.mpr (.inl ⟨g, hg, fresh', read''⟩),
        take_eq_ok.mpr (.inl ⟨f, hf, fresh, last⟩)⟩
    · exact ⟨p, take_eq_ok.mpr (.inr ⟨hg, sound', rfl⟩), first⟩
  · exact ⟨r, second, take_eq_ok.mpr (.inr ⟨hf, sound, rfl⟩)⟩

/-- **Members may come in any order.** -/
theorem foldlM_take_perm (orderly : Orderly fields) (perm : ms.Perm ms')
    (read : ms.foldlM (take fields) p = .ok r) : ms'.foldlM (take fields) p = .ok r := by
  induction perm generalizing p with
  | nil => exact read
  | cons m _ ih =>
    rw [List.foldlM_cons, bind_eq_ok] at read ⊢
    obtain ⟨q, first, others⟩ := read
    exact ⟨q, first, ih others⟩
  | swap m m' ms =>
    rw [List.foldlM_cons, bind_eq_ok] at read
    obtain ⟨q, first, more⟩ := read
    rw [List.foldlM_cons, bind_eq_ok] at more
    obtain ⟨q', second, others⟩ := more
    obtain ⟨q'', second', first'⟩ := take_swap orderly first second
    -- the neighbours in the other order, and then the rest as before
    rw [List.foldlM_cons, second']
    show (m' :: ms).foldlM (take fields) q'' = .ok r
    rw [List.foldlM_cons, first']
    exact others
  | trans _ _ ih ih' => exact ih' (ih read)

/-- Taking members in two parts is taking them one after the other. -/
theorem foldlM_take_append (read : ms.foldlM (take fields) p = .ok q) :
    (ms ++ ms').foldlM (take fields) p = ms'.foldlM (take fields) q := by
  rw [List.foldlM_append, read]
  rfl

/-- Members of other names change nothing. -/
theorem foldlM_take_unknown (unknown : ∀ m ∈ ms, m.1 ∉ fields.map Field.name)
    (sound : ∀ m ∈ ms, m.2.skipFault? = none) : ms.foldlM (take fields) p = .ok p := by
  induction ms with
  | nil => rfl
  | cons m ms ih =>
    obtain ⟨hm, hms⟩ := List.forall_mem_cons.mp unknown
    obtain ⟨sm, sms⟩ := List.forall_mem_cons.mp sound
    have absent : (fields.find? fun f => f.name == m.1) = none := by
      refine List.find?_eq_none.mpr fun f hf hname => hm ?_
      exact beq_iff_eq.mp hname ▸ List.mem_map_of_mem hf
    rw [List.foldlM_cons, take_eq_ok.mpr (.inr ⟨absent, sm, rfl⟩)]
    exact ih hms sms

/-- Every member that was read could be taken at its turn. -/
theorem take_of_foldlM (read : ms.foldlM (take fields) p = .ok r) (hm : m ∈ ms) :
    ∃ q q', take fields q m = .ok q' := by
  induction ms generalizing p with
  | nil => cases hm
  | cons m' ms ih =>
    rw [List.foldlM_cons, bind_eq_ok] at read
    obtain ⟨q, first, others⟩ := read
    rcases List.mem_cons.mp hm with rfl | hm
    · exact ⟨p, q, first⟩
    · exact ih others hm

/-! ## Fields that store what they read -/

/-- The field reads a value with `rd` and keeps it in a place of its own. -/
structure Stores (f : Field ρ) (get : ρ → Option α) (put : Option α → ρ → ρ)
    (rd : Tree → Except Fault α) : Prop where
  isRead : ∀ p, f.isRead p = (get p).isSome
  read : ∀ t p, f.read t p = (rd t).map fun a => put (some a) p
  get_put : ∀ o p, get (put o p) = o
  put_get : ∀ p, put (get p) p = p

/-- A member that may be left out, with what `rd` reads in it. -/
inductive Given (name : String) (rd : Tree → Except Fault α) :
    Option α → List (String × Tree) → Prop
  | leftOut : Given name rd none []
  | given {t : Tree} {a : α} (h : rd t = .ok a) : Given name rd (some a) [(name, t)]

namespace Stores

variable {f g : Field ρ} {getf : ρ → Option α} {putf : Option α → ρ → ρ}
  {rdf : Tree → Except Fault α} {getg : ρ → Option β} {putg : Option β → ρ → ρ}
  {rdg : Tree → Except Fault β}

/-- A field that stores what it reads changes nothing else. -/
theorem read_eq_ok (stores : f.Stores getf putf rdf) {t : Tree} :
    f.read t p = .ok q ↔ ∃ a, rdf t = .ok a ∧ putf (some a) p = q := by
  rw [stores.read, map_eq_ok]

/-- A field that stores what it reads is known to be read. -/
theorem marks (stores : f.Stores getf putf rdf) {t : Tree} (h : f.read t p = .ok q) :
    f.isRead q = true := by
  obtain ⟨a, -, rfl⟩ := stores.read_eq_ok.mp h
  rw [stores.isRead, stores.get_put]
  rfl

/-- Fields that store in parts of their own are independent. -/
theorem independent (hf : f.Stores getf putf rdf) (hg : g.Stores getg putg rdg)
    (keeps : ∀ o p, getg (putf o p) = getg p)
    (swap : ∀ o o' p, putg o' (putf o p) = putf o (putg o' p)) : f.Independent g where
  keeps := by
    intro t p q h
    obtain ⟨a, -, rfl⟩ := hf.read_eq_ok.mp h
    rw [hg.isRead, hg.isRead, keeps]
  swap := by
    intro t u p q r first second
    obtain ⟨a, ha, rfl⟩ := hf.read_eq_ok.mp first
    obtain ⟨b, hb, rfl⟩ := hg.read_eq_ok.mp second
    exact ⟨putg (some b) p, hg.read_eq_ok.mpr ⟨b, hb, rfl⟩,
      hf.read_eq_ok.mpr ⟨a, ha, (swap (some a) (some b) p).symm⟩⟩

/-- A member of the field's name that could be taken has a value that `rd` reads. -/
theorem read_of_take (stores : f.Stores getf putf rdf) {name : String} {t : Tree}
    (found : (fields.find? fun f => f.name == name) = some f)
    (taken : take fields p (name, t) = .ok q) : ∃ a, rdf t = .ok a := by
  rcases take_eq_ok.mp taken with ⟨f', found', -, read⟩ | ⟨absent, -⟩
  · obtain rfl := Option.some.inj (found.symm.trans found')
    obtain ⟨a, h, -⟩ := stores.read_eq_ok.mp read
    exact ⟨a, h⟩
  · rw [found] at absent
    cases absent

/-- **One field on the way**: its member, if it is given, puts its value in its place. -/
theorem foldlM_take (stores : f.Stores getf putf rdf) {name : String} {o : Option α}
    (found : (fields.find? fun f => f.name == name) = some f) (given : Given name rdf o ms)
    (fresh : getf p = none) : ms.foldlM (take fields) p = .ok (putf o p) := by
  cases given with
  | leftOut =>
    rw [← fresh, stores.put_get]
    rfl
  | @given t a h =>
    have unread : f.isRead p = false := by
      rw [stores.isRead, fresh]
      rfl
    rw [List.foldlM_cons,
      take_eq_ok.mpr (.inl ⟨f, found, unread, stores.read_eq_ok.mpr ⟨a, h, rfl⟩⟩)]
    rfl

end Stores

/-! ### All fields of a record -/

/-- A field with the place where it keeps what it reads. -/
structure Place (ρ : Type) where
  field : Field ρ
  {α : Type}
  {get : ρ → Option α}
  {put : Option α → ρ → ρ}
  {rd : Tree → Except Fault α}
  stores : field.Stores get put rd

/-- What is put in one of the places leaves the other as it is. -/
structure Place.Apart (a b : Place ρ) : Prop where
  keeps : ∀ o p, b.get (a.put o p) = b.get p
  keeps' : ∀ o p, a.get (b.put o p) = a.get p
  swap : ∀ o o' p, b.put o' (a.put o p) = a.put o (b.put o' p)

/-- Fields with places of their own do not disturb each other. -/
theorem Place.Apart.independent {a b : Place ρ} (h : a.Apart b) :
    a.field.Independent b.field ∧ b.field.Independent a.field :=
  ⟨a.stores.independent b.stores h.keeps h.swap,
    b.stores.independent a.stores h.keeps' fun o o' p => (h.swap o' o p).symm⟩

/-- Fields with places apart from each other are orderly. -/
theorem Orderly.of_places {places : List (Place ρ)} (apart : places.Pairwise Place.Apart) :
    Orderly (places.map Place.field) where
  marks := by
    intro f hf t p q h
    obtain ⟨place, -, rfl⟩ := List.mem_map.mp hf
    exact place.stores.marks h
  independent := List.pairwise_map.mpr (apart.imp Place.Apart.independent)

/-- A field that no member names is read after the members exactly if it was read before. -/
theorem isRead_of_foldlM (orderly : Orderly fields) {f : Field ρ} (hf : f ∈ fields)
    (absent : ∀ m ∈ ms, m.1 ≠ f.name) (read : ms.foldlM (take fields) p = .ok r) :
    f.isRead r = f.isRead p := by
  induction ms generalizing p with
  | nil =>
    cases read
    rfl
  | cons m ms ih =>
    obtain ⟨hm, hms⟩ := List.forall_mem_cons.mp absent
    rw [List.foldlM_cons, bind_eq_ok] at read
    obtain ⟨q, first, others⟩ := read
    rw [ih hms others]
    rcases take_eq_ok.mp first with ⟨g, hg, -, taken⟩ | ⟨-, -, rfl⟩
    · have named : g.name = m.1 := by simpa using List.find?_some hg
      have ne : g ≠ f := by
        rintro rfl
        exact hm named.symm
      exact (orderly.of_ne (List.mem_of_find?_eq_some hg) hf ne).1.keeps taken
    · rfl

end Field

/-- **A record is read back**: its members may come in any order and with others between them, and it
is enough to follow the reader along the members that belong to the record. -/
theorem Shape.read_of_isRecord {ρ τ : Type} (s : Shape ρ τ) (orderly : Field.Orderly s.fields)
    {known : List (String × Tree)} {t : Tree} {parts : ρ}
    (h : t.IsRecord (s.fields.map Field.name) known) (sound : t.skipFault? = none)
    (read : known.foldlM (Field.take s.fields) s.start = .ok parts)
    (complete : ∀ f ∈ s.fields, f.required = true → f.isRead parts = true) :
    s.read t = .ok (s.build parts) := by
  obtain ⟨extras, named, unknown, perm, object⟩ := h
  have soundExtras : ∀ e ∈ extras, e.2.skipFault? = none := by
    intro e he
    exact object.sound sound e (perm.mem_iff.mpr (List.mem_append_right known he))
  have inOrder : (known ++ extras).foldlM (Field.take s.fields) s.start = .ok parts := by
    rw [Field.foldlM_take_append read]
    exact Field.foldlM_take_unknown unknown soundExtras
  have nothingMissing : (s.fields.find? fun f => f.required && !f.isRead parts) = none := by
    refine List.find?_eq_none.mpr fun f hf => ?_
    cases hr : f.required with
    | false => simp
    | true => simp [complete f hf hr]
  obtain ⟨ms, spelled, rfl⟩ := object
  rw [Shape.read, Field.collect_ofList _ spelled,
    Field.foldlM_take_perm orderly perm.symm inOrder]
  show s.complete parts = _
  rw [Shape.complete, nothingMissing]

/-- A record that was read has no member that could not be taken. -/
theorem Shape.take_of_isRecord {ρ τ : Type} {s : Shape ρ τ} {names : List String}
    {known : List (String × Tree)} {t : Tree} {a : τ} (h : t.IsRecord names known)
    (read : s.read t = .ok a) {m : String × Tree} (hm : m ∈ known) :
    ∃ p q, Field.take s.fields p m = .ok q := by
  obtain ⟨extras, named, -, perm, ms, spelled, rfl⟩ := h
  obtain ⟨parts, collected, -⟩ := bind_eq_ok.mp read
  rw [Field.collect_ofList _ spelled] at collected
  exact Field.take_of_foldlM collected (perm.mem_iff.mpr (List.mem_append_left extras hm))

/-- A record without one of its required members is refused. -/
theorem Shape.not_read_of_missing {ρ τ : Type} {s : Shape ρ τ} (orderly : Field.Orderly s.fields)
    {known : List (String × Tree)} {t : Tree} (h : t.IsRecord (s.fields.map Field.name) known)
    {f : Field ρ} (hf : f ∈ s.fields) (required : f.required = true)
    (unread : f.isRead s.start = false) (absent : ∀ m ∈ known, m.1 ≠ f.name) (a : τ) :
    s.read t ≠ .ok a := by
  intro read
  obtain ⟨extras, named, unknown, perm, ms, spelled, rfl⟩ := h
  obtain ⟨parts, collected, complete⟩ := bind_eq_ok.mp read
  rw [Field.collect_ofList _ spelled] at collected
  have nowhere : ∀ m ∈ named, m.1 ≠ f.name := by
    intro m hm
    rcases List.mem_append.mp (perm.mem_iff.mp hm) with hm | hm
    · exact absent m hm
    · intro same
      exact unknown m hm (same ▸ List.mem_map_of_mem hf)
  have missing := Field.isRead_of_foldlM orderly hf nowhere collected
  rw [unread] at missing
  have found : (s.fields.find? fun f => f.required && !f.isRead parts).isSome := by
    refine List.find?_isSome.mpr ⟨f, hf, ?_⟩
    rw [required, missing]
    rfl
  obtain ⟨g, hg⟩ := Option.isSome_iff_exists.mp found
  rw [Shape.complete, hg] at complete
  cases complete

/-! ## Optional values and flags -/

/-- The members of an optional value: without a value there is none or a null. -/
inductive OptionalMember {α : Type} (name : String) (P : α → Tree → Prop) :
    Option α → List (String × Tree) → Prop
  | leftOut : OptionalMember name P none []
  | null : OptionalMember name P none [(name, .null)]
  | given {a : α} {t : Tree} (h : P a t) : OptionalMember name P (some a) [(name, t)]

/-- The members of a flag: one that is not set may be left out. -/
inductive FlagMember (name : String) : Bool → List (String × Tree) → Prop
  | leftOut : FlagMember name false []
  | given (b : Bool) : FlagMember name b [(name, .bool b)]

/-- An optional value that is there is read as it is. -/
theorem Tree.asOptional_of_ok {α : Type} {read : Tree → Except Fault α} {t : Tree} {a : α}
    (present : t ≠ .null) (h : read t = .ok a) : t.asOptional read = .ok (some a) := by
  rw [Tree.asOptional.eq_def]
  split
  · exact absurd rfl present
  · rw [h]
    rfl

/-- A member that may be missing or null is read as what it carries. -/
theorem OptionalMember.read {α : Type} {name : String} {P : α → Tree → Prop}
    {read : Tree → Except Fault α} {v : Option α} {ms : List (String × Tree)}
    (h : OptionalMember name P v ms) (sound : ∀ m ∈ ms, m.2.skipFault? = none)
    (reads : ∀ a t, P a t → t.skipFault? = none → t ≠ .null ∧ read t = .ok a) :
    ∃ o, Field.Given name (Tree.asOptional read) o ms ∧ o.getD none = v := by
  cases h with
  | leftOut => exact ⟨none, .leftOut, rfl⟩
  | null => exact ⟨some none, .given rfl, rfl⟩
  | @given a t h =>
    obtain ⟨present, read⟩ := reads a t h (sound _ List.mem_cons_self)
    exact ⟨some (some a), .given (Tree.asOptional_of_ok present read), rfl⟩

/-- A flag that may be missing is read as what it carries, and is off where it is missing. -/
theorem FlagMember.read {name : String} {b : Bool} {ms : List (String × Tree)}
    (h : FlagMember name b ms) : ∃ o, Field.Given name Tree.asFlag o ms ∧ o.getD false = b := by
  cases h with
  | leftOut => exact ⟨none, .leftOut, rfl⟩
  | given => exact ⟨some b, .given rfl, rfl⟩

end AnalysisSettings.Json
