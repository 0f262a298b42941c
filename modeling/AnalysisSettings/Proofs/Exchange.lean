import AnalysisSettings.Proofs.Run

/-!
# Downloads do not disturb each other

A question to the transport depends on the registered replies and on what it reads under a name, and
it changes what it writes under a name and the list of requests (`Effect`). Two questions are
independent if neither writes what the other reads or writes.

Independent neighbours can be exchanged (`Operation.exchange`): each has the result that it had, and
the sessions after them differ in the order of the requests only (`Session.Same`). No later step can
tell them apart (`Operation.perform_same`), and so the rest of the run is the same too.
-/

namespace AnalysisSettings

/-! ## What a step reads and writes -/

/-- Something that has a name in a session. -/
inductive Named where
  | sink (name : String)
  | snapshot (name : String)
  | project (name : String)

namespace Step

variable {τ : Type}

/-- The step asks the transport one question, if what it names is there. -/
def IsQuestion : Step τ → Prop
  | .get _ | .fetch .. | .global .. | .project .. | .qualityProfiles .. => True
  | _ => False

/-- The names under which a question reads. -/
def reads : Step τ → List Named
  | .fetch _ _ reference name => .sink name :: reference.toList.map .snapshot
  | .project _ _ globalName _ => [.snapshot globalName]
  | _ => []

/-- The names under which a question writes. -/
def writes : Step τ → List Named
  | .fetch _ _ _ name => [Named.sink name]
  | .global _ asName => asName.toList.map Named.snapshot
  | .project _ _ _ asName => asName.toList.map Named.project
  | _ => []

/-- The steps are questions, and neither writes what the other reads or writes. -/
structure Independent (a b : Step τ) : Prop where
  left : a.IsQuestion
  right : b.IsQuestion
  apart : ∀ n ∈ a.writes, n ∉ b.reads ++ b.writes
  apart' : ∀ n ∈ b.writes, n ∉ a.reads ++ a.writes

end Step

namespace Session

/-- The sessions have the same replies, and the same things under the names. -/
structure Agree (names : Named → Prop) (s s' : Session Canned) : Prop where
  replies : s.transport.replies = s'.transport.replies
  sinks : ∀ n, names (.sink n) → s.sinks.lookup n = s'.sinks.lookup n
  snapshots : ∀ n, names (.snapshot n) → s.snapshots.lookup n = s'.snapshots.lookup n
  projects : ∀ n, names (.project n) → s.projects.lookup n = s'.projects.lookup n

/-- The sessions are the same but for the list of requests. -/
def Same : Session Canned → Session Canned → Prop :=
  Agree fun _ => True

variable {names : Named → Prop} {s s' s'' : Session Canned}

/-- A session agrees with itself on all names. -/
theorem Agree.refl (s : Session Canned) : s.Agree names s :=
  ⟨rfl, fun _ _ => rfl, fun _ _ => rfl, fun _ _ => rfl⟩

/-- Sessions that hold the same agree on all names. -/
theorem Same.agree (h : s.Same s') : s.Agree names s' :=
  ⟨h.replies, fun n _ => h.sinks n trivial, fun n _ => h.snapshots n trivial,
    fun n _ => h.projects n trivial⟩

end Session

/-! ## The effect of a question -/

/-- What a question leaves: its result and notices, the path it asked for, and what it adds under
names. -/
structure Effect where
  result : StepResult
  notices : List Notice
  paths : List String := []
  sinks : List (String × AnySink) := []
  snapshots : List (String × Snapshot) := []
  projects : List (String × ProjectSettings) := []

namespace Effect

/-- The session with the additions. -/
def apply (e : Effect) (s : Session Canned) : Session Canned where
  transport := { s.transport with requests := s.transport.requests ++ e.paths }
  sinks := e.sinks ++ s.sinks
  snapshots := e.snapshots ++ s.snapshots
  projects := e.projects ++ s.projects

/-- All additions are under the names. -/
structure Within (e : Effect) (names : List Named) : Prop where
  sinks : ∀ m ∈ e.sinks, .sink m.1 ∈ names
  snapshots : ∀ m ∈ e.snapshots, .snapshot m.1 ∈ names
  projects : ∀ m ∈ e.projects, .project m.1 ∈ names

/-- A step that puts nothing stays within any names. -/
theorem within_of_nothing {result : StepResult} {notices : List Notice} {paths : List String}
    {names : List Named} : Within ⟨result, notices, paths, [], [], []⟩ names where
  sinks := List.forall_mem_nil _
  snapshots := List.forall_mem_nil _
  projects := List.forall_mem_nil _

/-- A step that does nothing leaves the session. -/
theorem apply_of_nothing (result : StepResult) (notices : List Notice) (s : Session Canned) :
    (⟨result, notices, [], [], [], []⟩ : Effect).apply s = s := by
  simp [apply]

end Effect

namespace Session

/-- A reference depends on the snapshot of its name. -/
theorem reference?_congr {s s' : Session Canned} {reference : Option String}
    (same : ∀ name ∈ reference, s.snapshots.lookup name = s'.snapshots.lookup name) :
    s'.reference? reference = s.reference? reference := by
  cases reference with
  | none => rfl
  | some name => rw [reference?, reference?, same name rfl]

/-- What is kept stands in front of what was there. -/
theorem keep_append {α : Type} (outcome : Except Failure α) (asName : Option String)
    (named : List (String × α)) : keep outcome asName named = keep outcome asName [] ++ named := by
  cases outcome <;> cases asName <;> rfl

/-- What is kept has the name that it was asked to have. -/
theorem mem_of_mem_keep {α : Type} {outcome : Except Failure α} {asName : Option String}
    {m : String × α} (h : m ∈ keep outcome asName []) : m.1 ∈ asName := by
  cases outcome with
  | error f => cases asName <;> cases h
  | ok a =>
    cases asName with
    | none => cases h
    | some name =>
      cases List.mem_singleton.mp h
      rfl

end Session

/-- A download with one question depends on the replies of the server, and adds one request. -/
theorem Inquiry.AsksOnly.run_of_replies {α : Type} {q : Inquiry α} {path : String}
    (h : q.AsksOnly path) {c c' : Canned} (same : c.replies = c'.replies) :
    q.run Canned.transport c' =
      ⟨(q.run Canned.transport c).result, (q.run Canned.transport c).notices,
        { c' with requests := c'.requests ++ [path] }⟩ := by
  have answer : c'.answer path = c.answer path := by rw [Canned.answer, Canned.answer, same]
  rw [h.run_canned, h.run_canned, answer]

namespace Operation

variable {op : Operation} {s s' : Session Canned}

/-- The operation asks nothing, since a name is unknown. -/
theorem exists_effect_of_unknown (result : StepResult)
    (performs : ∀ s', s.Agree (· ∈ op.step.reads) s' → op.perform s' = (result, [], s')) :
    ∃ e : Effect, e.Within op.step.writes ∧
      ∀ s', s.Agree (· ∈ op.step.reads) s' → op.perform s' = (e.result, e.notices, e.apply s') := by
  refine ⟨⟨result, [], [], [], [], []⟩, Effect.within_of_nothing, fun s' agree => ?_⟩
  rw [performs s' agree, Effect.apply_of_nothing]

/-- The operation asks one question, and its additions depend on what that comes to. -/
theorem exists_effect_of_asksOnly {α : Type} {q : Inquiry α} {path : String} (once : q.AsksOnly path)
    (result : α → StepResult) (sinks : α → List (String × AnySink))
    (snapshots : α → List (String × Snapshot)) (projects : α → List (String × ProjectSettings))
    (within : ∀ a,
      (⟨result a, [], [], sinks a, snapshots a, projects a⟩ : Effect).Within op.step.writes)
    (performs : ∀ s', s.Agree (· ∈ op.step.reads) s' →
      let o := q.run Canned.transport s'.transport
      op.perform s' = (result o.result, o.notices, ⟨o.state, sinks o.result ++ s'.sinks,
        snapshots o.result ++ s'.snapshots, projects o.result ++ s'.projects⟩)) :
    ∃ e : Effect, e.Within op.step.writes ∧
      ∀ s', s.Agree (· ∈ op.step.reads) s' → op.perform s' = (e.result, e.notices, e.apply s') := by
  let o := q.run Canned.transport s.transport
  refine ⟨⟨result o.result, o.notices, [path], sinks o.result, snapshots o.result,
    projects o.result⟩, ⟨(within o.result).sinks, (within o.result).snapshots,
    (within o.result).projects⟩, fun s' agree => ?_⟩
  rw [performs s' agree, once.run_of_replies agree.replies]
  rfl

/-- **A question comes to the same, and adds the same**, wherever what it reads is the same. -/
theorem exists_effect (question : op.step.IsQuestion) (s : Session Canned) :
    ∃ e : Effect, e.Within op.step.writes ∧
      ∀ s', s.Agree (· ∈ op.step.reads) s' → op.perform s' = (e.result, e.notices, e.apply s') := by
  obtain ⟨client, step⟩ := op
  cases step with
  | get path =>
    have once : (Inquiry.ask path Inquiry.done).AsksOnly path := ⟨rfl, fun _ => trivial⟩
    exact exists_effect_of_asksOnly once .response (fun _ => []) (fun _ => []) (fun _ => [])
      (fun _ => Effect.within_of_nothing) fun _ _ => rfl
  | global version asName =>
    refine exists_effect_of_asksOnly (client.globalSettings_asksOnly version) .snapshot
      (fun _ => []) (fun outcome => Session.keep outcome asName []) (fun _ => [])
      (fun _ => ⟨List.forall_mem_nil _, fun m hm => ?_, List.forall_mem_nil _⟩) fun s' _ => ?_
    · exact List.mem_map_of_mem (Option.mem_toList.mpr (Session.mem_of_mem_keep hm))
    · rw [perform, Session.perform, Session.keep_append]
      rfl
  | qualityProfiles version project =>
    exact exists_effect_of_asksOnly (client.qualityProfiles_asksOnly version project)
      .qualityProfiles (fun _ => []) (fun _ => []) (fun _ => [])
      (fun _ => Effect.within_of_nothing) fun _ _ => rfl
  | project version project globalName asName =>
    have same : ∀ s', s.Agree (· ∈ [.snapshot globalName]) s' →
        s'.snapshots.lookup globalName = s.snapshots.lookup globalName :=
      fun s' agree => (agree.snapshots _ List.mem_cons_self).symm
    cases known : s.snapshots.lookup globalName with
    | none =>
      refine exists_effect_of_unknown (.unknownName "global") fun s' agree => ?_
      rw [perform, Session.perform, same s' agree, known]
    | some snapshot =>
      refine exists_effect_of_asksOnly (client.projectSettings_asksOnly version project snapshot)
        .project (fun _ => []) (fun _ => []) (fun outcome => Session.keep outcome asName [])
        (fun _ => ⟨List.forall_mem_nil _, List.forall_mem_nil _, fun m hm => ?_⟩) fun s' agree => ?_
      · exact List.mem_map_of_mem (Option.mem_toList.mpr (Session.mem_of_mem_keep hm))
      · rw [perform, Session.perform, same s' agree, known]
        dsimp only
        rw [Session.keep_append]
        rfl
  | fetch generation project reference name =>
    have sameSink : ∀ s', s.Agree (· ∈ (.sink name :: reference.toList.map .snapshot)) s' →
        s'.sinks.lookup name = s.sinks.lookup name :=
      fun s' agree => (agree.sinks _ List.mem_cons_self).symm
    have sameReference : ∀ s', s.Agree (· ∈ (.sink name :: reference.toList.map .snapshot)) s' →
        s'.reference? reference = s.reference? reference := by
      refine fun s' agree => Session.reference?_congr fun r hr => agree.snapshots r ?_
      exact List.mem_cons_of_mem _ (List.mem_map_of_mem (Option.mem_toList.mpr hr))
    cases found : s.sinks.lookup name with
    | none =>
      refine exists_effect_of_unknown (.unknownName "sink") fun s' agree => ?_
      rw [perform, Session.perform_fetch, sameSink s' agree, found]
    | some sink =>
      cases known : s.reference? reference with
      | none =>
        refine exists_effect_of_unknown (.unknownName "reference") fun s' agree => ?_
        rw [perform, Session.perform_fetch, sameSink s' agree, found, sameReference s' agree, known]
      | some snapshot =>
        refine exists_effect_of_asksOnly
          (Inquiry.settingsInto_asksOnly client.codec generation project snapshot sink)
          (fun a => .fetched a.1 a.2.shown) (fun a => [(name, a.2)]) (fun _ => []) (fun _ => [])
          (fun _ => ⟨fun m hm => ?_, List.forall_mem_nil _, List.forall_mem_nil _⟩)
          fun s' agree => ?_
        · cases List.mem_singleton.mp hm
          exact List.mem_singleton_self _
        · rw [perform, Session.perform_fetch, sameSink s' agree, found, sameReference s' agree, known]
          rfl
  | _ => exact question.elim

end Operation

/-! ## Sessions that are the same -/

/-- What does not have the name is passed over. -/
theorem lookup_append_of_ne {α : Type} {n : String} {l : List (String × α)} (h : ∀ m ∈ l, m.1 ≠ n)
    (l' : List (String × α)) : (l ++ l').lookup n = l'.lookup n := by
  have absent : l.lookup n = none :=
    List.lookup_eq_none_iff.mpr fun m hm => bne_iff_ne.mpr (Ne.symm (h m hm))
  rw [List.lookup_append, absent, Option.none_or]

/-- Additions under different names can be exchanged. -/
theorem lookup_append_comm {α : Type} {l l' : List (String × α)}
    (apart : ∀ m ∈ l, ∀ m' ∈ l', m.1 ≠ m'.1) (n : String) (l'' : List (String × α)) :
    (l ++ (l' ++ l'')).lookup n = (l' ++ (l ++ l'')).lookup n := by
  by_cases h : ∃ m ∈ l, m.1 = n
  · obtain ⟨m, hm, rfl⟩ := h
    have absent : ∀ m' ∈ l', m'.1 ≠ m.1 := fun m' hm' => (apart m hm m' hm').symm
    rw [lookup_append_of_ne absent, List.lookup_append, lookup_append_of_ne absent,
      List.lookup_append]
  · have absent : ∀ m ∈ l, m.1 ≠ n := fun m hm hn => h ⟨m, hm, hn⟩
    rw [lookup_append_of_ne absent, List.lookup_append, List.lookup_append,
      lookup_append_of_ne absent]

/-- Of a name that is taken out nothing is found; the others stay. -/
theorem lookup_filter_ne {α : Type} (l : List (String × α)) (name n : String) :
    (l.filter fun (m, _) => m != name).lookup n = if n = name then none else l.lookup n := by
  split
  · next h =>
    refine List.lookup_eq_none_iff.mpr fun m hm => ?_
    rw [h, bne_comm]
    exact (List.mem_filter.mp hm).2
  · next h =>
    induction l with
    | nil => rfl
    | cons m l ih =>
      rw [List.filter_cons, List.lookup_cons, ← ih]
      by_cases removed : m.1 = name
      · rw [if_neg (by simpa using removed), beq_eq_false_iff_ne.mpr (removed ▸ h)]
      · rw [if_pos (by simpa using removed), List.lookup_cons]

section Congruence

variable {α : Type} {l l' : List (String × α)} (same : ∀ n, l.lookup n = l'.lookup n)

include same

/-- Lists that agree on a name do so with the same field in front. -/
theorem lookup_cons_congr (m : String × α) (n : String) :
    (m :: l).lookup n = (m :: l').lookup n := by
  rw [List.lookup_cons, List.lookup_cons, same]

/-- Lists that agree on a name do so with another name taken out. -/
theorem lookup_filter_congr (name n : String) :
    (l.filter fun (m, _) => m != name).lookup n = (l'.filter fun (m, _) => m != name).lookup n := by
  rw [lookup_filter_ne, lookup_filter_ne, same]

end Congruence

namespace Session

variable {names : Named → Prop} {s s' : Session Canned} {e e' : Effect} {written written' : List Named}

/-- A step that writes none of the names keeps the agreement on them. -/
theorem Agree.apply (within : e.Within written) (apart : ∀ n, names n → n ∉ written) :
    s.Agree names (e.apply s) where
  replies := rfl
  sinks n hn := by
    refine (lookup_append_of_ne (fun m hm same => apart _ hn ?_) _).symm
    exact same ▸ within.sinks m hm
  snapshots n hn := by
    refine (lookup_append_of_ne (fun m hm same => apart _ hn ?_) _).symm
    exact same ▸ within.snapshots m hm
  projects n hn := by
    refine (lookup_append_of_ne (fun m hm same => apart _ hn ?_) _).symm
    exact same ▸ within.projects m hm

/-- A step on sessions that hold the same leaves such sessions. -/
theorem Same.apply (same : s.Same s') (e : Effect) : (e.apply s).Same (e.apply s') where
  replies := same.replies
  sinks n _ := by simp only [Effect.apply, List.lookup_append, same.sinks n trivial]
  snapshots n _ := by simp only [Effect.apply, List.lookup_append, same.snapshots n trivial]
  projects n _ := by simp only [Effect.apply, List.lookup_append, same.projects n trivial]

/-- Effects with additions under different names can be exchanged. -/
theorem same_apply_comm (within : e.Within written) (within' : e'.Within written')
    (apart : ∀ n ∈ written, n ∉ written') : (e'.apply (e.apply s)).Same (e.apply (e'.apply s)) where
  replies := rfl
  sinks n _ := lookup_append_comm (fun m hm m' hm' same =>
    apart _ (same ▸ within.sinks m' hm') (within'.sinks m hm)) n _
  snapshots n _ := lookup_append_comm (fun m hm m' hm' same =>
    apart _ (same ▸ within.snapshots m' hm') (within'.snapshots m hm)) n _
  projects n _ := lookup_append_comm (fun m hm m' hm' same =>
    apart _ (same ▸ within.projects m' hm') (within'.projects m hm)) n _

end Session

namespace Operation

variable {op a b : Operation} {s s' : Session Canned}

/-- **Independent questions can be exchanged**: each comes to the same in both orders, and the
sessions after them are the same. -/
theorem exchange (independent : a.step.Independent b.step) (s : Session Canned) :
    let first := a.perform s
    let second := b.perform first.2.2
    let first' := b.perform s
    let second' := a.perform first'.2.2
    (second'.1, second'.2.1) = (first.1, first.2.1) ∧ (first'.1, first'.2.1) = (second.1, second.2.1) ∧
      second.2.2.Same second'.2.2 := by
  obtain ⟨left, right, apart, apart'⟩ := independent
  obtain ⟨e, within, performs⟩ := exists_effect left s
  obtain ⟨e', within', performs'⟩ := exists_effect right s
  intro first second first' second'
  have hfirst : first = (e.result, e.notices, e.apply s) := performs s (.refl s)
  have hfirst' : first' = (e'.result, e'.notices, e'.apply s) := performs' s (.refl s)
  have hsecond : second = (e'.result, e'.notices, e'.apply (e.apply s)) := by
    show b.perform first.2.2 = _
    rw [hfirst]
    refine performs' _ (.apply within fun n hn hw => apart n hw (List.mem_append_left _ hn))
  have hsecond' : second' = (e.result, e.notices, e.apply (e'.apply s)) := by
    show a.perform first'.2.2 = _
    rw [hfirst']
    refine performs _ (.apply within' fun n hn hw => apart' n hw (List.mem_append_left _ hn))
  rw [hfirst, hfirst', hsecond, hsecond']
  refine ⟨rfl, rfl, Session.same_apply_comm within within' fun n hn hn' => ?_⟩
  exact apart n hn (List.mem_append_right _ hn')

/-- **No step can tell sessions apart** that are the same. -/
theorem perform_same (single : op.step.IsSingle) (same : s.Same s') :
    (op.perform s').1 = (op.perform s).1 ∧ (op.perform s').2.1 = (op.perform s).2.1 ∧
      (op.perform s).2.2.Same (op.perform s').2.2 := by
  by_cases question : op.step.IsQuestion
  · obtain ⟨e, -, performs⟩ := exists_effect question s
    rw [performs s (.refl s), performs s' same.agree]
    exact ⟨rfl, rfl, same.apply e⟩
  · have sinks : ∀ n, s.sinks.lookup n = s'.sinks.lookup n := fun n => same.sinks n trivial
    have snapshots : ∀ n, s.snapshots.lookup n = s'.snapshots.lookup n :=
      fun n => same.snapshots n trivial
    have projects : ∀ n, s.projects.lookup n = s'.projects.lookup n :=
      fun n => same.projects n trivial
    obtain ⟨client, step⟩ := op
    cases step with
    | transport action =>
      refine ⟨rfl, rfl, ?_, same.sinks, same.snapshots, same.projects⟩
      cases action with
      | register path reply => exact congrArg ((path, reply) :: ·) same.replies
      | clear => rfl
    | requests => exact ⟨rfl, rfl, same⟩
    | sink name kind =>
      exact ⟨rfl, rfl, same.replies, fun n _ => lookup_cons_congr sinks _ n, same.snapshots,
        same.projects⟩
    | snapshot entries asName =>
      exact ⟨rfl, rfl, same.replies, same.sinks, fun n _ => lookup_cons_congr snapshots _ n,
        same.projects⟩
    | put name entry =>
      simp only [perform, Session.perform, sinks]
      split
      · exact ⟨rfl, rfl, same⟩
      · exact ⟨rfl, rfl, same.replies, fun n _ => lookup_cons_congr sinks _ n, same.snapshots,
          same.projects⟩
    | flatten name record =>
      simp only [perform, Session.perform, sinks]
      split
      · exact ⟨rfl, rfl, same⟩
      · exact ⟨rfl, rfl, same.replies, fun n _ => lookup_cons_congr sinks _ n, same.snapshots,
          same.projects⟩
    | build name asName =>
      simp only [perform, Session.perform, sinks]
      split
      · exact ⟨rfl, rfl, same.replies, fun n _ => lookup_filter_congr sinks name n,
          fun n _ => lookup_cons_congr snapshots _ n, same.projects⟩
      · exact ⟨rfl, rfl, same.replies, fun n _ => lookup_filter_congr sinks name n,
          same.snapshots, fun n _ => lookup_cons_congr projects _ n⟩
      · exact ⟨rfl, rfl, same⟩
    | lookup name key =>
      simp only [perform, Session.perform, snapshots]
      split <;> exact ⟨rfl, rfl, same⟩
    | effective name globalName key =>
      simp only [perform, Session.perform, snapshots, projects]
      split <;> exact ⟨rfl, rfl, same⟩
    | same a b =>
      simp only [perform, Session.perform, snapshots, projects]
      split <;> exact ⟨rfl, rfl, same⟩
    | sync version project => exact single.elim
    | _ => exact absurd trivial question

/-! ## The rest of a run -/

/-- Runs on sessions that hold the same give the same results and leave such sessions. -/
theorem run_same {ops : List Operation} (single : ∀ op ∈ ops, op.step.IsSingle) (same : s.Same s') :
    (run s' ops).1 = (run s ops).1 ∧ (run s ops).2.Same (run s' ops).2 := by
  induction ops generalizing s s' with
  | nil => exact ⟨rfl, same⟩
  | cons op ops ih =>
    obtain ⟨one, singles⟩ := List.forall_mem_cons.mp single
    obtain ⟨result, notices, same'⟩ := perform_same one same
    obtain ⟨others, final⟩ := ih singles same'
    refine ⟨?_, final⟩
    rw [run, run, result, notices]
    exact congrArg (_ :: ·) others

/-- **A run with two neighbours exchanged**: all steps leave what they left, those two in the other
order. -/
theorem run_exchange (before : List Operation) {after : List Operation}
    (single : ∀ op ∈ after, op.step.IsSingle) (independent : a.step.Independent b.step) :
    ∃ x y zs, x.toOperation = a ∧ y.toOperation = b ∧
      (run s (before ++ a :: b :: after)).1 = (run s before).1 ++ x :: y :: zs ∧
      (run s (before ++ b :: a :: after)).1 = (run s before).1 ++ y :: x :: zs ∧
      (run s (before ++ a :: b :: after)).2.Same (run s (before ++ b :: a :: after)).2 := by
  rw [run_append, run_append]
  generalize (run s before).2 = s
  obtain ⟨left, right, same⟩ := exchange independent s
  obtain ⟨rest, final⟩ := run_same single same
  rw [Prod.mk.injEq] at left right
  refine ⟨⟨a, (a.perform s).1, (a.perform s).2.1⟩, ⟨b, (b.perform s).1, (b.perform s).2.1⟩,
    (run (b.perform (a.perform s).2.2).2.2 after).1, rfl, rfl, ?_, ?_, final⟩
  · rw [run, run, ← right.1, ← right.2]
  · rw [run, run, left.1, left.2, rest]

/-- **Logs and results of a run.** Let clients take any steps but whole synchronizations on one
transport. A step that asks for a path leaves what it leaves if the answer is the reply registered
last for just that path since everything was forgotten, or "not found" with the path. The transport
lists the paths asked for since then, one for each question and in their order. An observer has seen
one event for each download that succeeded, in their order, and none for the others. If two
neighbours are independent questions, exchanging them exchanges their requests and events and changes
nothing else: no result, nothing that has a name, and no reply. -/
theorem run_exact {ops : List Operation} (single : ∀ op ∈ ops, op.step.IsSingle) :
    let taken := (run fresh ops).1
    let final := (run fresh ops).2
    (∀ before op after, ops = before ++ op :: after →
      let s := (run fresh before).2
      let left := op.perform s
      let x : Taken := ⟨op, left.1, left.2.1⟩
      taken = (run fresh before).1 ++ x :: (run left.2.2 after).1 ∧
      ∀ path, x.path? = some path →
        op.answered (Taken.lastAnswer (run fresh before).1 path) s =
          (left.1, left.2.1, left.2.2.withTransport ())) ∧
    final.transport.requests = (Taken.sinceClear taken).filterMap Taken.path? ∧
    Notice.events (taken.flatMap Taken.notices) = taken.flatMap Taken.events ∧
    ∀ before a b after, ops = before ++ a :: b :: after → a.step.Independent b.step →
      let other := run fresh (before ++ b :: a :: after)
      ∃ x y zs, x.toOperation = a ∧ y.toOperation = b ∧
        taken = (run fresh before).1 ++ x :: y :: zs ∧
        other.1 = (run fresh before).1 ++ y :: x :: zs ∧
        final.Same other.2 ∧
        other.2.transport.requests = (Taken.sinceClear other.1).filterMap Taken.path? ∧
        Notice.events (other.1.flatMap Taken.notices) = other.1.flatMap Taken.events := by
  intro taken final
  refine ⟨?_, (account_run single).requests, events_run single fresh, ?_⟩
  · rintro before op after rfl s left x
    obtain ⟨singles, one⟩ := List.forall_mem_append.mp single
    refine ⟨congrArg Prod.fst (run_append fresh before (op :: after)), fun path asks => ?_⟩
    rw [← (account_run singles).answer path]
    exact (exact (one op List.mem_cons_self)).answered path asks
  · rintro before a b after rfl independent other
    obtain ⟨singles, one⟩ := List.forall_mem_append.mp single
    obtain ⟨left, right, others⟩ : a.step.IsSingle ∧ b.step.IsSingle ∧
        ∀ op ∈ after, op.step.IsSingle := by
      simpa only [List.forall_mem_cons] using one
    have single' : ∀ op ∈ before ++ b :: a :: after, op.step.IsSingle := by
      simpa only [List.forall_mem_append, List.forall_mem_cons] using
        ⟨singles, right, left, others⟩
    obtain ⟨x, y, zs, hx, hy, htaken, hother, same⟩ := run_exchange before others independent
    exact ⟨x, y, zs, hx, hy, htaken, hother, same, (account_run single').requests,
      events_run single' fresh⟩

/-! ### Two neighbours

A request that fails is forgotten. Then the global settings are downloaded, and next to that the
quality profiles, for which no reply is registered; a download against the global settings follows. -/

namespace Neighbours

def client : Client :=
  ⟨{ settings := fun _ => .ok [], properties := fun _ => .ok [], qualityProfiles := fun _ => .ok [] },
    some "o"⟩

def version : Version := ⟨7, 9, 0, 0, ""⟩

def before : List Operation :=
  [⟨client, .global version none⟩, ⟨client, .transport .clear⟩,
    ⟨client, .transport (.register "/api/settings/values" (.ok []))⟩]

def settings : Operation := ⟨client, .global version (some "g")⟩

def profiles : Operation := ⟨client, .qualityProfiles version "p"⟩

def after : List Operation := [⟨{ client with organization := none }, .project version "p" "g" none⟩]

theorem independent : settings.step.Independent profiles.step :=
  ⟨trivial, trivial, by simp [profiles, Step.reads, Step.writes], nofun⟩

theorem single : ∀ op ∈ before ++ settings :: profiles :: after, op.step.IsSingle := by
  simp [before, settings, profiles, after, Step.IsSingle]

/-- Both orders log three requests and one event, and leave the same session. -/
theorem run_exact_neighbours :
    let left := run fresh (before ++ settings :: profiles :: after)
    let other := run fresh (before ++ profiles :: settings :: after)
    left.2.transport.requests = ["/api/settings/values",
      "/api/qualityprofiles/search?project=p&organization=o", "/api/settings/values?component=p"] ∧
    other.2.transport.requests = ["/api/qualityprofiles/search?project=p&organization=o",
      "/api/settings/values", "/api/settings/values?component=p"] ∧
    Notice.events (left.1.flatMap Taken.notices) = [⟨.settings .modern none, none⟩] ∧
    left.2.Same other.2 := by
  obtain ⟨-, requests, events, exchanged⟩ := run_exact single
  obtain ⟨x, y, zs, -, -, -, -, same, requests', -⟩ :=
    exchanged before settings profiles after rfl independent
  exact ⟨requests.trans rfl, requests'.trans rfl, events.trans rfl, same⟩

end Neighbours

end Operation

end AnalysisSettings
