import AnalysisSettings.Failure
import AnalysisSettings.Notice

/-!
# Inquiries

An inquiry is what a client does with a server, apart from how the server is reached: it asks for
paths one after the other, each question depending on the answers before it, leaves notices, and
ends with a result. `Inquiry.run` answers the questions by a transport.

A transport keeps a state (its log of requests, say) and answers every question; what it cannot
answer is a `TransportFailure`, which the inquiry handles like any other answer.
-/

namespace AnalysisSettings

/-- What came back for a path: the address that was asked, and the octets. -/
structure Response where
  url : String
  body : List UInt8
deriving DecidableEq, Repr

/-- What a transport says to a question. -/
abbrev Answer := Except TransportFailure Response

/-- A way to reach a server: the answer to a path, the log records of the exchange, and the state
after it. -/
structure Transport (σ : Type) where
  get : String → σ → Answer × List LogRecord × σ

/-- Questions to a server, notices and a result. -/
inductive Inquiry (α : Type) where
  | done (result : α)
  | note (notice : Notice) (rest : Inquiry α)
  | ask (path : String) (next : Answer → Inquiry α)

namespace Inquiry

/-- The inquiry continued with the result of the first part. -/
def andThen {α β : Type} : Inquiry α → (α → Inquiry β) → Inquiry β
  | .done a, k => k a
  | .note n rest, k => .note n (rest.andThen k)
  | .ask path next, k => .ask path fun answer => (next answer).andThen k

/-- A result changed by a function. -/
def map {α β : Type} (f : α → β) (inquiry : Inquiry α) : Inquiry β :=
  inquiry.andThen fun a => .done (f a)

/-- The inquiry continued where it succeeds; a failure is the result of the whole. -/
def andThenOk {α β ε : Type} (inquiry : Inquiry (Except ε α)) (k : α → Inquiry (Except ε β)) :
    Inquiry (Except ε β) :=
  inquiry.andThen fun
    | .ok a => k a
    | .error e => .done (.error e)

/-- What a run of an inquiry leaves. -/
structure Outcome (σ α : Type) where
  result : α
  notices : List Notice
  state : σ

/-- The inquiry with its questions answered by a transport. -/
def run {σ α : Type} (t : Transport σ) : Inquiry α → σ → Outcome σ α
  | .done a, s => ⟨a, [], s⟩
  | .note n rest, s =>
    let o := rest.run t s
    { o with notices := n :: o.notices }
  | .ask path next, s =>
    let (answer, records, s') := t.get path s
    let o := (next answer).run t s'
    { o with notices := records.map .log ++ o.notices }

/-! ## How runs compose -/

variable {σ α β : Type} (t : Transport σ) (s : σ)

@[simp] theorem andThen_done (a : α) (k : α → Inquiry β) : (done a).andThen k = k a := rfl

@[simp] theorem andThen_note (n : Notice) (rest : Inquiry α) (k : α → Inquiry β) :
    (note n rest).andThen k = note n (rest.andThen k) := rfl

@[simp] theorem andThen_ask (path : String) (next : Answer → Inquiry α) (k : α → Inquiry β) :
    (ask path next).andThen k = ask path fun answer => (next answer).andThen k := rfl

@[simp] theorem run_done (a : α) : (done a).run t s = ⟨a, [], s⟩ := rfl

@[simp] theorem run_note (n : Notice) (rest : Inquiry α) :
    (note n rest).run t s =
      ⟨(rest.run t s).result, n :: (rest.run t s).notices, (rest.run t s).state⟩ := rfl

/-- The answer decides how the run goes on, from the state that the transport is in then. -/
@[simp] theorem run_ask (path : String) (next : Answer → Inquiry α) :
    (ask path next).run t s =
      ⟨((next (t.get path s).1).run t (t.get path s).2.2).result,
        (t.get path s).2.1.map .log ++ ((next (t.get path s).1).run t (t.get path s).2.2).notices,
        ((next (t.get path s).1).run t (t.get path s).2.2).state⟩ := rfl

/-- The second part of an inquiry runs from the state that the first one leaves, and notes behind it. -/
@[simp] theorem run_andThen (q : Inquiry α) (k : α → Inquiry β) :
    (q.andThen k).run t s =
      ⟨((k (q.run t s).result).run t (q.run t s).state).result,
        (q.run t s).notices ++ ((k (q.run t s).result).run t (q.run t s).state).notices,
        ((k (q.run t s).result).run t (q.run t s).state).state⟩ := by
  induction q generalizing s with
  | done a => rfl
  | note n rest ih => simp [ih]
  | ask path next ih => simp [ih]

@[simp] theorem run_map (f : α → β) (q : Inquiry α) :
    (q.map f).run t s = ⟨f (q.run t s).result, (q.run t s).notices, (q.run t s).state⟩ := by
  simp [map]

end Inquiry

end AnalysisSettings
