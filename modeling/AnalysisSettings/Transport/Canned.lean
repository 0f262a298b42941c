import AnalysisSettings.Inquiry

/-!
# Canned answers

A transport without a server: for each path it gives the answer that was registered last, and
"not found" where none was. It keeps the list of the paths it was asked for, answered or not.
-/

namespace AnalysisSettings

/-- The registered answers, the latest first, and the paths asked for, in order. -/
structure Canned where
  replies : List (String × Except TransportFailure (List UInt8)) := []
  requests : List String := []

namespace Canned

/-- What can be done to the answers. -/
inductive Action where
  | register (path : String) (reply : Except TransportFailure (List UInt8))
  /-- Forgets all answers and all requests. -/
  | clear

/-- The effect of an action. -/
def perform : Action → Canned → Canned
  | .register path reply, c => { c with replies := (path, reply) :: c.replies }
  | .clear, _ => {}

/-- The answer to a path. -/
def answer (c : Canned) (path : String) : Answer :=
  match c.replies.lookup path with
  | some (.ok body) => .ok ⟨path, body⟩
  | some (.error cause) => .error cause
  | none => .error (.notFound path)

/-- The transport that gives the registered answers. -/
def transport : Transport Canned where
  get path c := (c.answer path, [], { c with requests := c.requests ++ [path] })

end Canned

end AnalysisSettings
