import AnalysisSettings.Transport.Http

/-!
# A server with registered replies

A server that gives a registered reply to each URL, "not found" where there is none, and keeps a
list of the requests that reached it. A reply can lead on to another URL, break off in its body, or
stay out altogether. Secure connections never reach the server, and none do while it does not
listen.
-/

namespace AnalysisSettings

namespace WebServer

/-- A registered reply. -/
structure Reply where
  status : UInt16 := 200
  body : List UInt8 := []
  /-- Where the resource is now. -/
  location : Option String := none
  /-- The connection is closed without a reply. -/
  dropped : Bool := false
  /-- The connection is closed within the body. -/
  truncated : Bool := false

/-- The URL that a reply leads on to. -/
def Reply.next? (reply : Reply) (url : Url) : Option Url :=
  if reply.status ∈ [301, 302, 303, 307, 308] then
    reply.location.bind fun place => (url.join place).toOption
  else none

/-- The reply as it arrives. Some statuses never have a body. -/
def Reply.arrival (reply : Reply) : Arrival :=
  if reply.status = 204 ∨ reply.status = 304 then .reply reply.status (some [])
  else .reply reply.status (if reply.truncated then none else some reply.body)

end WebServer

/-- The replies of a server, the latest first, and the requests that reached it, in order. -/
structure WebServer where
  listening : Bool := true
  replies : List (String × WebServer.Reply) := []
  received : List HttpRequest := []

namespace WebServer

/-- Registers a reply for a URL. -/
def register (url : String) (reply : Reply) (server : WebServer) : WebServer :=
  { server with replies := (url, reply) :: server.replies }

/-- How many times a request is led on before it is given up. -/
def maxRedirects : Nat := 10

/-- Sends a request and goes where the replies lead, at most `hops` times. -/
def follow : (hops : Nat) → HttpRequest → WebServer → Arrival × WebServer
  | hops, request, server =>
    if server.listening = false ∨ request.url.scheme ≠ "http" then (.nothing, server)
    else
      let url := request.url.withoutFragment
      let server := { server with received := server.received ++ [{ request with url := url }] }
      match server.replies.lookup url.toString with
      | none => (.reply 404 (some []), server)
      | some reply =>
        if reply.dropped then (.nothing, server)
        else match reply.next? request.url, hops with
          | none, _ => (reply.arrival, server)
          | some _, 0 => (.nothing, server)
          | some next, hops + 1 => follow hops { request with url := next } server

/-- The network that ends at the server. -/
def network : Network WebServer where
  send := follow maxRedirects

end WebServer

end AnalysisSettings
