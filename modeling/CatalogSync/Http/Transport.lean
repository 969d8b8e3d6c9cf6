/-
**Requests and replies.**

* `Http.Request`, `Http.Reply` — what is sent, and what comes back.
* `Http.Transport σ` — whoever carries requests, in a state `σ`; there may be no reply.
* `Http.Transport.unreachable` — the transport of a host without a network.
* `Http.Script`, `Http.Transport.scripted` — replies laid out beforehand, one for each request, and
  the requests that were sent. After the last reply every request is answered by an empty success.
-/

import CatalogSync.Action
import CatalogSync.Http.Status
import CatalogSync.Url.Address
import CatalogSync.Value.Reader
import CatalogSync.Value.Printer

namespace CatalogSync.Http

/-- What a request is for. -/
inductive Method where
  | get
  | post
  deriving DecidableEq, Repr

/-- The name of a method. -/
def Method.name : Method → String
  | .get => "GET"
  | .post => "POST"

/-- What is sent. -/
structure Request where
  method : Method
  address : Url.Address
  authorization : Option String
  body : Option Value

/-- What a reply carries: a text, or a value written as text. -/
inductive Body where
  | text (text : String)
  | value (value : Value)

/-- The text of a body. -/
def Body.content : Body → String
  | .text written => written
  | .value carried => carried.compact

/-- The value that a body writes. -/
def Body.value? : Body → Option Value
  | .text written => Value.read? written
  | .value carried => some carried

/-- What comes back. -/
structure Reply where
  status : Nat
  body : Body
  /-- Whether all of the body arrived. -/
  isComplete : Bool

/-- Whoever carries requests. -/
structure Transport (σ : Type) where
  exchange : Request → σ → Option Reply × σ

/-- Replies laid out beforehand, and the requests that were sent, the latest first. A reply may be
missing. -/
structure Script where
  replies : List (Option Reply)
  sent : List Request

namespace Transport

/-- The transport that works on a part of a larger state. -/
def on {σ τ : Type} (lens : Lens σ τ) (transport : Transport τ) : Transport σ where
  exchange request state :=
    let (reply, part) := transport.exchange request (lens.get state)
    (reply, lens.set state part)

/-- The transport of a host without a network. -/
def unreachable {σ : Type} : Transport σ := ⟨fun _ state => (none, state)⟩

/-- The reply to requests for which none is laid out. -/
def emptySuccess : Reply := ⟨200, .text "", true⟩

/-- The transport that follows a script. -/
def scripted : Transport Script where
  exchange request script :=
    match script.replies with
    | [] => (some emptySuccess, { script with sent := request :: script.sent })
    | reply :: rest => (reply, ⟨rest, request :: script.sent⟩)

end Transport

end CatalogSync.Http
