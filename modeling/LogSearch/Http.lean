import LogSearch.Flow
import LogSearch.Value.Access

/-!
# Requests and responses

A request is sent by a collaborator, which gives a response or fails.  The body of a response is
text; it is read as JSON when it is asked for.

Renders `Response` of `requests` and of `httpx`: `json`, `reason` (`reasonText`) and
`raise_for_status` (`raiseForStatus`).
-/

namespace LogSearch

/-- What a request does. -/
inductive HttpMethod
  | get
  | post
  /-- Asks whether anybody answers. -/
  | probe
deriving Repr, DecidableEq

/-- A request. -/
structure HttpRequest where
  method : HttpMethod
  url : String
  params : List (String × String) := []
  body : Option Value := none
  timeout : Value

/-- A response. -/
structure HttpResponse where
  /-- The status, a number if the sender is one to rely on. -/
  status : Value
  body : String
  /-- The phrase beside the status. -/
  reason : Value := .null
  /-- Where the response comes from. -/
  url : String

/-- The collaborator that sends requests. -/
structure HttpClient (σ : Type) where
  send : HttpRequest → Flow σ HttpResponse

namespace HttpResponse

/-- The body as a value, read as text. -/
def json (r : HttpResponse) : Except Fault Value := (Json.read r.body).mapError .body

/-- The body as a value, read as the bytes that are sent. -/
def content (r : HttpResponse) : Except Fault Value :=
  (Json.readBody r.body).mapError fun
    | .encoding e => .encoding e
    | .json e => .json e

/-- Whether a response has a status. -/
def hasStatus (r : HttpResponse) (status : Nat) : Bool := r.status.same (.int status)

/-- Whether the status is one of the hundred that start with a number. -/
def isStatusFrom (r : HttpResponse) (first : Nat) : Except Fault Bool := do
  if ← r.status.isAtLeast first then r.status.less (.int (first + 100)) else return false

/-- The phrase beside the status as text; bytes are read as UTF-8, or else each as a character. -/
def reasonText (r : HttpResponse) : String :=
  match r.reason with
  | .bytes octets =>
    (String.fromUTF8? (ByteArray.mk octets.toArray)).getD
      (String.ofList (octets.map fun b => Char.ofNat b.toNat))
  | reason => reason.plain

/-- Fails when the status is that of an error. -/
def raiseForStatus (r : HttpResponse) : Except Fault Unit := do
  if ← r.isStatusFrom 400 then throw (.httpStatus r.status false r.reasonText r.url)
  if ← r.isStatusFrom 500 then throw (.httpStatus r.status true r.reasonText r.url)

end HttpResponse

/-- The parameters of every request to a search backend: indices that are missing are passed
over. -/
def lenientParams : List (String × String) :=
  [("ignore_unavailable", "true"), ("allow_no_indices", "true")]

end LogSearch
