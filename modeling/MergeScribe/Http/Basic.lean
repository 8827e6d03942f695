import MergeScribe.Json.Basic
import MergeScribe.Program

/-!
# Requests and responses

What the client library is asked for and what it hands back. One call is one use of its service,
whatever the library does below that: it may send a request again that failed, or follow a redirect.
Only the response in the end is seen here, and there may be none.
-/

namespace MergeScribe

/-- A request: what to do with the resource at a place, and the body that goes with it. -/
structure HttpRequest where
  method : Text
  uri : Text
  body : Option Json

/-- A response. -/
structure HttpResponse where
  status : Nat
  body : Text

/-- Whether a response reports success. -/
def HttpResponse.isSuccess (r : HttpResponse) : Bool :=
  200 ≤ r.status && r.status < 300

/-- The interface of the client library's service. A call without a response has failed below it. -/
def Http : Interface where
  Call := HttpRequest
  Answer := fun _ => Option HttpResponse

end MergeScribe
