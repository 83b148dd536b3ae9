import NodeDevices.Http.Url
/-! Requests, and what comes of them: an answer, or none at all. -/

namespace NodeDevices.Http

/-- The method of a request. -/
inductive Method where
  | get
  | post
  | put
  deriving DecidableEq, Repr

/-- The name of a method. -/
def Method.name : Method → String
  | .get => "GET"
  | .post => "POST"
  | .put => "PUT"

/-- A request. -/
structure Request where
  method : Method
  url : Url
  headers : List (String × String)
  body : String
  deriving DecidableEq, Repr

/-- What comes of a request. -/
inductive Reply where
  | answered (status : Nat) (body : List UInt8)
  | lost
  deriving DecidableEq, Repr

/-- Says whether a status is one of success. -/
def isSuccess (status : Nat) : Bool :=
  200 ≤ status && status < 300

/-- A network: what each request comes to. -/
abbrev Transport := Request → Reply

/-- A network that nothing comes through. -/
def Transport.silent : Transport :=
  fun _ => .lost

end NodeDevices.Http
