import RuleFixtures.Address.Web
import RuleFixtures.Fault

/-!
Requests to a backend, and what becomes of them.

* `Request` is what is sent.
* `Delivery` lists the outcomes of sending; a `Transport` chooses one, and may keep a state.
-/

namespace RuleFixtures

/-- A request for what is at an address. -/
structure Request where
  address : WebAddress
  /-- The content of the header that authorizes the request. -/
  authorization : Option String
  userAgent : String
  /-- The time after which the request is given up, in seconds. -/
  timeout : Binary64
  deriving DecidableEq

/-- What comes back for a request. -/
structure Answer where
  status : Nat
  body : List UInt8
  deriving DecidableEq

/-- The outcome of sending a request. -/
inductive Delivery where
  | answered (answer : Answer)
  /-- The exchange failed, for the reason given. -/
  | failed (reason : String)
  /-- The system failed before or below the exchange. -/
  | broken (reason : String)
  /-- A fault of another kind, which is passed on as it is. -/
  | raised (fault : Fault)
  deriving DecidableEq

/-- Sends requests, over a state of its own. -/
abbrev Transport (β : Type) := Request → StateM β Delivery

end RuleFixtures
