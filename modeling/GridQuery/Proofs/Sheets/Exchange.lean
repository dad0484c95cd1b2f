import GridQuery.Sheets.Client
import Mathlib

/-!
# Exchanges with a service

An exchange is a function of the client: it runs its parts one after another and stops at the
first that fails. A request for a datum goes out once, and what it brings is the payload of its
reply, if one arrives.
-/

namespace GridQuery.Sheets

variable {State Result Next : Type}

namespace Exchange

@[simp]
theorem pure_apply (value : Result) (client : Client State) :
    (pure value : Exchange State Result) client = (.ok value, client) := rfl

@[simp]
theorem throw_apply (failure : GridFailure) (client : Client State) :
    (throw failure : Exchange State Result) client = (.error failure, client) := rfl

@[simp]
theorem get_apply (client : Client State) :
    (get : Exchange State (Client State)) client = (.ok client, client) := rfl

@[simp]
theorem modify_apply (change : Client State → Client State) (client : Client State) :
    (modify change : Exchange State Unit) client = (.ok (), change client) := rfl

theorem bind_apply (step : Exchange State Result) (next : Result → Exchange State Next)
    (client : Client State) :
    (step >>= next) client =
      match step client with
      | (.ok value, client) => next value client
      | (.error failure, client) => (.error failure, client) := by
  simp only [bind, ExceptT.bind, ExceptT.mk, StateT.bind, ExceptT.bindCont]
  rcases step client with ⟨_ | _, _⟩ <;> rfl

end Exchange

/-- What a response lacks is told by the failure of its form. -/
theorem exists_ofResponse (result : Except DataFault Result) (client : Client State) :
    ∃ outcome, ofResponse result client = (outcome, client) ∧
      outcome.toOption = result.toOption := by
  cases result with
  | ok value => exact ⟨.ok value, rfl, rfl⟩
  | error fault => exact ⟨.error malformed, rfl, rfl⟩

/-- What came back for a request: a response, or the reason why the connection failed. -/
abbrev Reply := Except String Http.Response

/-- The payload of a reply, if one arrives: there is none if the connection fails, if the
response tells an error, or if it is not a JSON text. -/
def payload? : Reply → Option Datum
  | .ok response => if response.isError then none else response.datum?
  | .error _ => none

variable (transport : Http.Transport State)

/-- A request for a datum is sent once, whatever comes back. -/
theorem exists_sendForDatum (action : String) {request : Http.Request} {client : Client State}
    {reply : Reply} {next : State} (replied : transport request client.connection = (reply, next)) :
    ∃ outcome, sendForDatum transport action request client =
        (outcome, ⟨next, client.sheetIds⟩) ∧
      outcome.toOption = payload? reply := by
  rw [sendForDatum, Exchange.bind_apply, send, replied]
  cases reply with
  | error reason => exact ⟨_, rfl, rfl⟩
  | ok response =>
      cases refused : response.isError with
      | true =>
          simp only [payload?, refused, if_true]
          exact ⟨_, rfl, rfl⟩
      | false =>
          simp only [payload?, refused, Bool.false_eq_true, if_false]
          cases response.datum? with
          | none => exact ⟨_, rfl, rfl⟩
          | some datum => exact ⟨_, rfl, rfl⟩

/-! ### What is exchanged -/

structure Exchanged where
  request : Http.Request
  reply : Reply

/-- A transport that writes down, in their order, the requests that it carries and what comes
back for them. -/
def recording : Http.Transport (State × List Exchanged) := fun request state =>
  let (reply, next) := transport request state.1
  (reply, (next, state.2 ++ [⟨request, reply⟩]))

end GridQuery.Sheets
