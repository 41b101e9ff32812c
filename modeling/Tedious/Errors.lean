import Tedious.Token.Token

/-!
# Tedious.Errors

The errors that a connection reports (`errors.ts`), and the ones of others that it
passes on.
-/

namespace Tedious

structure ConnectionError where
  message : JsString
  code : Option String
  isTransient : Bool
  deriving DecidableEq, Repr

/-- `new ConnectionError(message, code)`. -/
def ConnectionError.new (message : JsString) (code : Option String) : ConnectionError :=
  { message, code, isTransient := false }

/-- `data` is what an `ERROR` token adds: number, state, class and the rest. -/
structure RequestError where
  message : JsString
  code : Option String
  data : Option MessageData
  deriving DecidableEq, Repr

/-- `new RequestError(message, code)`. -/
def RequestError.new (message : JsString) (code : Option String) : RequestError :=
  { message, code, data := none }

inductive Err
  | connection (e : ConnectionError)
  | request (e : RequestError)
  /-- `new AggregateError([e, cause])`. -/
  | connectionAggregate (e : ConnectionError) (cause : JsString)
  /-- `new AggregateError(errors)`. -/
  | requestAggregate (errors : List RequestError)
  /-- An error of the engine or of another library. -/
  | error (message : JsString)
  deriving DecidableEq, Repr

/-- `error.message`; an `AggregateError` without a message of its own has the empty one. -/
def Err.message : Err → JsString
  | connection e => e.message
  | request e => e.message
  | connectionAggregate .. | requestAggregate _ => []
  | error message => message

/-- `isTransientError`. -/
def isTransientError : Err → Bool
  | .connection e => e.isTransient
  | .connectionAggregate e _ => e.isTransient
  | .request _ | .requestAggregate _ | .error _ => false

/-- `error instanceof RequestError && error.code === 'ETIMEOUT'`. -/
def Err.isRequestTimeout : Err → Bool
  | request e => e.code = some "ETIMEOUT"
  | _ => false

/-! ### While connecting -/

/-- An error of the operating system or of a function of the user, with its `name` if it is an
`Error` at all. -/
structure Failure where
  name : Option JsString
  message : JsString
  deriving DecidableEq, Repr

/-- What the promises of a lookup and of a connection attempt are rejected with. -/
inductive Rejection
  /-- `new AbortError()`. -/
  | abortError
  /-- `new TimeoutError()`. -/
  | timeoutError
  | typeError
  /-- `new Error(message)`. -/
  | error (message : JsString)
  | failure (e : Failure)
  /-- `new AggregateError(errors, message)`. -/
  | aggregateError (errors : List Failure) (message : JsString)
  deriving DecidableEq, Repr

/-- `err.name`, where `err instanceof Error`. -/
def Rejection.name : Rejection → Option JsString
  | abortError => some (JsString.ofString "AbortError")
  | timeoutError => some (JsString.ofString "TimeoutError")
  | typeError => some (JsString.ofString "TypeError")
  | error _ => some (JsString.ofString "Error")
  | failure e => e.name
  | aggregateError .. => some (JsString.ofString "AggregateError")

end Tedious
