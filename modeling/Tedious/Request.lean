import Tedious.Errors

/-!
# Tedious.Request

`Request` objects (`request.ts`), and `BulkLoad` objects as far as a connection uses
them like requests. A connection keeps the outcome of an execution on the object that
is executed, and listens to its `'cancel'` event in three different ways.
-/

namespace Tedious

/-- The objects that can be executed. `reset()` makes a request of its own for each of its
calls. -/
inductive RequestId
  | request (n : Nat)
  | bulkLoad (n : Nat)
  | reset (call : Nat)
  deriving DecidableEq, Repr

/-- Whether an object is the one that a call of `reset()` made. -/
def RequestId.isReset : RequestId → Bool
  | reset _ => true
  | request _ | bulkLoad _ => false

/-- `request instanceof Request`. -/
def RequestId.isRequest : RequestId → Bool
  | bulkLoad _ => false
  | request _ | reset _ => true

/-- The connection's listeners for the `'cancel'` event of a request. They are made for
one call of `makeRequest`, except for `_cancelAfterRequestSent`. -/
inductive CancelListener
  /-- `onCancel` of `makeRequest`. -/
  | unsent (call : Nat)
  /-- `_cancelAfterRequestSent`. -/
  | afterRequestSent
  /-- `onCancel` of `STATE.SENT_CLIENT_REQUEST`. -/
  | response (call : Nat)
  deriving DecidableEq, Repr

structure Request where
  canceled : Bool
  error : Option Err
  rowCount : Nat
  rows : List RowColumns
  rst : List RowColumns
  preparing : Bool
  handle : Option Value
  /-- How often `prepare` has added its `'returnValue'` listener. -/
  prepared : Nat
  timeout : Option JsNumber
  cancelListeners : List CancelListener
  deriving Repr

namespace Request

/-- `new Request(...)`. -/
def new : Request where
  canceled := false
  error := none
  rowCount := 0
  rows := []
  rst := []
  preparing := false
  handle := none
  prepared := 0
  timeout := none
  cancelListeners := []

/-- `request.once('cancel', listener)`. -/
def once (request : Request) (listener : CancelListener) : Request :=
  { request with cancelListeners := request.cancelListeners ++ [listener] }

/-- `request.removeListener('cancel', listener)`: the one that was added last. -/
def removeListener (request : Request) (listener : CancelListener) : Request :=
  { request with cancelListeners := (request.cancelListeners.reverse.erase listener).reverse }

/-- The `'returnValue'` listeners that `prepare` has added run. -/
def onReturnValue (request : Request) (name : JsString) (value : Value) : Request :=
  if request.prepared = 0 then request
  else if name = JsString.ofString "handle" then { request with handle := some value }
  else
    { request with
      error := some (.request (.new
        (JsString.ofString "Tedious > Unexpected output parameter " ++ name ++
          JsString.ofString " from sp_prepare") none)) }

end Request

end Tedious
