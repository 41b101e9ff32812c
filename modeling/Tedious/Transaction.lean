import Tedious.Token.Token

/-!
# Tedious.Transaction

What a connection keeps about transactions, and the functions that read and change it
(`connection.ts`). From TDS 7.2 on the server's `ENVCHANGE` tokens say when a transaction
begins and ends; before, the connection counts its own requests.
-/

namespace Tedious

open Chunked

structure TransactionState where
  inTransaction : Bool
  transactionDescriptors : List Bytes
  transactionDepth : Int
  isSqlBatch : Bool
  deriving DecidableEq, Repr

/-- The requests of the transaction functions, with the name that they are given. -/
inductive TransactionRequest
  | beginTransaction (name : JsString)
  | commitTransaction (name : JsString)
  | rollbackTransaction (name : JsString)
  | saveTransaction (name : JsString)
  deriving DecidableEq, Repr

namespace TransactionState

/-- `Buffer.from([0, 0, 0, 0, 0, 0, 0, 0])`. -/
def noDescriptor : Bytes := [0, 0, 0, 0, 0, 0, 0, 0]

def new : TransactionState where
  inTransaction := false
  transactionDescriptors := [noDescriptor]
  transactionDepth := 0
  isSqlBatch := false

/-- The last of the descriptors; there is always one. -/
def currentTransactionDescriptor (s : TransactionState) : Bytes :=
  s.transactionDescriptors.getLast?.getD []

/-! ### Tokens -/

def onBeginTransaction (newValue : Bytes) (s : TransactionState) : TransactionState :=
  { s with
    transactionDescriptors := s.transactionDescriptors ++ [newValue]
    inTransaction := true }

def onCommitTransaction (s : TransactionState) : TransactionState :=
  { s with
    transactionDescriptors := s.transactionDescriptors.take 1
    inTransaction := false }

def onRollbackTransaction (s : TransactionState) : TransactionState :=
  { s with
    transactionDescriptors := s.transactionDescriptors.take 1
    inTransaction := false }

def onEnvChange (s : TransactionState) : EnvChange → TransactionState
  | .beginTransaction newValue _ => s.onBeginTransaction newValue
  | .commitTransaction .. => s.onCommitTransaction
  | .rollbackTransaction .. => s.onRollbackTransaction
  | _ => s

/-! ### Callbacks, before TDS 7.2 -/

/-- What the callback of a transaction request does before it calls the caller's, whether
the request has succeeded or not. -/
def onCallback (s : TransactionState) : TransactionRequest → TransactionState
  | .beginTransaction _ =>
    let s := { s with transactionDepth := s.transactionDepth + 1 }
    if s.transactionDepth = 1 then { s with inTransaction := true } else s
  | .commitTransaction _ | .rollbackTransaction _ =>
    let s := { s with transactionDepth := s.transactionDepth - 1 }
    if s.transactionDepth = 0 then { s with inTransaction := false } else s
  | .saveTransaction _ => { s with transactionDepth := s.transactionDepth + 1 }

/-! ### `transaction` -/

/-- The request that `transaction` makes: it sets a savepoint in an open transaction. -/
def transactionRequest (s : TransactionState) (name : JsString) : TransactionRequest :=
  if s.inTransaction then .saveTransaction name else .beginTransaction name

/-- `txDone`, and the request that it makes. -/
def txDone (s : TransactionState) (before72 loggedIn useSavepoint : Bool) (name : JsString)
    (err : Bool) : TransactionState × Option TransactionRequest :=
  if err then
    if s.inTransaction && loggedIn then (s, some (.rollbackTransaction name)) else (s, none)
  else if useSavepoint then
    (if before72 then { s with transactionDepth := s.transactionDepth - 1 } else s, none)
  else (s, some (.commitTransaction name))

end TransactionState

end Tedious
