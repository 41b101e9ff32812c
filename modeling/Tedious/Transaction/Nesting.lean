import Tedious.Lib.Savepoints
import Tedious.Transaction

/-!
# Tedious.Transaction.Nesting

Calls of `transaction` that nest, from TDS 7.2 on. The server is a transaction with
savepoints; the body of a transaction is what the caller does between the callback of
`transaction` and `txDone`, further transactions among it. The main theorem is
`transaction_atomic`: what is committed in the end is what has been done in bodies none of
whose transactions, from the innermost to the outermost, has ended with an error.
-/

namespace Tedious

open Chunked Savepoints

/-! ### Bodies -/

/-- What is done in a transaction, up to its `txDone`. -/
inductive Body (ε : Type)
  /-- `txDone(err)`. -/
  | txDone (err : Bool)
  /-- A request, with its effects. -/
  | request (effects : List ε) (rest : Body ε)
  /-- `transaction`, with an isolation level or without one. -/
  | transaction (isolationLevel : Bool) (child rest : Body ε)

namespace Body

variable {ε : Type}

/-- `txDone` is called with an error. -/
def err : Body ε → Bool
  | txDone err => err
  | request _ rest => rest.err
  | transaction _ _ rest => rest.err

/-- The effects of a body, each with the outcomes of the transactions around it;
`enclosing` are those of the transactions around the body, itself included. -/
def performed (enclosing : List Bool) : Body ε → List (ε × List Bool)
  | txDone _ => []
  | request effects rest => effects.map (·, enclosing) ++ rest.performed enclosing
  | transaction _ child rest =>
      child.performed (child.err :: enclosing) ++ rest.performed enclosing

/-- The effects of the bodies all of whose enclosing transactions, themselves included,
end without error. -/
def surviving (body : Body ε) : List ε :=
  ((body.performed [body.err]).filter fun p => true ∉ p.2).map Prod.fst

end Body

/-! ### The server -/

structure OpenTransaction (ε : Type) where
  name : JsString
  descriptor : Bytes
  work : Work JsString ε

structure Server (ε : Type) where
  committed : List ε
  transaction : Option (OpenTransaction ε)
  /-- How many transactions have begun. -/
  begun : Nat

inductive ServerRequest (ε : Type)
  | transaction (request : TransactionRequest)
  | batch (effects : List ε)

namespace Server

variable {ε : Type}

/-- A request in an open transaction. Only the savepoint of a name is rolled back to, if
there is one; the transaction is rolled back by its own name. -/
def handleOpen (server : Server ε) (t : OpenTransaction ε) :
    ServerRequest ε → Option (Server ε × List EnvChange)
  | .batch effects =>
      some ({ server with transaction := some { t with work := t.work.perform effects } }, [])
  | .transaction (.beginTransaction _) => none
  | .transaction (.saveTransaction name) =>
      some ({ server with transaction := some { t with work := t.work.save name } }, [])
  | .transaction (.commitTransaction _) =>
      some ({ server with
        committed := server.committed ++ t.work.effects
        transaction := none }, [.commitTransaction [] t.descriptor])
  | .transaction (.rollbackTransaction name) =>
      if name ∈ t.work.names then
        some ({ server with transaction := some { t with work := t.work.rollback name } }, [])
      else if name = t.name then
        some ({ server with transaction := none }, [.rollbackTransaction [] t.descriptor])
      else none

/-- The answer to a request with a transaction descriptor: the `ENVCHANGE` tokens, or none
if it is refused. The server makes the descriptors of new transactions. -/
def handle (descriptors : Nat → Bytes) (server : Server ε) (descriptor : Bytes)
    (request : ServerRequest ε) : Option (Server ε × List EnvChange) :=
  match server.transaction with
  | some t => if descriptor = t.descriptor then server.handleOpen t request else none
  | none =>
    match request with
    | .batch effects => some ({ server with committed := server.committed ++ effects }, [])
    | .transaction (.beginTransaction name) =>
        some ({ server with
          transaction := some { name, descriptor := descriptors server.begun, work := [] }
          begun := server.begun + 1 }, [.beginTransaction (descriptors server.begun) []])
    | .transaction _ => none

end Server

/-! ### A session -/

/-- A request that has been sent, with the descriptor of the transaction that was open. -/
structure Sent (ε : Type) where
  request : ServerRequest ε
  descriptor : Bytes
  opened : Option Bytes

/-- A connection in `LOGGED_IN` and its server. -/
structure Session (ε : Type) where
  client : TransactionState
  server : Server ε
  /-- How often `crypto.randomBytes` has been called. -/
  random : Nat
  sent : List (Sent ε)

namespace Session

variable {ε : Type} (names : Nat → JsString) (descriptors : Nat → Bytes)

/-- A request, and the tokens of its response. -/
def send (x : Session ε) (request : ServerRequest ε) : Option (Session ε) :=
  (x.server.handle descriptors x.client.currentTransactionDescriptor request).map fun r =>
    { x with
      client := r.2.foldl TransactionState.onEnvChange x.client
      server := r.1
      sent := x.sent ++ [{
        request
        descriptor := x.client.currentTransactionDescriptor
        opened := x.server.transaction.map OpenTransaction.descriptor }] }

/-- The transaction requests of the connection. -/
def makeRequest (x : Session ε) (request : TransactionRequest) : Option (Session ε) :=
  x.send descriptors (.transaction request)

/-- `transaction`, up to the call of its callback. -/
def start (x : Session ε) (isolationLevel : Bool) : Option (Session ε) :=
  let useSavepoint := x.client.inTransaction
  ({ x with random := x.random + 1 }.makeRequest descriptors
    (x.client.transactionRequest (names x.random))).bind fun x =>
      if useSavepoint && isolationLevel then x.send descriptors (.batch []) else some x

/-- `txDone`, of a call of `transaction` that found `useSavepoint` and chose `name`. -/
def txDone (x : Session ε) (useSavepoint : Bool) (name : JsString) (err : Bool) :
    Option (Session ε) :=
  let r := x.client.txDone false true useSavepoint name err
  match r.2 with
  | some request => { x with client := r.1 }.makeRequest descriptors request
  | none => some { x with client := r.1 }

/-- What a body does before its `txDone`. -/
def perform : Body ε → Session ε → Option (Session ε)
  | .txDone _, x => some x
  | .request effects rest, x => (x.send descriptors (.batch effects)).bind (perform rest)
  | .transaction isolationLevel child rest, x =>
      (((x.start names descriptors isolationLevel).bind (perform child)).bind fun x' =>
        x'.txDone descriptors x.client.inTransaction (names x.random) child.err).bind
          (perform rest)

/-- `transaction`, with all of its body. -/
def transaction (x : Session ε) (isolationLevel : Bool) (body : Body ε) : Option (Session ε) :=
  ((x.start names descriptors isolationLevel).bind (perform names descriptors body)).bind fun x' =>
    x'.txDone descriptors x.client.inTransaction (names x.random) body.err

end Session

/-! ### What survives -/

namespace Body

variable {ε : Type}

/-- The effects that are left of a body if it ends without error, as its transactions are
kept or dropped. -/
def kept : Body ε → List ε
  | txDone _ => []
  | request effects rest => effects ++ rest.kept
  | transaction _ child rest => (if child.err then [] else child.kept) ++ rest.kept

theorem filter_performed (body : Body ε) (enclosing : List Bool) :
    ((body.performed enclosing).filter fun p => true ∉ p.2).map Prod.fst =
      if true ∈ enclosing then [] else body.kept := by
  induction body generalizing enclosing with
  | txDone err => simp [performed, kept]
  | request effects rest ih =>
    rw [performed, List.filter_append, List.map_append, ih enclosing, List.filter_map,
      List.map_map]
    by_cases henclosing : true ∈ enclosing <;> simp [kept, henclosing, Function.comp_def]
  | transaction isolationLevel child rest ihchild ihrest =>
    rw [performed, List.filter_append, List.map_append, ihchild, ihrest enclosing]
    by_cases henclosing : true ∈ enclosing <;> cases hchild : child.err <;>
      simp [kept, henclosing, hchild]

/-- Nothing survives of a body that ends with an error. -/
theorem surviving_eq (body : Body ε) : body.surviving = if body.err then [] else body.kept := by
  rw [surviving, filter_performed]
  cases body.err <;> simp

end Body

/-! ### Inside a transaction -/

namespace Sent

variable {ε : Type}

/-- The request carries the descriptor of the open transaction. -/
def CarriesOpened (m : Sent ε) : Prop := m.opened = some m.descriptor

def isCommit (m : Sent ε) : Bool :=
  match m.request with
  | .transaction (.commitTransaction _) => true
  | _ => false

end Sent

namespace Session

variable {ε : Type} {n : Nat → JsString} {d : Nat → Bytes} {initial : Bytes}
  {t : OpenTransaction ε} {x x' : Session ε}

/-- No transaction is open, and the connection knows. -/
structure Idle (initial : Bytes) (x : Session ε) : Prop where
  inTransaction : x.client.inTransaction = false
  transactionDescriptors : x.client.transactionDescriptors = [initial]
  transaction : x.server.transaction = none

/-- A transaction is open, and the connection knows its descriptor. -/
structure Inside (initial : Bytes) (t : OpenTransaction ε) (x : Session ε) : Prop where
  inTransaction : x.client.inTransaction = true
  transactionDescriptors : x.client.transactionDescriptors = [initial, t.descriptor]
  transaction : x.server.transaction = some t

/-- A part of a body has been performed: `since` is what the transaction has got by it, and
`inside` what has been sent. -/
structure Performs (n : Nat → JsString) (initial : Bytes) (t : OpenTransaction ε)
    (since : Work JsString ε) (inside : List (Sent ε)) (x x' : Session ε) : Prop where
  ends : Inside initial { t with work := since ++ t.work } x'
  committed : x'.server.committed = x.server.committed
  random_le : x.random ≤ x'.random
  fresh : ∀ name ∈ since.names, ∃ i, x.random ≤ i ∧ name = n i
  sent : x'.sent = x.sent ++ inside
  carries : ∀ m ∈ inside, m.CarriesOpened
  notCommit : ∀ m ∈ inside, m.isCommit = false

namespace Performs

theorem refl (h : Inside initial t x) : Performs n initial t [] [] x x where
  ends := h
  committed := rfl
  random_le := Nat.le_refl _
  fresh := by simp [Work.names]
  sent := (List.append_nil _).symm
  carries := by simp
  notCommit := by simp

theorem trans {x'' : Session ε} {since since' : Work JsString ε} {inside inside' : List (Sent ε)}
    (h : Performs n initial t since inside x x')
    (h' : Performs n initial { t with work := since ++ t.work } since' inside' x' x'') :
    Performs n initial t (since' ++ since) (inside ++ inside') x x'' where
  ends := by
    have hends := h'.ends
    rwa [← List.append_assoc] at hends
  committed := h'.committed.trans h.committed
  random_le := Nat.le_trans h.random_le h'.random_le
  fresh := by
    intro name hname
    rw [Work.names_append] at hname
    rcases List.mem_append.1 hname with hname | hname
    · obtain ⟨i, hi, rfl⟩ := h'.fresh name hname
      exact ⟨i, Nat.le_trans h.random_le hi, rfl⟩
    · exact h.fresh name hname
  sent := by rw [h'.sent, h.sent, List.append_assoc]
  carries := by
    intro m hm
    rcases List.mem_append.1 hm with hm | hm
    · exact h.carries m hm
    · exact h'.carries m hm
  notCommit := by
    intro m hm
    rcases List.mem_append.1 hm with hm | hm
    · exact h.notCommit m hm
    · exact h'.notCommit m hm

end Performs

theorem Inside.current (h : Inside initial t x) :
    x.client.currentTransactionDescriptor = t.descriptor := by
  simp [TransactionState.currentTransactionDescriptor, h.transactionDescriptors]

/-- A request that the server answers without tokens. -/
theorem Inside.send (h : Inside initial t x) (request : ServerRequest ε) (work : Work JsString ε)
    (hhandle : x.server.handleOpen t request =
      some ({ x.server with transaction := some { t with work } }, [])) :
    ∃ x' m, x.send d request = some x' ∧ Inside initial { t with work } x' ∧
      x'.server.committed = x.server.committed ∧ x'.random = x.random ∧
        x'.sent = x.sent ++ [m] ∧ m.request = request ∧ m.CarriesOpened := by
  have hanswer : x.server.handle d x.client.currentTransactionDescriptor request =
      some ({ x.server with transaction := some { t with work } }, []) := by
    simp only [Server.handle, h.transaction, h.current, if_true]
    exact hhandle
  rw [Session.send, hanswer]
  refine ⟨_, _, rfl, ⟨h.inTransaction, h.transactionDescriptors, rfl⟩, rfl, rfl, rfl, rfl, ?_⟩
  simp [Sent.CarriesOpened, h.transaction, h.current]

/-- A batch in an open transaction. -/
theorem Inside.batch (h : Inside initial t x) (effects : List ε) :
    ∃ x' inside, x.send d (.batch effects) = some x' ∧
      Performs n initial t (effects.map .effect).reverse inside x x' := by
  obtain ⟨x', m, hsend, hends, hcommitted, hrandom, hsent, hrequest, hcarries⟩ :=
    h.send (d := d) (.batch effects) (t.work.perform effects) rfl
  refine ⟨x', [m], hsend, ⟨hends, hcommitted, Nat.le_of_eq hrandom.symm, ?_, hsent, ?_, ?_⟩⟩
  · simp
  · simpa using hcarries
  · simp [Sent.isCommit, hrequest]

/-- A transaction in an open one begins with a savepoint, of the next random name. -/
theorem Inside.start (h : Inside initial t x) (isolationLevel : Bool) :
    ∃ x' inside, x.start n d isolationLevel = some x' ∧ x.random < x'.random ∧
      Performs n initial t [.savepoint (n x.random)] inside x x' := by
  have hinside : Inside initial t { x with random := x.random + 1 } := { h with }
  obtain ⟨x₁, m, hsend, hends, hcommitted, hrandom, hsent, hrequest, hcarries⟩ :=
    hinside.send (d := d) (.transaction (.saveTransaction (n x.random)))
      (t.work.save (n x.random)) rfl
  have hsaves : Performs n initial t [.savepoint (n x.random)] [m] x x₁ := by
    refine ⟨hends, hcommitted, ?_, ?_, hsent, by simpa using hcarries, ?_⟩
    · rw [hrandom]
      exact Nat.le_succ _
    · simp only [Work.names_savepoint, List.mem_singleton, forall_eq]
      exact ⟨x.random, Nat.le_refl _, rfl⟩
    · simp [Sent.isCommit, hrequest]
  have hlt : x.random < x₁.random := by
    rw [hrandom]
    exact Nat.lt_succ_self _
  have hstart : x.start n d isolationLevel =
      if isolationLevel then x₁.send d (.batch []) else some x₁ := by
    simp only [Session.start, makeRequest, TransactionState.transactionRequest, h.inTransaction,
      if_true, hsend, Option.bind_some, Bool.true_and]
  cases isolationLevel with
  | false => exact ⟨x₁, [m], hstart, hlt, hsaves⟩
  | true =>
    obtain ⟨x₂, inside, hbatch, hlevel⟩ :=
      hends.batch (n := n) (d := d) ([] : List ε)
    exact ⟨x₂, _, hstart.trans hbatch, Nat.lt_of_lt_of_le hlt hlevel.random_le,
      hsaves.trans hlevel⟩

/-- Names that are chosen later are different. -/
theorem Performs.notMem_names {since : Work JsString ε} {inside : List (Sent ε)}
    (h : Performs n initial t since inside x x') (hnames : Function.Injective n) {i : Nat}
    (hi : i < x.random) : n i ∉ since.names := by
  intro hmem
  obtain ⟨j, hj, heq⟩ := h.fresh _ hmem
  have := hnames heq
  omega

/-- The end of a transaction in an open one: an error rolls back to its savepoint. -/
theorem Inside.txDone {name : JsString} {since : Work JsString ε} {work : Work JsString ε}
    (h : Inside initial { t with work := since ++ work.save name } x)
    (hname : name ∉ since.names) (err : Bool) :
    ∃ x' inside, x.txDone d true name err = some x' ∧
      Inside initial { t with work := (if err then [] else since) ++ work.save name } x' ∧
        x'.server.committed = x.server.committed ∧ x'.random = x.random ∧
          x'.sent = x.sent ++ inside ∧ (∀ m ∈ inside, m.CarriesOpened) ∧
            ∀ m ∈ inside, m.isCommit = false := by
  cases err with
  | false =>
    exact ⟨x, [], by simp [Session.txDone, TransactionState.txDone], h, rfl, rfl, by simp⟩
  | true =>
    have hrollback : x.server.handleOpen { t with work := since ++ work.save name }
        (.transaction (.rollbackTransaction name)) =
          some ({ x.server with transaction := some { t with work := work.save name } }, []) := by
      rw [Server.handleOpen, if_pos (by simp), Work.rollback_append hname]
    obtain ⟨x', m, hsend, hends, hcommitted, hrandom, hsent, hrequest, hcarries⟩ :=
      h.send (d := d) _ _ hrollback
    refine ⟨x', [m], ?_, hends, hcommitted, hrandom, hsent, by simpa using hcarries, ?_⟩
    · simp only [Session.txDone, TransactionState.txDone, h.inTransaction, Bool.and_self, if_true]
      exact hsend
    · simp [Sent.isCommit, hrequest]

/-- **Inside a transaction**, what is left of a body is what is kept of it. -/
theorem perform_inside (hnames : Function.Injective n) (body : Body ε) :
    ∀ {x : Session ε} {t : OpenTransaction ε}, Inside initial t x → ∃ x' since inside,
      perform n d body x = some x' ∧
        Performs n initial t since inside x x' ∧ since.effects = body.kept := by
  induction body with
  | txDone err => exact fun h => ⟨_, [], [], rfl, .refl h, rfl⟩
  | request effects rest ih =>
    intro x t h
    obtain ⟨x₁, inside₁, hbatch, hperforms₁⟩ := h.batch (n := n)
      (d := d) effects
    obtain ⟨x₂, since, inside₂, hrest, hperforms₂, hkept⟩ := ih hperforms₁.ends
    refine ⟨x₂, _, _, ?_, hperforms₁.trans hperforms₂, ?_⟩
    · rw [perform, hbatch, Option.bind_some, hrest]
    · rw [Work.effects_append, Work.effects_reverse_map, hkept, Body.kept]
  | transaction isolationLevel child rest ihchild ihrest =>
    intro x t h
    obtain ⟨x₁, inside₁, hstart, hlt, hsaves⟩ := h.start (n := n)
      (d := d) isolationLevel
    obtain ⟨x₂, since, inside₂, hchild, hperforms, hkept⟩ := ihchild hsaves.ends
    obtain ⟨x₃, inside₃, hdone, hends, hcommitted, hrandom, hsent, hcarries, hcommit⟩ :=
      Inside.txDone (d := d) (t := t) hperforms.ends
        (hperforms.notMem_names hnames hlt) child.err
    have hboth := hsaves.trans hperforms
    have hcalled : Performs n initial t ((if child.err then [] else since) ++
        [.savepoint (n x.random)]) (inside₁ ++ inside₂ ++ inside₃) x x₃ := {
      ends := by rwa [List.append_assoc]
      committed := hcommitted.trans hboth.committed
      random_le := hrandom ▸ hboth.random_le
      fresh := by
        intro name hname
        refine hboth.fresh name ?_
        cases hchilderr : child.err <;> simp_all
      sent := by rw [hsent, hboth.sent, List.append_assoc]
      carries := by
        intro m hm
        rcases List.mem_append.1 hm with hm | hm
        · exact hboth.carries m hm
        · exact hcarries m hm
      notCommit := by
        intro m hm
        rcases List.mem_append.1 hm with hm | hm
        · exact hboth.notCommit m hm
        · exact hcommit m hm }
    obtain ⟨x₄, since', inside₄, hrest, hperforms', hkept'⟩ := ihrest hcalled.ends
    refine ⟨x₄, _, _, ?_, hcalled.trans hperforms', ?_⟩
    · rw [perform, hstart, Option.bind_some, hchild, Option.bind_some, h.inTransaction, hdone,
        Option.bind_some, hrest]
    · rw [Work.effects_append, hkept', Work.effects_append, Work.effects_savepoint, Body.kept]
      cases child.err <;> simp [hkept]

/-- The transaction that a session without one begins next. -/
def nextTransaction (n : Nat → JsString) (d : Nat → Bytes) (x : Session ε) :
    OpenTransaction ε where
  name := n x.random
  descriptor := d x.server.begun
  work := []

/-- Outside of a transaction one begins, of the next random name. -/
theorem Idle.start (h : Idle initial x) (isolationLevel : Bool) :
    ∃ x' m, x.start n d isolationLevel = some x' ∧
      Inside initial (nextTransaction n d x) x' ∧
        x'.server.committed = x.server.committed ∧ x.random < x'.random ∧
          x'.sent = x.sent ++ [m] ∧
            m.request = .transaction (.beginTransaction (n x.random)) := by
  have hbegin : x.server.handle d x.client.currentTransactionDescriptor
      (.transaction (.beginTransaction (n x.random))) =
        some ({ x.server with
          transaction := some (nextTransaction n d x)
          begun := x.server.begun + 1 }, [.beginTransaction (d x.server.begun) []]) := by
    simp only [Server.handle, h.transaction, nextTransaction]
  simp only [Session.start, makeRequest, Session.send, TransactionState.transactionRequest,
    h.inTransaction, Bool.false_eq_true, if_false, hbegin, Option.map_some, Option.bind_some,
    Bool.false_and, List.foldl_cons, List.foldl_nil]
  refine ⟨_, _, rfl, ⟨rfl, ?_, rfl⟩, rfl, Nat.lt_succ_self _, rfl, rfl⟩
  show x.client.transactionDescriptors ++ [d x.server.begun] = _
  rw [h.transactionDescriptors]
  rfl

/-- The end of a transaction that is in no other: it is committed, or rolled back. -/
theorem Inside.txDone_root (h : Inside initial t x) (hname : t.name ∉ t.work.names) (err : Bool) :
    ∃ x' m, x.txDone d false t.name err = some x' ∧ Idle initial x' ∧
      x'.server.committed = x.server.committed ++ (if err then [] else t.work.effects) ∧
        x'.sent = x.sent ++ [m] ∧ m.CarriesOpened ∧ m.isCommit = !err := by
  have hcarries : ∀ request : ServerRequest ε, Sent.CarriesOpened
      { request
        descriptor := x.client.currentTransactionDescriptor
        opened := x.server.transaction.map OpenTransaction.descriptor } := by
    intro request
    simp [Sent.CarriesOpened, h.transaction, h.current]
  cases err with
  | false =>
    simp only [Session.txDone, TransactionState.txDone, Bool.false_eq_true, if_false, makeRequest,
      Session.send, Server.handle, h.transaction, h.current, if_true, Server.handleOpen,
      Option.map_some, List.foldl_cons, List.foldl_nil]
    refine ⟨_, _, rfl, ⟨rfl, ?_, rfl⟩, rfl, rfl, ?_, rfl⟩
    · show x.client.transactionDescriptors.take 1 = _
      rw [h.transactionDescriptors]
      rfl
    · have := hcarries (.transaction (.commitTransaction t.name))
      rwa [h.transaction, h.current] at this
  | true =>
    simp only [Session.txDone, TransactionState.txDone, h.inTransaction, Bool.and_self, if_true,
      makeRequest, Session.send, Server.handle, h.transaction, h.current, Server.handleOpen,
      if_neg hname, Option.map_some, List.foldl_cons, List.foldl_nil]
    refine ⟨_, _, rfl, ⟨rfl, ?_, rfl⟩, (List.append_nil _).symm, rfl, ?_, rfl⟩
    · show x.client.transactionDescriptors.take 1 = _
      rw [h.transactionDescriptors]
      rfl
    · have := hcarries (.transaction (.rollbackTransaction t.name))
      rwa [h.transaction, h.current] at this

/-- **Transactions are atomic**, however they are nested. The effects of the bodies none of
whose transactions has ended with an error are committed; one `COMMIT` is sent if the
outermost transaction succeeds, none if it fails; what is sent after its `BEGIN` carries its
descriptor; in the end no transaction is open. -/
theorem transaction_atomic (hnames : Function.Injective n) (h : Idle initial x)
    (isolationLevel : Bool) (body : Body ε) :
    ∃ x' m inside, x.transaction n d isolationLevel body = some x' ∧
      x'.server.committed = x.server.committed ++ body.surviving ∧
        x'.sent = x.sent ++ m :: inside ∧
          m.request = .transaction (.beginTransaction (n x.random)) ∧
            inside.countP Sent.isCommit = (if body.err then 0 else 1) ∧
              (∀ m ∈ inside, m.CarriesOpened) ∧ Idle initial x' := by
  obtain ⟨x₁, begin, hstart, hinside, hcommitted₁, hlt, hsent₁, hbegin⟩ :=
    h.start (n := n) (d := d) isolationLevel
  obtain ⟨x₂, since, inside, hperform, hperforms, hkept⟩ :=
    perform_inside (d := d) hnames body hinside
  obtain ⟨x₃, m, hdone, hidle, hcommitted, hsent, hcarries, hcommit⟩ :=
    hperforms.ends.txDone_root (d := d) (by
      have hfresh := hperforms.notMem_names hnames hlt
      simpa [nextTransaction] using hfresh) body.err
  refine ⟨x₃, begin, inside ++ [m], ?_, ?_, ?_, hbegin, ?_, ?_, hidle⟩
  · rw [Session.transaction, hstart, Option.bind_some, hperform, Option.bind_some,
      h.inTransaction]
    exact hdone
  · rw [hcommitted, hperforms.committed, hcommitted₁, Body.surviving_eq]
    simp [nextTransaction, hkept]
  · rw [hsent, hperforms.sent, hsent₁]
    simp
  · have hnone : inside.countP Sent.isCommit = 0 :=
      List.countP_eq_zero.2 fun m hm => by simp [hperforms.notCommit m hm]
    cases hbody : body.err <;> simp [List.countP_append, hnone, hcommit, hbody]
  · intro m' hm
    rcases List.mem_append.1 hm with hm | hm
    · exact hperforms.carries m' hm
    · rw [List.mem_singleton.1 hm]
      exact hcarries

/-- A connection and a server that have done nothing yet. -/
def new (ε : Type) : Session ε where
  client := .new
  server := { committed := [], transaction := none, begun := 0 }
  random := 0
  sent := []

/-- A transaction with one in it that fails, and one in that which does not. -/
def selectiveRollback : Body Nat :=
  .request [1] (.transaction true (.request [2] (.transaction false (.request [3] (.txDone false))
    (.txDone true))) (.request [4] (.txDone false)))

theorem transaction_atomic_selectiveRollback : ∃ x' m inside,
    (new Nat).transaction (fun i => List.replicate i 0) (fun _ => [1]) false selectiveRollback =
        some x' ∧
      x'.server.committed = [1, 4] ∧ x'.sent = m :: inside ∧
        m.request = .transaction (.beginTransaction []) ∧ inside.countP Sent.isCommit = 1 ∧
          (∀ m ∈ inside, m.CarriesOpened) ∧ Idle TransactionState.noDescriptor x' := by
  have hnames : Function.Injective fun i => (List.replicate i 0 : JsString) := by
    intro i j h
    simpa using congrArg List.length h
  obtain ⟨x', m, inside, hrun, hcommitted, hsent, hbegin, hcommits, hcarries, hidle⟩ :=
    transaction_atomic (x := new Nat) (d := fun _ => [1]) hnames ⟨rfl, rfl, rfl⟩ false
      selectiveRollback
  exact ⟨x', m, inside, hrun, hcommitted, hsent, hbegin, hcommits, hcarries, hidle⟩

end Session

end Tedious
