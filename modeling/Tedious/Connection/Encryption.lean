import Tedious.Connection.Phase

/-!
# Tedious.Connection.Encryption

What is sent before a TLS handshake has completed. Where the configuration asks for
encryption and the server agrees to it, only `PRELOGIN` messages are
(`sent_secure_of_runsTo`). The response of a server that does not agree leads to a login
in clear text (`sent_clear`).

The invariant is `Encrypted`: what is under way on a socket has the handshake that it
needs, and so has a connection that is logged in.
-/

namespace Tedious

open Chunked Reentrant

/-- A `PRELOGIN` response asks for encryption, unless it cannot be decoded. -/
def encryptionAgreed (data : Bytes) : Bool :=
  match PreloginPayload.ofBuffer data with
  | .ok payload => Connection.encryptionRequired payload
  | .error _ => true

/-- What has to be true of the current socket while something is under way. -/
def Pending.Needs (c : ConnectionConfig) (io : MessageIO) : Pending → Prop
  | instanceLookup _ | connect _ => True
  | prelogin => c.encrypt = .strict → io.secure = true
  | startTls id => id = io.id
  | _ => io.secure = true

namespace Connection

/-- What goes on until a socket has the handshake that the rest of the login needs. -/
def Cause.opensSocket : Cause → Bool
  | event (.resume p _) =>
    match p with
    | .instanceLookup _ | .connect _ | .prelogin | .startTls _ => true
    | _ => false
  | _ => false

/-- A message of the server, or a listener, needs a secure socket. -/
def Cause.needsTls : Cause → Bool
  | event (.resume ..) | instr (.cancelListener ..) => true
  | _ => false

/-- Nothing but `PRELOGIN` messages has been sent in clear text. -/
def SendsEncrypted (s : Connection) : Prop :=
  ∀ message, .sent message ∈ s.trace → message.type ≠ .PRELOGIN → message.secure = true

/-- The encryption of a connection; once it takes requests, it is `established`. -/
structure Encrypted (c : ConnectionConfig) (established : Bool) (s : Connection) : Prop where
  secure : established = true → s.messageIo.secure = true
  sent : s.SendsEncrypted
  pending : ∀ p ∈ s.pending, p.Needs c s.messageIo
  loggedIn : s.state = .LOGGED_IN → s.messageIo.secure = true

/-- The server agrees to encryption where a response to `PRELOGIN` is read. -/
def ServerEncrypts (c : ConnectionConfig) (_ : Connection) (_ : List Instr) : Event → Prop
  | .resume .prelogin (.data data) => c.encrypt = .strict ∨ encryptionAgreed data = true
  | _ => True

instance (c : ConnectionConfig) (s : Connection) (stack : List Instr) (e : Event) :
    Decidable (ServerEncrypts c s stack e) := by
  unfold ServerEncrypts
  split <;> infer_instance

variable {c : ConnectionConfig} {b : Bool} {s s' : Connection} {rest : List Instr}

/-! ### Sockets -/

/-- The same socket, with at least the handshake that it had. -/
theorem needs_mono {io io' : MessageIO} {p : Pending} (h : p.Needs c io) (hid : io'.id = io.id)
    (hsecure : io.secure = true → io'.secure = true) : p.Needs c io' := by
  cases p with
  | instanceLookup aborted => trivial
  | connect aborted => trivial
  | prelogin => exact fun hstrict => hsecure (h hstrict)
  | startTls id => exact Eq.trans h hid.symm
  | _ => exact hsecure h

theorem needs_setErrors {io : MessageIO} (call : Nat) (errors : List RequestError) {p : Pending}
    (h : p.Needs c io) : (p.setErrors call errors).Needs c io := by
  cases p <;> exact h

theorem needs_abort {io : MessageIO} {p : Pending} (h : p.Needs c io) : p.abort.Needs c io := by
  cases p <;> exact h

/-- A state waits for nothing that a secure socket does not allow. -/
theorem needs_of_mem_waits {io : MessageIO} (hsecure : io.secure = true) {st : ConnectionState}
    {calls : Nat} : ∀ p ∈ st.waits c calls, p.Needs c io := by
  intro p hp
  cases st with
  | CONNECTING =>
    rcases hport : c.port with _ | _ | port <;> simp [ConnectionState.waits, hport] at hp <;>
      subst hp <;> trivial
  | SENT_PRELOGIN =>
    simp only [ConnectionState.waits, List.mem_singleton] at hp
    subst hp
    exact fun _ => hsecure
  | _ => simp_all [ConnectionState.waits, Pending.Needs]

/-- What follows on a secure socket is allowed there. -/
theorem needs_of_leadsTo {io : MessageIO} (hsecure : io.secure = true) {p q : Pending}
    {outcome : Outcome} (hp : Cause.opensSocket (.event (.resume p outcome)) = false)
    (h : p.leadsTo q = true) : q.Needs c io := by
  cases p <;> cases hp <;> cases q <;> first | exact hsecure | cases h

namespace Cause

theorem of_mem_enters {cause : Cause} (h : cause.needsTls = false) {st : ConnectionState}
    (hst : st ∈ cause.enters) : st = .CONNECTING ∨ st = .FINAL := by
  unfold enters at hst
  split at hst <;> simp_all [needsTls]

theorem isLogin_of_needsTls {cause : Cause} (h : cause.needsTls = false) :
    cause.isLogin = false := by
  unfold isLogin
  split
  · cases h
  · rfl

theorem sent_notMem_notes {cause : Cause} {message : SentMessage} :
    .sent message ∉ cause.notes := by
  unfold notes
  split <;> simp

end Cause

/-! ### One step -/

namespace Encrypted

/-- Something that is no message happens. -/
theorem record (h : Encrypted c b s) {t : Trace} (ht : ∀ message, t ≠ .sent message) :
    Encrypted c b (s.record t) where
  secure := h.secure
  sent := by
    intro message hmem
    rcases List.mem_cons.1 hmem with heq | hmem
    · exact absurd heq.symm (ht message)
    · exact h.sent message hmem
  pending := h.pending
  loggedIn := h.loggedIn

theorem send (h : Encrypted c b s) {type : MessageType}
    (hsecure : s.messageIo.secure = true ∨ type = .PRELOGIN) (resetConnection : Bool)
    (request : Option RequestId) : Encrypted c b (s.send type resetConnection request) where
  secure := h.secure
  sent := by
    intro message hmem htype
    rcases List.mem_cons.1 hmem with heq | hmem
    · cases heq
      exact hsecure.resolve_right htype
    · exact h.sent message hmem htype
  pending := h.pending
  loggedIn := h.loggedIn

theorem await (h : Encrypted c b s) {p : Pending} (hp : p.Needs c s.messageIo) :
    Encrypted c b (s.await p) :=
  { h with
    pending := fun q hq => by
      rcases List.mem_append.1 hq with hq | hq
      · exact h.pending q hq
      · exact List.mem_singleton.1 hq ▸ hp }

theorem erase (h : Encrypted c b s) (p : Pending) :
    Encrypted c b { s with pending := s.pending.erase p } :=
  { h with pending := fun q hq => h.pending q (List.mem_of_mem_erase hq) }

/-- Entering a state that the socket allows. -/
theorem transitionTo (h : Encrypted c b s) {st : ConnectionState}
    (hwaits : ∀ p ∈ st.waits c s.calls, p.Needs c s.messageIo)
    (hst : s.messageIo.secure = true ∨
      st ≠ .LOGGED_IN ∧ st ≠ .LOGGED_IN_SENDING_INITIAL_SQL) :
    Encrypted c b (s.transitionTo c st).1 := by
  have henters := enters_transitionTo (c := c) (s := s) st
  have hneeds : ∀ {p : Pending}, p.Needs c s.messageIo →
      p.Needs c (s.transitionTo c st).1.messageIo := fun hp =>
    needs_mono hp henters.io henters.secure.trans
  constructor
  · rw [henters.secure]
    exact h.secure
  · intro message hmem htype
    rw [henters.trace] at hmem
    split at hmem
    · exact h.sent message hmem htype
    · rcases List.mem_append.1 hmem with hmem | hmem
      · -- the initial SQL
        cases st <;> simp [ConnectionState.sends] at hmem
        subst hmem
        exact hst.resolve_right fun hst => hst.2 rfl
      · exact h.sent message (List.mem_of_ne_of_mem (by simp) hmem) htype
  · rw [henters.pending]
    intro p hp
    rcases List.mem_append.1 hp with hp | hp
    · exact hneeds (h.pending p hp)
    · split at hp
      · cases hp
      · exact hneeds (hwaits p hp)
  · rw [henters.state, henters.secure]
    intro hloggedIn
    exact hst.resolve_right fun hst => hst.1 hloggedIn

/-- On a secure socket every state may be entered. -/
theorem enter (h : Encrypted c b s) (hsecure : s.messageIo.secure = true) (st : ConnectionState) :
    Encrypted c b (s.transitionTo c st).1 :=
  h.transitionTo (needs_of_mem_waits hsecure) (.inl hsecure)

theorem toFinal (h : Encrypted c b s) : Encrypted c b (s.transitionTo c .FINAL).1 :=
  h.transitionTo (by simp [ConnectionState.waits]) (.inr (by decide))

theorem toConnecting (h : Encrypted c b s) : Encrypted c b (s.transitionTo c .CONNECTING).1 := by
  refine h.transitionTo ?_ (.inr (by decide))
  rcases hport : c.port with _ | _ | port <;> simp [ConnectionState.waits, hport, Pending.Needs]

/-- A handshake completes, if it is that of the current socket. -/
theorem handshake (h : Encrypted c b s) (io : Nat) : Encrypted c b { s with
    messageIo :=
      if s.messageIo.id = io then { s.messageIo with tlsNegotiationComplete := true }
      else s.messageIo } := by
  split
  · have hsecure : MessageIO.secure { s.messageIo with tlsNegotiationComplete := true } = true :=
      Bool.or_true _
    exact {
      secure := fun _ => hsecure
      sent := h.sent
      pending := fun p hp => needs_mono (h.pending p hp) rfl fun _ => hsecure
      loggedIn := fun _ => hsecure }
  · exact h

/-- A request is sent. -/
theorem serve (h : Encrypted c b s) (hsecure : s.messageIo.secure = true) (r : RequestId)
    (type : RequestType) :
    Encrypted c b (((s.countCall { call := s.calls, request := r }).writeRequest c
      { call := s.calls, request := r } type).transitionTo c .SENT_CLIENT_REQUEST).1 := by
  have hcall : Encrypted c b (s.countCall { call := s.calls, request := r }) :=
    record (s := { s with calls := s.calls + 1 }) { h with } (by simp)
  have hadmitted : Encrypted c b ({ s.countCall { call := s.calls, request := r } with
      request := some { call := s.calls, request := r } }.updateRequest r fun request =>
        { request with rowCount := 0, rows := [], rst := [] }.once (.unsent s.calls)) :=
    { hcall with }
  have htimer : ∀ requestTimer, Encrypted c b { Connection.updateRequest { s.countCall
      { call := s.calls, request := r } with
        request := some { call := s.calls, request := r } } r fun request =>
          { request with rowCount := 0, rows := [], rst := [] }.once (.unsent s.calls) with
      requestTimer } := fun _ => { hadmitted with }
  have hwritten : Encrypted c b ((s.countCall { call := s.calls, request := r }).writeRequest c
      { call := s.calls, request := r } type) :=
    { (htimer _).send (.inl hsecure) _ _ with }
  exact hwritten.enter hsecure .SENT_CLIENT_REQUEST

/-- The handshake of a socket is not undone. -/
theorem secure_change {cause : Cause} (hcause : cause.opensSocket = false)
    (hchange : Change c cause s s') (hsecure : s.messageIo.secure = true) :
    s'.messageIo.secure = true := by
  cases hchange with
  | enter => exact (enters_transitionTo _).secure.trans hsecure
  | attend => exact hsecure
  | connected hconnect => rw [hconnect] at hcause; cases hcause
  | secured =>
    split
    · exact Bool.or_true _
    · exact hsecure
  | retry => exact (enters_transitionTo _).secure.trans hsecure
  | serve => exact (enters_transitionTo _).secure.trans hsecure
  | _ => exact hsecure

/-- **A change** on a socket that is secure, or that has no need to be. -/
theorem change {cause : Cause} (hcause : cause.opensSocket = false)
    (hsecure : s.messageIo.secure = true ∨ cause.needsTls = false)
    (hchange : Change c cause s s') (h : Encrypted c b s) : Encrypted c b s' := by
  cases hchange with
  | take _ s => exact h.erase _
  | enter hst s =>
    rcases hsecure with hsecure | hplain
    · exact h.enter hsecure _
    · rcases Cause.of_mem_enters hplain hst with rfl | rfl
      · exact h.toConnecting
      · exact h.toFinal
  -- what goes on has read a message of the server, on a secure socket
  | await hresume hq s =>
    subst hresume
    have hsecure := hsecure.resolve_right (by simp [Cause.needsTls])
    exact h.await (needs_of_leadsTo hsecure hcause hq)
  | abort _ s =>
    refine { h with pending := fun p hp => ?_ }
    obtain ⟨q, hq, rfl⟩ := List.mem_map.1 hp
    exact needs_abort (h.pending q hq)
  | unlisten _ s => exact { h with pending := fun p hp => h.pending p ((List.mem_filter.1 hp).1) }
  | setErrors _ errors s =>
    refine { h with pending := fun p hp => ?_ }
    obtain ⟨q, hq, rfl⟩ := List.mem_map.1 hp
    exact needs_setErrors _ errors (h.pending q hq)
  | connected hconnect => rw [hconnect] at hcause; cases hcause
  | secured => exact h.handshake _
  | send hlogin type s =>
    have hsecure := hsecure.resolve_right fun hplain => by
      rw [Cause.isLogin_of_needsTls hplain] at hlogin
      cases hlogin
    exact h.send (.inl hsecure) false none
  | retry => exact h.transitionTo (by simp [ConnectionState.waits]) (.inr (by decide))
  | count _ r s => exact record (s := { s with calls := s.calls + 1 }) { h with } (by simp)
  -- requests are admitted in `LOGGED_IN` only
  | serve _ r type s hstate => exact h.serve (h.loggedIn hstate) r type
  | resetCalled _ s =>
    exact record (s := { s with resetConnectionOnNextRequest := true }) { h with } (by simp)
  | finished _ s =>
    exact record (s := { s with resetConnectionOnNextRequest := false }) { h with } (by simp)
  | attend hlisten s =>
    subst hlisten
    exact { h.send (.inl (hsecure.resolve_right (by simp [Cause.needsTls]))) false none with }
  | note ht s => exact h.record fun message heq => Cause.sent_notMem_notes (heq ▸ ht)
  | _ => exact { h with }

/-- **A step** on a socket that is secure, or that has no need to be. -/
theorem of_changes {cause : Cause} (h : Encrypted c b s) (hchanges : Changes c cause s s')
    (hcause : cause.opensSocket = false)
    (hsecure : s.messageIo.secure = true ∨ cause.needsTls = false) : Encrypted c b s' :=
  (hchanges.keeps (P := fun s' => Encrypted c b s' ∧
    (s'.messageIo.secure = true ∨ cause.needsTls = false))
      (fun hchange ⟨h, hsecure⟩ => ⟨h.change hcause hsecure hchange,
        hsecure.imp_left (secure_change hcause hchange)⟩) ⟨h, hsecure⟩).1

theorem exec (h : Encrypted c b s) {i : Instr}
    (hi : b = true ∨ ∀ r l, i ≠ .cancelListener r l) :
    Encrypted c b (exec c i s).1 := by
  refine h.of_changes (changes_exec i) rfl ?_
  rcases hi with rfl | hi
  · exact .inl (h.secure rfl)
  · refine .inr ?_
    cases i with
    | cancelListener r l => exact absurd rfl (hi r l)
    | _ => rfl

/-! ### Login -/

theorem sendLogin7Packet (h : Encrypted c b s) (hsecure : s.messageIo.secure = true) :
    Encrypted c b (s.sendLogin7Packet c).1 := by
  have h' : Encrypted c b { s with routingData := none } := { h with }
  have hsent : Encrypted c b ({ s with routingData := none }.sendMessage .LOGIN7) :=
    h'.send (.inl hsecure) false none
  unfold Connection.sendLogin7Packet
  cases c.authentication <;> exact hsent.enter hsecure _

theorem afterPrelogin (h : Encrypted c b s) {data : Bytes} (hencrypt : c.encrypt ≠ .no)
    (hstrict : c.encrypt = .strict → s.messageIo.secure = true)
    (hagreed : c.encrypt = .strict ∨ encryptionAgreed data = true) :
    Encrypted c b (s.afterPrelogin c data).1 := by
  unfold Connection.afterPrelogin
  unfold encryptionAgreed at hagreed
  split
  · exact h
  · next payload hpayload =>
    rw [hpayload] at hagreed
    dsimp only
    generalize hs' : (if payload.fedAuthRequired = some 1 then
      { s with fedAuthRequired := true } else s) = s'
    have h' : Encrypted c b s' ∧ s'.messageIo = s.messageIo := by
      rw [← hs']
      split
      · exact ⟨{ h with }, rfl⟩
      · exact ⟨h, rfl⟩
    split
    · have hentered : Encrypted c b (s'.transitionTo c .SENT_TLSSSLNEGOTIATION).1 :=
        h'.1.transitionTo (by simp [ConnectionState.waits]) (.inr (by decide))
      exact hentered.await (io_transitionTo _).symm
    · next hno =>
      refine h'.1.sendLogin7Packet (h'.2 ▸ hstrict ?_)
      rcases hagreed with hstrict | hrequired
      · exact hstrict
      · exact Decidable.not_not.1 fun hne => hno ⟨hne, hrequired⟩

/-- A new socket takes the place of one on which nothing is under way any more. -/
theorem socketHandlingForSendPreLogin (h : Encrypted c b s) (hpending : s.pending = [])
    (hstate : s.state ≠ .LOGGED_IN) : Encrypted c false (s.socketHandlingForSendPreLogin c).1 := by
  have hnew : Encrypted c false { s with
      messageIo :=
        { id := s.messageIo.id + 1
          wrapped := c.encrypt == Encrypt.strict
          tlsNegotiationComplete := false
          destroyed := false }
      closed := false } :=
    { secure := by simp
      sent := h.sent
      pending := by simp [hpending]
      loggedIn := fun hloggedIn => absurd hloggedIn hstate }
  refine (hnew.send (.inr rfl) false none).transitionTo ?_ (.inr (by decide))
  simp [ConnectionState.waits, Pending.Needs, Connection.send, Connection.record,
    MessageIO.secure]

/-- `startTls` has completed on the current socket. -/
theorem afterStartTls (h : Encrypted c b s) {io : Nat} (hio : io = s.messageIo.id) :
    Encrypted c b (s.afterStartTls c io).1 := by
  have hsecured := h.handshake io
  unfold Connection.afterStartTls
  rw [if_pos hio.symm] at hsecured ⊢
  exact hsecured.sendLogin7Packet (Bool.or_true _)

/-! ### Whatever goes on -/

/-- Something under way goes on, and has the handshake that it needs. -/
theorem resume (h : Encrypted c b s) {p : Pending} (hp : p.Needs c s.messageIo)
    (hconnect : ∀ aborted, p = .connect aborted →
      b = false ∧ s.pending = [] ∧ s.state ≠ .LOGGED_IN)
    {outcome : Outcome} (hencrypt : c.encrypt ≠ .no)
    (hagreed : ∀ data, p = .prelogin → outcome = .data data →
      c.encrypt = .strict ∨ encryptionAgreed data = true) :
    Encrypted c b (s.resume c p outcome).1 := by
  cases p with
  | instanceLookup aborted =>
    cases outcome with
    | done => exact h.await trivial
    | failed err =>
      show Encrypted c b (s.instanceLookupFailed aborted err).1
      unfold instanceLookupFailed
      split <;> exact { h with }
    | _ => exact h
  | connect aborted =>
    cases outcome with
    | done =>
      obtain ⟨rfl, hpending, hstate⟩ := hconnect _ rfl
      exact h.socketHandlingForSendPreLogin hpending hstate
    | failed err =>
      show Encrypted c b (s.connectFailed aborted err).1
      unfold connectFailed
      split <;> exact { h with }
    | _ => exact h
  | prelogin =>
    cases outcome with
    | data data => exact h.afterPrelogin hencrypt hp (hagreed _ rfl rfl)
    | _ => exact h
  | startTls io =>
    cases outcome with
    | done => exact h.afterStartTls hp
    | _ => exact h
  -- the messages that follow are on a secure socket
  | _ => exact h.of_changes (changes_resume _ outcome) rfl (.inl hp)

theorem handle (h : Encrypted c b s) {event : Event} (henabled : s.enabled event = true)
    (hconnect : ∀ aborted, .connect aborted ∈ s.pending →
      b = false ∧ s.pending = [.connect aborted] ∧ s.state ≠ .LOGGED_IN)
    (hencrypt : c.encrypt ≠ .no) (hagreed : ServerEncrypts c s rest event) :
    Encrypted c b (s.handle c event).1 := by
  cases event with
  | resume p outcome =>
    simp only [enabled, Bool.and_eq_true, decide_eq_true_eq] at henabled
    refine (h.erase p).resume (h.pending p henabled.1) ?_ hencrypt ?_
    · rintro aborted rfl
      obtain ⟨hb, hpending, hstate⟩ := hconnect aborted henabled.1
      exact ⟨hb, by simp [hpending], hstate⟩
    · rintro data rfl rfl
      exact hagreed
  | _ => exact h.of_changes (changes_handle _) rfl (.inr rfl)

end Encrypted

/-! ### Every run -/

/-- A connection that is logging in has no more than it needs, one that takes requests has a
secure socket. -/
def Secured (c : ConnectionConfig) (s : Connection) (stack : List Instr) : Prop :=
  LoginPhase s stack ∧ Encrypted c false s ∨ RequestPhase s stack ∧ Encrypted c true s

theorem Secured.exec {i : Instr} (h : Secured c s (i :: rest)) :
    Secured c (exec c i s).1 ((Connection.exec c i s).2 ++ rest) := by
  rcases h with ⟨hphase, h⟩ | ⟨hphase, h⟩
  · refine .inl ⟨hphase.exec, h.exec (.inr ?_)⟩
    rintro r l rfl
    exact hphase.listenersRun r l (List.mem_cons_self ..)
  · exact .inr ⟨hphase.exec, h.exec (.inl rfl)⟩

/-- Nothing else is under way while a socket is being connected. -/
theorem LoginPhase.connecting (h : LoginPhase s rest) {aborted : Bool}
    (hp : .connect aborted ∈ s.pending) :
    s.pending = [.connect aborted] ∧ s.state ≠ .LOGGED_IN := by
  have hle := h.threads_le
  have hlength := List.length_pos_of_mem hp
  unfold threads at hle
  obtain ⟨p, hpending⟩ := List.length_eq_one_iff.1 (by omega : s.pending.length = 1)
  rw [hpending] at hp ⊢
  refine ⟨by rw [List.mem_singleton.1 hp], fun hstate => ?_⟩
  have hidle := h.idle (.inr (.inr hstate))
  simp [threads, hpending] at hidle

theorem Secured.handle (h : Secured c s rest) {event : Event} (henabled : s.enabled event = true)
    (hrest : event.isCall = true ∨ rest = []) (hencrypt : c.encrypt ≠ .no)
    (hagreed : ServerEncrypts c s rest event) :
    Secured c (s.handle c event).1 ((s.handle c event).2 ++ rest) := by
  have hrequests : RequestPhase s rest → Encrypted c true s →
      Secured c (s.handle c event).1 ((s.handle c event).2 ++ rest) := by
    intro hphase h
    refine .inr ⟨hphase.handle henabled hrest, h.handle henabled ?_ hencrypt hagreed⟩
    intro aborted hp
    cases hphase.pending _ hp
  rcases h with ⟨hphase, h⟩ | ⟨hphase, h⟩
  · by_cases hstate : s.state = .LOGGED_IN
    · exact hrequests (hphase.toRequestPhase (by rw [hstate]; rfl))
        { h with secure := fun _ => h.loggedIn hstate }
    · exact .inl ⟨hphase.handle hstate henabled hrest,
        h.handle henabled (fun _ hp => ⟨rfl, hphase.connecting hp⟩) hencrypt hagreed⟩
  · exact hrequests hphase h

/-- **No login in clear text.** A connection that is configured to encrypt, and whose server
agrees to it, sends nothing but `PRELOGIN` messages before a TLS handshake has completed on
the socket. -/
theorem sent_secure_of_runsTo (hencrypt : c.encrypt ≠ .no) {moves : List (Move Event)}
    {k : Config Connection Instr} (h : RunsTo c (ServerEncrypts c) moves k) :
    SendsEncrypted k.state := by
  have hsecured : Secured c k.state k.stack := by
    refine Component.invariant (I := Secured c) ?_ ?_ h ?_
    · intro i s rest hsecured
      exact hsecured.exec
    · intro event s stack s' is hsecured hadmits hagreed hstart
      obtain ⟨henabled, hhandle⟩ := start_eq_some hstart
      obtain ⟨rfl, rfl⟩ := Prod.mk.inj hhandle
      exact hsecured.handle henabled (isCall_or_eq_nil hadmits) hencrypt hagreed
    · refine .inl ⟨loginPhase_new, ?_⟩
      constructor <;> simp [Connection.new, SendsEncrypted]
  rcases hsecured with ⟨-, h⟩ | ⟨-, h⟩ <;> exact h.sent

/-- A server agrees, and the connection logs in. -/
theorem sent_secure_of_runsTo_login : ∃ k, RunsTo exampleConfig (ServerEncrypts exampleConfig)
    loggedInMoves k ∧ SendsEncrypted k.state := by
  obtain ⟨k, hk, -⟩ := @exists_runsTo exampleConfig (ServerEncrypts exampleConfig) _ loggedInMoves
    (fun k => k.state.state = .LOGGED_IN) (by decide)
  exact ⟨k, hk, sent_secure_of_runsTo (by decide) hk⟩

/-- A `PRELOGIN` response that says that encryption is off. -/
def preloginOff : Bytes := [0x01, 0x00, 0x06, 0x00, 0x01, 0xFF, 0x00]

/-- With the default options, a server that does not agree is logged in to in clear text. -/
theorem sent_clear : ¬∀ c : ConnectionConfig, c.encrypt ≠ .no → ∀ moves k,
    RunsTo c (fun _ _ _ => True) moves k → SendsEncrypted k.state := by
  intro h
  let message : SentMessage :=
    { type := .LOGIN7, resetConnection := false, secure := false, request := none }
  obtain ⟨k, hk, hsent⟩ := @exists_runsTo exampleConfig (fun _ _ _ => True) _
    (loginMoves preloginOff []) (fun k => k.state.trace.any (· = .sent message)) (by decide)
  have hmem : .sent message ∈ k.state.trace := by simpa using hsent
  have hsecure := h exampleConfig (by decide) _ k hk message hmem (by decide)
  cases hsecure

end Connection

end Tedious
