import Tedious.Connection.Phase

/-!
# Tedious.Connection.PeerName

The name that a TLS handshake verifies. The host is chosen when `connectOnPort` is called;
the name is chosen again when the handshake begins, by `wrapWithTls` on a socket that is
encrypted strictly, and at the `PRELOGIN` response otherwise. A history of the sockets
(`Sockets`) keeps the host of each handshake beside its name.

`name_of_steps` says which name it is, whatever has happened before; `peerName_iff` says
when that is the name of the host.
-/

namespace Tedious

open Chunked Reentrant

structure TlsConfig extends ConnectionConfig where
  /-- `options.serverName`. -/
  serverName : Option JsString
  /-- `net.isIP(host) !== 0`. -/
  isIP : JsString → Bool

structure Handshake where
  /-- The name that is given to TLS. -/
  name : JsString
  /-- The host that the socket was opened to. -/
  host : JsString
  deriving DecidableEq, Repr

/-- What goes on with the choice of a host: a connect, or the `PRELOGIN` response. -/
def Pending.isOpening : Pending → Bool
  | connect _ | prelogin => true
  | _ => false

/-- The hosts of the latest call of `connectOnPort` and of the current socket, and the
handshakes that have been started. -/
structure Sockets where
  connecting : JsString
  socket : JsString
  handshakes : List Handshake

def Sockets.none : Sockets where
  connecting := []
  socket := []
  handshakes := []

namespace TlsConfig

variable (c : TlsConfig)

/-- `options.serverName`, where it is truthy. -/
def givenName : Option JsString := c.serverName.filter fun name => !name.isEmpty

/-- `connectOpts.host` of `connectOnPort`. -/
def host (s : Connection) : JsString :=
  match s.routingData with
  | some routingData => routingData.server
  | none => c.server

/-- The name of a host; an IP literal has none. -/
def hostName (host : JsString) : JsString := if c.isIP host then [] else host

/-- `servername` of `wrapWithTls`. -/
def wrapServerName : JsString := c.givenName.getD (c.hostName c.server)

/-- The host name that `startTls` is called with. -/
def startTlsName (s : Connection) : JsString :=
  c.givenName.getD ((s.routingData.map RoutingData.server).getD c.server)

/-- The name that a handshake should verify. -/
def peerName (host : JsString) : JsString := c.givenName.getD (c.hostName host)

end TlsConfig

namespace Connection

variable (c : TlsConfig)

/-- How many calls of `connectOnPort` are under way. -/
def connects (s : Connection) : Nat := s.pending.countP fun
  | .connect _ => true
  | _ => false

/-- How many calls of `startTls` are under way. -/
def startsTls (s : Connection) : Nat := s.pending.countP fun
  | .startTls _ => true
  | _ => false

/-- The handshakes that a move starts. A connect that fails may have failed in
`wrapWithTls`. -/
def startedHandshakes (k : Config Connection Instr) (m : Move Event)
    (k' : Config Connection Instr) (x : Sockets) : List Handshake :=
  match m with
  | .event (.resume (.connect _) _) =>
      if c.encrypt = .strict then [⟨c.wrapServerName, x.connecting⟩] else []
  | .event (.resume .prelogin _) =>
      if k.state.startsTls < k'.state.startsTls then [⟨c.startTlsName k.state, x.socket⟩] else []
  | _ => []

/-- What a move adds to the history. -/
def extendSockets (k : Config Connection Instr) (m : Move Event) (k' : Config Connection Instr)
    (x : Sockets) : Sockets where
  connecting := if k.state.connects < k'.state.connects then c.host k.state else x.connecting
  socket :=
    match m with
    | .event (.resume (.connect _) .done) => x.connecting
    | _ => x.socket
  handshakes := startedHandshakes c k m k' x ++ x.handshakes

/-- The connection with the history of its sockets. -/
def socketsMachine : Machine (Config Connection Instr × Sockets) (Move Event) :=
  (component c.toConnectionConfig).machine.withHistory (extendSockets c)

/-- The runs of a new connection. -/
abbrev SocketRuns (moves : List (Move Event)) (k : Config Connection Instr) (x : Sockets) : Prop :=
  (socketsMachine c).Steps (fun p => Component.guarded (fun _ _ _ => True) p.1)
    (⟨.new, []⟩, .none) moves (k, x)

variable {c} {s s' : Connection} {rest : List Instr}

/-! ### The host stays the same -/

/-- Nothing is opened, and while something is, its host stays the one that is configured or
routed to. -/
structure Keeps (s s' : Connection) : Prop where
  routingData : (∃ p ∈ s'.pending, p.isOpening = true) → s'.routingData = s.routingData
  prelogin : .prelogin ∈ s'.pending → .prelogin ∈ s.pending

namespace Keeps

theorem refl (s : Connection) : Keeps s s := ⟨fun _ => rfl, id⟩

/-- Nothing is opened any more. -/
theorem of_forall (h : ∀ q ∈ s'.pending, q.isOpening = false) : Keeps s s' := by
  refine ⟨fun ⟨q, hq, hopening⟩ => ?_, fun hprelogin => ?_⟩
  · rw [h q hq] at hopening
    cases hopening
  · cases h _ hprelogin

/-- Nothing more is opened. -/
theorem still {s'' : Connection} (h : Keeps s s') (hrouting : s''.routingData = s'.routingData)
    (hpending : ∀ q ∈ s''.pending, q.isOpening = true → q ∈ s'.pending) : Keeps s s'' where
  routingData := fun ⟨q, hq, hopening⟩ =>
    hrouting.trans (h.routingData ⟨q, hpending q hq hopening, hopening⟩)
  prelogin := fun hq => h.prelogin (hpending _ hq rfl)

/-- What is waited for may change as long as no `PRELOGIN` response comes from it. -/
theorem mapPending (h : Keeps s s') {f : Pending → Pending}
    (hf : ∀ p, f p = .prelogin → p = .prelogin) (hopening : ∀ p, (f p).isOpening = p.isOpening) :
    Keeps s { s' with pending := s'.pending.map f } where
  routingData := fun ⟨q, hq, hq'⟩ => by
    obtain ⟨p, hp, rfl⟩ := List.mem_map.1 hq
    exact h.routingData ⟨p, hp, (hopening p).symm.trans hq'⟩
  prelogin := fun hq => by
    obtain ⟨p, hp, hfp⟩ := List.mem_map.1 hq
    exact h.prelogin (hf p hfp ▸ hp)

theorem await (h : Keeps s s') {p : Pending} (hp : p.isOpening = false) :
    Keeps s (s'.await p) := by
  refine h.still rfl fun q hq hopening => ?_
  rcases List.mem_append.1 hq with hq | hq
  · exact hq
  · rw [List.mem_singleton.1 hq, hp] at hopening
    cases hopening

end Keeps

theorem routingData_cleanupConnection (t : CleanupType) :
    (s.cleanupConnection t).1.routingData = s.routingData := by
  have hclose : ∀ s : Connection, s.closeRequest.1.routingData = s.routingData := by
    intro s
    unfold closeRequest
    split <;> rfl
  unfold cleanupConnection
  split
  · rfl
  · cases t with
    | REDIRECT => rfl
    | NORMAL => exact hclose _
    | RETRY => exact hclose _

theorem routingData_transitionTo (st : ConnectionState) :
    (s.transitionTo c.toConnectionConfig st).1.routingData = s.routingData := by
  unfold transitionTo
  split
  · rfl
  · cases st with
    | FINAL => exact routingData_cleanupConnection .NORMAL
    | REROUTING => exact routingData_cleanupConnection .REDIRECT
    | TRANSIENT_FAILURE_RETRY => exact routingData_cleanupConnection .RETRY
    | CONNECTING =>
      show ((s.changeState .CONNECTING).initialiseConnection c.toConnectionConfig).routingData = _
      unfold initialiseConnection
      dsimp only
      split <;> rfl
    | _ => rfl

namespace Keeps

/-- Only the connected socket makes the connection wait for a `PRELOGIN` response. -/
theorem transitionTo (h : Keeps s s') {st : ConnectionState} (hst : st ≠ .SENT_PRELOGIN)
    (hopening : st = .CONNECTING → s'.routingData = s.routingData) :
    Keeps s (s'.transitionTo c.toConnectionConfig st).1 := by
  have hwaits : ∀ q ∈ (s'.transitionTo c.toConnectionConfig st).1.pending, q ∈ s'.pending ∨
      q ∈ st.waits c.toConnectionConfig s'.calls := by
    intro q hq
    rw [pending_transitionTo] at hq
    rcases List.mem_append.1 hq with hq | hq
    · exact .inl hq
    · split at hq
      · cases hq
      · exact .inr hq
  constructor
  · rintro ⟨q, hq, hq'⟩
    rw [routingData_transitionTo]
    rcases hwaits q hq with hq | hq
    · exact h.routingData ⟨q, hq, hq'⟩
    · refine hopening ?_
      cases st <;> simp_all [ConnectionState.waits, Pending.isOpening]
  · intro hq
    rcases hwaits _ hq with hq | hq
    · exact h.prelogin hq
    · cases st <;> simp [ConnectionState.waits] at hq hst
      split at hq <;> simp at hq

end Keeps

/-- Opening a socket is a part of a login. -/
theorem isOpening_of_isLogin {p : Pending} (h : p.isLogin = false) : p.isOpening = false := by
  cases p <;> first | rfl | cases h

theorem isOpening_of_leadsTo {p q : Pending} (hlookup : ∀ aborted, p ≠ .instanceLookup aborted)
    (h : p.leadsTo q = true) : q.isOpening = false := by
  cases p <;> cases q <;> first | rfl | exact absurd rfl (hlookup _) | cases h

theorem isOpening_of_mem_waits {calls : Nat} {st : ConnectionState} (hconnecting : st ≠ .CONNECTING)
    (hprelogin : st ≠ .SENT_PRELOGIN) :
    ∀ q ∈ st.waits c.toConnectionConfig calls, q.isOpening = false := by
  cases st <;> simp_all [ConnectionState.waits, Pending.isOpening]

theorem connecting_notMem_enters {p : Pending} {outcome : Outcome} :
    .CONNECTING ∉ Cause.enters (.event (.resume p outcome)) := by
  cases p <;> cases outcome <;> simp [Cause.enters]

theorem eq_connect_of_mem_enters {cause : Cause} (h : .SENT_PRELOGIN ∈ cause.enters) :
    ∃ aborted, cause = .event (.resume (.connect aborted) .done) := by
  unfold Cause.enters at h
  split at h <;> first | exact ⟨_, rfl⟩ | simp at h

namespace Keeps

/-- **A change** that is not for a login opens nothing, and keeps the host. -/
theorem change {cause : Cause} (hlogin : cause.isLogin = false) {s₁ s₂ : Connection}
    (hchange : Change c.toConnectionConfig cause s₁ s₂)
    (h : Keeps s s₁ ∧ s₁.routingData = s.routingData) :
    Keeps s s₂ ∧ s₂.routingData = s.routingData := by
  obtain ⟨h, hrouting⟩ := h
  -- `CONNECTING` opens a socket to the host as it is now, which no change has touched so far
  have henters : ∀ {s' : Connection} {st : ConnectionState}, Keeps s s' →
      s'.routingData = s.routingData → st ≠ .SENT_PRELOGIN →
        Keeps s (s'.transitionTo c.toConnectionConfig st).1 ∧
          (s'.transitionTo c.toConnectionConfig st).1.routingData = s.routingData :=
    fun h hrouting hst =>
      ⟨h.transitionTo hst fun _ => hrouting, (routingData_transitionTo _).trans hrouting⟩
  cases hchange with
  | take => exact ⟨h.still rfl fun q hq _ => List.mem_of_mem_erase hq, hrouting⟩
  | enter hst =>
    refine henters h hrouting ?_
    rintro rfl
    obtain ⟨aborted, rfl⟩ := eq_connect_of_mem_enters hst
    cases hlogin
  | await hcause hq =>
    subst hcause
    exact ⟨h.await (isOpening_of_isLogin ((Pending.isLogin_of_leadsTo hq).trans hlogin)), hrouting⟩
  | abort =>
    refine ⟨h.mapPending (f := Pending.abort) (fun p hp => ?_) fun p => ?_, hrouting⟩
    · cases p <;> first | rfl | cases hp
    · cases p <;> rfl
  | unlisten => exact ⟨h.still rfl fun q hq _ => (List.mem_filter.1 hq).1, hrouting⟩
  | setErrors =>
    refine ⟨h.mapPending (f := Pending.setErrors _ _) (fun p hp => ?_) fun p => ?_, hrouting⟩
    · cases p <;> first | rfl | cases hp
    · cases p <;> rfl
  | send hsends => cases hlogin.symm.trans hsends
  | retry => exact henters h hrouting (by decide)
  | requireFedAuth hflags => cases hlogin.symm.trans hflags
  | route hroutes => cases hlogin.symm.trans hroutes
  | serve _ r type s₁ =>
    obtain ⟨_, _, _, hwrite⟩ := writeRequest_eq c.toConnectionConfig
      (s₁.countCall { call := s₁.calls, request := r }) { call := s₁.calls, request := r } type
    rw [hwrite]
    exact henters (h.still rfl fun _ hq _ => hq) hrouting (by decide)
  | _ => exact ⟨{ h with }, hrouting⟩

theorem of_changes {cause : Cause} (hlogin : cause.isLogin = false)
    (h : Changes c.toConnectionConfig cause s s') : Keeps s s' :=
  (h.keeps (P := fun s' => Keeps s s' ∧ s'.routingData = s.routingData) (change hlogin)
    ⟨refl s, rfl⟩).1

theorem exec (i : Instr) : Keeps s (exec c.toConnectionConfig i s).1 :=
  of_changes rfl (changes_exec i)

/-- **A change** for a login whose socket is connected opens nothing. -/
theorem change_login {p : Pending} {outcome : Outcome}
    (hlookup : ∀ aborted, p ≠ .instanceLookup aborted) (hconnect : ∀ aborted, p ≠ .connect aborted)
    (hchange : Change c.toConnectionConfig (.event (.resume p outcome)) s s')
    (h : ∀ q ∈ s.pending, q.isOpening = false) : ∀ q ∈ s'.pending, q.isOpening = false := by
  have henters : ∀ st, (∀ q ∈ st.waits c.toConnectionConfig s.calls, q.isOpening = false) →
      ∀ q ∈ (s.transitionTo c.toConnectionConfig st).1.pending, q.isOpening = false := by
    intro st hst q hq
    rw [pending_transitionTo] at hq
    rcases List.mem_append.1 hq with hq | hq
    · exact h q hq
    · split at hq
      · cases hq
      · exact hst q hq
  cases hchange with
  | take => exact fun q hq => h q (List.mem_of_mem_erase hq)
  | due hcause => cases hcause
  | enter hst =>
    refine henters _ (isOpening_of_mem_waits ?_ ?_)
    · rintro rfl
      exact connecting_notMem_enters hst
    · rintro rfl
      obtain ⟨aborted, hcause⟩ := eq_connect_of_mem_enters hst
      cases hcause
      exact hconnect aborted rfl
  | await hcause hq =>
    cases hcause
    exact List.forall_mem_append.2 ⟨h, by simpa using isOpening_of_leadsTo hlookup hq⟩
  | abort hcause => cases hcause
  | unlisten hcause => cases hcause
  | setErrors hcause => cases hcause
  | close hcause => rcases hcause with hcause | hcause <;> cases hcause
  | retry => exact henters _ (by simp [ConnectionState.waits])
  | serve hmakes => cases hmakes
  | _ => exact h

/-- What is under way goes on; a connect is the one thing that opens a socket. -/
theorem resume {p : Pending} (h : s.pending = []) {outcome : Outcome}
    (hconnect : ∀ aborted, p = .connect aborted → outcome ≠ .done) :
    Keeps s (s.resume c.toConnectionConfig p outcome).1 := by
  have hothers : (∀ aborted, p ≠ .instanceLookup aborted) → (∀ aborted, p ≠ .connect aborted) →
      Keeps s (s.resume c.toConnectionConfig p outcome).1 := by
    intro hlookup hconnect
    refine of_forall ((changes_resume p outcome).keeps (change_login hlookup hconnect) ?_)
    rw [h]
    exact List.forall_mem_nil _
  cases p with
  | instanceLookup aborted =>
    cases outcome with
    | done =>
      refine ⟨fun _ => rfl, fun hq => ?_⟩
      rcases List.mem_append.1 hq with hq | hq
      · exact hq
      · cases List.mem_singleton.1 hq
    | failed err =>
      show Keeps s (s.instanceLookupFailed aborted err).1
      unfold instanceLookupFailed
      split <;> exact { refl s with }
    | _ => exact refl s
  | connect aborted =>
    cases outcome with
    | done => exact absurd rfl (hconnect _ rfl)
    | failed err =>
      show Keeps s (s.connectFailed aborted err).1
      unfold connectFailed
      split <;> exact { refl s with }
    | _ => exact refl s
  -- the socket is connected, and nothing else was under way
  | _ => exact hothers (by simp) (by simp)

/-- Nothing that happens opens a socket but a connect that is done. -/
theorem handle {event : Event} (h : ∀ p outcome, event = .resume p outcome →
      p.isLogin = true → s.pending.erase p = [])
    (hconnect : ∀ aborted, event ≠ .resume (.connect aborted) .done) :
    Keeps s (s.handle c.toConnectionConfig event).1 := by
  cases hlogin : Cause.isLogin (.event event) with
  | false => exact of_changes hlogin (changes_handle event)
  | true =>
    cases event with
    | resume p outcome =>
      have hresume : Keeps { s with pending := s.pending.erase p }
          ({ s with pending := s.pending.erase p }.resume c.toConnectionConfig p outcome).1 :=
        resume (h p outcome rfl hlogin) fun aborted hp ho => hconnect aborted (by rw [hp, ho])
      exact ⟨hresume.routingData, fun hq => List.mem_of_mem_erase (hresume.prelogin hq)⟩
    | _ => cases hlogin

end Keeps

/-! ### Every handshake -/

/-- The name that a handshake on a socket to a host is started with. -/
def handshakeName (c : TlsConfig) (host : JsString) : JsString :=
  c.givenName.getD (if c.encrypt = .strict then c.hostName c.server else host)

/-- The history has the hosts of what is being opened. -/
structure Tracked (c : TlsConfig) (s : Connection) (x : Sockets) : Prop where
  connecting : ∀ aborted, .connect aborted ∈ s.pending → x.connecting = c.host s
  socket : .prelogin ∈ s.pending → x.socket = c.host s
  names : ∀ handshake ∈ x.handshakes, handshake.name = handshakeName c handshake.host

theorem wrapServerName_eq (hencrypt : c.encrypt = .strict) (host : JsString) :
    c.wrapServerName = handshakeName c host := by
  rw [TlsConfig.wrapServerName, handshakeName, if_pos hencrypt]

theorem startTlsName_eq (hencrypt : c.encrypt ≠ .strict) :
    c.startTlsName s = handshakeName c (c.host s) := by
  unfold TlsConfig.startTlsName handshakeName TlsConfig.host
  rw [if_neg hencrypt]
  cases s.routingData <;> rfl

theorem host_congr (h : s'.routingData = s.routingData) : c.host s' = c.host s := by
  unfold TlsConfig.host
  rw [h]

/-- `startTls` is not called where encryption is strict. -/
theorem startsTls_afterPrelogin (hencrypt : c.encrypt = .strict) (data : Bytes) :
    (s.afterPrelogin c.toConnectionConfig data).1.startsTls = s.startsTls := by
  have hentered : ∀ (s : Connection) (kind : LoginKind) (st : ConnectionState),
      st.waits c.toConnectionConfig s.calls = [.loginMessage kind] →
        (s.transitionTo c.toConnectionConfig st).1.startsTls = s.startsTls := by
    intro s kind st hwaits
    unfold startsTls
    rw [pending_transitionTo, hwaits]
    split <;> simp
  have hlogin : ∀ s : Connection,
      (s.sendLogin7Packet c.toConnectionConfig).1.startsTls = s.startsTls := by
    intro s
    unfold Connection.sendLogin7Packet
    cases c.authentication
    all_goals
      first
      | exact hentered _ .standard _ rfl
      | exact hentered _ .ntlm _ rfl
      | exact hentered _ .fedauth _ rfl
  unfold Connection.afterPrelogin
  split
  · rfl
  · dsimp only
    rw [if_neg (by simp [hencrypt]), hlogin]
    split <;> rfl

/-- A connect that is counted is under way. -/
theorem exists_connect (h : 0 < s.connects) : ∃ aborted, .connect aborted ∈ s.pending := by
  obtain ⟨p, hp, hconnect⟩ := List.countP_pos_iff.1 h
  cases p with
  | connect aborted => exact ⟨aborted, hp⟩
  | _ => cases hconnect

/-- What a connect adds to the history, whatever becomes of it. -/
theorem Tracked.connecting_extend {k k' : Config Connection Instr} {x : Sockets} {m : Move Event}
    (h : Tracked c k.state x)
    (hrouting : (∃ p ∈ k'.state.pending, p.isOpening = true) →
      k'.state.routingData = k.state.routingData) :
    ∀ aborted, .connect aborted ∈ k'.state.pending →
      (extendSockets c k m k' x).connecting = c.host k'.state := by
  intro aborted hp
  rw [host_congr (hrouting ⟨_, hp, rfl⟩)]
  show (if k.state.connects < k'.state.connects then c.host k.state else x.connecting) = _
  split
  · rfl
  -- no connect has begun, so one was under way before
  · next hle =>
    have hpos : 0 < k'.state.connects := List.countP_pos_iff.2 ⟨_, hp, rfl⟩
    obtain ⟨aborted', hp'⟩ := exists_connect (s := k.state) (by omega)
    exact h.connecting aborted' hp'

/-- A move that opens nothing. -/
theorem Tracked.keeps {k k' : Config Connection Instr} {x : Sockets} {m : Move Event}
    (h : Tracked c k.state x) (hkeeps : Keeps k.state k'.state)
    (hdone : ∀ aborted, m ≠ .event (.resume (.connect aborted) .done))
    (hnames : ∀ handshake ∈ startedHandshakes c k m k' x,
      handshake.name = handshakeName c handshake.host) :
    Tracked c k'.state (extendSockets c k m k' x) where
  connecting := h.connecting_extend hkeeps.routingData
  socket := fun hp => by
    have hsocket : (extendSockets c k m k' x).socket = x.socket := by
      unfold extendSockets
      dsimp only
      split
      · exact absurd rfl (hdone _)
      · rfl
    rw [hsocket, host_congr (hkeeps.routingData ⟨_, hp, rfl⟩)]
    exact h.socket (hkeeps.prelogin hp)
  names := fun handshake hmem => by
    rcases List.mem_append.1 hmem with hmem | hmem
    · exact hnames handshake hmem
    · exact h.names handshake hmem

/-- Nothing else is under way when a part of the login goes on. -/
theorem pending_erase_of_phase {p : Pending} (hphase : LoginPhase s [] ∨ RequestPhase s [])
    (hp : p ∈ s.pending) (hlogin : p.isLogin = true) : s.pending.erase p = [] := by
  rcases hphase with hphase | hphase
  · exact (threads_eq_zero.1 (hphase.handler hp).threads_eq).1
  · rw [hphase.pending p hp] at hlogin
    cases hlogin

/-- The handshakes that an event starts have the name of `handshakeName`. -/
theorem name_of_started {k k' : Config Connection Instr} {x : Sockets} {event : Event}
    (h : Tracked c k.state x) (henabled : k.state.enabled event = true)
    (hk' : k'.state = (k.state.handle c.toConnectionConfig event).1) :
    ∀ handshake ∈ startedHandshakes c k (.event event) k' x,
      handshake.name = handshakeName c handshake.host := by
  intro handshake hmem
  unfold startedHandshakes at hmem
  split at hmem
  · split at hmem
    -- a strict handshake belongs to connecting, a negotiated one to the `PRELOGIN` response
    · next hencrypt =>
      rw [List.mem_singleton.1 hmem]
      exact wrapServerName_eq hencrypt _
    · cases hmem
  · next outcome hevent =>
    obtain rfl : event = .resume .prelogin outcome := by simpa using hevent
    have hp : .prelogin ∈ k.state.pending ∧ accepts .prelogin outcome = true := by
      simpa [enabled] using henabled
    split at hmem
    · next hstarts =>
      -- where encryption is strict, the response leads on to the login
      have hencrypt : c.encrypt ≠ .strict := by
        intro hencrypt
        have herase : startsTls { k.state with pending := k.state.pending.erase .prelogin } ≤
            k.state.startsTls := List.Sublist.countP_le List.erase_sublist
        have hresume : k'.state.startsTls =
            startsTls { k.state with pending := k.state.pending.erase .prelogin } := by
          rw [hk']
          cases outcome with
          | data data => exact startsTls_afterPrelogin hencrypt data
          | failed err => rfl
          | done => cases hp.2
          | token token => cases hp.2
        omega
      rw [List.mem_singleton.1 hmem]
      exact (startTlsName_eq hencrypt).trans (by rw [h.socket hp.1])
    · cases hmem
  · cases hmem

/-- A socket is connected, and opened to the host that was chosen. -/
theorem Tracked.opened {k k' : Config Connection Instr} {x : Sockets} {aborted : Bool}
    (h : Tracked c k.state x)
    (henabled : k.state.enabled (.resume (.connect aborted) .done) = true)
    (hk' : k'.state =
      (k.state.handle c.toConnectionConfig (.resume (.connect aborted) .done)).1) :
    Tracked c k'.state (extendSockets c k (.event (.resume (.connect aborted) .done)) k' x) := by
  have hp : .connect aborted ∈ k.state.pending := by
    simpa [enabled, accepts] using henabled
  have hrouting : k'.state.routingData = k.state.routingData := by
    rw [hk']
    exact routingData_transitionTo _
  refine ⟨h.connecting_extend fun _ => hrouting, fun _ => ?_, fun handshake hmem => ?_⟩
  · rw [host_congr hrouting]
    exact h.connecting aborted hp
  · rcases List.mem_append.1 hmem with hmem | hmem
    · exact name_of_started h henabled hk' handshake hmem
    · exact h.names handshake hmem

theorem Tracked.event {k k' : Config Connection Instr} {x : Sockets} {event : Event}
    (h : Tracked c k.state x) (hphase : LoginPhase k.state k.stack ∨ RequestPhase k.state k.stack)
    (henabled : k.state.enabled event = true) (hstack : event.isCall = true ∨ k.stack = [])
    (hk' : k'.state = (k.state.handle c.toConnectionConfig event).1) :
    Tracked c k'.state (extendSockets c k (.event event) k' x) := by
  by_cases hdone : ∃ aborted, event = .resume (.connect aborted) .done
  · obtain ⟨aborted, rfl⟩ := hdone
    exact h.opened henabled hk'
  · refine h.keeps ?_ ?_ (name_of_started h henabled hk')
    · rw [hk']
      refine .handle ?_ fun aborted hevent => hdone ⟨aborted, hevent⟩
      rintro p outcome rfl hlogin
      have hstack := hstack.resolve_left (by simp [Event.isCall])
      rw [hstack] at hphase
      refine pending_erase_of_phase hphase ?_ hlogin
      simp only [enabled, Bool.and_eq_true, decide_eq_true_eq] at henabled
      exact henabled.1
    · rintro aborted hevent
      exact hdone ⟨aborted, by simpa using hevent⟩

/-- **The name of every handshake.** Whatever has happened before, a handshake that is
negotiated is started with the host of its socket, and a strict one with the configured
server. -/
theorem name_of_steps {moves : List (Move Event)} {k : Config Connection Instr} {x : Sockets}
    (h : SocketRuns c moves k x) :
    ∀ handshake ∈ x.handshakes, handshake.name = handshakeName c handshake.host := by
  have htracked : Tracked c k.state x := by
    refine Machine.Steps.history_invariant (I := fun k => Tracked c k.state)
      (J := fun k => LoginPhase k.state k.stack ∨ RequestPhase k.state k.stack)
      phase_of_runsTo ?_ h ?_
    · intro k m k' x hphase _ htracked _ hstep
      obtain ⟨i, rest, rfl, hstack, rfl⟩ | ⟨event, s', is, rfl, hadmits, hstart, rfl⟩ :=
        Component.step_cases hstep
      · refine htracked.keeps (.exec i) (by simp) ?_
        simp [startedHandshakes]
      · obtain ⟨henabled, hhandle⟩ := start_eq_some hstart
        exact htracked.event hphase henabled (isCall_or_eq_nil hadmits)
          (congrArg Prod.fst hhandle)
    · constructor <;> simp [Connection.new, Sockets.none]
  exact htracked.names

/-- A host that TLS is to be given no name for. -/
def Unnamed (c : TlsConfig) (host : JsString) : Prop := c.isIP host = true ∨ host = []

/-- The handshakes of which the name is that of the host. -/
def NamesHost (c : TlsConfig) (host : JsString) : Prop :=
  c.givenName.isSome ∨
    if c.encrypt = .strict then host = c.server ∨ Unnamed c host ∧ Unnamed c c.server
    else c.isIP host = true → host = []

theorem handshakeName_iff (host : JsString) :
    handshakeName c host = c.peerName host ↔ NamesHost c host := by
  unfold handshakeName TlsConfig.peerName NamesHost
  cases hgiven : c.givenName with
  | some name => simp
  | none =>
    simp only [Option.getD_none, Option.isSome_none, Bool.false_eq_true, false_or]
    split
    · unfold TlsConfig.hostName Unnamed
      by_cases hserver : c.isIP c.server = true <;> by_cases hhost : c.isIP host = true <;>
        simp [hserver, hhost]
      · rintro rfl
        exact absurd hserver hhost
      · rintro rfl
        exact absurd hhost hserver
      · constructor
        · exact fun hname => .inl hname.symm
        · rintro (rfl | ⟨rfl, hempty⟩)
          · rfl
          · exact hempty
    · unfold TlsConfig.hostName
      by_cases hhost : c.isIP host = true <;> simp [hhost]

/-- **The peer name** of every handshake is the name of its host if and only if `serverName`
is set, or the handshake is strict and not with another host than the configured one, or
it is negotiated and the host not an IP literal. -/
theorem peerName_iff {moves : List (Move Event)} {k : Config Connection Instr} {x : Sockets}
    (h : SocketRuns c moves k x) :
    (∀ handshake ∈ x.handshakes, handshake.name = c.peerName handshake.host) ↔
      ∀ handshake ∈ x.handshakes, NamesHost c handshake.host := by
  have hname := name_of_steps h
  constructor
  · intro hpeer handshake hmem
    exact (handshakeName_iff _).1 ((hname handshake hmem).symm.trans (hpeer handshake hmem))
  · intro hnames handshake hmem
    exact (hname handshake hmem).trans ((handshakeName_iff _).2 (hnames handshake hmem))

/-- Strict encryption, to hosts that are not IP literals. -/
def strictConfig : TlsConfig where
  toConnectionConfig := { exampleConfig with encrypt := .strict }
  serverName := none
  isIP := fun _ => false

/-- A login is routed to another host, and connects to it. -/
def reroutedMoves : List (Move Event) :=
  let routed : Login7TokenHandler :=
    { Login7TokenHandler.new with
      routingData := some { server := JsString.ofString "replica", port := 1433 } }
  [.event .connect, .event (.resume (.connect false) .done),
    .event (.resume .prelogin (.data preloginOn)),
    .event (.resume (.loginMessage .standard) .done),
    .event (.resume (.loginTokens .standard .new)
      (.token (.envChange (.routing 0 1433 (JsString.ofString "replica") [])))),
    .event (.resume (.loginTokens .standard routed) (.token (.loginAck exampleLoginAck))),
    .event (.resume (.loginTokens .standard { routed with loginAckReceived := true }) .done),
    .next, .next, .next, .event .socketClose, .event (.resume (.connect false) .done)]

/-- A strict handshake with another host than the configured one verifies the wrong name. -/
theorem peerName_rerouted : ¬∀ (c : TlsConfig) (moves : List (Move Event))
    (k : Config Connection Instr) (x : Sockets), SocketRuns c moves k x →
      ∀ handshake ∈ x.handshakes, handshake.name = c.peerName handshake.host := by
  intro h
  let handshake : Handshake :=
    { name := JsString.ofString "db", host := JsString.ofString "replica" }
  have hrun : ((socketsMachine strictConfig).run
      (fun p => Component.guarded (fun _ _ _ => True) p.1) (⟨.new, []⟩, .none)
      reroutedMoves).any (fun p => handshake ∈ p.2.handshakes) = true := by decide
  obtain ⟨⟨k, x⟩, hk, hmem⟩ := Machine.exists_steps_of_run _ hrun
  have hname := h strictConfig reroutedMoves k x hk handshake (of_decide_eq_true hmem)
  exact absurd hname (by decide)

/-- Without a reroute the name is that of the host. -/
theorem peerName_iff_connected : ∃ k x, SocketRuns strictConfig
    [.event .connect, .event (.resume (.connect false) .done)] k x ∧ x.handshakes.length = 1 ∧
      ((∀ handshake ∈ x.handshakes, handshake.name = strictConfig.peerName handshake.host) ↔
        ∀ handshake ∈ x.handshakes, NamesHost strictConfig handshake.host) := by
  have hrun : ((socketsMachine strictConfig).run
      (fun p => Component.guarded (fun _ _ _ => True) p.1) (⟨.new, []⟩, .none)
      [.event .connect, .event (.resume (.connect false) .done)]).any
        (fun p => p.2.handshakes.length = 1) = true := by decide
  obtain ⟨⟨k, x⟩, hk, hlength⟩ := Machine.exists_steps_of_run _ hrun
  exact ⟨k, x, hk, of_decide_eq_true hlength, peerName_iff hk⟩

end Connection

end Tedious
