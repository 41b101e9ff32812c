import Tedious.Connection.Phase

/-!
# Tedious.Connection.Dialogue

The messages that a connection sends, and the responses that it reads to their end, as a
dialogue. It begins with `PRELOGIN`; the response to it is followed by `LOGIN7`; a response
to a login message is followed by another login message, by the initial SQL, or by a new
dialogue; and the response to the initial SQL by the messages of requests, and `ATTENTION`,
for good. `Turn` says how far a dialogue has come, `Turn.say` what may be sent then, and
`Turn.hear` what may be answered. The main theorem is `in_turn`: in no run is anything said
or heard out of turn.
-/

namespace Tedious

open Chunked Reentrant

/-- How far a dialogue with the server has come. -/
inductive Turn
  | closed
  | preloginSent
  | preloginAnswered
  /-- A message of a login has been sent, and a response of that kind is to be read. -/
  | loginSent (kind : LoginKind)
  | loginAnswered (kind : LoginKind)
  | initialSqlSent
  | ready
  deriving DecidableEq, Repr

/-- How the response to `LOGIN7` is read. -/
def ConnectionConfig.loginKind (c : ConnectionConfig) : LoginKind :=
  match c.authentication with
  | .azureActiveDirectoryPassword | .azureActiveDirectoryMsiVm
  | .azureActiveDirectoryMsiAppService | .azureActiveDirectoryServicePrincipalSecret
  | .azureActiveDirectoryDefault => .fedauth
  | .ntlm => .ntlm
  | .default | .azureActiveDirectoryAccessToken => .standard

/-- The messages of requests, and the one that cancels them. -/
def MessageType.isRequest : MessageType → Bool
  | SQL_BATCH | RPC_REQUEST | BULK_LOAD | TRANSACTION_MANAGER | ATTENTION => true
  | _ => false

namespace Turn

/-- A dialogue may begin. -/
def begins : Turn → Bool
  | closed | loginAnswered _ => true
  | _ => false

/-- What may be said; `kind` is how the response to `LOGIN7` is read. -/
def say (kind : LoginKind) : Turn → MessageType → Option Turn
  | closed, .PRELOGIN | loginAnswered _, .PRELOGIN => some preloginSent
  | preloginAnswered, .LOGIN7 => some (loginSent kind)
  | loginAnswered .ntlm, .NTLMAUTH_PKT => some (loginSent .ntlm)
  | loginAnswered .fedauth, .FEDAUTH_TOKEN => some (loginSent .standard)
  | loginAnswered _, .SQL_BATCH => some initialSqlSent
  | ready, type => if type.isRequest then some ready else none
  | _, _ => none

/-- What may be heard; all that does not end a response of a login leaves the turn alone. -/
def hear (t : Turn) : Move Connection.Event → Option Turn
  | .event (.resume .prelogin (.data _)) =>
      if t = preloginSent then some preloginAnswered else none
  | .event (.resume (.loginTokens kind _) .done) =>
      if t = loginSent kind then some (loginAnswered kind) else none
  | .event (.resume .initialSqlTokens .done) =>
      if t = initialSqlSent then some ready else none
  | _ => some t

theorem say_prelogin {t : Turn} (h : t.begins = true) (kind : LoginKind) :
    t.say kind .PRELOGIN = some preloginSent := by
  cases t <;> first | rfl | cases h

end Turn

def Trace.sentType : Trace → Option MessageType
  | .sent message => some message.type
  | _ => none

/-- The turn in which something may be under way. -/
def Pending.Follows (t : Turn) : Pending → Prop
  | instanceLookup _ | connect _ => t.begins = true
  | prelogin => t = .preloginSent
  | startTls _ => t = .preloginAnswered
  | loginMessage kind | loginTokens kind _ => t = .loginSent kind
  | credentials => t = .loginAnswered .fedauth
  | initialSqlMessage | initialSqlTokens => t = .initialSqlSent
  | requestMessage _ | requestTokens .. | attentionMessage | attentionTokens .. => t = .ready

/-- The states from which `CONNECTING` may be entered. -/
def ConnectionState.begins : ConnectionState → Bool
  | INITIALIZED | REROUTING | TRANSIENT_FAILURE_RETRY => true
  | _ => false

namespace Connection

/-- The types of the messages that have been sent, in order. -/
def said (s : Connection) : List MessageType := (s.trace.filterMap Trace.sentType).reverse

/-- A move goes on with a dialogue: it may end a response, and what is sent comes after that. -/
def converse (c : ConnectionConfig) (k : Config Connection Instr) (m : Move Event)
    (k' : Config Connection Instr) (turn : Option Turn) : Option Turn :=
  (turn.bind (·.hear m)).bind fun t =>
    (k'.state.said.drop k.state.said.length).foldlM (Turn.say c.loginKind) t

/-- The connection with the dialogue that it has; `none` once something is out of turn. -/
def dialogueMachine (c : ConnectionConfig) :
    Machine (Config Connection Instr × Option Turn) (Move Event) :=
  (component c).machine.withHistory (converse c)

/-- The runs of a new connection, with the dialogue. -/
abbrev Dialogues (c : ConnectionConfig) (moves : List (Move Event))
    (p : Config Connection Instr × Option Turn) : Prop :=
  (dialogueMachine c).Runs (⟨.new, []⟩, some .closed) moves p

/-- Since `said` had been sent, the dialogue has come from `t` to `t'`. -/
def Speaks (c : ConnectionConfig) (said : List MessageType) (t t' : Turn) (s : Connection) :
    Prop :=
  ∃ news, s.said = said ++ news ∧ news.foldlM (Turn.say c.loginKind) t = some t'

/-- While a connection logs in, the dialogue has come as far as what is under way says. -/
structure Follows (t : Turn) (s : Connection) (stack : List Instr) : Prop where
  pending : ∀ p ∈ s.pending, p.Follows t
  loggedIn : s.state = .LOGGED_IN → t = .ready
  begins : s.state.begins = true ∨ s.retryTimer = true ∨ .enterConnecting ∈ stack →
    t.begins = true

/-- What a handler of the login leaves. -/
def InTurn (c : ConnectionConfig) (said : List MessageType) (t : Turn)
    (r : Connection × List Instr) : Prop :=
  ∃ t', Speaks c said t t' r.1 ∧ Follows t' r.1 r.2

variable {c : ConnectionConfig} {s : Connection} {rest : List Instr} {t t' : Turn}
  {before : List MessageType}

/-! ### What is said -/

theorem Speaks.refl (s : Connection) (t : Turn) : Speaks c s.said t t s :=
  ⟨[], (List.append_nil _).symm, rfl⟩

theorem Speaks.send (h : Speaks c before t t' s) {type : MessageType} {t'' : Turn}
    (hsay : t'.say c.loginKind type = some t'') (resetConnection : Bool)
    (request : Option RequestId) : Speaks c before t t'' (s.send type resetConnection request) := by
  obtain ⟨news, hsaid, hnews⟩ := h
  refine ⟨news ++ [type], ?_, ?_⟩
  · rw [← List.append_assoc, ← hsaid]
    simp [said, Connection.send, record, Trace.sentType]
  · rw [List.foldlM_append, hnews]
    simpa using hsay

/-- Nothing is said. -/
theorem Speaks.record (h : Speaks c before t t' s) {event : Trace}
    (hevent : event.sentType = none) : Speaks c before t t' (s.record event) := by
  obtain ⟨news, hsaid, hnews⟩ := h
  refine ⟨news, ?_, hnews⟩
  rw [← hsaid]
  simp [said, Connection.record, hevent]

/-- The states that begin with nothing but waiting. -/
theorem Speaks.transitionTo (h : Speaks c before t t' s) {st : ConnectionState}
    (hst : st ≠ .LOGGED_IN_SENDING_INITIAL_SQL) :
    Speaks c before t t' (s.transitionTo c st).1 := by
  obtain ⟨news, hsaid, hnews⟩ := h
  refine ⟨news, ?_, hnews⟩
  rw [← hsaid, said, (enters_transitionTo st).trace]
  split
  · rfl
  · have hsends : st.sends s.messageIo.secure = [] := by
      cases st <;> first | rfl | exact absurd rfl hst
    simp only [hsends, List.nil_append, List.filterMap_cons, Trace.sentType, said]

/-- The initial SQL is sent where its state is entered. -/
theorem Speaks.sendInitialSql (h : Speaks c before t t' s) {kind : LoginKind}
    (ht' : t' = .loginAnswered kind) (hstate : s.state ≠ .LOGGED_IN_SENDING_INITIAL_SQL) :
    Speaks c before t .initialSqlSent
      (s.transitionTo c .LOGGED_IN_SENDING_INITIAL_SQL).1 := by
  have hsay : t'.say c.loginKind .SQL_BATCH = some .initialSqlSent := by
    subst ht'
    cases kind <;> rfl
  obtain ⟨news, hsaid, hnews⟩ := h
  refine ⟨news ++ [.SQL_BATCH], ?_, ?_⟩
  · rw [← List.append_assoc, ← hsaid, said, (enters_transitionTo _).trace, if_neg hstate]
    simp [ConnectionState.sends, said, List.filterMap_cons, Trace.sentType]
  · rw [List.foldlM_append, hnews]
    simpa using hsay

/-- The end of a move. -/
theorem Speaks.converse_eq {k k' : Config Connection Instr} {m : Move Event} {t₀ : Turn}
    (h : Speaks c k.state.said t t' k'.state) (hhear : t₀.hear m = some t) :
    converse c k m k' (some t₀) = some t' := by
  obtain ⟨news, hsaid, hnews⟩ := h
  simp [converse, hhear, hsaid, hnews]

/-! ### Requests -/

namespace Speaks

/-- The messages of requests are said when the dialogue is ready for them. -/
theorem sendRequest (h : Speaks c before t .ready s) {type : MessageType}
    (htype : type.isRequest = true) (resetConnection : Bool) (request : Option RequestId) :
    Speaks c before t .ready (s.send type resetConnection request) := by
  refine h.send ?_ resetConnection request
  unfold Turn.say
  simp [htype]

/-- **One change** outside of the login: only requests are said, when the connection takes them,
and what cancels them. -/
theorem change {cause : Cause} (hlogin : cause.isLogin = false)
    (hattend : ∀ r, cause = .instr (.cancelListener r .afterRequestSent) → t' = .ready)
    {s₁ s₂ : Connection} (hchange : Change c cause s₁ s₂)
    (h : Speaks c before t t' s₁ ∧ (cause.makes = true → s₁.state = .LOGGED_IN → t' = .ready)) :
    Speaks c before t t' s₂ ∧ (cause.makes = true → s₂.state = .LOGGED_IN → t' = .ready) := by
  obtain ⟨h, hready⟩ := h
  cases hchange with
  | @enter st hst =>
    have hsql : st ≠ .LOGGED_IN_SENDING_INITIAL_SQL := by
      rintro rfl
      unfold Cause.enters at hst
      split at hst <;> first | (cases hlogin; done) | simp at hst
    refine ⟨h.transitionTo hsql, fun hmakes => ?_⟩
    unfold Cause.makes at hmakes
    split at hmakes <;> first | cases hst | cases hmakes
  | send hsends => cases hlogin.symm.trans hsends
  | retry hcause =>
    subst hcause
    cases hlogin
  | count => exact ⟨h.record rfl, hready⟩
  | serve hmakes r type _ hstate =>
    obtain rfl := hready hmakes hstate
    have htype : type.toMessageType.isRequest = true := by cases type <;> rfl
    have hcall : Speaks c before t .ready (s₁.countCall { call := s₁.calls, request := r }) :=
      h.record rfl
    have hwritten : Speaks c before t .ready
        ((s₁.countCall { call := s₁.calls, request := r }).writeRequest c
          { call := s₁.calls, request := r } type) := hcall.sendRequest htype _ _
    exact ⟨hwritten.transitionTo (by decide), fun _ _ => rfl⟩
  | resetCalled => exact ⟨h.record rfl, hready⟩
  | finished => exact ⟨h.record rfl, hready⟩
  | attend hcause =>
    obtain rfl := hattend _ hcause
    have htype : MessageType.ATTENTION.isRequest = true := rfl
    exact ⟨h.sendRequest htype false none, hready⟩
  | note hmem =>
    refine ⟨h.record ?_, hready⟩
    unfold Cause.notes at hmem
    split at hmem <;> first | (cases List.mem_singleton.1 hmem; rfl) | cases hmem
  | _ => exact ⟨h, hready⟩

theorem exec (h : Speaks c before t t' s) {i : Instr}
    (hi : t' = .ready ∨ ∀ r l, i ≠ .cancelListener r l) :
    Speaks c before t t' (exec c i s).1 := by
  refine ((changes_exec i).keeps (P := fun s' => Speaks c before t t' s' ∧
    ((Cause.instr i).makes = true → s'.state = .LOGGED_IN → t' = .ready))
      (change rfl fun r hcause => ?_) ⟨h, nofun⟩).1
  exact hi.resolve_right fun hi => hi r _ (Cause.instr.inj hcause)

/-- Outside of the login only requests are said, when the connection takes them. -/
theorem handle (h : Speaks c before t t' s) (hready : s.state = .LOGGED_IN → t' = .ready)
    {event : Event} (hevent : ∀ p outcome, event = .resume p outcome → p.isLogin = false) :
    Speaks c before t t' (s.handle c event).1 := by
  have hlogin : (Cause.event event).isLogin = false := by
    cases event with
    | resume p outcome => exact hevent p outcome rfl
    | _ => rfl
  exact ((changes_handle event).keeps (P := fun s' => Speaks c before t t' s' ∧
    ((Cause.event event).makes = true → s'.state = .LOGGED_IN → t' = .ready))
      (change hlogin nofun) ⟨h, fun _ => hready⟩).1

end Speaks

/-! ### Waiting -/

/-- Of the instructions, only `enterConnecting` makes a difference. -/
theorem follows_append {is : List Instr} (his : .enterConnecting ∉ is) :
    Follows t s (is ++ rest) ↔ Follows t s rest := by
  have hmem : Instr.enterConnecting ∈ is ++ rest ↔ Instr.enterConnecting ∈ rest := by simp [his]
  constructor
  · intro h
    exact { h with begins := fun hb => h.begins (hb.imp_right (Or.imp_right hmem.2)) }
  · intro h
    exact { h with begins := fun hb => h.begins (hb.imp_right (Or.imp_right hmem.1)) }

theorem follows_plain {is : List Instr} (his : ∀ i ∈ is, i.isPlain = true) :
    Follows t s (is ++ rest) ↔ Follows t s rest :=
  follows_append fun hmem => by simpa [Instr.isPlain] using his _ hmem

/-- On an otherwise empty stack. -/
theorem follows_of_plain {is : List Instr} (his : ∀ i ∈ is, i.isPlain = true) :
    Follows t s is ↔ Follows t s [] := by
  have hplain : Follows t s (is ++ []) ↔ Follows t s [] := follows_plain his
  rwa [List.append_nil] at hplain

theorem Busy.not_begins {st : ConnectionState} (h : Busy st) : st.begins = false := by
  obtain ⟨h₁, h₂, -, h₃, -⟩ := h
  cases st <;> first | rfl | contradiction

namespace LoginHandler

/-- A handler that ends leaves nothing to go on. -/
theorem follows (h : LoginHandler s []) (t : Turn) : Follows t s [] := by
  obtain ⟨hpending, hretry, -⟩ := threads_eq_zero.1 h.threads_eq
  refine ⟨by simp [hpending], fun hstate => absurd hstate h.busy.2.2.1, ?_⟩
  simp [h.busy.not_begins, hretry]

theorem follows_await (h : LoginHandler s []) {p : Pending} (hp : p.Follows t) :
    Follows t (s.await p) [] :=
  { h.follows t with
    pending := fun q hq => by
      rcases List.mem_append.1 hq with hq | hq
      · exact (h.follows t).pending q hq
      · exact List.mem_singleton.1 hq ▸ hp }

/-- It changes the state. -/
theorem follows_transitionTo (h : LoginHandler s []) {st : ConnectionState}
    (hwaits : ∀ p ∈ st.waits c s.calls, p.Follows t) (hloggedIn : st = .LOGGED_IN → t = .ready)
    (hbegins : st.begins = true → t.begins = true) :
    Follows t (s.transitionTo c st).1 (s.transitionTo c st).2 := by
  obtain ⟨hpending, hretry, -⟩ := threads_eq_zero.1 h.threads_eq
  have henters := enters_transitionTo (c := c) (s := s) st
  refine (follows_of_plain isPlain_transitionTo).2 ⟨?_, ?_, ?_⟩
  · rw [henters.pending, hpending, List.nil_append]
    intro p hp
    split at hp
    · cases hp
    · exact hwaits p hp
  · rw [henters.state]
    exact hloggedIn
  · rw [henters.state, retryTimer_transitionTo st hretry]
    simpa using hbegins

/-- It ends with plain instructions. -/
theorem inTurn_done (h : LoginHandler s []) (hspeaks : Speaks c before t t' s) {is : List Instr}
    (his : ∀ i ∈ is, i.isPlain = true) : InTurn c before t (s, is) :=
  ⟨t', hspeaks, (follows_of_plain his).2 (h.follows t')⟩

/-- It waits for something else. -/
theorem inTurn_await (h : LoginHandler s []) (hspeaks : Speaks c before t t' s) {p : Pending}
    (hp : p.Follows t') {is : List Instr} (his : ∀ i ∈ is, i.isPlain = true) :
    InTurn c before t (s.await p, is) :=
  ⟨t', hspeaks, (follows_of_plain his).2 (h.follows_await hp)⟩

/-- It enters a state that does not send anything. -/
theorem inTurn_transitionTo (h : LoginHandler s []) (hspeaks : Speaks c before t t' s)
    {st : ConnectionState} (hst : st ≠ .LOGGED_IN_SENDING_INITIAL_SQL)
    (hwaits : ∀ p ∈ st.waits c s.calls, p.Follows t') (hloggedIn : st = .LOGGED_IN → t' = .ready)
    (hbegins : st.begins = true → t'.begins = true) :
    InTurn c before t (s.transitionTo c st) :=
  ⟨t', hspeaks.transitionTo hst, h.follows_transitionTo hwaits hloggedIn hbegins⟩

/-! ### Login -/

theorem inTurn_sendLogin7Packet (h : LoginHandler s [])
    (hspeaks : Speaks c before t .preloginAnswered s) :
    InTurn c before t (s.sendLogin7Packet c) := by
  have hsent : LoginHandler ({ s with routingData := none }.sendMessage .LOGIN7) [] := { h with }
  have hsaid : Speaks c before t (.loginSent c.loginKind)
      ({ s with routingData := none }.sendMessage .LOGIN7) :=
    Speaks.send (s := { s with routingData := none }) hspeaks rfl false none
  unfold ConnectionConfig.loginKind at hsaid
  unfold Connection.sendLogin7Packet
  cases hauthentication : c.authentication <;> rw [hauthentication] at hsaid <;>
    exact hsent.inTurn_transitionTo hsaid (by decide)
      (by simp [ConnectionState.waits, Pending.Follows]) (by simp)
      (by simp [ConnectionState.begins])

theorem inTurn_afterPrelogin (h : LoginHandler s [])
    (hspeaks : Speaks c before t .preloginAnswered s) (data : Bytes) :
    InTurn c before t (s.afterPrelogin c data) := by
  unfold Connection.afterPrelogin
  split
  · exact h.inTurn_done hspeaks (by simp [Instr.isPlain])
  · next payload _ =>
    dsimp only
    generalize hs' : (if payload.fedAuthRequired = some 1 then
      { s with fedAuthRequired := true } else s) = s'
    have h' : LoginHandler s' [] ∧ Speaks c before t .preloginAnswered s' := by
      rw [← hs']
      split
      · exact ⟨{ h with }, hspeaks⟩
      · exact ⟨h, hspeaks⟩
    split
    · split
      · exact h'.1.inTurn_done h'.2 (by simp [Instr.isPlain])
      · have hentered : LoginHandler (s'.transitionTo c .SENT_TLSSSLNEGOTIATION).1
            (s'.transitionTo c .SENT_TLSSSLNEGOTIATION).2 := h'.1.enters (by simp [Busy]) rfl
        have hentered : LoginHandler (s'.transitionTo c .SENT_TLSSSLNEGOTIATION).1 [] :=
          { hentered with
            listenersRun := by simp
            threads_eq := by
              obtain ⟨hpending, hretry, -⟩ := threads_eq_zero.1 hentered.threads_eq
              exact threads_eq_zero.2 ⟨hpending, hretry, List.not_mem_nil⟩ }
        exact hentered.inTurn_await (h'.2.transitionTo (by decide)) (by exact rfl)
          isPlain_transitionTo
    · exact h'.1.inTurn_sendLogin7Packet h'.2

theorem inTurn_loginToken (h : LoginHandler s []) {kind : LoginKind}
    (hspeaks : Speaks c before t (.loginSent kind) s) (handler : Login7TokenHandler)
    (token : Token) : InTurn c before t (s.loginToken c kind handler token) := by
  unfold Connection.loginToken
  split
  · exact h.inTurn_await hspeaks (by exact rfl) (by simp [tokenEvent, Instr.isPlain])
  · split
    · next login _ =>
      have h' : LoginHandler { s with toLoginState := login } [] := { h with }
      have hspeaks' : Speaks c before t (.loginSent kind) { s with toLoginState := login } :=
        hspeaks
      exact h'.inTurn_await hspeaks' (by exact rfl) (isPlain_tokenEvent token)
    · exact h.inTurn_await hspeaks (by exact rfl) (by simp [Instr.isPlain])

/-- The response to a login ends. -/
theorem inTurn_afterLogin (h : LoginHandler s []) {kind : LoginKind}
    (hspeaks : Speaks c before t (.loginAnswered kind) s) (handler : Login7TokenHandler) :
    InTurn c before t (s.afterLogin c kind handler) := by
  have hend := afterLogin_inv (c := c) (s := s) kind handler
  generalize s.afterLogin c kind handler = r at hend ⊢
  cases hend with
  | rerouted _ routingData =>
    have h' : LoginHandler { s with routingData := some routingData } [] := { h with }
    have hspeaks' : Speaks c before t (.loginAnswered kind)
        { s with routingData := some routingData } := hspeaks
    exact h'.inTurn_transitionTo hspeaks' (by decide) (by simp [ConnectionState.waits])
      (by simp) (by simp [Turn.begins])
  | acknowledged =>
    by_cases hstate : s.state = .LOGGED_IN_SENDING_INITIAL_SQL
    · unfold Connection.transitionTo
      rw [if_pos hstate]
      exact h.inTurn_done hspeaks (by simp)
    · exact ⟨_, hspeaks.sendInitialSql rfl hstate, h.follows_transitionTo
        (by simp [ConnectionState.waits, Pending.Follows]) (by simp)
        (by simp [ConnectionState.begins])⟩
  | challenged _ hkind =>
    subst hkind
    have h' : LoginHandler { s.sendMessage .NTLMAUTH_PKT with ntlmpacket := none } [] :=
      { h with }
    have hspeaks' : Speaks c before t (.loginSent .ntlm)
        { s.sendMessage .NTLMAUTH_PKT with ntlmpacket := none } := hspeaks.send rfl false none
    exact h'.inTurn_await hspeaks' (by exact rfl) (by simp)
  | informed _ hkind =>
    subst hkind
    exact h.inTurn_await hspeaks (by exact rfl) (by simp)
  | retried =>
    exact h.inTurn_transitionTo hspeaks (by decide) (by simp [ConnectionState.waits])
      (by simp) (by simp [Turn.begins])
  | failed => exact h.inTurn_done hspeaks (by simp [Instr.isPlain])

/-- Something under way goes on: a response that ends is heard in turn, and what the handler
says then is said in turn. -/
theorem inTurn_resume (h : LoginHandler s []) {p : Pending} (hlogin : p.isLogin = true)
    (hp : p.Follows t) (outcome : Outcome) :
    ∃ t', t.hear (.event (.resume p outcome)) = some t' ∧
      InTurn c s.said t' (s.resume c p outcome) := by
  have hsame : Speaks c s.said t t s := .refl s t
  unfold Connection.resume
  split <;> simp only [Pending.isLogin, Bool.false_eq_true] at hlogin
  -- the port has been found, or not
  · exact ⟨t, rfl, h.inTurn_await hsame (by exact hp) (List.forall_mem_nil _)⟩
  · unfold instanceLookupFailed
    refine ⟨t, rfl, ?_⟩
    split
    · exact inTurn_done (s := { s with connectTimer := false }) { h with } hsame
        (List.forall_mem_nil _)
    · exact inTurn_done (s := { s with connectTimer := false }.nextTick _) { h with } hsame
        (List.forall_mem_nil _)
  -- the socket is connected, or not
  · have hconnected : ∀ messageIo, LoginHandler
        (sendMessage { s with messageIo, closed := false } .PRELOGIN) [] := fun _ => { h with }
    have hspeaks : ∀ messageIo, Speaks c s.said t .preloginSent
        (sendMessage { s with messageIo, closed := false } .PRELOGIN) := fun messageIo =>
      Speaks.send (s := { s with messageIo, closed := false }) hsame (Turn.say_prelogin hp _) false
        none
    exact ⟨t, rfl, (hconnected _).inTurn_transitionTo (hspeaks _) (by decide)
      (by simp [ConnectionState.waits, Pending.Follows]) (by simp)
      (by simp [ConnectionState.begins])⟩
  · unfold connectFailed
    refine ⟨t, rfl, ?_⟩
    split
    · exact inTurn_done (s := { s with connectTimer := false }) { h with } hsame
        (List.forall_mem_nil _)
    · exact inTurn_done (s := { s with connectTimer := false }.nextTick _) { h with } hsame
        (List.forall_mem_nil _)
  · exact ⟨.preloginAnswered, if_pos hp, h.inTurn_afterPrelogin (.refl s _) _⟩
  · obtain rfl : t = .preloginAnswered := hp
    have hsecured : ∀ messageIo, LoginHandler { s with messageIo } [] := fun _ => { h with }
    exact ⟨.preloginAnswered, rfl, (hsecured _).inTurn_sendLogin7Packet hsame⟩
  -- login responses
  · exact ⟨t, rfl, h.inTurn_await hsame (by exact hp) (List.forall_mem_nil _)⟩
  · next kind handler token =>
    obtain rfl : t = .loginSent kind := hp
    exact ⟨.loginSent kind, rfl, h.inTurn_loginToken hsame handler token⟩
  · next kind handler =>
    exact ⟨.loginAnswered kind, if_pos hp, h.inTurn_afterLogin (.refl s _) handler⟩
  · obtain rfl : t = .loginAnswered .fedauth := hp
    have hsent : LoginHandler (s.sendMessage .FEDAUTH_TOKEN) [] := { h with }
    exact ⟨_, rfl, hsent.inTurn_transitionTo (hsame.send rfl false none) (by decide)
      (by simp [ConnectionState.waits, Pending.Follows]) (by simp)
      (by simp [ConnectionState.begins])⟩
  · have hfailed : ∀ loginError, LoginHandler { s with loginError } [] := fun _ => { h with }
    exact ⟨t, rfl, (hfailed (some _)).inTurn_done hsame (by simp [Instr.isPlain])⟩
  -- the response to the initial SQL
  · exact ⟨t, rfl, h.inTurn_await hsame (by exact hp) (List.forall_mem_nil _)⟩
  · refine ⟨t, rfl, ?_⟩
    unfold Connection.initialSqlToken
    split
    · exact h.inTurn_await hsame hp (isPlain_tokenEvent _)
    · exact h.inTurn_await hsame hp (by simp [Instr.isPlain])
    · exact h.inTurn_await hsame hp (by simp [Instr.isPlain])
  · refine ⟨.ready, if_pos hp, .ready, (Speaks.refl s _).transitionTo (by decide), ?_⟩
    have hentered : Follows .ready (s.transitionTo c .LOGGED_IN).1
        (s.transitionTo c .LOGGED_IN).2 :=
      h.follows_transitionTo (by simp [ConnectionState.waits]) (fun _ => rfl)
        (by simp [ConnectionState.begins])
    refine (follows_plain isPlain_transitionTo).2 ?_
    refine (follows_of_plain (by simp [Instr.isPlain])).2 ?_
    exact { (follows_of_plain isPlain_transitionTo).1 hentered with }
  -- nothing has come
  · exact ⟨t, rfl, h.inTurn_done hsame (by simp [Instr.isPlain])⟩
  · exact ⟨t, rfl, h.inTurn_done hsame (by simp [Instr.isPlain])⟩
  · exact ⟨t, rfl, h.inTurn_done hsame (by simp [Instr.isPlain])⟩
  · exact ⟨t, rfl, h.inTurn_done hsame (by simp [Instr.isPlain])⟩
  · refine ⟨t, ?_, h.inTurn_done hsame (List.forall_mem_nil _)⟩
    unfold Turn.hear
    split
    · next heq => cases heq; grind
    · next heq => cases heq; grind
    · next heq => cases heq; grind
    · rfl

end LoginHandler

/-! ### Logging in -/

namespace Follows

/-- The connection may be closed at any time. -/
theorem toFinal (h : Follows t s rest) :
    Follows t (s.transitionTo c .FINAL).1 ((s.transitionTo c .FINAL).2 ++ rest) := by
  have henters := enters_transitionTo (c := c) (s := s) .FINAL
  refine (follows_plain isPlain_transitionTo).2 ⟨?_, by simp, ?_⟩
  · rw [henters.pending]
    intro p hp
    split at hp <;> exact h.pending p (by simpa [ConnectionState.waits] using hp)
  · rw [henters.state]
    rintro (hst | hretry | hmem)
    · cases hst
    · exact h.begins (.inr (.inl (henters.retryTimer hretry)))
    · exact h.begins (.inr (.inr hmem))

/-- A dialogue begins. -/
theorem toConnecting (h : Follows t s rest) (hbegins : t.begins = true) :
    Follows t (s.transitionTo c .CONNECTING).1 ((s.transitionTo c .CONNECTING).2 ++ rest) := by
  have henters := enters_transitionTo (c := c) (s := s) .CONNECTING
  refine (follows_plain isPlain_transitionTo).2 ⟨?_, by simp, fun _ => hbegins⟩
  rw [henters.pending]
  intro p hp
  rcases List.mem_append.1 hp with hp | hp
  · exact h.pending p hp
  · split at hp
    · cases hp
    · rcases hport : c.port with _ | _ | port <;> simp [ConnectionState.waits, hport] at hp <;>
        subst hp <;> exact hbegins

/-- Something happens that is not under way, and the state stays the same. -/
theorem still (h : Follows t s rest) {s' : Connection} (hpending : s'.pending = s.pending)
    (hstate : s'.state = s.state) (hretry : s'.retryTimer = true → s.retryTimer = true) :
    Follows t s' rest where
  pending := hpending ▸ h.pending
  loggedIn := hstate ▸ h.loggedIn
  begins := fun hb => h.begins (hb.imp (hstate ▸ ·) (Or.imp_left hretry))

/-- What is under way changes, but not its turn. -/
theorem mapPending (h : Follows t s rest) {f : Pending → Pending}
    (hf : ∀ p, p.Follows t → (f p).Follows t) :
    Follows t { s with pending := s.pending.map f } rest :=
  { h with
    pending := fun q hq => by
      obtain ⟨p, hp, rfl⟩ := List.mem_map.1 hq
      exact hf p (h.pending p hp) }

/-- **One change** that neither goes on with something under way nor begins an attempt. -/
theorem change {cause : Cause} (hresume : ∀ p outcome, cause ≠ .event (.resume p outcome))
    (hsocket : cause ≠ .event .socketClose) (henters : ∀ st ∈ cause.enters, st = .FINAL)
    {s₁ s₂ : Connection} (hchange : Change c cause s₁ s₂)
    (h : Follows t s₁ rest ∧ (cause.makes = true → s₁.state ≠ .LOGGED_IN)) :
    Follows t s₂ rest ∧ (cause.makes = true → s₂.state ≠ .LOGGED_IN) := by
  obtain ⟨h, hmakes⟩ := h
  cases hchange with
  | take hcause => exact absurd hcause (hresume _ _)
  | enter hst =>
    obtain rfl := henters _ hst
    exact ⟨(follows_plain isPlain_transitionTo).1 h.toFinal, fun _ => by simp⟩
  | await hcause => exact absurd hcause (hresume _ _)
  | abort => exact ⟨h.mapPending fun p hp => by cases p <;> exact hp, hmakes⟩
  | unlisten hcause =>
    subst hcause
    cases henters .SENT_ATTENTION (List.mem_singleton_self _)
  | setErrors => exact ⟨h.mapPending fun p hp => by cases p <;> exact hp, hmakes⟩
  | disarm _ _ _ _ hretry => exact ⟨h.still rfl rfl hretry, hmakes⟩
  | armRetry hcause => exact absurd hcause hsocket
  | retry hcause => exact absurd hcause (hresume _ _)
  | serve hcalls _ _ _ hstate => exact absurd hstate (hmakes hcalls)
  | _ => exact ⟨h.still rfl rfl id, hmakes⟩

theorem exec {i : Instr} (h : Follows t s (i :: rest)) (hphase : LoginPhase s (i :: rest)) :
    Follows t (exec c i s).1 ((Connection.exec c i s).2 ++ rest) := by
  have hrest : Follows t s rest :=
    { h with begins := fun hb => h.begins (hb.imp_right (Or.imp_right (List.mem_cons_of_mem _))) }
  by_cases hconnecting : i = .enterConnecting
  · subst hconnecting
    exact hrest.toConnecting (h.begins (.inr (.inr (List.mem_cons_self ..))))
  have henters : ∀ st ∈ Cause.enters (.instr i), st = .FINAL := by
    cases i with
    | enterConnecting => exact absurd rfl hconnecting
    | cancelListener r l => exact absurd (List.mem_cons_self ..) (hphase.listenersRun r l)
    | _ => simp [Cause.enters]
  have hmakes : (Cause.instr i).makes = false := rfl
  refine (follows_append (enterConnecting_notMem_exec i)).2 ?_
  exact ((changes_exec i).keeps (P := fun s' => Follows t s' rest ∧
    ((Cause.instr i).makes = true → s'.state ≠ .LOGGED_IN))
      (change (by simp) (by simp) henters) ⟨hrest, by simp [hmakes]⟩).1

/-- An event that does not end something under way. -/
theorem handle (h : Follows t s rest) (hstate : s.state ≠ .LOGGED_IN) {event : Event}
    (henabled : s.enabled event = true) (hrest : event.isCall = true ∨ rest = [])
    (hevent : ∀ p outcome, event ≠ .resume p outcome) :
    Follows t (s.handle c event).1 ((s.handle c event).2 ++ rest) := by
  have hother : (∀ st ∈ Cause.enters (.event event), st = .FINAL) → event ≠ .retryTimer →
      event ≠ .socketClose →
        Follows t (s.handle c event).1 ((s.handle c event).2 ++ rest) := by
    intro henters hretry hsocket
    refine (follows_append fun hmem => hretry (enterConnecting_mem_handle hmem)).2 ?_
    exact ((changes_handle event).keeps (P := fun s' => Follows t s' rest ∧
      ((Cause.event event).makes = true → s'.state ≠ .LOGGED_IN))
        (change (by simpa using hevent) (by simpa using hsocket) henters)
          ⟨h, fun _ => hstate⟩).1
  cases event with
  | connect =>
    show Follows t (s.connect c).1 ((s.connect c).2 ++ rest)
    unfold Connection.connect
    split
    · next hinitialized =>
      exact h.toConnecting (h.begins (.inl (by rw [hinitialized]; rfl)))
    · exact h
  | retryTimer =>
    exact { h with begins := fun _ => h.begins (.inr (.inl henabled)) }
  | socketClose =>
    obtain rfl := hrest.resolve_left (by simp [Event.isCall])
    show Follows t (s.socketClose c).1 ((s.socketClose c).2 ++ [])
    unfold socketClose
    split
    · next hst =>
      have hconnecting := h.toConnecting (c := c) (h.begins (.inl (by rw [hst]; rfl)))
      simpa [Connection.dispatchEvent, eventHandler, hst] using hconnecting
    · split
      · next hst =>
        have hretrying : Follows t { s with retryTimer := true } [] :=
          { h with begins := fun _ => h.begins (.inl (by rw [hst]; rfl)) }
        simpa [Connection.dispatchEvent, eventHandler, hst] using hretrying
      · exact h.toFinal
  | resume p outcome => exact absurd rfl (hevent p outcome)
  | _ => exact hother (by simp [Cause.enters]) (by simp) (by simp)

end Follows

/-! ### Every run -/

/-- The dialogue of a connection that logs in, and of one that takes requests. -/
def Conversing (s : Connection) (stack : List Instr) (turn : Option Turn) : Prop :=
  ∃ t, turn = some t ∧ (LoginPhase s stack ∧ Follows t s stack ∨ RequestPhase s stack ∧ t = .ready)

/-- All but the response to a login is heard in any turn. -/
theorem hear_eq_some {e : Event}
    (he : ∀ p outcome, e = .resume p outcome → p.isLogin = false) :
    t.hear (.event e) = some t := by
  unfold Turn.hear
  split
  · next heq => cases heq; cases he _ _ rfl
  · next heq => cases heq; cases he _ _ rfl
  · next heq => cases heq; cases he _ _ rfl
  · rfl

theorem Conversing.exec {i : Instr} {turn : Option Turn} (h : Conversing s (i :: rest) turn) :
    Conversing (exec c i s).1 ((Connection.exec c i s).2 ++ rest)
      (converse c ⟨s, i :: rest⟩ .next ⟨(Connection.exec c i s).1,
        (Connection.exec c i s).2 ++ rest⟩ turn) := by
  obtain ⟨t, rfl, h⟩ := h
  have hspeaks : Speaks c s.said t t (Connection.exec c i s).1 := by
    refine (Speaks.refl s t).exec ?_
    rcases h with ⟨hphase, -⟩ | ⟨-, hready⟩
    · refine .inr ?_
      rintro r l rfl
      exact hphase.listenersRun r l (List.mem_cons_self ..)
    · exact .inl hready
  refine ⟨t, Speaks.converse_eq hspeaks rfl, ?_⟩
  rcases h with ⟨hphase, hfollows⟩ | ⟨hphase, hready⟩
  · exact .inl ⟨hphase.exec, hfollows.exec hphase⟩
  · exact .inr ⟨hphase.exec, hready⟩

theorem Conversing.handle {event : Event} {turn : Option Turn} (h : Conversing s rest turn)
    (henabled : s.enabled event = true) (hrest : event.isCall = true ∨ rest = []) :
    Conversing (s.handle c event).1 ((s.handle c event).2 ++ rest)
      (converse c ⟨s, rest⟩ (.event event)
        ⟨(s.handle c event).1, (s.handle c event).2 ++ rest⟩ turn) := by
  obtain ⟨t, rfl, h⟩ := h
  -- once the connection takes requests
  have hrequests : RequestPhase s rest → t = .ready →
      Conversing (s.handle c event).1 ((s.handle c event).2 ++ rest)
        (converse c ⟨s, rest⟩ (.event event)
          ⟨(s.handle c event).1, (s.handle c event).2 ++ rest⟩ (some t)) := by
    intro hphase hready
    have hlogin : ∀ p outcome, event = .resume p outcome → p.isLogin = false := by
      rintro p outcome rfl
      simp only [enabled, Bool.and_eq_true, decide_eq_true_eq] at henabled
      exact hphase.pending p henabled.1
    have hspeaks : Speaks c s.said t t (s.handle c event).1 :=
      (Speaks.refl s t).handle (fun _ => hready) hlogin
    exact ⟨t, Speaks.converse_eq hspeaks (hear_eq_some hlogin),
      .inr ⟨hphase.handle henabled hrest, hready⟩⟩
  rcases h with ⟨hphase, hfollows⟩ | ⟨hphase, hready⟩
  · by_cases hstate : s.state = .LOGGED_IN
    · exact hrequests (hphase.toRequestPhase (by rw [hstate]; rfl)) (hfollows.loggedIn hstate)
    · have hphase' := hphase.handle (c := c) hstate henabled hrest
      by_cases hresume : ∃ p outcome, event = .resume p outcome
      · obtain ⟨p, outcome, rfl⟩ := hresume
        obtain rfl : rest = [] := hrest.resolve_left (by simp [Event.isCall])
        simp only [enabled, Bool.and_eq_true, decide_eq_true_eq] at henabled
        obtain ⟨t', hhear, t'', hspeaks, hfollows'⟩ := (hphase.handler henabled.1).inTurn_resume
          (c := c) (hphase.pending p henabled.1) (hfollows.pending p henabled.1) outcome
        exact ⟨t'', Speaks.converse_eq hspeaks hhear, .inl ⟨hphase', by rwa [List.append_nil]⟩⟩
      · have hother : ∀ p outcome, event ≠ .resume p outcome := fun p outcome heq =>
          hresume ⟨p, outcome, heq⟩
        have hspeaks : Speaks c s.said t t (s.handle c event).1 :=
          (Speaks.refl s t).handle (fun hloggedIn => absurd hloggedIn hstate)
            fun p outcome heq => absurd heq (hother p outcome)
        exact ⟨t, Speaks.converse_eq hspeaks
          (hear_eq_some fun p outcome heq => absurd heq (hother p outcome)),
          .inl ⟨hphase', hfollows.handle hstate henabled hrest hother⟩⟩
  · exact hrequests hphase hready

/-- **Nothing is said or heard out of turn**, whatever the user, the server and the timers do;
and a connection that takes requests has been through the whole dialogue. -/
theorem in_turn {moves : List (Move Event)} {p : Config Connection Instr × Option Turn}
    (h : Dialogues c moves p) :
    ∃ t, p.2 = some t ∧ (p.1.state.state.isLoggedIn = true → t = .ready) := by
  have hconversing : Conversing p.1.state p.1.stack p.2 := by
    refine Machine.Steps.invariant (I := fun p : Config Connection Instr × Option Turn =>
      Conversing p.1.state p.1.stack p.2) ?_ h ?_
    · rintro ⟨⟨s, stack⟩, turn⟩ m p' hconversing - hstep
      obtain ⟨k', hk', rfl⟩ := Option.map_eq_some_iff.1 hstep
      obtain ⟨i, rest, rfl, rfl, rfl⟩ | ⟨e, s', is, rfl, hadmits, hstart, rfl⟩ :=
        Component.step_cases hk'
      · exact hconversing.exec
      · obtain ⟨henabled, hhandle⟩ := start_eq_some hstart
        obtain ⟨rfl, rfl⟩ := Prod.mk.inj hhandle
        exact hconversing.handle henabled (isCall_or_eq_nil hadmits)
    · refine ⟨.closed, rfl, .inl ⟨loginPhase_new, ?_⟩⟩
      constructor <;> simp [Connection.new, Turn.begins]
  obtain ⟨t, hturn, ⟨hphase, hfollows⟩ | ⟨-, rfl⟩⟩ := hconversing
  · refine ⟨t, hturn, fun hstate => hfollows.loggedIn ?_⟩
    obtain ⟨hrequest, hattention⟩ := hphase.state
    revert hstate hrequest hattention
    cases p.1.state.state <;> simp [ConnectionState.isLoggedIn]
  · exact ⟨.ready, hturn, fun _ => rfl⟩

/-- A login, up to the state in which the connection takes requests. -/
theorem in_turn_loggedIn : ∃ p, Dialogues exampleConfig loggedInMoves p ∧
    p.1.state.state = .LOGGED_IN ∧ p.2 = some .ready := by
  obtain ⟨p, hp, hstate⟩ : ∃ p, Dialogues exampleConfig loggedInMoves p ∧
      decide (p.1.state.state = .LOGGED_IN) = true :=
    (dialogueMachine exampleConfig).exists_steps_of_run (by decide)
  have hloggedIn : p.1.state.state = .LOGGED_IN := of_decide_eq_true hstate
  obtain ⟨t, hturn, hready⟩ := in_turn hp
  exact ⟨p, hp, hloggedIn, by rw [hturn, hready (by rw [hloggedIn]; rfl)]⟩

end Connection

end Tedious
