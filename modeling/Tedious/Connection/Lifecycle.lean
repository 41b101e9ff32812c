import Tedious.Connection.Emissions
import Tedious.Connection.Final
import Tedious.Connection.Phase

/-!
# Tedious.Connection.Lifecycle

`'connect'` and `'end'` over a connection's whole life. `cleanupConnection` emits `'end'`
unless `closed` is set, and that is set from the moment a connection is rerouted, or
begins to wait for a retry, until its next socket is connected: a connection that is closed
in between ends without `'end'` (`end_missing`). In the runs in which this does not happen,
and nothing comes too late for a connection that is in `FINAL`, both are emitted at most
once, and a connection in `FINAL` ends (`emitted_once`).
-/

namespace Tedious

open Chunked Reentrant

/-- An attempt to connect. -/
def Pending.isAttempt : Pending → Bool
  | instanceLookup _ | connect _ => true
  | _ => false

theorem Pending.isAttempt_of_leadsTo {p q : Pending} (h : p.leadsTo q = true)
    (hp : p.isAttempt = false) : q.isAttempt = false := by
  unfold leadsTo at h
  split at h <;> first | rfl | cases hp | cases h

/-- The instructions that are left to do in one state only. -/
def Instr.isBound : Instr → Bool
  | .enterConnecting | .closeRequest | .finishCleanup => true
  | _ => false

theorem Instr.isBound_of_isReport {i : Instr} (h : i.isReport = true) : i.isBound = false := by
  cases i <;> first | rfl | cases h

namespace ConnectionState

/-- The states with a socket that is in use. -/
def isLive : ConnectionState → Bool
  | INITIALIZED | CONNECTING | REROUTING | TRANSIENT_FAILURE_RETRY | FINAL => false
  | _ => true

end ConnectionState

namespace Connection

/-- The events that close the connection, at once or when their listeners have run. -/
def closesBy (s : Connection) : Event → Bool
  | .close | .connectTimer | .cancelTimer | .socketError _ | .socketEnd
  | .tick (.socketError _) => true
  | .socketClose => s.state ≠ .REROUTING && s.state ≠ .TRANSIENT_FAILURE_RETRY
  | _ => false

/-- Nothing leaves `FINAL`, nothing closes a connection whose `closed` is set, and nothing
in `FINAL` emits a second `'connect'`. -/
def Timely (c : ConnectionConfig) (s : Connection) (stack : List Instr) (e : Event) : Prop :=
  InTime c s stack e ∧ (s.closed = true → s.state ≠ .FINAL → s.closesBy e = false) ∧
    (s.state = .FINAL → 0 < emissions false true s stack → announces c s e = false)

instance (c : ConnectionConfig) (s : Connection) (stack : List Instr) (e : Event) :
    Decidable (Timely c s stack e) :=
  inferInstanceAs (Decidable (_ ∧ _ ∧ _))

/-- A connection that is not in `FINAL`. -/
structure Open (s : Connection) (stack : List Instr) : Prop where
  attempt : ∀ p ∈ s.pending, p.isAttempt = true → s.state = .CONNECTING
  connecting : s.state = .CONNECTING → ∀ p ∈ s.pending, p.isAttempt = true
  failed : ∀ err, .socketError err ∈ s.ticks → s.state = .CONNECTING ∧ s.pending = []
  unclosed : s.closed = false → (s.state = .INITIALIZED ∨ s.state = .CONNECTING) ∧
    s.messageIo.id = 0 ∨ s.state.isLive = true ∨ s.state = .REROUTING ∧ .closeRequest ∈ stack
  closed : s.closed = true →
    s.state = .REROUTING ∨ s.state = .TRANSIENT_FAILURE_RETRY ∨ s.state = .CONNECTING
  retrying : s.retryTimer = true ∨ .enterConnecting ∈ stack →
    s.state = .TRANSIENT_FAILURE_RETRY
  connectTimer : s.connectTimer = true → s.state.isLoggedIn = false
  closing : (∃ i ∈ stack, i.closes = true) → s.closed = false ∧ s.state ≠ .REROUTING ∧
    s.state ≠ .TRANSIENT_FAILURE_RETRY
  cleaning : .closeRequest ∈ stack ∨ .finishCleanup ∈ stack → s.state = .REROUTING

/-- Nothing is left of an attempt to connect, or of a retry. -/
structure Connected (s : Connection) (stack : List Instr) : Prop where
  closed : s.closed = false
  pending : ∀ p ∈ s.pending, p.isAttempt = false
  ticks : ∀ err, .socketError err ∉ s.ticks
  retryTimer : s.retryTimer = false
  stack : ∀ i ∈ stack, i.isBound = false

/-- A connection in a live state. -/
structure Live (s : Connection) (stack : List Instr) : Prop extends Connected s stack where
  state : s.state.isLive = true
  connectTimer : s.state.isLoggedIn = true → s.connectTimer = false

/-- An open connection that will not emit another `'connect'`: it is about to be closed, the
login is over, or connecting has failed. -/
inductive Settled (s : Connection) (stack : List Instr) : Prop
  | final (h : s.state = .FINAL)
  | closing (h : ∃ i ∈ stack, i.closes = true)
  | loggedIn (h : s.state.isLoggedIn = true)
  | failed (hstate : s.state = .CONNECTING) (hpending : s.pending = [])
      (htimer : s.connectTimer = false) (hticks : ∀ err, .socketError err ∉ s.ticks)

variable {c : ConnectionConfig} {s : Connection} {rest : List Instr}

/-! ### Live states -/

theorem open_iff_live (hlive : s.state.isLive = true) : Open s rest ↔ Live s rest := by
  have hne : s.state ≠ .INITIALIZED ∧ s.state ≠ .CONNECTING ∧ s.state ≠ .REROUTING ∧
      s.state ≠ .TRANSIENT_FAILURE_RETRY := by
    refine ⟨?_, ?_, ?_, ?_⟩ <;> intro hstate <;> rw [hstate] at hlive <;> cases hlive
  constructor
  · intro h
    have hclosed : s.closed = false := by
      refine Bool.eq_false_iff.2 fun hclosed => ?_
      rcases h.closed hclosed with hstate | hstate | hstate
      · exact hne.2.2.1 hstate
      · exact hne.2.2.2 hstate
      · exact hne.2.1 hstate
    exact {
      state := hlive
      closed := hclosed
      pending := fun p hp => Bool.eq_false_iff.2 fun ha => hne.2.1 (h.attempt p hp ha)
      ticks := fun err ht => hne.2.1 (h.failed err ht).1
      retryTimer := Bool.eq_false_iff.2 fun ht => hne.2.2.2 (h.retrying (.inl ht))
      connectTimer := fun hin => Bool.eq_false_iff.2 fun ht => by
        rw [h.connectTimer ht] at hin
        cases hin
      stack := by
        intro i hi
        refine Bool.eq_false_iff.2 fun hbound => ?_
        cases i with
        | enterConnecting => exact hne.2.2.2 (h.retrying (.inr hi))
        | closeRequest => exact hne.2.2.1 (h.cleaning (.inl hi))
        | finishCleanup => exact hne.2.2.1 (h.cleaning (.inr hi))
        | _ => cases hbound }
  · intro h
    exact {
      attempt := fun p hp ha => absurd ha (Bool.eq_false_iff.1 (h.pending p hp))
      connecting := fun hstate => absurd hstate hne.2.1
      failed := fun err ht => absurd ht (h.ticks err)
      unclosed := fun _ => .inr (.inl hlive)
      closed := fun hclosed => absurd hclosed (Bool.eq_false_iff.1 h.closed)
      retrying := by
        rintro (ht | hi)
        · exact absurd ht (Bool.eq_false_iff.1 h.retryTimer)
        · cases h.stack _ hi
      connectTimer := fun ht => Bool.eq_false_iff.2 fun hin =>
        Bool.false_ne_true ((h.connectTimer hin).symm.trans ht)
      closing := fun _ => ⟨h.closed, hne.2.2⟩
      cleaning := by rintro (hi | hi) <;> cases h.stack _ hi }

/-- A live state is entered without cleaning up. -/
theorem transitionTo_live {st : ConnectionState} (hst : st.isLive = true) :
    (s.transitionTo c st).2 = [] ∧ (s.transitionTo c st).1.closed = s.closed ∧
      (s.transitionTo c st).1.connectTimer = s.connectTimer ∧
        (s.transitionTo c st).1.retryTimer = s.retryTimer := by
  unfold transitionTo
  split
  · exact ⟨rfl, rfl, rfl, rfl⟩
  · cases st <;> first | cases hst; done | exact ⟨rfl, rfl, rfl, rfl⟩

theorem isAttempt_waits {st : ConnectionState} (hst : st ≠ .CONNECTING) {calls : Nat}
    {p : Pending} (hp : p ∈ st.waits c calls) : p.isAttempt = false := by
  cases st with
  | CONNECTING => exact absurd rfl hst
  | _ => simp_all [ConnectionState.waits, Pending.isAttempt]

theorem ticks_live {st : ConnectionState} (hst : st ≠ .FINAL) :
    (s.transitionTo c st).1.ticks = s.ticks := by
  rw [ticks_transitionTo, if_neg fun h => hst h.1, List.append_nil]

theorem Connected.transitionTo (h : Connected s rest) {st : ConnectionState}
    (hst : st.isLive = true) (htimer : st.isLoggedIn = true → s.connectTimer = false) :
    Live (s.transitionTo c st).1 ((s.transitionTo c st).2 ++ rest) := by
  obtain ⟨hstack, hclosed, hconnect, hretry⟩ := transitionTo_live (c := c) (s := s) hst
  have hne : st ≠ .FINAL ∧ st ≠ .CONNECTING := by
    constructor <;> rintro rfl <;> cases hst
  rw [hstack]
  exact {
    state := by rwa [state_transitionTo]
    closed := hclosed.trans h.closed
    pending := by
      rw [pending_transitionTo]
      refine List.forall_mem_append.2 ⟨h.pending, fun p hp => ?_⟩
      split at hp
      · cases hp
      · exact isAttempt_waits hne.2 hp
    ticks := by
      rw [ticks_live hne.1]
      exact h.ticks
    retryTimer := hretry.trans h.retryTimer
    connectTimer := by
      rw [state_transitionTo, hconnect]
      exact htimer
    stack := h.stack }

namespace Live

theorem toOpen (h : Live s rest) : Open s rest := (open_iff_live h.state).2 h

theorem await (h : Live s rest) {p : Pending} (hp : p.isAttempt = false) :
    Live (s.await p) rest :=
  { h with
    pending := List.forall_mem_append.2 ⟨h.pending, by simpa using hp⟩ }

/-- With other instructions to do. -/
theorem does (h : Live s rest) {is : List Instr} (his : ∀ i ∈ is, i.isBound = false) :
    Live s is :=
  { h with stack := his }

/-- A live connection is rerouted. -/
theorem toRerouting (h : Live s []) :
    Open (s.transitionTo c .REROUTING).1 (s.transitionTo c .REROUTING).2 := by
  have hne : s.state ≠ .REROUTING := fun hstate => by
    have hlive := h.state
    rw [hstate] at hlive
    cases hlive
  have hentered : s.transitionTo c .REROUTING =
      ((s.changeState .REROUTING).closeConnection, [.emit .rerouting, .closeRequest]) := by
    unfold Connection.transitionTo
    rw [if_neg hne]
    show (if s.closed then _ else _) = _
    rw [h.closed]
    rfl
  rw [hentered]
  exact {
    attempt := fun p hp ha => absurd ha (Bool.eq_false_iff.1 (h.pending p hp))
    connecting := by simp [closeConnection, changeState]
    failed := fun err ht => absurd ht (h.ticks err)
    unclosed := fun _ => .inr (.inr ⟨rfl, by simp⟩)
    closed := fun _ => .inl rfl
    retrying := by simp [closeConnection]
    connectTimer := fun _ => rfl
    closing := by simp [Instr.closes]
    cleaning := fun _ => rfl }

/-- A login without a request fails for a transient reason. -/
theorem toRetry (h : Live s []) (hrequest : s.request = none) :
    Open (s.transitionTo c .TRANSIENT_FAILURE_RETRY).1
      (s.transitionTo c .TRANSIENT_FAILURE_RETRY).2 := by
  have hne : s.state ≠ .TRANSIENT_FAILURE_RETRY := fun hstate => by
    have hlive := h.state
    rw [hstate] at hlive
    cases hlive
  have hentered : s.transitionTo c .TRANSIENT_FAILURE_RETRY =
      (({ s.changeState .TRANSIENT_FAILURE_RETRY with
        curTransientRetryCount := s.curTransientRetryCount + 1 } : Connection
        ).closeConnection.finishCleanup, []) := by
    unfold Connection.transitionTo
    rw [if_neg hne]
    show (if s.closed then _ else closeRequest _) = _
    rw [h.closed]
    unfold closeRequest closeConnection changeState
    dsimp only
    rw [hrequest]
    rfl
  rw [hentered]
  exact {
    attempt := fun p hp ha => absurd ha (Bool.eq_false_iff.1 (h.pending p hp))
    connecting := by simp [finishCleanup, closeConnection, changeState]
    failed := fun err ht => absurd ht (h.ticks err)
    unclosed := by simp [finishCleanup]
    closed := fun _ => .inr (.inl rfl)
    retrying := fun _ => rfl
    connectTimer := fun _ => rfl
    closing := by simp
    cleaning := by simp }

end Live

/-! ### A login goes on -/

theorem isBound_answerOrThrow (execution : Option Execution) (err : Option Err) :
    ∀ i ∈ answerOrThrow execution err, i.isBound = false := by
  cases execution <;> simp [answerOrThrow, Instr.isBound]

namespace Live

/-- A state of the login is entered. -/
theorem enters (h : Live s []) {st : ConnectionState} (hst : st.isLive = true)
    (hlogin : st.isLoggedIn = false) : Live (s.transitionTo c st).1 (s.transitionTo c st).2 := by
  have hentered := h.toConnected.transitionTo (c := c) hst fun hin =>
    Bool.noConfusion (hlogin.symm.trans hin)
  rwa [List.append_nil] at hentered

/-- The response to a login ends. -/
theorem afterLogin (h : Live s []) (hrequest : s.request = none) (kind : LoginKind)
    (handler : Login7TokenHandler) :
    Open (s.afterLogin c kind handler).1 (s.afterLogin c kind handler).2 := by
  have hend := afterLogin_inv (c := c) (s := s) kind handler
  generalize s.afterLogin c kind handler = r at hend ⊢
  cases hend with
  | rerouted _ routingData =>
    have h' : Live { s with routingData := some routingData } [] := { h with }
    exact h'.toRerouting
  | acknowledged => exact (h.enters rfl rfl).toOpen
  | challenged =>
    have h' : Live { s.sendMessage .NTLMAUTH_PKT with ntlmpacket := none } [] := { h with }
    exact (h'.await rfl).toOpen
  | informed => exact (h.await rfl).toOpen
  | retried => exact h.toRetry hrequest
  | failed => exact (h.does (by simp [Instr.isBound])).toOpen

theorem afterInitialSql (h : Live s []) :
    Open (s.afterInitialSql c).1 (s.afterInitialSql c).2 := by
  have hcleared : Live { s with connectTimer := false } [] :=
    { h with connectTimer := fun _ => rfl }
  have hentered := hcleared.toConnected.transitionTo (c := c)
    (show ConnectionState.LOGGED_IN.isLive = true from rfl) fun _ => rfl
  have hsame : ({ s with connectTimer := false } : Connection).transitionTo c .LOGGED_IN =
      ({ (s.transitionTo c .LOGGED_IN).1 with connectTimer := false },
        (s.transitionTo c .LOGGED_IN).2) := by
    unfold Connection.transitionTo
    split <;> rfl
  rw [hsame] at hentered
  refine toOpen (hentered.does ?_)
  show ∀ i ∈ (s.transitionTo c .LOGGED_IN).2 ++ [.emit (.connect none)], i.isBound = false
  rw [(transitionTo_live rfl).1]
  simp [Instr.isBound]

/-- What else goes on enters live states only, and those in which requests are made once there
is no connect timer. -/
theorem isLive_of_mem_enters {p : Pending} {outcome : Outcome} (hp : p.isAttempt = false)
    (hlogin : ∀ kind handler, ¬(p = .loginTokens kind handler ∧ outcome = .done))
    (hsql : ¬(p = .initialSqlTokens ∧ outcome = .done)) {st : ConnectionState}
    (hst : st ∈ Cause.enters (.event (.resume p outcome))) :
    st.isLive = true ∧ (st.isLoggedIn = true → p.isLogin = false) := by
  cases p <;> cases hp <;> cases outcome <;> simp [Cause.enters] at hst hlogin hsql
  all_goals
    rcases hst with rfl | rfl | rfl | rfl <;> exact ⟨rfl, fun h => by first | rfl | cases h⟩

/-- **One change** of what else goes on. -/
theorem change {p : Pending} {outcome : Outcome} (hp : p.isAttempt = false)
    (hlogin : ∀ kind handler, ¬(p = .loginTokens kind handler ∧ outcome = .done))
    (hsql : ¬(p = .initialSqlTokens ∧ outcome = .done)) {s₁ s₂ : Connection}
    (hchange : Change c (.event (.resume p outcome)) s₁ s₂)
    (h : Live s₁ [] ∧ (p.isLogin = false → s₁.connectTimer = false)) :
    Live s₂ [] ∧ (p.isLogin = false → s₂.connectTimer = false) := by
  obtain ⟨h, htimer⟩ := h
  cases hchange with
  | take hcause =>
    exact ⟨{ h with pending := fun q hq => h.pending q (List.mem_of_mem_erase hq) }, htimer⟩
  | due hcause => cases hcause
  | @enter st hst =>
    obtain ⟨hlive, hloggedIn⟩ := isLive_of_mem_enters hp hlogin hsql hst
    obtain ⟨hstack, -, hsame, -⟩ := transitionTo_live (c := c) (s := s₁) hlive
    have hentered := h.toConnected.transitionTo (c := c) hlive fun hin => htimer (hloggedIn hin)
    rw [hstack, List.nil_append] at hentered
    exact ⟨hentered, hsame.symm ▸ htimer⟩
  | await hcause hleads =>
    cases hcause
    exact ⟨h.await (Pending.isAttempt_of_leadsTo hleads hp), htimer⟩
  | report hcause hreport =>
    cases hcause
    rcases hreport with ⟨rfl, -⟩ | ⟨rfl, -⟩ <;> cases hp
  | abort hcause => cases hcause
  | unlisten hcause => cases hcause
  | setErrors hcause => cases hcause
  | disarm _ hconnect _ _ hretry =>
    have hcleared : ∀ {timer timer' : Bool}, (timer' = true → timer = true) → timer = false →
        timer' = false := fun himp hfalse =>
      Bool.eq_false_iff.2 fun htrue => Bool.noConfusion (hfalse.symm.trans (himp htrue))
    exact ⟨{ h with
      retryTimer := hcleared hretry h.retryTimer
      connectTimer := fun hin => hcleared hconnect (h.connectTimer hin) },
      fun hkind => hcleared hconnect (htimer hkind)⟩
  | armRetry hcause => cases hcause
  | close hcause => rcases hcause with hcause | hcause <;> cases hcause
  | connected hcause =>
    cases hcause
    cases hp
  | retry hcause =>
    cases hcause
    exact absurd ⟨rfl, rfl⟩ (hlogin _ _)
  | count hmakes => cases hmakes
  | defer hmakes => cases hmakes
  | serve hmakes => cases hmakes
  | resetCalled hcause => cases hcause
  | finished hcause => cases hcause
  | attend hcause => cases hcause
  | _ => exact ⟨{ h with }, htimer⟩

/-- Something under way goes on in a live state. -/
theorem resume (h : Live s []) {p : Pending} {outcome : Outcome} (hp : p.isAttempt = false)
    (hrequest : p.isLogin = true → s.request = none)
    (htimer : p.isLogin = false → s.connectTimer = false) :
    Open (s.resume c p outcome).1 (s.resume c p outcome).2 := by
  by_cases hlogin : ∃ kind handler, p = .loginTokens kind handler ∧ outcome = .done
  · obtain ⟨kind, handler, rfl, rfl⟩ := hlogin
    exact h.afterLogin (hrequest rfl) kind handler
  by_cases hsql : p = .initialSqlTokens ∧ outcome = .done
  · obtain ⟨rfl, rfl⟩ := hsql
    exact h.afterInitialSql
  simp only [not_exists] at hlogin
  obtain ⟨hlive, -⟩ := (changes_resume (c := c) (s := s) p outcome).keeps
    (P := fun s' => Live s' [] ∧ (p.isLogin = false → s'.connectTimer = false))
    (change hp hlogin hsql) ⟨h, htimer⟩
  have hleft := remainder_resume (c := c) (s := s) p outcome
  generalize s.resume c p outcome = r at hlive hleft ⊢
  refine toOpen (hlive.does ?_)
  cases hleft with
  | reports _ his => exact fun i hi => Instr.isBound_of_isReport (his i hi)
  | connects _ his => rcases his with rfl | ⟨err, rfl⟩ | ⟨rfl, -⟩ <;> simp [Instr.isBound]
  | cleans _ hcleans houtcome => exact absurd ⟨hcleans, houtcome⟩ (hlogin _ _)
  | answers => exact isBound_answerOrThrow _ _

end Live

/-! ### One step of an open connection -/

/-- A step keeps the connection open, or it enters `FINAL`. -/
def OpenOrFinal (s : Connection) (stack : List Instr) : Prop := s.state = .FINAL ∨ Open s stack

namespace Open

/-- The state stays the same, and nothing begins. -/
theorem same {s' : Connection} (h : Open s rest) (hstate : s'.state = s.state)
    (hclosed : s'.closed = s.closed) (hid : s'.messageIo.id = s.messageIo.id)
    (hpending : ∀ p ∈ s'.pending, ∃ q ∈ s.pending, q.isAttempt = p.isAttempt)
    (hticks : ∀ err, .socketError err ∈ s'.ticks → .socketError err ∈ s.ticks)
    (hretry : s'.retryTimer = true → s.retryTimer = true)
    (hconnect : s'.connectTimer = true → s.connectTimer = true) : Open s' rest where
  attempt := fun p hp ha => by
    obtain ⟨q, hq, hsame⟩ := hpending p hp
    exact hstate.trans (h.attempt q hq (hsame.trans ha))
  connecting := fun hc p hp => by
    obtain ⟨q, hq, hsame⟩ := hpending p hp
    exact hsame.symm.trans (h.connecting (hstate.symm.trans hc) q hq)
  failed := fun err ht => by
    obtain ⟨hc, hnil⟩ := h.failed err (hticks err ht)
    refine ⟨hstate.trans hc, List.eq_nil_iff_forall_not_mem.2 fun p hp => ?_⟩
    obtain ⟨q, hq, -⟩ := hpending p hp
    rw [hnil] at hq
    cases hq
  unclosed := by
    rw [hstate, hclosed, hid]
    exact h.unclosed
  closed := by
    rw [hstate, hclosed]
    exact h.closed
  retrying := fun ht => hstate.trans (h.retrying (ht.imp_left hretry))
  connectTimer := fun ht => by
    rw [hstate]
    exact h.connectTimer (hconnect ht)
  closing := by
    rw [hstate, hclosed]
    exact h.closing
  cleaning := fun hi => hstate.trans (h.cleaning hi)

/-- Instructions are put on the stack. -/
theorem push (h : Open s rest) {is : List Instr} (hbound : ∀ i ∈ is, i.isBound = false)
    (hcloses : (∃ i ∈ is, i.closes = true) → s.closed = false ∧ s.state ≠ .REROUTING ∧
      s.state ≠ .TRANSIENT_FAILURE_RETRY) : Open s (is ++ rest) := by
  have hmem : ∀ {i : Instr}, i.isBound = true → i ∈ is ++ rest → i ∈ rest := by
    intro i hi hmem
    refine (List.mem_append.1 hmem).resolve_left fun his => ?_
    exact Bool.false_ne_true ((hbound i his).symm.trans hi)
  exact { h with
    unclosed := fun hclosed => (h.unclosed hclosed).imp_right fun hlive =>
      hlive.imp_right fun hrerouting => ⟨hrerouting.1, List.mem_append_right _ hrerouting.2⟩
    retrying := fun ht => h.retrying (ht.imp_right (hmem rfl))
    closing := by
      rintro ⟨i, hi, hcl⟩
      rcases List.mem_append.1 hi with hi | hi
      · exact hcloses ⟨i, hi, hcl⟩
      · exact h.closing ⟨i, hi, hcl⟩
    cleaning := fun hi => h.cleaning (hi.imp (hmem rfl) (hmem rfl)) }

/-- Instructions that neither close the connection nor are left to do in one state. -/
theorem pushQuiet (h : Open s rest) {is : List Instr}
    (his : ∀ i ∈ is, i.isBound = false ∧ i.closes = false) : Open s (is ++ rest) := by
  refine h.push (fun i hi => (his i hi).1) ?_
  rintro ⟨i, hi, hcl⟩
  exact absurd hcl (Bool.eq_false_iff.1 (his i hi).2)

/-- An instruction has been taken from the stack. -/
theorem pop {i : Instr} (h : Open s (i :: rest)) (hi : i ≠ .closeRequest) : Open s rest :=
  { h with
    unclosed := fun hclosed => (h.unclosed hclosed).imp_right fun hlive =>
      hlive.imp_right fun hrerouting => ⟨hrerouting.1,
        (List.mem_cons.1 hrerouting.2).resolve_left (Ne.symm hi)⟩
    retrying := fun ht => h.retrying (ht.imp_right (List.mem_cons_of_mem _))
    closing := fun ⟨j, hj, hcl⟩ => h.closing ⟨j, List.mem_cons_of_mem _ hj, hcl⟩
    cleaning := fun hj => h.cleaning (hj.imp (List.mem_cons_of_mem _) (List.mem_cons_of_mem _)) }

/-- Listeners run in its place. -/
theorem run {i : Instr} (h : Open s (i :: rest)) (hi : i ≠ .closeRequest) :
    Open s (.callback :: rest) := by
  have hquiet : ∀ j ∈ [Instr.callback], j.isBound = false ∧ j.closes = false := by
    simp [Instr.isBound, Instr.closes]
  exact (h.pop hi).pushQuiet hquiet

/-- Where the stack is empty and `closed` is not set, the connection may be closed. -/
theorem closable (h : Open s []) (hclosed : s.closed = false) :
    s.closed = false ∧ s.state ≠ .REROUTING ∧ s.state ≠ .TRANSIENT_FAILURE_RETRY := by
  refine ⟨hclosed, ?_, ?_⟩ <;> intro hstate <;>
    rcases h.unclosed hclosed with ⟨hst | hst, -⟩ | hst | hst <;> simp [hstate,
      ConnectionState.isLive] at hst

/-- A new attempt to connect. -/
theorem toConnecting (h : Open s rest) (hthreads : threads s rest = 0)
    (hlive : s.state.isLive = false) (hne : s.state ≠ .CONNECTING)
    (hclean : .closeRequest ∉ rest ∧ .finishCleanup ∉ rest) :
    Open (s.transitionTo c .CONNECTING).1 ((s.transitionTo c .CONNECTING).2 ++ rest) := by
  obtain ⟨hpending, hretry, hconnecting⟩ := threads_eq_zero.1 hthreads
  have hstack : (s.transitionTo c .CONNECTING).2 = [] := by
    rw [Connection.transitionTo, if_neg hne]
    rfl
  have hclosed : (s.transitionTo c .CONNECTING).1.closed = s.closed ∧
      (s.transitionTo c .CONNECTING).1.retryTimer = s.retryTimer := by
    rw [Connection.transitionTo, if_neg hne]
    show ((s.changeState .CONNECTING).initialiseConnection c).closed = _ ∧
      ((s.changeState .CONNECTING).initialiseConnection c).retryTimer = _
    unfold initialiseConnection
    dsimp only
    split <;> exact ⟨rfl, rfl⟩
  have hwaits : ∀ p ∈ (s.transitionTo c .CONNECTING).1.pending, p.isAttempt = true := by
    rw [pending_transitionTo, hpending, if_neg hne]
    intro p hp
    rcases hport : c.port with _ | _ | port <;> simp [ConnectionState.waits, hport] at hp <;>
      subst hp <;> rfl
  rw [hstack]
  exact {
    attempt := fun _ _ _ => state_transitionTo _
    connecting := fun _ => hwaits
    failed := by
      rw [ticks_live (by decide)]
      exact fun err ht => absurd (h.failed err ht).1 hne
    unclosed := by
      rw [hclosed.1, state_transitionTo, io_transitionTo]
      intro hcl
      rcases h.unclosed hcl with ⟨-, hid⟩ | hlive' | ⟨-, hmem⟩
      · exact .inl ⟨.inr rfl, hid⟩
      · exact absurd (hlive'.symm.trans hlive) (by decide)
      · exact absurd hmem hclean.1
    closed := fun _ => .inr (.inr (state_transitionTo _))
    retrying := by
      rw [hclosed.2]
      rintro (ht | hi)
      · rw [hretry] at ht
        cases ht
      · exact absurd hi hconnecting
    connectTimer := fun _ => by
      rw [state_transitionTo]
      rfl
    closing := by
      rw [hclosed.1, state_transitionTo]
      exact fun hcl => ⟨(h.closing hcl).1, by decide, by decide⟩
    cleaning := by
      rintro (hi | hi)
      · exact absurd hi hclean.1
      · exact absurd hi hclean.2 }

/-- A connection that may be closed gets a socket error, or its connect timer fires. -/
theorem dispatchEvent (h : Open s rest) (hclosable : s.closed = false ∧ s.state ≠ .REROUTING ∧
    s.state ≠ .TRANSIENT_FAILURE_RETRY) {event : Dispatched}
    (hevent : event = .connectTimeout ∨ ∃ err, event = .socketError err) :
    OpenOrFinal (s.dispatchEvent c event).1 ((s.dispatchEvent c event).2 ++ rest) := by
  unfold Connection.dispatchEvent
  split
  · next r hr =>
    rcases hevent with rfl | ⟨err, rfl⟩ <;> unfold eventHandler at hr <;> dsimp only at hr <;>
      split at hr <;> cases hr
    all_goals
      first
      | exact .inl (state_transitionTo _)
      | exact .inl (by assumption)
  · refine .inr (h.push ?_ fun _ => hclosable)
    simp [Instr.isBound]

/-- `cleanupConnection` ends in `REROUTING`. -/
theorem finishCleanup {i : Instr} (h : Open s (i :: rest)) (hstate : s.state = .REROUTING) :
    Open s.finishCleanup rest where
  attempt := h.attempt
  connecting := h.connecting
  failed := h.failed
  unclosed := by simp [Connection.finishCleanup]
  closed := fun _ => .inl hstate
  retrying := fun ht => h.retrying (ht.imp_right (List.mem_cons_of_mem _))
  connectTimer := h.connectTimer
  closing := fun ⟨j, hj, hcl⟩ =>
    absurd hstate (h.closing ⟨j, List.mem_cons_of_mem _ hj, hcl⟩).2.1
  cleaning := fun _ => hstate

theorem exec {i : Instr} (h : Open s (i :: rest))
    (hphase : LoginPhase s (i :: rest) ∨ RequestPhase s (i :: rest)) (hopen : s.state ≠ .FINAL) :
    OpenOrFinal (exec c i s).1 ((Connection.exec c i s).2 ++ rest) := by
  have hcloses : i.closes = true → s.closed = false ∧ s.state ≠ .REROUTING ∧
      s.state ≠ .TRANSIENT_FAILURE_RETRY := fun hi => h.closing ⟨i, List.mem_cons_self .., hi⟩
  cases i with
  | callback => exact .inr (h.pop (by simp))
  | emit event =>
    exact .inr { h.run (by simp) with }
  | enterFinal => exact .inl (state_transitionTo _)
  | enterConnecting =>
    have hstate := h.retrying (.inr (List.mem_cons_self ..))
    have hlogin : LoginPhase s (.enterConnecting :: rest) := by
      refine hphase.resolve_right fun hrequest => ?_
      exact hrequest.notConnecting (List.mem_cons_self ..)
    -- the instruction itself is the one thing of the login that is under way
    have hthreads : threads s rest = 0 := by
      have hle := hlogin.threads_le
      simp only [threads, List.count_cons_self] at hle ⊢
      omega
    have hclean : .closeRequest ∉ rest ∧ .finishCleanup ∉ rest := by
      constructor <;> intro hi
      · cases hstate.symm.trans (h.cleaning (.inl (List.mem_cons_of_mem _ hi)))
      · cases hstate.symm.trans (h.cleaning (.inr (List.mem_cons_of_mem _ hi)))
    exact .inr ((h.pop (by simp)).toConnecting hthreads (by rw [hstate]; rfl) (by simp [hstate])
      hclean)
  | dispatchSocketError err =>
    exact (h.pop (by simp)).dispatchEvent (hcloses rfl) (.inr ⟨err, rfl⟩)
  | afterConnectTimeout =>
    have h' : Open { s with connectTimer := false } rest :=
      { h.pop (by simp) with connectTimer := fun ht => by cases ht }
    exact h'.dispatchEvent (hcloses rfl) (.inl rfl)
  | closeRequest =>
    have hstate := h.cleaning (.inl (List.mem_cons_self ..))
    -- only `REROUTING` leaves this to do, so there is no request to answer
    have hrequest : s.request = none := by
      rcases hphase with hlogin | hrequest
      · exact hlogin.request
      · rcases hrequest.state with hst | hst | hst | hst <;> cases hstate.symm.trans hst
    have hdone : Connection.exec c .closeRequest s = (s.finishCleanup, []) := by
      show s.closeRequest = _
      unfold Connection.closeRequest
      rw [hrequest]
    rw [hdone]
    exact .inr (h.finishCleanup hstate)
  | finishCleanup => exact .inr (h.finishCleanup (h.cleaning (.inr (List.mem_cons_self ..))))
  | answer execution err =>
    exact .inr { h.run (by simp) with }
  | cancelListener r l =>
    cases l with
    | unsent call => exact .inr { h.pop (by simp) with }
    | afterRequestSent => exact .inr { h.pop (by simp) with }
    | response call =>
      have hstate : s.state.isLoggedIn = true := by
        rcases hphase with hlogin | hrequest
        · exact absurd (List.mem_cons_self ..) (hlogin.listenersRun r (.response call))
        · exact hrequest.isLoggedIn hopen
      have hlive : s.state.isLive = true := by
        revert hstate
        cases s.state <;> simp [ConnectionState.isLoggedIn, ConnectionState.isLive]
      have hlistened := (open_iff_live hlive).1 (h.pop (by simp))
      have hunlistened : Live { s with pending := s.pending.filter fun p => ¬p.isResponseOf call }
          rest :=
        { hlistened with pending := fun p hp => hlistened.pending p (List.mem_filter.1 hp).1 }
      have hentered := hunlistened.toConnected.transitionTo (c := c)
        (show ConnectionState.SENT_ATTENTION.isLive = true from rfl) fun _ =>
          hlistened.connectTimer hstate
      exact .inr hentered.toOpen
  | requestTimeoutError r => exact .inr { h.pop (by simp) with }
  | loginErrorMessage token => exact .inr { h.pop (by simp) with }
  | completeToken call r errors token =>
    refine .inr ((h.pop (by simp)).same rfl rfl rfl ?_ (fun _ => id) id id)
    intro p hp
    obtain ⟨q, hq, rfl⟩ := List.mem_map.1 hp
    exact ⟨q, hq, by cases q <;> rfl⟩
  | throw => exact .inr { h.pop (by simp) with }

/-- Connecting goes on. -/
theorem resumeAttempt (h : Open s []) (hlogin : LoginPhase s []) {p : Pending}
    {outcome : Outcome} (hp : p ∈ s.pending) (hattempt : p.isAttempt = true)
    (haccepts : accepts p outcome = true) :
    Open (resume c { s with pending := s.pending.erase p } p outcome).1
      (resume c { s with pending := s.pending.erase p } p outcome).2 := by
  have hstate : s.state = .CONNECTING := h.attempt p hp hattempt
  have hticks : ∀ err, .socketError err ∉ s.ticks := fun err ht =>
    List.ne_nil_of_mem hp (h.failed err ht).2
  obtain ⟨hpending, hretry, -⟩ := threads_eq_zero.1 (hlogin.handler hp).threads_eq
  dsimp only at hpending hretry
  rw [hpending]
  have herased : Open { s with pending := [] } [] :=
    h.same rfl rfl rfl (by simp) (fun _ => id) id id
  cases p <;> cases hattempt <;> cases outcome <;> cases haccepts
  -- the port has been found, or not
  · next aborted =>
    refine h.same rfl rfl rfl (fun q hq => ⟨_, hp, ?_⟩) (fun _ => id) id id
    rw [List.mem_singleton.1 hq]
    rfl
  · next aborted err =>
    cases aborted <;>
      exact herased.same rfl rfl rfl (by simp [resume, instanceLookupFailed, nextTick])
        (by simp [resume, instanceLookupFailed, nextTick]) id
        (by simp [resume, instanceLookupFailed, nextTick])
  -- the socket is connected, or not
  · next aborted =>
    have hconnected : ∀ messageIo, Connected (sendMessage { s with
        pending := [], messageIo, closed := false } .PRELOGIN) [] := fun _ => {
      closed := rfl
      pending := by simp [sendMessage, send, record]
      ticks := hticks
      retryTimer := hretry
      stack := by simp }
    have hentered : ∀ {s' : Connection}, Connected s' [] →
        Open (s'.transitionTo c .SENT_PRELOGIN).1 (s'.transitionTo c .SENT_PRELOGIN).2 := by
      intro s' h'
      have hentered := h'.transitionTo (c := c)
        (show ConnectionState.SENT_PRELOGIN.isLive = true from rfl) fun h => by cases h
      rw [List.append_nil] at hentered
      exact hentered.toOpen
    exact hentered (hconnected _)
  · next aborted err =>
    cases aborted with
    | true =>
      exact { herased with connectTimer := by simp [resume, connectFailed] }
    | false =>
      exact { herased with
        connectTimer := by simp [resume, connectFailed, nextTick]
        failed := fun _ _ => ⟨hstate, rfl⟩ }

/-- Something under way goes on. -/
theorem resume (h : Open s []) (hphase : LoginPhase s [] ∨ RequestPhase s [])
    (hopen : s.state ≠ .FINAL) {p : Pending} {outcome : Outcome} (hp : p ∈ s.pending)
    (haccepts : accepts p outcome = true) :
    Open (resume c { s with pending := s.pending.erase p } p outcome).1
      (Connection.resume c { s with pending := s.pending.erase p } p outcome).2 := by
  -- with something else than an attempt to connect under way, the state is a live one
  have hlive : p.isAttempt = false → s.state.isLive = true := by
    intro hattempt
    have hconnecting : s.state ≠ .CONNECTING := fun hstate =>
      Bool.false_ne_true (hattempt.symm.trans (h.connecting hstate p hp))
    rcases hphase with hlogin | hrequest
    · obtain ⟨h₁, h₂, -, h₄, -⟩ := (hlogin.handler hp).busy
      revert hconnecting h₁ h₂ h₄ hopen
      cases s.state <;> simp [ConnectionState.isLive]
    · have hloggedIn := hrequest.isLoggedIn hopen
      revert hloggedIn
      cases s.state <;> simp [ConnectionState.isLoggedIn, ConnectionState.isLive]
  cases hattempt : p.isAttempt with
  | true =>
    rcases hphase with hlogin | hrequest
    · exact h.resumeAttempt hlogin hp hattempt haccepts
    · have hst := hrequest.state
      rw [h.attempt p hp hattempt] at hst
      simp at hst
  | false =>
    have hs := (open_iff_live (hlive hattempt)).1 h
    have herased : Live { s with pending := s.pending.erase p } [] :=
      { hs with pending := fun q hq => hs.pending q (List.mem_of_mem_erase hq) }
    refine herased.resume hattempt ?_ ?_
    · intro hkind
      rcases hphase with hlogin | hrequest
      · exact hlogin.request
      · rw [hrequest.pending p hp] at hkind
        cases hkind
    · intro hkind
      refine hs.connectTimer ?_
      rcases hphase with hlogin | hrequest
      · rw [hlogin.pending p hp] at hkind
        cases hkind
      · exact hrequest.isLoggedIn hopen

theorem cancelRequest (h : Open s rest) (r : RequestId) :
    Open (s.cancelRequest r).1 ((s.cancelRequest r).2 ++ rest) := by
  have hquiet : ∀ i ∈ (s.cancelRequest r).2, i.isBound = false ∧ i.closes = false := by
    intro i hi
    rcases mem_cancelRequest hi with rfl | ⟨-, l, -, rfl⟩ <;> exact ⟨rfl, rfl⟩
  have hpushed := h.pushQuiet hquiet
  unfold Connection.cancelRequest at hpushed ⊢
  split at hpushed
  · next hcanceled =>
    rw [if_pos hcanceled]
    exact hpushed
  · next hcanceled =>
    rw [if_neg hcanceled]
    exact { hpushed with }

theorem makeRequest (h : Open s rest) (r : RequestId) (type : RequestType) :
    Open (s.makeRequest c r type).1 ((s.makeRequest c r type).2 ++ rest) := by
  unfold Connection.makeRequest
  dsimp only
  split
  · exact { h.pushQuiet (by simp [Instr.isBound, Instr.closes]) with }
  · next hstate =>
    have hloggedIn := Decidable.not_not.1 hstate
    split
    · refine h.same rfl rfl rfl (fun p hp => ⟨p, hp, rfl⟩) (fun err ht => ?_) id id
      rcases List.mem_append.1 ht with ht | ht
      · exact ht
      · cases List.mem_singleton.1 ht
    · have hlive := (open_iff_live (by rw [hloggedIn]; rfl)).1 h
      have hcall : Live (s.countCall { call := s.calls, request := r }) rest := { hlive with }
      have hwritten : Live ((s.countCall { call := s.calls, request := r }).writeRequest c
          { call := s.calls, request := r } type) rest := { hcall with }
      have htimer : ((s.countCall { call := s.calls, request := r }).writeRequest c
          { call := s.calls, request := r } type).connectTimer = false := by
        obtain ⟨_, _, _, hwrite⟩ := writeRequest_eq c
          (s.countCall { call := s.calls, request := r }) { call := s.calls, request := r } type
        rw [hwrite]
        exact hlive.connectTimer (by rw [hloggedIn]; rfl)
      exact (hwritten.toConnected.transitionTo (c := c)
        (show ConnectionState.SENT_CLIENT_REQUEST.isLive = true from rfl) fun _ => htimer).toOpen

theorem connect (h : Open s rest) (hphase : LoginPhase s rest ∨ RequestPhase s rest) :
    Open (s.connect c).1 ((s.connect c).2 ++ rest) := by
  unfold Connection.connect
  split
  · next hstate =>
    have hthreads : threads s rest = 0 := by
      rcases hphase with hlogin | hrequest
      · exact hlogin.idle (.inl hstate)
      · rcases hrequest.state with hst | hst | hst | hst <;> cases hstate.symm.trans hst
    have hclean : .closeRequest ∉ rest ∧ .finishCleanup ∉ rest := by
      constructor <;> intro hi
      · cases hstate.symm.trans (h.cleaning (.inl hi))
      · cases hstate.symm.trans (h.cleaning (.inr hi))
    exact h.toConnecting hthreads (by rw [hstate]; rfl) (by simp [hstate]) hclean
  · exact h

theorem requestTimeout (h : Open s []) : Open s.requestTimeout.1 s.requestTimeout.2 := by
  have hfired : Open { s with requestTimer := false } [] := { h with }
  unfold Connection.requestTimeout
  dsimp only
  split
  · next execution _ =>
    have hcanceled := hfired.cancelRequest execution.request
    rw [List.append_nil] at hcanceled
    refine { hcanceled with
      unclosed := fun hclosed => (hcanceled.unclosed hclosed).imp_right fun hlive =>
        hlive.imp_right fun hrerouting => ⟨hrerouting.1, List.mem_append_left _ hrerouting.2⟩
      retrying := fun ht => hcanceled.retrying (by simpa using ht)
      closing := ?_
      cleaning := fun hi => hcanceled.cleaning (by simpa using hi) }
    rintro ⟨i, hi, hcl⟩
    rcases List.mem_append.1 hi with hi | hi
    · exact hcanceled.closing ⟨i, hi, hcl⟩
    · rw [List.mem_singleton.1 hi] at hcl
      cases hcl
  · have hthrows := hfired.pushQuiet (show ∀ i ∈ [Instr.throw], i.isBound = false ∧
      i.closes = false by simp [Instr.isBound, Instr.closes])
    exact hthrows

theorem socketClose (h : Open s []) (hphase : LoginPhase s [] ∨ RequestPhase s []) :
    OpenOrFinal (s.socketClose c).1 (s.socketClose c).2 := by
  unfold Connection.socketClose
  split
  · next hstate =>
    have hthreads : threads s [] = 0 := by
      rcases hphase with hlogin | hrequest
      · exact hlogin.idle (.inr (.inl hstate))
      · rcases hrequest.state with hst | hst | hst | hst <;> cases hstate.symm.trans hst
    have hconnecting := h.toConnecting (c := c) hthreads (by rw [hstate]; rfl) (by simp [hstate])
      (by simp)
    rw [List.append_nil] at hconnecting
    have hdispatched : s.dispatchEvent c .reconnect = s.transitionTo c .CONNECTING := by
      simp [Connection.dispatchEvent, eventHandler, hstate]
    rw [hdispatched]
    exact .inr hconnecting
  · split
    · next hstate =>
      have hdispatched : s.dispatchEvent c .retry = ({ s with retryTimer := true }, []) := by
        simp [Connection.dispatchEvent, eventHandler, hstate]
      rw [hdispatched]
      exact .inr { h with retrying := fun _ => hstate }
    · exact .inl (state_transitionTo _)

theorem socketError (h : Open s []) (hclosed : s.closed = false) (err : Err) :
    Open (s.socketError c err).1 (s.socketError c err).2 := by
  have hpushed := h.push (show ∀ i ∈ (s.socketError c err).2, i.isBound = false by
    simp [Connection.socketError, Instr.isBound]) fun _ => h.closable hclosed
  rwa [List.append_nil] at hpushed

theorem handle (h : Open s rest) (hphase : LoginPhase s rest ∨ RequestPhase s rest)
    (hopen : s.state ≠ .FINAL) {event : Event} (henabled : s.enabled event = true)
    (hrest : event.isCall = true ∨ rest = [])
    (hcloses : s.closed = true → s.closesBy event = false) :
    OpenOrFinal (s.handle c event).1 ((s.handle c event).2 ++ rest) := by
  have hnil : event.isCall = false → rest = [] := fun hcall =>
    hrest.resolve_left (by simp [hcall])
  have hclosed : s.closesBy event = true → s.closed = false := fun hby =>
    Bool.eq_false_iff.2 fun hcl => Bool.false_ne_true ((hcloses hcl).symm.trans hby)
  cases event with
  | connect => exact .inr (h.connect hphase)
  | close => exact .inl (state_transitionTo _)
  | cancel =>
    show OpenOrFinal s.cancel.1 (s.cancel.2 ++ rest)
    unfold Connection.cancel
    split
    · exact .inr (h.cancelRequest _)
    · exact .inr h
  | cancelRequest r => exact .inr (h.cancelRequest r)
  | setTimeout r timeout => exact .inr { h with }
  | makeRequest r type => exact .inr (h.makeRequest r type)
  | prepare r =>
    have h' : Open (s.updateRequest r fun request =>
        { request with preparing := true, prepared := request.prepared + 1 }) rest := { h with }
    exact .inr (h'.makeRequest r _)
  | reset =>
    have h' : Open { s with
        resetConnectionOnNextRequest := true, trace := .resetCalled :: s.trace } rest := { h with }
    exact .inr (h'.makeRequest _ _)
  | connectTimer =>
    obtain rfl := hnil rfl
    have haborted : Open { s with connectTimer := false, pending := s.pending.map Pending.abort }
        [] := by
      refine h.same rfl rfl rfl ?_ (fun _ => id) id (by simp)
      intro p hp
      obtain ⟨q, hq, rfl⟩ := List.mem_map.1 hp
      exact ⟨q, hq, by cases q <;> rfl⟩
    refine .inr (haborted.push ?_ fun _ => h.closable (hclosed rfl))
    simp [Connection.handle, connectTimeout, Instr.isBound]
  | requestTimer =>
    obtain rfl := hnil rfl
    rw [List.append_nil]
    exact .inr h.requestTimeout
  | cancelTimer =>
    obtain rfl := hnil rfl
    have h' : Open { s with cancelTimerArmed := false } [] := { h with }
    exact h'.dispatchEvent (h.closable (hclosed rfl)) (.inr ⟨_, rfl⟩)
  | retryTimer =>
    obtain rfl := hnil rfl
    -- the timer runs in `TRANSIENT_FAILURE_RETRY` only, where the connection is closed already
    have hstate := h.retrying (.inl henabled)
    refine .inr { h with
      unclosed := fun hcl => absurd hstate (h.closable hcl).2.2
      retrying := fun _ => hstate
      closing := by simp [Connection.handle, retryTimeout, Instr.closes]
      cleaning := by simp [Connection.handle, retryTimeout] }
  | socketError err =>
    obtain rfl := hnil rfl
    rw [List.append_nil]
    exact .inr (h.socketError (hclosed rfl) err)
  | socketEnd =>
    obtain rfl := hnil rfl
    rw [List.append_nil]
    show OpenOrFinal (s.socketEnd c).1 (s.socketEnd c).2
    unfold Connection.socketEnd
    rw [if_neg hopen]
    exact .inr (h.socketError (hclosed rfl) _)
  | socketClose =>
    obtain rfl := hnil rfl
    rw [List.append_nil]
    exact h.socketClose hphase
  | payloadEnd call => exact .inr { h with }
  | payloadError call err => exact .inr { h with }
  | finish call => exact .inr { h with }
  | tick t =>
    obtain rfl := hnil rfl
    have herased : Open { s with ticks := s.ticks.erase t } [] :=
      h.same rfl rfl rfl (fun p hp => ⟨p, hp, rfl⟩) (fun _ => List.mem_of_mem_erase) id id
    cases t with
    | socketError err =>
      rw [List.append_nil]
      exact .inr (herased.socketError (hclosed rfl) err)
    | _ =>
      refine .inr (herased.pushQuiet ?_)
      simp [Connection.handle, onTick, Instr.isBound, Instr.closes]
  | resume p outcome =>
    obtain rfl := hnil rfl
    obtain ⟨hp, haccepts⟩ := (Bool.and_eq_true _ _).mp henabled
    rw [List.append_nil]
    exact .inr (h.resume hphase hopen (of_decide_eq_true hp) haccepts)

end Open

/-! ### After `'connect'` -/

namespace Settled

/-- The state stays the same, and nothing begins. -/
theorem still {s' : Connection} {is : List Instr} (h : Settled s rest)
    (hstate : s'.state = s.state) (hpending : s.pending = [] → s'.pending = [])
    (htimer : s'.connectTimer = s.connectTimer)
    (hticks : ∀ err, .socketError err ∈ s'.ticks → .socketError err ∈ s.ticks) :
    Settled s' (is ++ rest) := by
  cases h with
  | final h => exact .final (hstate.trans h)
  | closing h =>
    obtain ⟨i, hi, hcl⟩ := h
    exact .closing ⟨i, List.mem_append_right _ hi, hcl⟩
  | loggedIn h => exact .loggedIn (hstate ▸ h)
  | failed h₁ h₂ h₃ h₄ =>
    exact .failed (hstate.trans h₁) (hpending h₂) (htimer.trans h₃) fun err ht =>
      h₄ err (hticks err ht)

theorem of_requestPhase (h : RequestPhase s rest) : Settled s rest := by
  by_cases hfinal : s.state = .FINAL
  · exact .final hfinal
  · exact .loggedIn (h.isLoggedIn hfinal)

/-- One of the instructions closes the connection. -/
theorem of_mem {i : Instr} {stack : List Instr} (hi : i ∈ stack) (hcl : i.closes = true) :
    Settled s stack := .closing ⟨i, hi, hcl⟩

theorem exec {i : Instr} (h : Settled s (i :: rest)) (hopened : OpenOrFinal s (i :: rest))
    (horderly : Orderly s (i :: rest))
    (hphase : LoginPhase s (i :: rest) ∨ RequestPhase s (i :: rest)) :
    Settled (exec c i s).1 ((Connection.exec c i s).2 ++ rest) := by
  by_cases hfinal : s.state = .FINAL
  · exact .final (horderly.exec_final hfinal)
  have hopen := hopened.resolve_left hfinal
  have hdispatched : ∀ {r : Connection × List Instr},
      (r.1.state = .FINAL ∨ ∃ i ∈ r.2, i.closes = true) → Settled r.1 (r.2 ++ rest) := by
    rintro r (hf | ⟨i, hi, hcl⟩)
    · exact .final hf
    · exact of_mem (List.mem_append_left _ hi) hcl
  cases hcloses : i.closes with
  | true =>
    cases i with
    | enterFinal => exact .final (state_transitionTo _)
    | dispatchSocketError err => exact hdispatched (dispatchEvent_closes (.inr ⟨err, rfl⟩))
    | afterConnectTimeout => exact hdispatched (dispatchEvent_closes (.inl rfl))
    | _ => cases hcloses
  | false =>
    cases hleaves : i.leaves with
    | false =>
      obtain ⟨hstate, hpending, htimer, hticks⟩ := exec_still (c := c) (s := s) hcloses hleaves
      -- what closes the connection is still on the stack, as the instruction taken does not
      have hrest : Settled s rest := by
        cases h with
        | final h => exact .final h
        | closing h =>
          obtain ⟨j, hj, hcl⟩ := h
          rcases List.mem_cons.1 hj with rfl | hj
          · rw [hcloses] at hcl
            cases hcl
          · exact of_mem hj hcl
        | loggedIn h => exact .loggedIn h
        | failed h₁ h₂ h₃ h₄ => exact .failed h₁ h₂ h₃ h₄
      exact hrest.still hstate hpending htimer fun err ht => hticks ▸ ht
    | true =>
      cases i with
      | enterConnecting =>
        -- in `TRANSIENT_FAILURE_RETRY` nothing is settled
        have hstate := hopen.retrying (.inr (List.mem_cons_self ..))
        cases h with
        | final h => exact absurd h hfinal
        | closing h => exact absurd hstate (hopen.closing h).2.2
        | loggedIn h =>
          rw [hstate] at h
          cases h
        | failed h => cases hstate.symm.trans h
      | cancelListener r l =>
        cases l with
        | response call => exact .loggedIn (by rw [show (Connection.exec c (.cancelListener r
            (.response call)) s).1.state = .SENT_ATTENTION from state_transitionTo _]; rfl)
        | _ => cases hleaves
      | _ => cases hleaves

/-- Nothing goes on with connecting once that has failed. -/
theorem change_failed {event : Event} (henters : Cause.enters (.event event) = [])
    (hresume : ∀ p outcome, event ≠ .resume p outcome) {s₁ s₂ : Connection}
    (hchange : Change c (.event event) s₁ s₂)
    (h : s₁.state = .CONNECTING ∧ s₁.pending = [] ∧ s₁.connectTimer = false ∧
      ∀ err, .socketError err ∉ s₁.ticks) :
    s₂.state = .CONNECTING ∧ s₂.pending = [] ∧ s₂.connectTimer = false ∧
      ∀ err, .socketError err ∉ s₂.ticks := by
  obtain ⟨hstate, hpending, htimer, hticks⟩ := h
  have hother : ∀ {p : Pending} {outcome : Outcome},
      (Cause.event event) ≠ .event (.resume p outcome) := fun hcause =>
    hresume _ _ (Cause.event.inj hcause)
  cases hchange with
  | take hcause => exact absurd hcause hother
  | due hcause =>
    exact ⟨hstate, hpending, htimer, fun err ht => hticks err (List.mem_of_mem_erase ht)⟩
  | enter hst =>
    rw [henters] at hst
    cases hst
  | await hcause => exact absurd hcause hother
  | report hcause => exact absurd hcause hother
  | abort => exact ⟨hstate, by simp [hpending], htimer, hticks⟩
  | unlisten hcause => cases hcause
  | setErrors hcause => cases hcause
  | disarm _ hconnect =>
    exact ⟨hstate, hpending, Bool.eq_false_iff.2 fun ht =>
      Bool.noConfusion (htimer.symm.trans (hconnect ht)), hticks⟩
  | connected hcause => exact absurd hcause hother
  | retry hcause => exact absurd hcause hother
  | defer =>
    refine ⟨hstate, hpending, htimer, fun err ht => ?_⟩
    rcases List.mem_append.1 ht with ht | ht
    · exact hticks err ht
    · cases List.mem_singleton.1 ht
  | serve _ _ _ _ hloggedIn => cases hstate.symm.trans hloggedIn
  | _ => exact ⟨hstate, hpending, htimer, hticks⟩

/-- Connecting has failed, and nothing is under way that could go on with it. -/
theorem handleFailed (hopen : Open s rest) (hstate : s.state = .CONNECTING)
    (hpending : s.pending = []) (htimer : s.connectTimer = false)
    (hticks : ∀ err, .socketError err ∉ s.ticks) {event : Event}
    (henabled : s.enabled event = true) :
    Settled (s.handle c event).1 ((s.handle c event).2 ++ rest) := by
  have hsame : Cause.enters (.event event) = [] → (∀ p outcome, event ≠ .resume p outcome) →
      Settled (s.handle c event).1 ((s.handle c event).2 ++ rest) := by
    intro henters hresume
    obtain ⟨h₁, h₂, h₃, h₄⟩ := (changes_handle event).keeps (P := fun s' =>
      s'.state = .CONNECTING ∧ s'.pending = [] ∧ s'.connectTimer = false ∧
        ∀ err, .socketError err ∉ s'.ticks) (change_failed (c := c) henters hresume)
      ⟨hstate, hpending, htimer, hticks⟩
    exact .failed h₁ h₂ h₃ h₄
  have hsocketError : ∀ err, Settled (s.socketError c err).1 ((s.socketError c err).2 ++ rest) :=
    fun err => of_mem (i := .dispatchSocketError err) (by simp [Connection.socketError]) rfl
  cases event with
  | connect =>
    show Settled (s.connect c).1 ((s.connect c).2 ++ rest)
    unfold Connection.connect
    rw [if_neg (by simp [hstate])]
    exact .failed hstate hpending htimer hticks
  | close => exact .final (state_transitionTo _)
  | connectTimer => cases htimer.symm.trans henabled
  | cancelTimer =>
    rcases dispatchEvent_closes (c := c) (s := { s with cancelTimerArmed := false })
      (.inr ⟨_, rfl⟩) with hf | ⟨i, hi, hcl⟩
    · exact .final hf
    · exact of_mem (List.mem_append_left _ hi) hcl
  | retryTimer => cases hstate.symm.trans (hopen.retrying (.inl henabled))
  | socketError err => exact hsocketError err
  | socketEnd =>
    show Settled (s.socketEnd c).1 ((s.socketEnd c).2 ++ rest)
    unfold Connection.socketEnd
    rw [if_neg (by simp [hstate])]
    exact hsocketError _
  | socketClose =>
    refine .final ?_
    show (s.socketClose c).1.state = .FINAL
    unfold Connection.socketClose
    rw [if_neg (by simp [hstate]), if_neg (by simp [hstate])]
    exact state_transitionTo _
  | resume p outcome =>
    have hp : p ∈ s.pending := of_decide_eq_true ((Bool.and_eq_true _ _).mp henabled).1
    rw [hpending] at hp
    cases hp
  | _ => exact hsame rfl (by simp)

/-- What is settled stays settled. -/
theorem handle (h : Settled s rest) (hopened : OpenOrFinal s rest) (horderly : Orderly s rest)
    (hphase : LoginPhase s rest ∨ RequestPhase s rest) {event : Event}
    (henabled : s.enabled event = true) (hrest : event.isCall = true ∨ rest = [])
    (htime : InTime c s rest event) :
    Settled (s.handle c event).1 ((s.handle c event).2 ++ rest) := by
  by_cases hfinal : s.state = .FINAL
  · exact .final ((horderly.handle hrest htime).2 hfinal)
  cases h with
  | final h => exact absurd h hfinal
  | closing h =>
    obtain ⟨i, hi, hcl⟩ := h
    exact of_mem (List.mem_append_right _ hi) hcl
  | loggedIn h =>
    have hrequest := hphase.elim (fun hlogin => hlogin.toRequestPhase h) id
    exact of_requestPhase (hrequest.handle henabled hrest)
  | failed h₁ h₂ h₃ h₄ =>
    exact handleFailed (hopened.resolve_left hfinal) h₁ h₂ h₃ h₄ henabled

/-- `'connect'` is emitted where it settles the connection. -/
theorem of_announces (hopened : OpenOrFinal s []) (hphase : LoginPhase s [] ∨ RequestPhase s [])
    {event : Event} (henabled : s.enabled event = true) (hannounces : announces c s event = true) :
    Settled (s.handle c event).1 (s.handle c event).2 := by
  have hsocketError : ∀ {s : Connection} (err : Err),
      Settled (s.socketError c err).1 (s.socketError c err).2 :=
    fun err => of_mem (i := .dispatchSocketError err) (by simp [Connection.socketError]) rfl
  cases event with
  | connectTimer => exact of_mem (i := .afterConnectTimeout) (by simp [Connection.handle,
      connectTimeout]) rfl
  | socketError err => exact hsocketError err
  | socketEnd =>
    show Settled (s.socketEnd c).1 (s.socketEnd c).2
    unfold Connection.socketEnd
    split
    · next hfinal => exact .final hfinal
    · exact hsocketError _
  | tick t =>
    cases t with
    | socketError err => exact hsocketError err
    | _ => cases hannounces
  | resume p outcome =>
    have hp : p ∈ s.pending := of_decide_eq_true ((Bool.and_eq_true _ _).mp henabled).1
    -- an instance that is not found leaves nothing under way that could connect any more
    by_cases hlookup : p = .instanceLookup false
    · subst hlookup
      cases outcome <;> cases hannounces
      rcases hopened with hfinal | hopen
      · exact .final hfinal
      have hstate := hopen.attempt _ hp rfl
      have hlogin : LoginPhase s [] := by
        refine hphase.resolve_right fun hrequest => ?_
        rcases hrequest.state with hst | hst | hst | hst <;> cases hstate.symm.trans hst
      have hticks : ∀ err, .socketError err ∉ s.ticks := fun err ht =>
        List.ne_nil_of_mem hp (hopen.failed err ht).2
      refine .failed hstate (threads_eq_zero.1 (hlogin.handler hp).threads_eq).1 rfl ?_
      simpa [Connection.handle, resume, instanceLookupFailed, nextTick] using hticks
    have hleft := remainder_resume (c := c) (s := { s with pending := s.pending.erase p }) p outcome
    have hnot : announces c { s with pending := s.pending.erase p } (.resume p outcome) ≠ false :=
      fun hquiet => Bool.noConfusion (hquiet.symm.trans hannounces)
    change Remainder c _ p outcome (s.handle c (.resume p outcome)) at hleft
    generalize s.handle c (.resume p outcome) = r at hleft ⊢
    cases hleft with
    | reports hquiet => exact absurd (hquiet hannounces) hlookup
    | connects _ his =>
      rcases his with rfl | ⟨err, rfl⟩ | ⟨rfl, hstate⟩
      · exact of_mem (i := .enterFinal) (by simp) rfl
      · exact of_mem (i := .dispatchSocketError err) (by simp) rfl
      · exact .loggedIn (by rw [hstate]; rfl)
    | cleans _ _ _ hquiet => exact absurd hquiet hnot
    | answers _ _ hquiet => exact absurd hquiet hnot
  | _ => cases hannounces

/-- A settled connection emits no other `'connect'`. -/
theorem announces_eq_false (h : Settled s []) (hopen : Open s [])
    (hphase : LoginPhase s [] ∨ RequestPhase s []) (hfinal : s.state ≠ .FINAL) {event : Event}
    (henabled : s.enabled event = true) (hcloses : s.closed = true → s.closesBy event = false) :
    announces c s event = false := by
  cases h with
  | final h => exact absurd h hfinal
  | closing h => simp at h
  | loggedIn h =>
    have hrefuses : s.refusesToConnect = false := by
      unfold refusesToConnect
      revert h
      cases s.state <;> simp [ConnectionState.isLoggedIn]
    have hrequest : RequestPhase s [] := hphase.elim (fun hlogin => hlogin.toRequestPhase h) id
    cases event with
    | connectTimer =>
      rw [hopen.connectTimer henabled] at h
      cases h
    | socketError err => exact hrefuses
    | socketEnd => exact hrefuses
    | tick t => cases t <;> first | rfl | exact hrefuses
    | resume p outcome =>
      have hp : p ∈ s.pending := of_decide_eq_true ((Bool.and_eq_true _ _).mp henabled).1
      have hlogin := hrequest.pending p hp
      cases p <;> cases hlogin <;> cases outcome <;> first | rfl | exact hrefuses
    | _ => rfl
  | failed hstate hpending htimer hticks =>
    -- a socket there has been before is closed, and its events would come too late
    have hsocket : 0 < s.messageIo.id → s.closed = true := by
      intro hid
      refine Bool.eq_true_of_not_eq_false fun hclosed => ?_
      rcases hopen.unclosed hclosed with ⟨-, hid'⟩ | hlive | ⟨hst, -⟩
      · omega
      · rw [hstate] at hlive
        cases hlive
      · cases hstate.symm.trans hst
    cases event with
    | connectTimer => cases htimer.symm.trans henabled
    | socketError err => cases hcloses (hsocket (of_decide_eq_true henabled))
    | socketEnd => cases hcloses (hsocket (of_decide_eq_true henabled))
    | tick t =>
      cases t with
      | socketError err => exact absurd (of_decide_eq_true henabled) (hticks err)
      | _ => rfl
    | resume p outcome =>
      have hp : p ∈ s.pending := of_decide_eq_true ((Bool.and_eq_true _ _).mp henabled).1
      rw [hpending] at hp
      cases hp
    | _ => rfl

end Settled

/-- Only an event that closes the connection enters `FINAL`. -/
theorem closesBy_of_handle {event : Event} (henabled : s.enabled event = true)
    (hs : s.state ≠ .FINAL) (hs' : (s.handle c event).1.state = .FINAL) :
    s.closesBy event = true := by
  cases hclose : event.mayClose with
  | false =>
    have hadds := Adds.handle (a := true) (b := true) (c := c) henabled hclose
    exact absurd (hadds.notFinal hs') hs
  | true =>
    cases event with
    | close => rfl
    | cancelTimer => rfl
    | socketClose =>
      by_cases hrerouting : s.state = .REROUTING
      · have hdispatched : s.socketClose c = s.transitionTo c .CONNECTING := by
          simp [socketClose, dispatchEvent, eventHandler, hrerouting]
        rw [show s.handle c .socketClose = s.socketClose c from rfl, hdispatched,
          state_transitionTo] at hs'
        cases hs'
      by_cases hretry : s.state = .TRANSIENT_FAILURE_RETRY
      · have hdispatched : s.socketClose c = ({ s with retryTimer := true }, []) := by
          simp [socketClose, dispatchEvent, eventHandler, hretry]
        rw [show s.handle c .socketClose = s.socketClose c from rfl, hdispatched] at hs'
        exact absurd hs' hs
      simp [closesBy, hrerouting, hretry]
    | _ => cases hclose

/-- The user's calls do not emit `'connect'`. -/
theorem isCall_of_announces {event : Event} (h : announces c s event = true) :
    event.isCall = false := by
  cases event <;> first | rfl | cases h

/-! ### Every run -/

/-- What holds all along a run in which everything happens in time. -/
structure Lifecycle (s : Connection) (stack : List Instr) : Prop where
  orderly : Orderly s stack
  phase : LoginPhase s stack ∨ RequestPhase s stack
  opened : OpenOrFinal s stack
  ends : emissions true false s stack = (s.state = .FINAL : Bool).toNat
  connects : emissions false true s stack ≤ 1
  settled : 0 < emissions false true s stack → Settled s stack

namespace Lifecycle

/-- Only a connection whose `closed` is not set comes to `FINAL`. -/
theorem ends_of_step {s' : Connection} {stack stack' : List Instr} (h : Lifecycle s stack)
    (hemissions : emissions true false s' stack' =
      emissions true false s stack + (s.closes s').toNat)
    (hfinal : s.state = .FINAL → s'.state = .FINAL)
    (hclosed : s'.state = .FINAL → s.state ≠ .FINAL → s.closed = false) :
    emissions true false s' stack' = (s'.state = .FINAL : Bool).toNat := by
  rw [hemissions, h.ends]
  by_cases hs : s.state = .FINAL
  · simp [closes, hs, hfinal hs]
  · by_cases hs' : s'.state = .FINAL
    · simp [closes, hs, hs', hclosed hs' hs]
    · simp [closes, hs, hs']

theorem exec {i : Instr} (h : Lifecycle s (i :: rest)) :
    Lifecycle (exec c i s).1 ((Connection.exec c i s).2 ++ rest) := by
  have hconnect : emissions false true _ (_ ++ rest) = _ := emissions_exec (c := c) (s := s) i
  have hend : emissions true false _ (_ ++ rest) = _ := emissions_exec (c := c) (s := s) i
  simp only [Bool.false_and, Bool.toNat_false, Nat.add_zero] at hconnect
  simp only [Bool.true_and] at hend
  constructor
  · exact h.orderly.exec
  · exact h.phase.imp LoginPhase.exec RequestPhase.exec
  · by_cases hfinal : s.state = .FINAL
    · exact .inl (h.orderly.exec_final hfinal)
    · exact (h.opened.resolve_left hfinal).exec h.phase hfinal
  · refine h.ends_of_step hend h.orderly.exec_final fun hs' hs => ?_
    have hcloses : i.closes = true := by
      refine Bool.eq_true_of_not_eq_false fun hcloses => hs ?_
      cases hleaves : i.leaves with
      | false => exact (exec_still hcloses hleaves).1.symm.trans hs'
      | true => exact absurd hs' (exec_leaves hleaves)
    exact ((h.opened.resolve_left hs).closing ⟨i, List.mem_cons_self .., hcloses⟩).1
  · rw [hconnect]
    exact h.connects
  · rw [hconnect]
    exact fun hpos => (h.settled hpos).exec h.opened h.orderly h.phase

theorem handle (h : Lifecycle s rest) {event : Event} (henabled : s.enabled event = true)
    (hrest : event.isCall = true ∨ rest = []) (htimely : Timely c s rest event) :
    Lifecycle (s.handle c event).1 ((s.handle c event).2 ++ rest) := by
  have hconnect : emissions false true _ (_ ++ rest) = _ := emissions_handle (c := c) henabled
  have hend : emissions true false _ (_ ++ rest) = _ := emissions_handle (c := c) henabled
  simp only [Bool.false_and, Bool.true_and, Bool.toNat_false, Nat.add_zero] at hconnect hend
  obtain ⟨htime, hcloses, honce⟩ := htimely
  obtain ⟨horderly, hfinal⟩ := h.orderly.handle hrest htime
  have hnil : announces c s event = true → rest = [] := fun hannounces =>
    hrest.resolve_left (by simp [isCall_of_announces hannounces])
  -- no other `'connect'` after the first
  have hannounces : announces c s event = true → emissions false true s rest = 0 := by
    intro hannounces
    by_contra hne
    have hpos := Nat.pos_of_ne_zero hne
    obtain rfl := hnil hannounces
    by_cases hs : s.state = .FINAL
    · rw [honce hs hpos] at hannounces
      cases hannounces
    · rw [(h.settled hpos).announces_eq_false (h.opened.resolve_left hs) h.phase hs henabled
        fun hcl => hcloses hcl hs] at hannounces
      cases hannounces
  constructor
  · exact horderly
  · exact phase_handle h.phase henabled hrest
  · by_cases hs : s.state = .FINAL
    · exact .inl (hfinal hs)
    · exact (h.opened.resolve_left hs).handle h.phase hs henabled hrest fun hcl => hcloses hcl hs
  · refine h.ends_of_step hend hfinal fun hs' hs => ?_
    refine Bool.eq_false_iff.2 fun hcl => ?_
    exact Bool.false_ne_true ((hcloses hcl hs).symm.trans (closesBy_of_handle henabled hs hs'))
  · rw [hconnect]
    cases hb : announces c s event with
    | false => exact h.connects
    | true =>
      rw [hannounces hb]
      decide
  · intro hpos
    cases hb : announces c s event with
    | false =>
      rw [hconnect, hb] at hpos
      exact (h.settled hpos).handle h.opened h.orderly h.phase henabled hrest htime
    | true =>
      obtain rfl := hnil hb
      rw [List.append_nil]
      exact .of_announces h.opened h.phase henabled hb

end Lifecycle

theorem lifecycle_of_runsTo {moves : List (Move Event)} {k : Config Connection Instr}
    (h : RunsTo c (Timely c) moves k) : Lifecycle k.state k.stack := by
  refine Component.invariant (I := Lifecycle) ?_ ?_ h ?_
  · intro i s rest hlife
    exact hlife.exec
  · intro event s stack s' is hlife hadmits htimely hstart
    obtain ⟨henabled, hhandle⟩ := start_eq_some hstart
    obtain ⟨rfl, rfl⟩ := Prod.mk.inj hhandle
    exact hlife.handle henabled (isCall_or_eq_nil hadmits) htimely
  · exact {
      orderly := ⟨.nil, by simp⟩
      phase := .inl loginPhase_new
      opened := .inr (by constructor <;> simp [Connection.new])
      ends := rfl
      connects := Nat.zero_le 1
      settled := fun hpos => absurd hpos (by decide) }

/-- What a connection promises about `'connect'` and `'end'`; an `'end'` may still be
scheduled, or due. -/
structure EmitsOnce (s : Connection) (stack : List Instr) : Prop where
  connects : s.trace.countP (Trace.emits false true) ≤ 1
  ends : s.trace.countP (Trace.emits true false) ≤ 1
  final : s.state = .FINAL → 0 < emissions true false s stack

instance (s : Connection) (stack : List Instr) : Decidable (EmitsOnce s stack) :=
  decidable_of_iff (s.trace.countP (Trace.emits false true) ≤ 1 ∧
    s.trace.countP (Trace.emits true false) ≤ 1 ∧
      (s.state = .FINAL → 0 < emissions true false s stack))
    ⟨fun h => ⟨h.1, h.2.1, h.2.2⟩, fun h => ⟨h.connects, h.ends, h.final⟩⟩

theorem countP_trace_le (s : Connection) (stack : List Instr) :
    s.trace.countP (Trace.emits a b) ≤ emissions a b s stack := by
  unfold emissions
  omega

/-- **`'connect'` and `'end'`** are emitted at most once, and `FINAL` is never without
`'end'`, in the runs of a connection in which everything happens in time. -/
theorem emitted_once {moves : List (Move Event)} {k : Config Connection Instr}
    (h : RunsTo c (Timely c) moves k) : EmitsOnce k.state k.stack := by
  have hlife := lifecycle_of_runsTo h
  constructor
  · exact (countP_trace_le _ _).trans hlife.connects
  · refine (countP_trace_le _ k.stack).trans ?_
    rw [hlife.ends]
    exact Bool.toNat_le _
  · intro hfinal
    rw [hlife.ends]
    simp [hfinal]

/-- A connection that has logged in is closed. -/
theorem emitted_once_closed : ∃ k, RunsTo exampleConfig (Timely exampleConfig)
    (loggedInMoves ++ [.event .close, .event (.tick .emitEnd), .next, .next]) k ∧
      k.state.state = .FINAL ∧ EmitsOnce k.state k.stack := by
  obtain ⟨k, hk, hfinal⟩ := @exists_runsTo exampleConfig (Timely exampleConfig) _
    (loggedInMoves ++ [.event .close, .event (.tick .emitEnd), .next, .next])
    (fun k => k.state.state = .FINAL) (by decide)
  exact ⟨k, hk, of_decide_eq_true hfinal, emitted_once hk⟩

/-- A login is routed to another host, and the connection is closed before it connects to
that host. -/
def closedMoves : List (Move Event) :=
  let routed : Login7TokenHandler :=
    { Login7TokenHandler.new with
      routingData := some { server := JsString.ofString "replica", port := 1433 } }
  [.event .connect, .event (.resume (.connect false) .done),
    .event (.resume .prelogin (.data preloginOn)), .event (.resume (.startTls 1) .done),
    .event (.resume (.loginMessage .standard) .done),
    .event (.resume (.loginTokens .standard .new)
      (.token (.envChange (.routing 0 1433 (JsString.ofString "replica") [])))),
    .event (.resume (.loginTokens .standard routed) (.token (.loginAck exampleLoginAck))),
    .event (.resume (.loginTokens .standard { routed with loginAckReceived := true }) .done),
    .next, .next, .next, .event .close]

/-- It never emits `'end'`. -/
theorem end_missing : ¬∀ (c : ConnectionConfig) (moves : List (Move Event))
    (k : Config Connection Instr), RunsTo c (fun _ _ _ => True) moves k →
      EmitsOnce k.state k.stack := by
  intro h
  obtain ⟨k, hk, hmissing⟩ := @exists_runsTo exampleConfig (fun _ _ _ => True) _ closedMoves
    (fun k => !EmitsOnce k.state k.stack) (by decide)
  rw [decide_eq_true (h exampleConfig closedMoves k hk)] at hmissing
  cases hmissing

end Connection

end Tedious
