import Tedious.Connecting.Sockets
import Tedious.Lib.Machine

/-!
# Tedious.Connecting.Sequence

`connectInSequence` (`connector.ts`): one address after the other, until a socket connects. The
promise is a machine: the lookup, the attempts, an abort at any time, and the continuations that are
due.

`Outlook` says what the events call for. The machine keeps to it (`connectInSequence_agrees`) as
long as no abort comes while a continuation is due: then nobody listens to the signal.
-/

namespace Tedious

open Chunked

/-- How an attempt ends. -/
inductive Attempt
  | connected (i : Nat)
  | aborted
  | failed (err : Failure)

/-- Where the promise is: the addresses are looked up; the lookup is settled, and the function has
not gone on; a socket is connecting, with the addresses behind its own; the attempt is settled, and
the function has not gone on; or all is over, with the number of a socket. -/
inductive SequencePhase
  | lookup
  | looked (result : Except Rejection (List LookupAddress))
  | connecting (rest : List LookupAddress)
  | attempted (result : Attempt) (rest : List LookupAddress)
  | done (result : Except Rejection Nat)

/-- The promise, with the sockets in the order in which they were created. -/
structure ConnectInSequence where
  phase : SequencePhase
  sockets : List TcpSocket
  errors : List Failure
  /-- `signal.aborted`. -/
  aborted : Bool
  onAbort : Bool

namespace ConnectInSequence

variable (hosts : Hosts) (options : ConnectOptions)

def couldNotConnect (errors : List Failure) : Rejection :=
  .aggregateError errors (JsString.ofString "Could not connect (sequence)")

/-- `connectInSequence`, up to the first time it waits. -/
def start (aborted : Bool) : ConnectInSequence :=
  if aborted then
    { phase := .done (.error .abortError), sockets := [], errors := [], aborted, onAbort := false }
  else
    match hosts.address options.host with
    | some address =>
      { phase := .looked (.ok [address]), sockets := [], errors := [], aborted, onAbort := false }
    | none => { phase := .lookup, sockets := [], errors := [], aborted, onAbort := true }

/-- The head of the loop: the next address, or the end. -/
def attempt (s : ConnectInSequence) : List LookupAddress → ConnectInSequence
  | address :: rest =>
    { s with
      phase := .connecting rest
      sockets := s.sockets ++ [TcpSocket.connect options address]
      onAbort := true }
  | [] => { s with phase := .done (.error (couldNotConnect s.errors)) }

/-- `lookupAllAddresses` listens until the answer. -/
def onLookedUp (result : Except Failure (List LookupAddress)) (s : ConnectInSequence) :
    ConnectInSequence :=
  match s.phase with
  | .lookup => { s with
      phase := .looked (result.mapError .failure)
      onAbort := false }
  | _ => s

/-- The listeners of an attempt take themselves off. -/
def settle (i : Nat) (socket : TcpSocket) (result : Attempt) (s : ConnectInSequence) :
    ConnectInSequence :=
  match s.phase with
  | .connecting rest => { s with
      phase := .attempted result rest
      sockets := s.sockets.set i socket
      onAbort := false }
  | _ => s

/-- The promise is settled. -/
def result (s : ConnectInSequence) : Option (Except Rejection Nat) :=
  match s.phase with
  | .done result => some result
  | .lookup | .looked _ | .connecting _ | .attempted .. => none

/-- What hears an abort. -/
def onAbortListener (s : ConnectInSequence) : ConnectInSequence :=
  match s.phase with
  | .lookup => { s with phase := .looked (.error .abortError) }
  | .connecting rest => { s with
      phase := .attempted .aborted rest
      sockets := s.sockets.modify (s.sockets.length - 1) fun socket =>
        socket.removeListeners.destroy }
  | _ => s

/-- `controller.abort()`. -/
def signalAbort (s : ConnectInSequence) : ConnectInSequence :=
  let s := { s with aborted := true }
  if s.onAbort then { s with onAbort := false }.onAbortListener else s

def step (s : ConnectInSequence) : ConnectEvent → Option ConnectInSequence
  | .lookedUp result => some (s.onLookedUp result)
  | .connect i =>
    s.sockets[i]?.map fun socket =>
      if socket.onConnect then s.settle i socket.removeListeners (.connected i) else s
  | .error i err =>
    s.sockets[i]?.map fun socket =>
      if socket.onError then s.settle i socket.removeListeners.destroy (.failed err) else s
  | .abort =>
    if s.aborted ∨ s.result ≠ none then none else some s.signalAbort
  | .tick =>
    match s.phase with
    | .looked (.error e) => some { s with phase := .done (.error e) }
    | .looked (.ok addresses) => some (s.attempt options addresses)
    | .attempted (.connected i) _ => some { s with phase := .done (.ok i) }
    | .attempted .aborted _ => some { s with phase := .done (.error .abortError) }
    | .attempted (.failed err) rest =>
      if err.name = some (JsString.ofString "AbortError") then
        some { s with phase := .done (.error (.failure err)) }
      else some ({ s with errors := s.errors ++ [err] }.attempt options rest)
    | .lookup | .connecting _ | .done _ => none

def machine : Machine ConnectInSequence ConnectEvent where
  step := step options

end ConnectInSequence

/-! ### What the events call for -/

/-- The addresses once they are there, the errors of the attempts, and the result if an event has
decided it. -/
structure Outlook where
  addresses : Option (List LookupAddress)
  failures : List Failure
  result : Option (Except Rejection Nat)

namespace Outlook

variable (hosts : Hosts) (options : ConnectOptions)

def start (aborted : Bool) : Outlook where
  addresses := (hosts.address options.host).map ([·])
  failures := []
  result := if aborted then some (.error .abortError) else none

/-- The first `connect`, an abort, or an error of the lookup decides. Only the socket of the address
behind those that have failed is listened to. -/
def react (o : Outlook) (e : ConnectEvent) : Outlook :=
  match o.result with
  | some _ => o
  | none =>
    match e with
    | .lookedUp result =>
      if o.addresses ≠ none then o
      else match result with
        | .ok addresses => { o with addresses := some addresses }
        | .error err => { o with result := some (.error (.failure err)) }
    | .connect i => if i = o.failures.length then { o with result := some (.ok i) } else o
    | .error i err =>
      if i = o.failures.length then { o with failures := o.failures ++ [err] } else o
    | .abort => { o with result := some (.error .abortError) }
    | .tick => o

/-- What has become of the socket of an address. -/
def Status (o : Outlook) (i : Nat) (socket : TcpSocket) : Prop :=
  match o.result with
  | none => if i = o.failures.length then socket.IsConnecting else socket.IsDestroyed
  | some (.ok j) => if i = j then socket.IsHandedOver else socket.IsDestroyed
  | some (.error _) => socket.IsDestroyed

/-- The result of the promise: the one that was decided, or all errors in their order when each
address has failed. -/
def Calls (o : Outlook) (result : Except Rejection Nat) : Prop :=
  match o.result with
  | some decided => result = decided
  | none => o.addresses.map List.length = some o.failures.length ∧
      result = .error (ConnectInSequence.couldNotConnect o.failures)

end Outlook

namespace ConnectInSequence

variable (hosts : Hosts) (options : ConnectOptions)

/-- The sockets are those of the first addresses, no more than one beyond the failures; each of them
is as the outlook has it, and so is the result. -/
structure Agrees (o : Outlook) (s : ConnectInSequence) : Prop where
  inOrder : s.sockets.map TcpSocket.address <+: o.addresses.getD []
  oneAtATime : s.sockets.length ≤ o.failures.length + 1
  status : ∀ i socket, s.sockets[i]? = some socket → o.Status i socket
  settles_iff : ∀ result, (machine options).SettlesWith .tick ConnectInSequence.result s result ↔
    o.Calls result

/-- A run keeps to the outlook of its events, and opens no socket any more when that is decided. -/
structure TriesInOrder (aborted : Bool) (events : List ConnectEvent) (s : ConnectInSequence) :
    Prop where
  agrees : Agrees options (events.foldl Outlook.react (Outlook.start hosts options aborted)) s
  quiet : ∀ before after s₁, events = before ++ after →
    (machine options).Runs (start hosts options aborted) before s₁ →
    (before.foldl Outlook.react (Outlook.start hosts options aborted)).result ≠ none →
      s.sockets.length = s₁.sockets.length

/-- No error of a socket has the name of an abort. -/
def NamesApart (_ : ConnectInSequence) : ConnectEvent → Prop
  | .error _ err => err.name ≠ some (JsString.ofString "AbortError")
  | _ => True

/-- And no abort comes between the answer of the lookup or an error and what follows it. -/
def Heard (s : ConnectInSequence) : ConnectEvent → Prop
  | .abort =>
    match s.phase with
    | .looked (.ok _) | .attempted (.failed _) _ => False
    | _ => True
  | e => NamesApart s e

/-- What each phase has to do with the outlook. -/
def Suits (o : Outlook) (s : ConnectInSequence) : SequencePhase → Prop
  | .lookup => o = { addresses := none, failures := [], result := none } ∧ s.sockets = [] ∧
      s.errors = [] ∧ s.aborted = false ∧ s.onAbort = true
  | .looked (.ok addresses) => o = { addresses := some addresses, failures := [], result := none } ∧
      s.sockets = [] ∧ s.errors = [] ∧ s.aborted = false
  | .looked (.error e) => o.result = some (.error e)
  | .connecting rest => o.result = none ∧ o.failures = s.errors ∧
      s.sockets.length = o.failures.length + 1 ∧
      o.addresses = some (s.sockets.map TcpSocket.address ++ rest) ∧ s.aborted = false ∧
      s.onAbort = true
  | .attempted (.connected i) _ => o.result = some (.ok i)
  | .attempted .aborted _ => o.result = some (.error .abortError)
  | .attempted (.failed err) rest => o.result = none ∧ o.failures = s.errors ++ [err] ∧
      s.sockets.length = o.failures.length ∧
      o.addresses = some (s.sockets.map TcpSocket.address ++ rest) ∧ s.aborted = false ∧
      err.name ≠ some (JsString.ofString "AbortError")
  | .done result => o.Calls result

structure Invariant (o : Outlook) (s : ConnectInSequence) : Prop where
  inOrder : s.sockets.map TcpSocket.address <+: o.addresses.getD []
  oneAtATime : s.sockets.length ≤ o.failures.length + 1
  status : ∀ i socket, s.sockets[i]? = some socket → o.Status i socket
  suits : Suits o s s.phase

variable {hosts options} {o : Outlook} {s : ConnectInSequence}

/-! ### Sockets -/

theorem status_cases {i : Nat} {socket : TcpSocket} (h : o.Status i socket) :
    (o.result = none ∧ i = o.failures.length) ∧ socket.IsConnecting ∨
      ¬ (o.result = none ∧ i = o.failures.length) ∧
        (socket.IsHandedOver ∨ socket.IsDestroyed) := by
  unfold Outlook.Status at h
  split at h
  · next hresult =>
    split at h
    · next hi => exact .inl ⟨⟨hresult, hi⟩, h⟩
    · next hi => exact .inr ⟨fun h => hi h.2, .inr h⟩
  · next hresult =>
    refine .inr ⟨fun h => Option.some_ne_none _ (hresult.symm.trans h.1), ?_⟩
    split at h
    · exact .inl h
    · exact .inr h
  · next hresult =>
    exact .inr ⟨fun h => Option.some_ne_none _ (hresult.symm.trans h.1), .inr h⟩

/-- A socket is listened to while it is the one that is waited for. -/
theorem onConnect_iff {i : Nat} {socket : TcpSocket} (h : o.Status i socket) :
    socket.onConnect = true ↔ o.result = none ∧ i = o.failures.length := by
  rcases status_cases h with ⟨hcurrent, hsocket⟩ | ⟨hother, hsocket | hsocket⟩
  · exact iff_of_true hsocket.onConnect hcurrent
  all_goals exact iff_of_false (by rw [hsocket.onConnect]; decide) hother

theorem onError_iff {i : Nat} {socket : TcpSocket} (h : o.Status i socket) :
    socket.onError = true ↔ o.result = none ∧ i = o.failures.length := by
  rcases status_cases h with ⟨hcurrent, hsocket⟩ | ⟨hother, hsocket | hsocket⟩
  · exact iff_of_true hsocket.onError hcurrent
  all_goals exact iff_of_false (by rw [hsocket.onError]; decide) hother

theorem map_address_modify (sockets : List TcpSocket) (i : Nat) :
    (sockets.modify i fun socket => socket.removeListeners.destroy).map TcpSocket.address =
      sockets.map TcpSocket.address := by
  apply List.ext_getElem?
  intro j
  rw [List.getElem?_map, List.getElem?_map, List.getElem?_modify, Option.map_eq_map, Option.map_map]
  congr 1
  funext socket
  rw [Function.comp_apply]
  split <;> rfl

/-- The only socket that is listened to is the one of the attempt. -/
theorem Invariant.connecting (h : Invariant o s) {i : Nat} {socket : TcpSocket}
    (hsocket : s.sockets[i]? = some socket) (hresult : o.result = none)
    (hi : i = o.failures.length) : ∃ rest, s.phase = .connecting rest := by
  obtain ⟨hlt, -⟩ := List.getElem?_eq_some_iff.1 hsocket
  have hsuits := h.suits
  cases hphase : s.phase with
  | lookup =>
    rw [hphase] at hsuits
    rw [hsuits.2.1] at hsocket
    cases hsocket
  | connecting rest => exact ⟨rest, rfl⟩
  | looked result =>
    rw [hphase] at hsuits
    cases result with
    | ok addresses =>
      rw [hsuits.2.1] at hsocket
      cases hsocket
    | error e =>
      rw [Suits, hresult] at hsuits
      cases hsuits
  | attempted result rest =>
    rw [hphase] at hsuits
    cases result with
    | connected i =>
      rw [Suits, hresult] at hsuits
      cases hsuits
    | aborted =>
      rw [Suits, hresult] at hsuits
      cases hsuits
    | failed err =>
      have hlength := hsuits.2.2.1
      omega
  | done result =>
    rw [hphase, Suits, Outlook.Calls, hresult] at hsuits
    obtain ⟨addresses, haddresses, hlength⟩ := Option.map_eq_some_iff.1 hsuits.1
    have hle := h.inOrder.length_le
    rw [haddresses, Option.getD_some, List.length_map] at hle
    omega

/-! ### Steps -/

/-- The head of the loop, when all sockets so far have been given up. -/
theorem attempt_invariant {rest : List LookupAddress} (hresult : o.result = none)
    (hfailures : o.failures = s.errors) (hlength : s.sockets.length = o.failures.length)
    (haddresses : o.addresses = some (s.sockets.map TcpSocket.address ++ rest))
    (haborted : s.aborted = false)
    (hstatus : ∀ i socket, s.sockets[i]? = some socket → o.Status i socket) :
    Invariant o (s.attempt options rest) := by
  cases rest with
  | nil =>
    refine ⟨?_, ?_, hstatus, ?_⟩
    · rw [haddresses, Option.getD_some, List.append_nil]
      exact List.prefix_rfl
    · exact hlength ▸ Nat.le_succ _
    · rw [List.append_nil] at haddresses
      rw [attempt, Suits, Outlook.Calls, hresult, haddresses, Option.map_some, List.length_map,
        hlength, hfailures]
      exact ⟨rfl, rfl⟩
  | cons address rest =>
    have hmap : (s.sockets ++ [TcpSocket.connect options address]).map TcpSocket.address =
        s.sockets.map TcpSocket.address ++ [address] := List.map_append
    refine ⟨?_, ?_, ?_, hresult, hfailures, ?_, ?_, haborted, rfl⟩
    · show (s.sockets ++ [TcpSocket.connect options address]).map TcpSocket.address <+: _
      rw [hmap, haddresses, Option.getD_some]
      exact ⟨rest, by rw [List.append_assoc]; rfl⟩
    · exact (List.length_append.trans (congrArg (· + 1) hlength)).le
    · intro i socket hsocket
      change (s.sockets ++ [TcpSocket.connect options address])[i]? = some socket at hsocket
      rw [List.getElem?_append] at hsocket
      split at hsocket
      · exact hstatus i socket hsocket
      · next hge =>
        obtain ⟨hi, rfl⟩ := List.getElem?_eq_some_iff.1 hsocket
        rw [List.length_singleton] at hi
        have hlast : i = o.failures.length := by omega
        rw [Outlook.Status, hresult]
        simp only [if_pos hlast]
        simp only [List.getElem_singleton]
        exact TcpSocket.connect_isConnecting options address
    · exact List.length_append.trans (congrArg (· + 1) hlength)
    · show o.addresses = some ((s.sockets ++ [TcpSocket.connect options address]).map
        TcpSocket.address ++ rest)
      rw [hmap, haddresses, List.append_assoc]
      rfl

theorem react_of_result {r : Except Rejection Nat} (h : o.result = some r) (e : ConnectEvent) :
    o.react e = o := by
  unfold Outlook.react
  rw [h]

theorem destroyed_of_ne {i : Nat} {socket : TcpSocket} (h : o.Status i socket)
    (hresult : o.result = none) (hi : i ≠ o.failures.length) : socket.IsDestroyed := by
  rw [Outlook.Status, hresult] at h
  simpa only [if_neg hi] using h

/-- One socket changes, and the outlook with it. -/
theorem status_set {sockets : List TcpSocket} {i : Nat} {socket : TcpSocket}
    (hother : ∀ j other, j ≠ i → sockets[j]? = some other → o.Status j other)
    (hself : o.Status i socket) :
    ∀ j other, (sockets.set i socket)[j]? = some other → o.Status j other := by
  intro j other h
  rw [List.getElem?_set] at h
  split at h
  · next hij =>
    split at h
    · cases h
      exact hij ▸ hself
    · cases h
  · next hij => exact hother j other (Ne.symm hij) h

/-- The listeners of the attempt take themselves off. -/
theorem Invariant.settle (h : Invariant o s) {i : Nat} {socket socket' : TcpSocket}
    (hsocket : s.sockets[i]? = some socket) (haddress : socket'.address = socket.address)
    {attempt : Attempt} {rest : List LookupAddress} (hphase : s.phase = .connecting rest)
    {o' : Outlook} (haddresses : o'.addresses = o.addresses)
    (hfailures : o.failures.length ≤ o'.failures.length)
    (hother : ∀ j other, j ≠ i → s.sockets[j]? = some other → o'.Status j other)
    (hself : o'.Status i socket') (hsuits : Suits o' (s.settle i socket' attempt)
      (.attempted attempt rest)) : Invariant o' (s.settle i socket' attempt) := by
  have hsockets : (s.settle i socket' attempt).sockets = s.sockets.set i socket' := by
    rw [ConnectInSequence.settle, hphase]
  have hphase' : (s.settle i socket' attempt).phase = .attempted attempt rest := by
    rw [ConnectInSequence.settle, hphase]
  refine ⟨?_, ?_, ?_, hphase' ▸ hsuits⟩
  · rw [hsockets, TcpSocket.map_address_set hsocket haddress, haddresses]
    exact h.inOrder
  · rw [hsockets, List.length_set]
    exact h.oneAtATime.trans (Nat.succ_le_succ hfailures)
  · rw [hsockets]
    exact status_set hother hself

theorem Invariant.connect (h : Invariant o s) {i : Nat} {socket : TcpSocket}
    (hsocket : s.sockets[i]? = some socket) :
    Invariant (o.react (.connect i))
      (if socket.onConnect then s.settle i socket.removeListeners (.connected i) else s) := by
  have hstatus := h.status i socket hsocket
  by_cases hcurrent : o.result = none ∧ i = o.failures.length
  · obtain ⟨hresult, hi⟩ := hcurrent
    obtain ⟨rest, hphase⟩ := h.connecting hsocket hresult hi
    have ho : o.react (.connect i) = { o with result := some (.ok i) } := by
      unfold Outlook.react
      rw [hresult]
      exact if_pos hi
    have hwon : ∀ j other, ({ o with result := some (.ok i) } : Outlook).Status j other =
        if j = i then other.IsHandedOver else other.IsDestroyed := fun _ _ => rfl
    rw [if_pos ((onConnect_iff hstatus).2 ⟨hresult, hi⟩), ho]
    refine h.settle hsocket ?_ hphase ?_ ?_ (fun j other hj hother => ?_) ?_ ?_
    · rfl
    · rfl
    · exact Nat.le_refl _
    · rw [hwon, if_neg hj]
      exact destroyed_of_ne (h.status j other hother) hresult (hi ▸ hj)
    · rw [hwon, if_pos rfl]
      rw [Outlook.Status, hresult] at hstatus
      simp only [if_pos hi] at hstatus
      exact hstatus.removeListeners
    · rfl
  · rw [if_neg fun honConnect => hcurrent ((onConnect_iff hstatus).1 honConnect)]
    have ho : o.react (.connect i) = o := by
      unfold Outlook.react
      cases hresult : o.result with
      | some r => rfl
      | none => exact if_neg fun hi => hcurrent ⟨hresult, hi⟩
    rwa [ho]

theorem Invariant.error (h : Invariant o s) {i : Nat} {socket : TcpSocket} {err : Failure}
    (hsocket : s.sockets[i]? = some socket)
    (hname : err.name ≠ some (JsString.ofString "AbortError")) :
    Invariant (o.react (.error i err))
      (if socket.onError then s.settle i socket.removeListeners.destroy (.failed err) else s) := by
  have hstatus := h.status i socket hsocket
  by_cases hcurrent : o.result = none ∧ i = o.failures.length
  · obtain ⟨hresult, hi⟩ := hcurrent
    obtain ⟨rest, hphase⟩ := h.connecting hsocket hresult hi
    have hsuits := h.suits
    rw [hphase] at hsuits
    obtain ⟨-, hfailures, hlength, haddresses, haborted, -⟩ := hsuits
    have ho : o.react (.error i err) = { o with failures := o.failures ++ [err] } := by
      unfold Outlook.react
      rw [hresult]
      exact if_pos hi
    have hgrown : (o.failures ++ [err]).length = o.failures.length + 1 := List.length_append
    -- All sockets so far have been given up, and the next one is not there yet.
    have hgiven : ∀ j other, j < o.failures.length + 1 → other.IsDestroyed →
        ({ o with failures := o.failures ++ [err] } : Outlook).Status j other := by
      intro j other hj hdestroyed
      rw [Outlook.Status, hresult]
      simp only [hgrown, if_neg (Nat.ne_of_lt hj)]
      exact hdestroyed
    have hsettled : (s.settle i socket.removeListeners.destroy (.failed err)).sockets =
        s.sockets.set i socket.removeListeners.destroy := by
      rw [ConnectInSequence.settle, hphase]
    rw [if_pos ((onError_iff hstatus).2 ⟨hresult, hi⟩), ho]
    refine h.settle hsocket ?_ hphase ?_ ?_ (fun j other hj hother => ?_) ?_ ?_
    · rfl
    · rfl
    · exact hgrown ▸ Nat.le_succ _
    · obtain ⟨hlt, -⟩ := List.getElem?_eq_some_iff.1 hother
      exact hgiven j other (hlength ▸ hlt)
        (destroyed_of_ne (h.status j other hother) hresult (hi ▸ hj))
    · exact hgiven i _ (by omega) (TcpSocket.isDestroyed_destroy socket)
    · refine ⟨hresult, ?_, ?_, ?_, ?_, hname⟩
      · rw [ConnectInSequence.settle, hphase]
        exact congrArg (· ++ [err]) hfailures
      · rw [hsettled, List.length_set, hlength, hgrown]
      · rw [hsettled, TcpSocket.map_address_set hsocket (by rfl)]
        exact haddresses
      · rw [ConnectInSequence.settle, hphase]
        exact haborted
  · rw [if_neg fun honError => hcurrent ((onError_iff hstatus).1 honError)]
    have ho : o.react (.error i err) = o := by
      unfold Outlook.react
      cases hresult : o.result with
      | some r => rfl
      | none => exact if_neg fun hi => hcurrent ⟨hresult, hi⟩
    rwa [ho]

theorem Suits.addresses_ne_none (h : Suits o s s.phase) (hphase : s.phase ≠ .lookup)
    (hresult : o.result = none) : o.addresses ≠ none := by
  cases hp : s.phase with
  | lookup => exact absurd hp hphase
  | connecting rest =>
    rw [hp] at h
    exact h.2.2.2.1 ▸ Option.some_ne_none _
  | looked result =>
    rw [hp] at h
    cases result with
    | ok addresses => exact h.1 ▸ Option.some_ne_none _
    | error e => exact absurd (hresult.symm.trans h) (Option.some_ne_none _).symm
  | attempted result rest =>
    rw [hp] at h
    cases result with
    | connected i => exact absurd (hresult.symm.trans h) (Option.some_ne_none _).symm
    | aborted => exact absurd (hresult.symm.trans h) (Option.some_ne_none _).symm
    | failed err => exact h.2.2.2.1 ▸ Option.some_ne_none _
  | done result =>
    rw [hp, Suits, Outlook.Calls, hresult] at h
    intro hnone
    rw [hnone] at h
    cases h.1

theorem Invariant.lookedUp (h : Invariant o s) (result : Except Failure (List LookupAddress)) :
    Invariant (o.react (.lookedUp result)) (s.onLookedUp result) := by
  by_cases hlookup : s.phase = .lookup
  · have hsuits := h.suits
    rw [hlookup] at hsuits
    obtain ⟨rfl, hsockets, herrors, haborted, -⟩ := hsuits
    have hle : s.sockets.length ≤ 0 + 1 := by
      rw [hsockets]
      exact Nat.zero_le _
    have hfront : ∀ addresses, s.sockets.map TcpSocket.address <+: addresses := by
      rw [hsockets]
      exact fun _ => List.nil_prefix
    rw [onLookedUp, hlookup]
    cases result with
    | ok addresses =>
      exact ⟨hfront _, hle, TcpSocket.forall_of_nil hsockets, rfl, hsockets, herrors, haborted⟩
    | error err => exact ⟨hfront _, hle, TcpSocket.forall_of_nil hsockets, rfl⟩
  · have hsame : s.onLookedUp result = s := by
      rw [onLookedUp]
      split
      · next hphase => exact absurd hphase hlookup
      · rfl
    have ho : o.react (.lookedUp result) = o := by
      unfold Outlook.react
      cases hresult : o.result with
      | some r => rfl
      | none => exact if_pos (h.suits.addresses_ne_none hlookup hresult)
    rwa [hsame, ho]

theorem signalAbort_lookup (hphase : s.phase = .lookup) (h : s.onAbort = true) :
    s.signalAbort =
      { s with phase := .looked (.error .abortError), aborted := true, onAbort := false } := by
  simp only [signalAbort, if_pos h, onAbortListener, hphase]

theorem signalAbort_connecting {rest : List LookupAddress} (hphase : s.phase = .connecting rest)
    (h : s.onAbort = true) :
    s.signalAbort = { s with
      phase := .attempted .aborted rest
      sockets := s.sockets.modify (s.sockets.length - 1) fun socket =>
        socket.removeListeners.destroy
      aborted := true
      onAbort := false } := by
  simp only [signalAbort, if_pos h, onAbortListener, hphase]

/-- Nobody listens while a continuation is due. -/
theorem signalAbort_due (hlookup : s.phase ≠ .lookup)
    (hconnecting : ∀ rest, s.phase ≠ .connecting rest) :
    s.signalAbort.phase = s.phase ∧ s.signalAbort.sockets = s.sockets ∧
      s.signalAbort.errors = s.errors := by
  unfold signalAbort
  dsimp only
  split
  · unfold onAbortListener
    split
    · next h => exact absurd h hlookup
    · next h => exact absurd h (hconnecting _)
    · exact ⟨rfl, rfl, rfl⟩
  · exact ⟨rfl, rfl, rfl⟩

/-- An abort that somebody listens to, or that comes when all is decided. -/
theorem Invariant.abort (h : Invariant o s) (hguard : Heard s .abort) (hdone : s.result = none) :
    Invariant (o.react .abort) s.signalAbort := by
  have hsuits := h.suits
  have hreact : o.result = none → o.react .abort = { o with result := some (.error .abortError) } :=
    fun hresult => by
      unfold Outlook.react
      rw [hresult]
  -- What is decided stays so.
  have hdecided : ∀ {r}, o.result = some r → s.phase ≠ .lookup →
      (∀ rest, s.phase ≠ .connecting rest) → Suits o s.signalAbort s.phase →
      Invariant (o.react .abort) s.signalAbort := by
    intro r hresult hlookup hconnecting hsuits'
    obtain ⟨hphase, hsockets, -⟩ := signalAbort_due hlookup hconnecting
    rw [react_of_result hresult]
    exact ⟨hsockets ▸ h.inOrder, hsockets ▸ h.oneAtATime, hsockets ▸ h.status, hphase ▸ hsuits'⟩
  cases hphase : s.phase with
  | lookup =>
    rw [hphase] at hsuits
    obtain ⟨rfl, hsockets, -, -, honAbort⟩ := hsuits
    rw [hreact rfl, signalAbort_lookup hphase honAbort]
    exact ⟨h.inOrder, h.oneAtATime, TcpSocket.forall_of_nil hsockets, rfl⟩
  | connecting rest =>
    rw [hphase] at hsuits
    obtain ⟨hresult, -, hlength, haddresses, -, honAbort⟩ := hsuits
    rw [hreact hresult, signalAbort_connecting hphase honAbort]
    refine ⟨?_, ?_, fun i socket hsocket => ?_, rfl⟩
    · show (s.sockets.modify _ _).map TcpSocket.address <+: _
      rw [map_address_modify]
      exact h.inOrder
    · exact (List.length_modify ..).le.trans h.oneAtATime
    · change (s.sockets.modify _ _)[i]? = some socket at hsocket
      rw [List.getElem?_modify] at hsocket
      obtain ⟨before, hbefore, rfl⟩ := Option.map_eq_some_iff.1 hsocket
      show TcpSocket.IsDestroyed _
      split
      · exact TcpSocket.isDestroyed_destroy before
      · next hi => exact destroyed_of_ne (h.status i before hbefore) hresult (by omega)
  | looked result =>
    cases result with
    | ok addresses => rw [Heard, hphase] at hguard; exact hguard.elim
    | error e =>
      rw [hphase] at hsuits hdecided
      exact hdecided hsuits nofun (fun _ => nofun) hsuits
  | attempted result rest =>
    cases result with
    | failed err => rw [Heard, hphase] at hguard; exact hguard.elim
    | connected i =>
      rw [hphase] at hsuits hdecided
      exact hdecided hsuits nofun (fun _ => nofun) hsuits
    | aborted =>
      rw [hphase] at hsuits hdecided
      exact hdecided hsuits nofun (fun _ => nofun) hsuits
  | done result =>
    rw [ConnectInSequence.result, hphase] at hdone
    cases hdone

theorem Invariant.tick (h : Invariant o s) {s' : ConnectInSequence}
    (hstep : step options s .tick = some s') : Invariant o s' := by
  have hsuits := h.suits
  have hdone : ∀ {result}, o.result = some result →
      Invariant o { s with phase := .done result } := by
    intro result hresult
    refine ⟨h.inOrder, h.oneAtATime, h.status, ?_⟩
    rw [Suits, Outlook.Calls, hresult]
  cases hphase : s.phase with
  | lookup | connecting | done =>
    rw [step, hphase] at hstep
    cases hstep
  | looked result =>
    rw [hphase] at hsuits
    cases result with
    | ok addresses =>
      rw [step, hphase] at hstep
      cases hstep
      obtain ⟨rfl, hsockets, herrors, haborted⟩ := hsuits
      refine attempt_invariant rfl herrors.symm ?_ ?_ haborted h.status
      · rw [hsockets]
        rfl
      · rw [hsockets]
        rfl
    | error e =>
      rw [step, hphase] at hstep
      cases hstep
      exact hdone hsuits
  | attempted result rest =>
    rw [hphase] at hsuits
    cases result with
    | connected i =>
      rw [step, hphase] at hstep
      cases hstep
      exact hdone hsuits
    | aborted =>
      rw [step, hphase] at hstep
      cases hstep
      exact hdone hsuits
    | failed err =>
      obtain ⟨hresult, hfailures, hlength, haddresses, haborted, hname⟩ := hsuits
      rw [step, hphase] at hstep
      dsimp only at hstep
      rw [if_neg hname] at hstep
      cases hstep
      exact attempt_invariant hresult hfailures hlength haddresses haborted h.status

/-- What one step preserves. -/
theorem step_invariant {e : ConnectEvent} {s' : ConnectInSequence} (h : Invariant o s)
    (hguard : Heard s e) (hstep : step options s e = some s') : Invariant (o.react e) s' := by
  cases e with
  | lookedUp result =>
    cases hstep
    exact h.lookedUp result
  | connect i =>
    obtain ⟨socket, hsocket, rfl⟩ := Option.map_eq_some_iff.1 hstep
    exact h.connect hsocket
  | error i err =>
    obtain ⟨socket, hsocket, rfl⟩ := Option.map_eq_some_iff.1 hstep
    exact h.error hsocket hguard
  | abort =>
    rw [step] at hstep
    split at hstep
    · cases hstep
    · next hopen =>
      cases hstep
      exact h.abort hguard (not_not.1 fun hdone => hopen (.inr hdone))
  | tick =>
    have ho : o.react .tick = o := by
      unfold Outlook.react
      split <;> rfl
    exact ho.symm ▸ h.tick hstep

/-! ### Runs -/

theorem start_invariant (hosts : Hosts) (options : ConnectOptions) (aborted : Bool) :
    Invariant (Outlook.start hosts options aborted) (start hosts options aborted) := by
  have hnil : (start hosts options aborted).sockets = [] := by
    unfold start
    split
    · rfl
    · split <;> rfl
  refine ⟨by rw [hnil]; exact List.nil_prefix, by rw [hnil]; exact Nat.zero_le _,
    TcpSocket.forall_of_nil hnil, ?_⟩
  cases aborted with
  | true => rfl
  | false =>
    unfold start Outlook.start
    cases haddress : hosts.address options.host with
    | none => exact ⟨rfl, rfl, rfl, rfl, rfl⟩
    | some address => exact ⟨rfl, rfl, rfl, rfl⟩

theorem run_invariant {events : List ConnectEvent} {s' : ConnectInSequence}
    (hrun : (machine options).Steps Heard s events s') (h : Invariant o s) :
    Invariant (events.foldl Outlook.react o) s' := by
  induction hrun generalizing o with
  | nil s => exact h
  | cons hguard hstep _ ih => exact ih (step_invariant h hguard hstep)

/-- The function has gone on, and waits or is done. -/
theorem tick_phase {s' : ConnectInSequence} (h : step options s .tick = some s') :
    (∃ rest, s'.phase = .connecting rest) ∨ ∃ result, s'.phase = .done result := by
  have hattempt : ∀ (s : ConnectInSequence) (addresses : List LookupAddress),
      (∃ rest, (s.attempt options addresses).phase = .connecting rest) ∨
        ∃ result, (s.attempt options addresses).phase = .done result := by
    intro s addresses
    cases addresses with
    | nil => exact .inr ⟨_, rfl⟩
    | cons address rest => exact .inl ⟨rest, rfl⟩
  rw [step] at h
  split at h
  · cases h
    exact .inr ⟨_, rfl⟩
  · cases h
    exact hattempt ..
  · cases h
    exact .inr ⟨_, rfl⟩
  · cases h
    exact .inr ⟨_, rfl⟩
  · split at h
    · cases h
      exact .inr ⟨_, rfl⟩
    · cases h
      exact hattempt ..
  all_goals cases h

theorem exists_tick (h : (∃ result, s.phase = .looked result) ∨
    ∃ result rest, s.phase = .attempted result rest) :
    ∃ s', step options s .tick = some s' := by
  rcases h with ⟨result, hphase⟩ | ⟨result, rest, hphase⟩
  · cases result <;> exact ⟨_, by rw [step, hphase]⟩
  · cases result with
    | connected | aborted => exact ⟨_, by rw [step, hphase]⟩
    | failed err =>
      by_cases hname : err.name = some (JsString.ofString "AbortError")
      · exact ⟨_, by rw [step, hphase]; exact if_pos hname⟩
      · exact ⟨_, by rw [step, hphase]; exact if_neg hname⟩

theorem Invariant.settles_connecting (h : Invariant o s) {rest : List LookupAddress}
    (hphase : s.phase = .connecting rest) (result : Except Rejection Nat) :
    (machine options).SettlesWith .tick ConnectInSequence.result s result ↔ o.Calls result := by
  have hsuits := h.suits
  rw [hphase] at hsuits
  obtain ⟨hresult, -, hlength, haddresses, -⟩ := hsuits
  refine iff_of_false (Machine.not_settlesWith ?_ ?_) ?_
  · rw [ConnectInSequence.result, hphase]
  · show step options s .tick = none
    rw [step, hphase]
  · rw [Outlook.Calls, hresult, haddresses]
    rintro ⟨hall, -⟩
    rw [Option.map_some, Option.some_inj, List.length_append, List.length_map, hlength] at hall
    omega

theorem Invariant.settles_done (h : Invariant o s) {decided : Except Rejection Nat}
    (hphase : s.phase = .done decided) (result : Except Rejection Nat) :
    (machine options).SettlesWith .tick ConnectInSequence.result s result ↔ o.Calls result := by
  have hsuits := h.suits
  rw [hphase] at hsuits
  have hsettles : (machine options).SettlesWith .tick ConnectInSequence.result s result ↔
      result = decided := by
    refine Machine.settlesWith_of_result ?_ ?_
    · rw [ConnectInSequence.result, hphase]
    · show step options s .tick = none
      rw [step, hphase]
  rw [hsettles]
  unfold Suits Outlook.Calls at hsuits
  unfold Outlook.Calls
  cases hresult : o.result with
  | some r =>
    rw [hresult] at hsuits
    rw [show decided = r from hsuits]
  | none =>
    rw [hresult] at hsuits
    rw [hsuits.2]
    exact ⟨fun h => ⟨hsuits.1, h⟩, And.right⟩

theorem Invariant.agrees (h : Invariant o s) : Agrees options o s := by
  refine ⟨h.inOrder, h.oneAtATime, h.status, fun result => ?_⟩
  have hdue : ∀ {s'}, s.result = none → step options s .tick = some s' →
      ((machine options).SettlesWith .tick ConnectInSequence.result s result ↔
        o.Calls result) := by
    intro s' hresult hstep
    have h' := h.tick hstep
    rw [Machine.settlesWith_of_step hresult hstep]
    rcases tick_phase hstep with ⟨rest, hphase⟩ | ⟨decided, hphase⟩
    · exact h'.settles_connecting hphase result
    · exact h'.settles_done hphase result
  cases hphase : s.phase with
  | connecting rest => exact h.settles_connecting hphase result
  | done decided => exact h.settles_done hphase result
  | lookup =>
    have hsuits := h.suits
    rw [hphase] at hsuits
    obtain ⟨rfl, -⟩ := hsuits
    refine iff_of_false (Machine.not_settlesWith ?_ ?_) fun h => by cases h.1
    · rw [ConnectInSequence.result, hphase]
    · show step options s .tick = none
      rw [step, hphase]
  | looked looked =>
    obtain ⟨s', hstep⟩ := exists_tick (.inl ⟨looked, hphase⟩)
    exact hdue (by rw [ConnectInSequence.result, hphase]) hstep
  | attempted attempt rest =>
    obtain ⟨s', hstep⟩ := exists_tick (.inr ⟨attempt, rest, hphase⟩)
    exact hdue (by rw [ConnectInSequence.result, hphase]) hstep

theorem react_stays {r : Except Rejection Nat} (h : o.result = some r)
    (events : List ConnectEvent) : events.foldl Outlook.react o = o := by
  induction events with
  | nil => rfl
  | cons e events ih => rw [List.foldl_cons, react_of_result h, ih]

/-- Nothing is opened any more when all is decided. -/
theorem step_quiet (h : Invariant o s) {r : Except Rejection Nat} (hresult : o.result = some r)
    {e : ConnectEvent} {s' : ConnectInSequence} (hstep : step options s e = some s') :
    s'.sockets.length = s.sockets.length := by
  have hsettle : ∀ i socket attempt, (s.settle i socket attempt).sockets.length =
      s.sockets.length := by
    intro i socket attempt
    rw [settle]
    split
    · exact List.length_set ..
    · rfl
  have hsuits := h.suits
  cases e with
  | lookedUp result =>
    cases hstep
    rw [onLookedUp]
    split <;> rfl
  | connect i | error i err =>
    obtain ⟨socket, -, rfl⟩ := Option.map_eq_some_iff.1 hstep
    split
    · exact hsettle ..
    · rfl
  | abort =>
    rw [step] at hstep
    split at hstep
    · cases hstep
    · cases hstep
      rw [signalAbort]
      dsimp only
      split
      · rw [onAbortListener]
        split
        · rfl
        · exact List.length_modify ..
        · rfl
      · rfl
  | tick =>
    rw [step] at hstep
    split at hstep
    · cases hstep
      rfl
    · next hphase =>
      rw [hphase] at hsuits
      rw [hsuits.1] at hresult
      cases hresult
    · cases hstep
      rfl
    · cases hstep
      rfl
    · next hphase =>
      rw [hphase, Suits, hresult] at hsuits
      cases hsuits.1
    all_goals cases hstep

theorem run_quiet {events : List ConnectEvent} {s' : ConnectInSequence}
    (hrun : (machine options).Steps Heard s events s') (h : Invariant o s)
    {r : Except Rejection Nat} (hresult : o.result = some r) :
    s'.sockets.length = s.sockets.length := by
  induction hrun with
  | nil s => rfl
  | cons hguard hstep _ ih =>
    have h' := step_invariant h hguard hstep
    rw [react_of_result hresult] at h'
    exact (ih h').trans (step_quiet h hresult hstep)

/-- The runs in which every abort is heard. -/
theorem triesInOrder_of_heard {aborted : Bool} {events : List ConnectEvent}
    (hrun : (machine options).Steps Heard (start hosts options aborted) events s) :
    TriesInOrder hosts options aborted events s := by
  refine ⟨(run_invariant hrun (start_invariant hosts options aborted)).agrees, ?_⟩
  rintro before after s₁ rfl hbefore hdecided
  obtain ⟨s₂, hfirst, hsecond⟩ := hrun.split
  obtain rfl := hfirst.eq hbefore
  obtain ⟨r, hr⟩ := Option.ne_none_iff_exists'.1 hdecided
  exact run_quiet hsecond (run_invariant hfirst (start_invariant hosts options aborted)) hr

/-! ### Aborts that nobody hears -/

/-- A phase in which nothing tells of an abort. -/
def GoesOn : SequencePhase → Prop
  | .looked (.ok _) | .connecting _ | .attempted (.connected _) _ | .attempted (.failed _) _ => True
  | .done result => result ≠ .error .abortError
  | .lookup | .looked (.error _) | .attempted .aborted _ => False

/-- The caller has aborted, and the promise goes on. -/
structure Missed (s : ConnectInSequence) : Prop where
  aborted : s.aborted = true
  goesOn : GoesOn s.phase

theorem attempt_missed (haborted : s.aborted = true) (addresses : List LookupAddress) :
    Missed (s.attempt options addresses) := by
  cases addresses with
  | nil => exact ⟨haborted, nofun⟩
  | cons address rest => exact ⟨haborted, trivial⟩

theorem Missed.step (h : Missed s) {e : ConnectEvent} {s' : ConnectInSequence}
    (hstep : step options s e = some s') : Missed s' := by
  have hsettle : ∀ i socket attempt, GoesOn (.attempted attempt []) →
      Missed (s.settle i socket attempt) := by
    intro i socket attempt hattempt
    rw [settle]
    split
    · refine ⟨h.aborted, ?_⟩
      cases attempt with
      | aborted => exact hattempt
      | connected | failed => trivial
    · exact h
  cases e with
  | lookedUp result =>
    cases hstep
    rw [onLookedUp]
    split
    · next hphase =>
      have hgoesOn := h.goesOn
      rw [hphase] at hgoesOn
      exact hgoesOn.elim
    · exact h
  | connect i =>
    obtain ⟨socket, -, rfl⟩ := Option.map_eq_some_iff.1 hstep
    split
    · exact hsettle i _ (.connected i) trivial
    · exact h
  | error i err =>
    obtain ⟨socket, -, rfl⟩ := Option.map_eq_some_iff.1 hstep
    split
    · exact hsettle i _ (.failed err) trivial
    · exact h
  | abort =>
    rw [ConnectInSequence.step, if_pos (.inl h.aborted)] at hstep
    cases hstep
  | tick =>
    have hgoesOn := h.goesOn
    rw [ConnectInSequence.step] at hstep
    split at hstep
    · next hphase =>
      rw [hphase] at hgoesOn
      exact hgoesOn.elim
    · cases hstep
      exact attempt_missed h.aborted _
    · cases hstep
      exact ⟨h.aborted, nofun⟩
    · next hphase =>
      rw [hphase] at hgoesOn
      exact hgoesOn.elim
    · split at hstep
      · cases hstep
        exact ⟨h.aborted, nofun⟩
      · cases hstep
        refine attempt_missed ?_ _
        exact h.aborted
    all_goals cases hstep

/-- An abort while a continuation is due. -/
theorem missed_of_not_heard (h : Invariant o s) {e : ConnectEvent} {s' : ConnectInSequence}
    (hnames : NamesApart s e) (hheard : ¬ Heard s e) (hstep : step options s e = some s') :
    (o.react e).result = some (.error .abortError) ∧ Missed s' := by
  cases e with
  | lookedUp | connect | tick => exact absurd trivial hheard
  | error i err => exact absurd hnames hheard
  | abort =>
    rw [step] at hstep
    split at hstep
    · cases hstep
    · cases hstep
      have hsuits := h.suits
      have hphase : GoesOn s.phase ∧ s.phase ≠ .lookup ∧ (∀ rest, s.phase ≠ .connecting rest) ∧
          o.result = none := by
        rw [Heard] at hheard
        split at hheard
        · next hphase =>
          rw [hphase] at hsuits ⊢
          exact ⟨trivial, nofun, fun _ => nofun, by rw [hsuits.1]⟩
        · next hphase =>
          rw [hphase] at hsuits ⊢
          exact ⟨trivial, nofun, fun _ => nofun, hsuits.1⟩
        · exact absurd trivial hheard
      obtain ⟨hgoesOn, hlookup, hconnecting, hresult⟩ := hphase
      refine ⟨?_, ?_, ?_⟩
      · unfold Outlook.react
        rw [hresult]
      · unfold signalAbort onAbortListener
        dsimp only
        split
        · split <;> rfl
        · rfl
      · rw [(signalAbort_due hlookup hconnecting).1]
        exact hgoesOn

theorem heard_or_missed {events : List ConnectEvent} {s' : ConnectInSequence}
    (hrun : (machine options).Steps NamesApart s events s') (h : Invariant o s) :
    (machine options).Steps Heard s events s' ∨
      (events.foldl Outlook.react o).result = some (.error .abortError) ∧ Missed s' := by
  induction hrun generalizing o with
  | nil s => exact .inl (.nil s)
  | @cons s s₁ s₂ e events hnames hstep hrest ih =>
    by_cases hheard : Heard s e
    · exact (ih (step_invariant h hheard hstep)).imp (.cons hheard hstep) id
    · obtain ⟨hresult, hmissed⟩ := missed_of_not_heard h hnames hheard hstep
      refine .inr ⟨?_, hrest.invariant (fun h _ hstep => h.step hstep) hmissed⟩
      rw [List.foldl_cons, react_stays hresult]
      exact hresult

/-- **One address after the other.** The promise keeps to the outlook of its events in every run in
which no abort comes while a continuation is due, and no error of a socket has the name of an abort;
and of the runs with such errors only that have ended, in no others. -/
theorem connectInSequence_agrees (hosts : Hosts) (options : ConnectOptions) (aborted : Bool) :
    (∀ events s, (machine options).Steps Heard (start hosts options aborted) events s →
      TriesInOrder hosts options aborted events s) ∧
    (∀ events s result, (machine options).Steps NamesApart (start hosts options aborted) events s →
      s.phase = .done result →
        (TriesInOrder hosts options aborted events s ↔
          (machine options).Steps Heard (start hosts options aborted) events s)) := by
  refine ⟨fun events s => triesInOrder_of_heard, fun events s result hrun hdone =>
    ⟨fun h => ?_, triesInOrder_of_heard⟩⟩
  rcases heard_or_missed hrun (start_invariant hosts options aborted) with
    hheard | ⟨hresult, hmissed⟩
  · exact hheard
  · have hsettles : (machine options).SettlesWith .tick ConnectInSequence.result s result :=
      ⟨0, s, .nil s, by rw [ConnectInSequence.result, hdone]⟩
    have hcalls := (h.agrees.settles_iff result).1 hsettles
    rw [Outlook.Calls, hresult] at hcalls
    have hgoesOn := hmissed.goesOn
    rw [hdone] at hgoesOn
    exact absurd hcalls hgoesOn

/-- The first address fails, and the second one connects. -/
theorem connectInSequence_agrees_second :
    ∃ s, (machine localhost).Runs (start namesOnly localhost false)
        [.lookedUp (.ok loopback), .tick, .error 0 ⟨some [], []⟩, .tick, .connect 1, .tick] s ∧
      s.phase = .done (.ok 1) ∧ TriesInOrder namesOnly localhost false
        [.lookedUp (.ok loopback), .tick, .error 0 ⟨some [], []⟩, .tick, .connect 1, .tick] s := by
  obtain ⟨s, hrun, hdone⟩ : ∃ s, (machine localhost).Steps Heard (start namesOnly localhost false)
      [.lookedUp (.ok loopback), .tick, .error 0 ⟨some [], []⟩, .tick, .connect 1, .tick] s ∧
        s.phase = .done (.ok 1) :=
    ⟨_, .cons trivial rfl (.cons trivial rfl (.cons (by decide : some [] ≠ _) rfl (.cons trivial rfl
      (.cons trivial rfl (.cons trivial rfl (.nil _)))))), rfl⟩
  exact ⟨s, hrun.mono fun _ => trivial, hdone,
    (connectInSequence_agrees namesOnly localhost false).1 _ _ hrun⟩

/-- An abort between the failure of the first address and the next attempt. -/
theorem not_triesInOrder : ¬ ∀ (hosts : Hosts) (options : ConnectOptions) (aborted : Bool)
    (events : List ConnectEvent) (s : ConnectInSequence),
    (machine options).Runs (start hosts options aborted) events s →
      TriesInOrder hosts options aborted events s := by
  intro h
  have htries := h namesOnly localhost false
    ([.lookedUp (.ok loopback), .tick, .error 0 ⟨some [], []⟩, .abort] ++ [.tick]) _
    (.cons trivial rfl (.cons trivial rfl (.cons trivial rfl (.cons trivial rfl
      (.cons trivial rfl (.nil _))))))
  have hquiet := htries.quiet _ _ _ rfl (.cons trivial rfl (.cons trivial rfl (.cons trivial rfl
    (.cons trivial rfl (.nil _))))) (by decide)
  exact absurd hquiet (by decide)

end ConnectInSequence

end Tedious
