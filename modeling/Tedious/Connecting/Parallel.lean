import Tedious.Connecting.Sockets
import Tedious.Lib.Race

/-!
# Tedious.Connecting.Parallel

`connectInParallel` (`connector.ts`): a socket for each address, and the first one to connect is
taken. The promise is a machine, like that of `connectInSequence`.

`Contest` says what the events call for. The machine keeps to it (`connectInParallel_agrees`) as
long as no abort comes between the answer of the lookup and the race: then nobody listens to the
signal.
-/

namespace Tedious

open Chunked Race

/-- Where the promise is: the addresses are looked up; the lookup is settled, and the function has
not gone on; the sockets race; or the lookup was given up. -/
inductive ParallelPhase
  | lookup
  | looked (result : Except Rejection (List LookupAddress))
  | racing (addresses : List LookupAddress)
  | rejected

/-- The promise; `settled` is what the first call of `resolve` or `reject` has made of it. -/
structure ConnectInParallel where
  phase : ParallelPhase
  sockets : List TcpSocket
  errors : List Failure
  /-- `signal.aborted`. -/
  aborted : Bool
  onAbort : Bool
  settled : Option (Except Rejection Nat)

namespace ConnectInParallel

variable (hosts : Hosts) (options : ConnectOptions)

def couldNotConnect (errors : List Failure) : Rejection :=
  .aggregateError errors (JsString.ofString "Could not connect (parallel)")

/-- `connectInParallel`, up to the first time it waits. -/
def start (aborted : Bool) : ConnectInParallel :=
  if aborted then
    { phase := .rejected, sockets := [], errors := [], aborted, onAbort := false,
      settled := some (.error .abortError) }
  else
    match hosts.address options.host with
    | some address =>
      { phase := .looked (.ok [address]), sockets := [], errors := [], aborted, onAbort := false,
        settled := none }
    | none =>
      { phase := .lookup, sockets := [], errors := [], aborted, onAbort := true, settled := none }

/-- `resolve` or `reject`. -/
def settle (result : Except Rejection Nat) (s : ConnectInParallel) : ConnectInParallel :=
  { s with settled := s.settled.or (some result) }

/-- `lookupAllAddresses` listens until the answer. -/
def onLookedUp (result : Except Failure (List LookupAddress)) (s : ConnectInParallel) :
    ConnectInParallel :=
  match s.phase with
  | .lookup => { s with
      phase := .looked (result.mapError .failure)
      onAbort := false }
  | _ => s

/-- `onError` of the socket `i`. -/
def onErrorListener (i : Nat) (socket : TcpSocket) (err : Failure) (s : ConnectInParallel) :
    ConnectInParallel :=
  match s.phase with
  | .racing addresses =>
    let s := { s with
      errors := s.errors ++ [err]
      sockets := s.sockets.set i socket.removeListeners.destroy }
    if s.errors.length = addresses.length then
      { s with onAbort := false }.settle (.error (couldNotConnect s.errors))
    else s
  | _ => s

/-- `onConnect` of the socket `i`, which keeps its listeners. -/
def onConnectListener (i : Nat) (s : ConnectInParallel) : ConnectInParallel :=
  { s with
    onAbort := false
    sockets := s.sockets.mapIdx fun j (socket : TcpSocket) =>
      if j = i then socket else socket.removeListeners.destroy }.settle (.ok i)

/-- What hears an abort. -/
def onAbortListener (s : ConnectInParallel) : ConnectInParallel :=
  match s.phase with
  | .lookup => { s with phase := .looked (.error .abortError) }
  | .racing _ =>
    { s with sockets := s.sockets.map fun (socket : TcpSocket) =>
      socket.removeListeners.destroy }.settle (.error .abortError)
  | _ => s

/-- `controller.abort()`. -/
def signalAbort (s : ConnectInParallel) : ConnectInParallel :=
  let s := { s with aborted := true }
  if s.onAbort then { s with onAbort := false }.onAbortListener else s

def step (s : ConnectInParallel) : ConnectEvent → Option ConnectInParallel
  | .lookedUp result => some (s.onLookedUp result)
  | .connect i =>
    s.sockets[i]?.map fun socket => if socket.onConnect then s.onConnectListener i else s
  | .error i err =>
    s.sockets[i]?.map fun socket => if socket.onError then s.onErrorListener i socket err else s
  | .abort => if s.aborted then none else some s.signalAbort
  | .tick =>
    match s.phase with
    | .looked (.error e) => some ({ s with phase := .rejected }.settle (.error e))
    | .looked (.ok addresses) => some { s with
        phase := .racing addresses
        sockets := addresses.map (TcpSocket.connect options)
        onAbort := true }
    | .lookup | .racing _ | .rejected => none

def machine : Machine ConnectInParallel ConnectEvent where
  step := step options

end ConnectInParallel

/-! ### What the events call for -/

/-- The addresses once they are there, the sockets that have failed with their errors, the result if
it is decided, and whether the winner has failed since. -/
structure Contest where
  addresses : Option (List LookupAddress)
  failures : List (Nat × Failure)
  result : Option (Except Rejection Nat)
  winnerFailed : Bool

namespace Contest

variable (hosts : Hosts) (options : ConnectOptions)

def start (aborted : Bool) : Contest where
  addresses := (hosts.address options.host).map ([·])
  failures := []
  result := if aborted then some (.error .abortError) else none
  winnerFailed := false

/-- The errors, in the order in which they occurred. -/
def errors (o : Contest) : List Failure := o.failures.map Prod.snd

/-- A socket that has not failed yet fails. -/
def fail (o : Contest) (i : Nat) (err : Failure) : Contest :=
  let o := { o with failures := o.failures ++ [(i, err)] }
  if ∃ addresses ∈ o.addresses, AllFailed addresses.length o.failures then
    { o with result := some (.error (ConnectInParallel.couldNotConnect o.errors)) }
  else o

/-- The first socket to connect decides, or the last one to fail, an abort, or an error of the
lookup. A socket that has failed counts no more. -/
def react (o : Contest) (e : ConnectEvent) : Contest :=
  match o.result with
  | some (.ok winner) =>
    match e with
    | .error i _ => if i = winner then { o with winnerFailed := true } else o
    | _ => o
  | some (.error _) => o
  | none =>
    match e with
    | .lookedUp result =>
      if o.addresses ≠ none then o
      else match result with
        | .ok addresses => { o with addresses := some addresses }
        | .error err => { o with result := some (.error (.failure err)) }
    | .connect i =>
      if i ∈ o.failures.map Prod.fst then o else { o with result := some (.ok i) }
    | .error i err => if i ∈ o.failures.map Prod.fst then o else o.fail i err
    | .abort => { o with result := some (.error .abortError) }
    | .tick => o

/-- The socket that has won keeps its listeners until it fails. -/
structure IsWinner (o : Contest) (socket : TcpSocket) : Prop where
  destroyed : socket.destroyed = o.winnerFailed
  onError : socket.onError = !o.winnerFailed

/-- What has become of a socket. -/
def Status (o : Contest) (i : Nat) (socket : TcpSocket) : Prop :=
  match o.result with
  | none => if i ∈ o.failures.map Prod.fst then socket.IsDestroyed else socket.IsConnecting
  | some (.ok winner) =>
    if i = winner then o.IsWinner socket else socket.IsDestroyed
  | some (.error _) => socket.IsDestroyed

end Contest

namespace ConnectInParallel

variable (hosts : Hosts) (options : ConnectOptions)

/-- There are sockets when the addresses are known, one for each of them; each is as the contest has
it, and so is the result. -/
structure Agrees (o : Contest) (s : ConnectInParallel) : Prop where
  complete : s.sockets = [] ∨ some (s.sockets.map TcpSocket.address) = o.addresses
  status : ∀ i socket, s.sockets[i]? = some socket → o.Status i socket
  settles_iff : ∀ result,
    (machine options).SettlesWith .tick ConnectInParallel.settled s result ↔ o.result = some result

/-- No abort comes between the answer of the lookup and the race. -/
def Heard (s : ConnectInParallel) : ConnectEvent → Prop
  | .abort =>
    match s.phase with
    | .looked (.ok _) => False
    | _ => True
  | _ => True

/-- What each phase has to do with the contest. -/
def Suits (o : Contest) (s : ConnectInParallel) : ParallelPhase → Prop
  | .lookup => o = { addresses := none, failures := [], result := none, winnerFailed := false } ∧
      s.sockets = [] ∧ s.errors = [] ∧ s.settled = none ∧ s.aborted = false ∧ s.onAbort = true
  | .looked (.ok addresses) =>
      o = { addresses := some addresses, failures := [], result := none, winnerFailed := false } ∧
      s.sockets = [] ∧ s.errors = [] ∧ s.settled = none ∧ s.aborted = false
  | .looked (.error e) => o.result = some (.error e) ∧ s.sockets = [] ∧ s.settled = none
  | .racing addresses => o.addresses = some addresses ∧
      s.sockets.map TcpSocket.address = addresses ∧ s.settled = o.result ∧
      match o.result with
      | none => Once addresses.length o.failures ∧ s.errors = o.errors ∧ o.winnerFailed = false ∧
          s.aborted = false ∧ s.onAbort = true
      | some _ => s.onAbort = false
  | .rejected => s.settled = o.result ∧ o.result ≠ none ∧ s.sockets = []

structure Invariant (o : Contest) (s : ConnectInParallel) : Prop where
  status : ∀ i socket, s.sockets[i]? = some socket → o.Status i socket
  suits : Suits o s s.phase

variable {hosts options} {o : Contest} {s : ConnectInParallel}

/-! ### Sockets -/

theorem Invariant.racing (h : Invariant o s) {i : Nat} {socket : TcpSocket}
    (hsocket : s.sockets[i]? = some socket) : ∃ addresses, s.phase = .racing addresses := by
  have hne : s.sockets ≠ [] := by
    rintro hnil
    rw [hnil] at hsocket
    cases hsocket
  have hsuits := h.suits
  cases hphase : s.phase with
  | racing addresses => exact ⟨addresses, rfl⟩
  | lookup =>
    rw [hphase] at hsuits
    exact absurd hsuits.2.1 hne
  | rejected =>
    rw [hphase] at hsuits
    exact absurd hsuits.2.2 hne
  | looked result =>
    rw [hphase] at hsuits
    cases result with
    | ok addresses => exact absurd hsuits.2.1 hne
    | error e => exact absurd hsuits.2.1 hne

theorem status_open {i : Nat} {socket : TcpSocket} (hresult : o.result = none)
    (h : o.Status i socket) :
    if i ∈ o.failures.map Prod.fst then socket.IsDestroyed else socket.IsConnecting := by
  rwa [Contest.Status, hresult] at h

/-- The sockets when one of them is the winner, and the others are given up. -/
theorem status_won {i : Nat} {sockets : List TcpSocket} {o : Contest}
    (hresult : o.result = some (.ok i))
    (hwinner : ∀ socket, sockets[i]? = some socket → o.IsWinner socket) :
    ∀ j socket, (sockets.mapIdx fun j (socket : TcpSocket) =>
        if j = i then socket else socket.removeListeners.destroy)[j]? = some socket →
      o.Status j socket := by
  intro j socket h
  rw [List.getElem?_mapIdx] at h
  obtain ⟨before, hbefore, rfl⟩ := Option.map_eq_some_iff.1 h
  rw [Contest.Status, hresult]
  dsimp only
  split
  · next hj => exact hwinner before (hj ▸ hbefore)
  · exact TcpSocket.isDestroyed_destroy before

/-- The sockets when all of them are given up. -/
theorem status_cleared {e : Rejection} {sockets : List TcpSocket} {o : Contest}
    (hresult : o.result = some (.error e)) :
    ∀ j socket, (sockets.map fun (socket : TcpSocket) => socket.removeListeners.destroy)[j]? =
      some socket → o.Status j socket := by
  intro j socket h
  rw [List.getElem?_map] at h
  obtain ⟨before, -, rfl⟩ := Option.map_eq_some_iff.1 h
  rw [Contest.Status, hresult]
  exact TcpSocket.isDestroyed_destroy before

/-! ### Steps -/

/-- `onConnect` takes the socket, or takes it once more. -/
theorem onConnectListener_invariant {addresses : List LookupAddress} {i : Nat}
    (hphase : s.phase = .racing addresses) (haddresses : o.addresses = some addresses)
    (hsockets : s.sockets.map TcpSocket.address = addresses) (hresult : o.result = some (.ok i))
    (hsettled : s.settled = none ∨ s.settled = some (.ok i))
    (hwinner : ∀ socket, s.sockets[i]? = some socket → o.IsWinner socket) :
    Invariant o (s.onConnectListener i) := by
  refine ⟨status_won hresult hwinner, ?_⟩
  show Suits o (s.onConnectListener i) s.phase
  rw [hphase]
  refine ⟨haddresses, ?_, ?_, ?_⟩
  · rw [← hsockets]
    apply List.ext_getElem?
    intro j
    rw [onConnectListener, settle, List.getElem?_map, List.getElem?_map, List.getElem?_mapIdx,
      Option.map_map]
    congr 1
    funext socket
    rw [Function.comp_apply]
    split <;> rfl
  · rw [hresult]
    show s.settled.or (some (.ok i)) = some (.ok i)
    rcases hsettled with h | h <;> rw [h] <;> rfl
  · rw [hresult]
    rfl

theorem Invariant.connect (h : Invariant o s) {i : Nat} {socket : TcpSocket}
    (hsocket : s.sockets[i]? = some socket) :
    Invariant (o.react (.connect i)) (if socket.onConnect then s.onConnectListener i else s) := by
  have hstatus := h.status i socket hsocket
  obtain ⟨addresses, hphase⟩ := h.racing hsocket
  have hsuits := h.suits
  rw [hphase] at hsuits
  obtain ⟨haddresses, hsockets, hsettled, hrest⟩ := hsuits
  cases hresult : o.result with
  | none =>
    have hopen := status_open hresult hstatus
    rw [hresult] at hrest hsettled
    by_cases hmem : i ∈ o.failures.map Prod.fst
    · rw [if_pos hmem] at hopen
      have ho : o.react (.connect i) = o := by
        unfold Contest.react
        rw [hresult]
        exact if_pos hmem
      rw [ho, if_neg (by rw [hopen.onConnect]; decide)]
      exact h
    · rw [if_neg hmem] at hopen
      have ho : o.react (.connect i) = { o with result := some (.ok i) } := by
        unfold Contest.react
        rw [hresult]
        exact if_neg hmem
      rw [ho, if_pos hopen.onConnect]
      refine onConnectListener_invariant hphase haddresses hsockets rfl (.inl hsettled) ?_
      intro other hother
      rw [hsocket] at hother
      cases hother
      have hfailed : o.winnerFailed = false := hrest.2.2.1
      exact ⟨hopen.destroyed.trans hfailed.symm, by rw [hopen.onError, hfailed]; rfl⟩
  | some result =>
    have ho : o.react (.connect i) = o := by
      unfold Contest.react
      rw [hresult]
      cases result <;> rfl
    rw [ho]
    split
    · next honConnect =>
      rw [Contest.Status, hresult] at hstatus
      rw [hresult] at hsettled
      cases result with
      | error e =>
        rw [hstatus.onConnect] at honConnect
        cases honConnect
      | ok winner =>
        dsimp only at hstatus
        split at hstatus
        · next hi =>
          subst hi
          refine onConnectListener_invariant hphase haddresses hsockets hresult (.inr hsettled) ?_
          intro other hother
          rw [hsocket] at hother
          cases hother
          exact hstatus
        · rw [hstatus.onConnect] at honConnect
          cases honConnect
    · exact h

theorem react_open {i : Nat} {err : Failure} (hresult : o.result = none)
    (hnew : i ∉ o.failures.map Prod.fst) : o.react (.error i err) = o.fail i err := by
  unfold Contest.react
  rw [hresult]
  exact if_neg hnew

theorem react_other {i : Nat} {err : Failure} (hresult : o.result = none →
    i ∈ o.failures.map Prod.fst) (hwinner : o.result = some (.ok i) → o.winnerFailed = true) :
    o.react (.error i err) = o := by
  obtain ⟨addresses, failures, result, winnerFailed⟩ := o
  cases result with
  | none => exact if_pos (hresult rfl)
  | some result =>
    cases result with
    | error e => rfl
    | ok winner =>
      by_cases hi : i = winner
      · subst hi
        obtain rfl := hwinner rfl
        exact if_pos rfl
      · exact if_neg hi

/-- A socket of the race fails. -/
theorem Invariant.fail (h : Invariant o s) {i : Nat} {socket : TcpSocket} {err : Failure}
    (hsocket : s.sockets[i]? = some socket) (hresult : o.result = none)
    (hnew : i ∉ o.failures.map Prod.fst) :
    Invariant (o.fail i err) (s.onErrorListener i socket err) := by
  obtain ⟨addresses, hphase⟩ := h.racing hsocket
  have hsuits := h.suits
  rw [hphase] at hsuits
  obtain ⟨haddresses, hsockets, hsettled, hrest⟩ := hsuits
  rw [hresult] at hrest hsettled
  obtain ⟨honce, herrors, hwinner, haborted, honAbort⟩ := hrest
  obtain ⟨hlt, -⟩ := List.getElem?_eq_some_iff.1 hsocket
  have hlength : s.sockets.length = addresses.length := by rw [← hsockets, List.length_map]
  have honce' : Once addresses.length (o.failures ++ [(i, err)]) :=
    honce.append (hlength ▸ hlt) hnew err
  have herrors' : s.errors ++ [err] = (o.failures ++ [(i, err)]).map Prod.snd := by
    rw [herrors, List.map_append]
    rfl
  have hcount : (s.errors ++ [err]).length = addresses.length ↔
      AllFailed addresses.length (o.failures ++ [(i, err)]) := by
    rw [allFailed_iff_length honce', herrors', List.length_map]
  have hmap : (s.sockets.set i socket.removeListeners.destroy).map TcpSocket.address =
      addresses := by
    rw [TcpSocket.map_address_set hsocket (by rfl), hsockets]
  -- The others are as they were.
  have hothers : ∀ j other, (s.sockets.set i socket.removeListeners.destroy)[j]? = some other →
      if j ∈ (o.failures ++ [(i, err)]).map Prod.fst then other.IsDestroyed
      else other.IsConnecting := by
    intro j other hother
    have hmem : j ∈ (o.failures ++ [(i, err)]).map Prod.fst ↔
        j ∈ o.failures.map Prod.fst ∨ j = i := by
      rw [List.map_append, List.map_singleton, List.mem_append, List.mem_singleton]
    rw [List.getElem?_set] at hother
    split at hother
    · next hij =>
      cases hother
      rw [if_pos (hmem.2 (.inr hij.symm))]
      exact TcpSocket.isDestroyed_destroy socket
    · next hij =>
      have hstatus := status_open hresult (h.status j other hother)
      simpa only [hmem, Ne.symm hij, or_false] using hstatus
  by_cases hall : AllFailed addresses.length (o.failures ++ [(i, err)])
  · have ho : o.fail i err = { o with
        failures := o.failures ++ [(i, err)]
        result := some (.error (couldNotConnect ((o.failures ++ [(i, err)]).map Prod.snd))) } := by
      unfold Contest.fail
      exact if_pos ⟨addresses, haddresses, hall⟩
    have hs : s.onErrorListener i socket err = { s with
        errors := s.errors ++ [err]
        sockets := s.sockets.set i socket.removeListeners.destroy
        onAbort := false
        settled := some (.error (couldNotConnect (s.errors ++ [err]))) } := by
      simp only [onErrorListener, hphase, if_pos (hcount.2 hall), settle, hsettled, Option.none_or]
    rw [ho, hs]
    refine ⟨fun j other hother => ?_, ?_⟩
    · obtain ⟨hj, -⟩ := List.getElem?_eq_some_iff.1 hother
      rw [List.length_set, hlength] at hj
      have hdestroyed := hothers j other hother
      rwa [if_pos (hall j hj)] at hdestroyed
    · show Suits _ _ s.phase
      rw [hphase]
      exact ⟨haddresses, hmap, by rw [herrors'], rfl⟩
  · have ho : o.fail i err = { o with failures := o.failures ++ [(i, err)] } := by
      unfold Contest.fail
      refine if_neg ?_
      rintro ⟨addresses', haddresses', hall'⟩
      obtain rfl := Option.some.inj (haddresses.symm.trans haddresses')
      exact hall hall'
    have hs : s.onErrorListener i socket err = { s with
        errors := s.errors ++ [err]
        sockets := s.sockets.set i socket.removeListeners.destroy } := by
      simp only [onErrorListener, hphase, if_neg fun heq => hall (hcount.1 heq)]
    rw [ho, hs]
    refine ⟨fun j other hother => ?_, ?_⟩
    · rw [Contest.Status, hresult]
      exact hothers j other hother
    · show Suits _ _ s.phase
      rw [hphase]
      refine ⟨haddresses, hmap, hsettled.trans hresult.symm, ?_⟩
      rw [hresult]
      exact ⟨honce', herrors', hwinner, haborted, honAbort⟩

/-- The winner fails, after all is settled. -/
theorem Invariant.winnerFails (h : Invariant o s) {i : Nat} {socket : TcpSocket} {err : Failure}
    (hsocket : s.sockets[i]? = some socket) (hresult : o.result = some (.ok i)) :
    Invariant { o with winnerFailed := true } (s.onErrorListener i socket err) := by
  obtain ⟨addresses, hphase⟩ := h.racing hsocket
  have hsuits := h.suits
  rw [hphase] at hsuits
  obtain ⟨haddresses, hsockets, hsettled, hrest⟩ := hsuits
  rw [hresult] at hrest hsettled
  have hs : ∃ onAbort, (s.onErrorListener i socket err) = { s with
      errors := s.errors ++ [err]
      sockets := s.sockets.set i socket.removeListeners.destroy
      onAbort } ∧ onAbort = false := by
    simp only [onErrorListener, hphase, settle, hsettled, Option.some_or]
    split
    · exact ⟨false, rfl, rfl⟩
    · exact ⟨s.onAbort, rfl, hrest⟩
  obtain ⟨onAbort, heq, honAbort⟩ := hs
  rw [heq]
  refine ⟨fun j other hother => ?_, ?_⟩
  · change (s.sockets.set i socket.removeListeners.destroy)[j]? = some other at hother
    rw [Contest.Status, hresult]
    dsimp only
    rw [List.getElem?_set] at hother
    split at hother
    · next hij =>
      split at hother
      · cases hother
        rw [if_pos hij.symm]
        exact ⟨rfl, rfl⟩
      · cases hother
    · next hij =>
      have hstatus := h.status j other hother
      rw [Contest.Status, hresult] at hstatus
      dsimp only at hstatus
      rw [if_neg (Ne.symm hij)] at hstatus ⊢
      exact hstatus
  · show Suits _ _ s.phase
    rw [hphase]
    refine ⟨haddresses, ?_, hsettled.trans hresult.symm, ?_⟩
    · show (s.sockets.set i socket.removeListeners.destroy).map TcpSocket.address = addresses
      rw [TcpSocket.map_address_set hsocket (by rfl), hsockets]
    · rw [hresult]
      exact honAbort

theorem Invariant.error (h : Invariant o s) {i : Nat} {socket : TcpSocket} (err : Failure)
    (hsocket : s.sockets[i]? = some socket) :
    Invariant (o.react (.error i err))
      (if socket.onError then s.onErrorListener i socket err else s) := by
  have hstatus := h.status i socket hsocket
  cases hresult : o.result with
  | none =>
    have hopen := status_open hresult hstatus
    by_cases hmem : i ∈ o.failures.map Prod.fst
    · rw [if_pos hmem] at hopen
      rw [if_neg (by rw [hopen.onError]; decide),
        react_other (fun _ => hmem) fun h => by rw [hresult] at h; cases h]
      exact h
    · rw [if_neg hmem] at hopen
      rw [if_pos hopen.onError, react_open hresult hmem]
      exact h.fail hsocket hresult hmem
  | some result =>
    rw [Contest.Status, hresult] at hstatus
    have hnone : o.result ≠ none := by
      rw [hresult]
      exact Option.some_ne_none _
    cases result with
    | error e =>
      rw [if_neg (by rw [hstatus.onError]; decide),
        react_other (fun h => absurd h hnone) fun h => by rw [hresult] at h; cases h]
      exact h
    | ok winner =>
      dsimp only at hstatus
      split at hstatus
      · next hi =>
        subst hi
        cases hfailed : o.winnerFailed with
        | true =>
          rw [if_neg (by rw [hstatus.onError, hfailed]; decide),
            react_other (fun h => absurd h hnone) fun _ => hfailed]
          exact h
        | false =>
          have ho : o.react (.error i err) = { o with winnerFailed := true } := by
            unfold Contest.react
            rw [hresult]
            exact if_pos rfl
          rw [if_pos (by rw [hstatus.onError, hfailed]; rfl), ho]
          exact h.winnerFails hsocket hresult
      · next hi =>
        rw [if_neg (by rw [hstatus.onError]; decide), react_other (fun h => absurd h hnone)
          fun h => absurd (Except.ok.inj (Option.some.inj (h.symm.trans hresult))) hi]
        exact h

theorem Suits.addresses_ne_none (h : Suits o s s.phase) (hlookup : s.phase ≠ .lookup)
    (hresult : o.result = none) : o.addresses ≠ none := by
  cases hphase : s.phase with
  | lookup => exact absurd hphase hlookup
  | racing addresses =>
    rw [hphase] at h
    rw [h.1]
    exact Option.some_ne_none _
  | rejected =>
    rw [hphase] at h
    exact absurd hresult h.2.1
  | looked result =>
    rw [hphase] at h
    cases result with
    | ok addresses =>
      rw [h.1]
      exact Option.some_ne_none _
    | error e => exact absurd (hresult.symm.trans h.1) (Option.some_ne_none _).symm

theorem Invariant.lookedUp (h : Invariant o s) (result : Except Failure (List LookupAddress)) :
    Invariant (o.react (.lookedUp result)) (s.onLookedUp result) := by
  by_cases hlookup : s.phase = .lookup
  · have hsuits := h.suits
    rw [hlookup] at hsuits
    obtain ⟨rfl, hsockets, herrors, hsettled, haborted, -⟩ := hsuits
    rw [onLookedUp, hlookup]
    cases result with
    | ok addresses =>
      exact ⟨TcpSocket.forall_of_nil hsockets, rfl, hsockets, herrors, hsettled, haborted⟩
    | error err => exact ⟨TcpSocket.forall_of_nil hsockets, rfl, hsockets, hsettled⟩
  · have hsame : s.onLookedUp result = s := by
      rw [onLookedUp]
      split
      · next hphase => exact absurd hphase hlookup
      · rfl
    have ho : o.react (.lookedUp result) = o := by
      unfold Contest.react
      cases hresult : o.result with
      | some r => cases r <;> rfl
      | none => exact if_pos (h.suits.addresses_ne_none hlookup hresult)
    rwa [hsame, ho]

theorem Invariant.tick (h : Invariant o s) {s' : ConnectInParallel}
    (hstep : step options s .tick = some s') : Invariant o s' := by
  have hsuits := h.suits
  cases hphase : s.phase with
  | lookup | racing | rejected =>
    rw [step, hphase] at hstep
    cases hstep
  | looked result =>
    rw [hphase] at hsuits
    cases result with
    | ok addresses =>
      rw [step, hphase] at hstep
      cases hstep
      obtain ⟨rfl, hsockets, herrors, hsettled, haborted⟩ := hsuits
      refine ⟨fun i socket hsocket => ?_, rfl, ?_, hsettled, .nil _, herrors, rfl, haborted, rfl⟩
      · change (addresses.map (TcpSocket.connect options))[i]? = some socket at hsocket
        rw [List.getElem?_map] at hsocket
        obtain ⟨address, -, rfl⟩ := Option.map_eq_some_iff.1 hsocket
        exact TcpSocket.connect_isConnecting options address
      · show (addresses.map (TcpSocket.connect options)).map TcpSocket.address = addresses
        rw [List.map_map]
        exact List.map_id addresses
    | error e =>
      rw [step, hphase] at hstep
      cases hstep
      obtain ⟨hresult, hsockets, hsettled⟩ := hsuits
      refine ⟨h.status, ?_, ?_, hsockets⟩
      · show s.settled.or (some (.error e)) = o.result
        rw [hsettled, hresult]
        rfl
      · rw [hresult]
        exact Option.some_ne_none _

theorem signalAbort_silent (h : s.onAbort = false) :
    s.signalAbort = { s with aborted := true } := by
  simp [signalAbort, h]

/-- Outside the lookup and the race, an abort does nothing. -/
theorem signalAbort_unheard (hlookup : s.phase ≠ .lookup) (hracing : ∀ a, s.phase ≠ .racing a) :
    ∃ onAbort, s.signalAbort = { s with aborted := true, onAbort } := by
  unfold signalAbort onAbortListener
  dsimp only
  split
  · split
    · next hphase => exact absurd hphase hlookup
    · next hphase => exact absurd hphase (hracing _)
    · exact ⟨false, rfl⟩
  · exact ⟨s.onAbort, rfl⟩

theorem react_abort_decided {r : Except Rejection Nat} (h : o.result = some r) :
    o.react .abort = o := by
  unfold Contest.react
  rw [h]
  cases r <;> rfl

theorem react_abort_open (h : o.result = none) :
    o.react .abort = { o with result := some (.error .abortError) } := by
  unfold Contest.react
  rw [h]

/-- An abort that somebody listens to, or that comes when all is decided. -/
theorem Invariant.abort (h : Invariant o s) (hguard : Heard s .abort) :
    Invariant (o.react .abort) s.signalAbort := by
  have hsuits := h.suits
  cases hphase : s.phase with
  | lookup =>
    rw [hphase] at hsuits
    obtain ⟨rfl, hsockets, herrors, hsettled, -, honAbort⟩ := hsuits
    have hs : s.signalAbort = { s with
        phase := .looked (.error .abortError), aborted := true, onAbort := false } := by
      simp only [signalAbort, if_pos honAbort, onAbortListener, hphase]
    rw [react_abort_open rfl, hs]
    exact ⟨TcpSocket.forall_of_nil hsockets, rfl, hsockets, hsettled⟩
  | looked result =>
    rw [hphase] at hsuits
    cases result with
    | ok addresses =>
      rw [Heard, hphase] at hguard
      exact hguard.elim
    | error e =>
      obtain ⟨hresult, hsockets, hsettled⟩ := hsuits
      obtain ⟨onAbort, hs⟩ := signalAbort_unheard (s := s) (by simp [hphase]) (by simp [hphase])
      rw [react_abort_decided hresult, hs]
      refine ⟨h.status, ?_⟩
      show Suits o _ s.phase
      rw [hphase]
      exact ⟨hresult, hsockets, hsettled⟩
  | racing addresses =>
    rw [hphase] at hsuits
    obtain ⟨haddresses, hsockets, hsettled, hrest⟩ := hsuits
    cases hresult : o.result with
    | none =>
      rw [hresult] at hrest hsettled
      have hs : s.signalAbort = { s with
          sockets := s.sockets.map fun (socket : TcpSocket) => socket.removeListeners.destroy
          aborted := true
          onAbort := false
          settled := some (.error .abortError) } := by
        simp only [signalAbort, if_pos hrest.2.2.2.2, onAbortListener, hphase, settle, hsettled,
          Option.none_or]
      rw [react_abort_open hresult, hs]
      refine ⟨status_cleared rfl, ?_⟩
      show Suits _ _ s.phase
      rw [hphase]
      refine ⟨haddresses, ?_, rfl, rfl⟩
      show (s.sockets.map fun (socket : TcpSocket) => socket.removeListeners.destroy).map
        TcpSocket.address = addresses
      rw [List.map_map]
      exact hsockets
    | some r =>
      rw [hresult] at hrest hsettled
      rw [react_abort_decided hresult, signalAbort_silent hrest]
      refine ⟨h.status, ?_⟩
      show Suits o _ s.phase
      rw [hphase]
      refine ⟨haddresses, hsockets, hsettled.trans hresult.symm, ?_⟩
      rw [hresult]
      exact hrest
  | rejected =>
    rw [hphase] at hsuits
    obtain ⟨hsettled, hdecided, hsockets⟩ := hsuits
    obtain ⟨r, hresult⟩ := Option.ne_none_iff_exists'.1 hdecided
    obtain ⟨onAbort, hs⟩ := signalAbort_unheard (s := s) (by simp [hphase]) (by simp [hphase])
    rw [react_abort_decided hresult, hs]
    refine ⟨h.status, ?_⟩
    show Suits o _ s.phase
    rw [hphase]
    exact ⟨hsettled, hdecided, hsockets⟩

/-- What one step preserves. -/
theorem step_invariant {e : ConnectEvent} {s' : ConnectInParallel} (h : Invariant o s)
    (hguard : Heard s e) (hstep : step options s e = some s') : Invariant (o.react e) s' := by
  cases e with
  | lookedUp result =>
    cases hstep
    exact h.lookedUp result
  | connect i =>
    obtain ⟨socket, hsocket, rfl⟩ := Option.map_eq_some_iff.1 hstep
    exact h.connect hsocket
  | error i err =>
    obtain ⟨socket, hsocket, rfl⟩ := Option.map_eq_some_iff.1 hstep
    exact h.error err hsocket
  | abort =>
    rw [step] at hstep
    split at hstep <;> cases hstep
    exact h.abort hguard
  | tick =>
    have ho : o.react .tick = o := by
      unfold Contest.react
      split <;> rfl
    exact ho.symm ▸ h.tick hstep

/-! ### Runs -/

theorem start_invariant (hosts : Hosts) (options : ConnectOptions) (aborted : Bool) :
    Invariant (Contest.start hosts options aborted) (start hosts options aborted) := by
  cases aborted with
  | true => exact ⟨TcpSocket.forall_of_nil rfl, rfl, Option.some_ne_none _, rfl⟩
  | false =>
    unfold start Contest.start
    cases haddress : hosts.address options.host with
    | none => exact ⟨TcpSocket.forall_of_nil rfl, rfl, rfl, rfl, rfl, rfl, rfl⟩
    | some address => exact ⟨TcpSocket.forall_of_nil rfl, rfl, rfl, rfl, rfl, rfl⟩

theorem run_invariant {events : List ConnectEvent} {s' : ConnectInParallel}
    (hrun : (machine options).Steps Heard s events s') (h : Invariant o s) :
    Invariant (events.foldl Contest.react o) s' := by
  induction hrun generalizing o with
  | nil s => exact h
  | cons hguard hstep _ ih => exact ih (step_invariant h hguard hstep)

/-- No continuation is due. -/
theorem settles_waiting (hstep : step options s .tick = none) (hsettled : s.settled = o.result)
    (result : Except Rejection Nat) :
    (machine options).SettlesWith .tick ConnectInParallel.settled s result ↔
      o.result = some result := by
  cases hresult : o.result with
  | none =>
    exact iff_of_false (Machine.not_settlesWith (hsettled.trans hresult) hstep)
      (Option.some_ne_none _).symm
  | some decided =>
    rw [Machine.settlesWith_of_result (hsettled.trans hresult) hstep, Option.some_inj]
    exact eq_comm

theorem Invariant.agrees (h : Invariant o s) : Agrees options o s := by
  have hsuits := h.suits
  cases hphase : s.phase with
  | lookup =>
    rw [hphase] at hsuits
    obtain ⟨rfl, hsockets, -, hsettled, -⟩ := hsuits
    exact ⟨.inl hsockets, h.status, settles_waiting (by rw [step, hphase]) hsettled⟩
  | racing addresses =>
    rw [hphase] at hsuits
    obtain ⟨haddresses, hsockets, hsettled, -⟩ := hsuits
    refine ⟨.inr ?_, h.status, settles_waiting (by rw [step, hphase]) hsettled⟩
    rw [hsockets, haddresses]
  | rejected =>
    rw [hphase] at hsuits
    obtain ⟨hsettled, -, hsockets⟩ := hsuits
    exact ⟨.inl hsockets, h.status, settles_waiting (by rw [step, hphase]) hsettled⟩
  | looked result =>
    rw [hphase] at hsuits
    cases result with
    | ok addresses =>
      obtain ⟨rfl, hsockets, -, hsettled, -⟩ := hsuits
      refine ⟨.inl hsockets, h.status, fun result => ?_⟩
      have hstep : (machine options).step s .tick = some { s with
          phase := .racing addresses
          sockets := addresses.map (TcpSocket.connect options)
          onAbort := true } := by
        show step options s .tick = _
        rw [step, hphase]
      rw [Machine.settlesWith_of_step hsettled hstep]
      exact settles_waiting rfl hsettled result
    | error e =>
      obtain ⟨hresult, hsockets, hsettled⟩ := hsuits
      refine ⟨.inl hsockets, h.status, fun result => ?_⟩
      have hstep : (machine options).step s .tick =
          some ({ s with phase := .rejected }.settle (.error e)) := by
        show step options s .tick = _
        rw [step, hphase]
      rw [Machine.settlesWith_of_step hsettled hstep]
      refine settles_waiting rfl ?_ result
      rw [settle, hresult, hsettled]
      rfl

/-! ### Aborts that nobody hears -/

theorem Contest.react_stays {e : Rejection} (h : o.result = some (.error e))
    (events : List ConnectEvent) : events.foldl Contest.react o = o := by
  induction events with
  | nil => rfl
  | cons event events ih =>
    have ho : o.react event = o := by
      unfold Contest.react
      rw [h]
    rw [List.foldl_cons, ho, ih]

/-- The race is to come, or it goes on; or it ended in another way than by the abort. -/
def GoesOn (s : ConnectInParallel) : ParallelPhase → Prop
  | .looked (.ok _) => s.sockets = [] ∧ s.settled = none
  | .racing _ => s.settled ≠ some (.error .abortError)
  | .lookup | .looked (.error _) | .rejected => False

/-- The caller has aborted, and the promise goes on. -/
structure Missed (s : ConnectInParallel) : Prop where
  aborted : s.aborted = true
  goesOn : GoesOn s s.phase

theorem settle_ne_abortError {result : Except Rejection Nat} (hresult : result ≠ .error .abortError)
    (h : s.settled ≠ some (.error .abortError)) :
    (s.settle result).settled ≠ some (.error .abortError) := by
  show s.settled.or (some result) ≠ _
  cases hsettled : s.settled with
  | none => simpa using hresult
  | some r =>
    rw [hsettled] at h
    exact h

theorem Missed.racing {addresses : List LookupAddress} (haborted : s.aborted = true)
    (hphase : s.phase = .racing addresses) (h : s.settled ≠ some (.error .abortError)) :
    Missed s := by
  refine ⟨haborted, ?_⟩
  rw [hphase]
  exact h

theorem Missed.connect (h : Missed s) {i : Nat} {socket : TcpSocket}
    (hsocket : s.sockets[i]? = some socket) : Missed (s.onConnectListener i) := by
  have hgoesOn := h.goesOn
  cases hphase : s.phase with
  | racing addresses =>
    rw [hphase] at hgoesOn
    exact .racing h.aborted hphase (settle_ne_abortError nofun hgoesOn)
  | lookup | rejected =>
    rw [hphase] at hgoesOn
    exact hgoesOn.elim
  | looked result =>
    rw [hphase] at hgoesOn
    cases result with
    | ok addresses =>
      rw [hgoesOn.1] at hsocket
      cases hsocket
    | error e => exact hgoesOn.elim

theorem Missed.error (h : Missed s) (i : Nat) (socket : TcpSocket) (err : Failure) :
    Missed (s.onErrorListener i socket err) := by
  unfold onErrorListener
  split
  · next addresses hphase =>
    have hgoesOn := h.goesOn
    rw [hphase] at hgoesOn
    dsimp only
    split
    · exact .racing h.aborted hphase (settle_ne_abortError nofun hgoesOn)
    · exact .racing h.aborted hphase hgoesOn
  · exact h

theorem Missed.step (h : Missed s) {e : ConnectEvent} {s' : ConnectInParallel}
    (hstep : step options s e = some s') : Missed s' := by
  have hgoesOn := h.goesOn
  cases e with
  | lookedUp result =>
    cases hstep
    rw [onLookedUp]
    split
    · next hphase =>
      rw [hphase] at hgoesOn
      exact hgoesOn.elim
    · exact h
  | connect i =>
    obtain ⟨socket, hsocket, rfl⟩ := Option.map_eq_some_iff.1 hstep
    split
    · exact h.connect hsocket
    · exact h
  | error i err =>
    obtain ⟨socket, -, rfl⟩ := Option.map_eq_some_iff.1 hstep
    split
    · exact h.error i socket err
    · exact h
  | abort =>
    rw [ConnectInParallel.step, if_pos h.aborted] at hstep
    cases hstep
  | tick =>
    rw [ConnectInParallel.step] at hstep
    split at hstep
    · next hphase =>
      rw [hphase] at hgoesOn
      exact hgoesOn.elim
    · next hphase =>
      rw [hphase] at hgoesOn
      cases hstep
      refine .racing h.aborted rfl ?_
      show s.settled ≠ _
      rw [hgoesOn.2]
      exact nofun
    all_goals cases hstep

/-- The promise is not rejected for the abort, not even later. -/
theorem Missed.not_settlesWith (h : Missed s) :
    ¬ (machine options).SettlesWith .tick ConnectInParallel.settled s (.error .abortError) := by
  rintro ⟨n, s', hrun, hsettled⟩
  have hgoesOn := (hrun.invariant (fun h _ hstep => h.step hstep) h).goesOn
  cases hphase : s'.phase with
  | racing addresses =>
    rw [hphase] at hgoesOn
    exact hgoesOn hsettled
  | lookup | rejected =>
    rw [hphase] at hgoesOn
    exact hgoesOn
  | looked result =>
    rw [hphase] at hgoesOn
    cases result with
    | ok addresses =>
      rw [hgoesOn.2] at hsettled
      cases hsettled
    | error e => exact hgoesOn

/-- An abort between the answer of the lookup and the race. -/
theorem missed_of_not_heard (h : Invariant o s) {e : ConnectEvent} {s' : ConnectInParallel}
    (hheard : ¬ Heard s e) (hstep : step options s e = some s') :
    (o.react e).result = some (.error .abortError) ∧ Missed s' := by
  cases e with
  | lookedUp | connect | error | tick => exact absurd trivial hheard
  | abort =>
    rw [Heard] at hheard
    split at hheard
    · next addresses hphase =>
      have hsuits := h.suits
      rw [hphase] at hsuits
      obtain ⟨rfl, hsockets, -, hsettled, haborted⟩ := hsuits
      rw [step, if_neg (by rw [haborted]; decide)] at hstep
      cases hstep
      obtain ⟨onAbort, hs⟩ := signalAbort_unheard (s := s) (by simp [hphase]) (by simp [hphase])
      rw [hs]
      refine ⟨rfl, rfl, ?_⟩
      show GoesOn _ s.phase
      rw [hphase]
      exact ⟨hsockets, hsettled⟩
    · exact absurd trivial hheard

theorem heard_or_missed {events : List ConnectEvent} {s' : ConnectInParallel}
    (hrun : (machine options).Runs s events s') (h : Invariant o s) :
    (machine options).Steps Heard s events s' ∨
      (events.foldl Contest.react o).result = some (.error .abortError) ∧ Missed s' := by
  induction hrun generalizing o with
  | nil s => exact .inl (.nil s)
  | @cons s s₁ s₂ e events _ hstep hrest ih =>
    by_cases hheard : Heard s e
    · exact (ih (step_invariant h hheard hstep)).imp (.cons hheard hstep) id
    · obtain ⟨hresult, hmissed⟩ := missed_of_not_heard h hheard hstep
      refine .inr ⟨?_, hrest.invariant (fun h _ hstep => h.step hstep) hmissed⟩
      rw [List.foldl_cons, Contest.react_stays hresult]
      exact hresult

/-- **The first socket to connect.** The promise keeps to the contest of its events in the runs in
which no abort comes between the answer of the lookup and the race, and in no others. -/
theorem connectInParallel_agrees (hosts : Hosts) (options : ConnectOptions) (aborted : Bool)
    (events : List ConnectEvent) (s : ConnectInParallel)
    (hrun : (machine options).Runs (start hosts options aborted) events s) :
    Agrees options (events.foldl Contest.react (Contest.start hosts options aborted)) s ↔
      (machine options).Steps Heard (start hosts options aborted) events s := by
  constructor
  · intro h
    rcases heard_or_missed hrun (start_invariant hosts options aborted) with
      hheard | ⟨hresult, hmissed⟩
    · exact hheard
    · exact absurd ((h.settles_iff _).2 hresult) hmissed.not_settlesWith
  · intro hheard
    exact (run_invariant hheard (start_invariant hosts options aborted)).agrees

/-- The first address fails, the second one connects, and an abort comes too late. -/
theorem connectInParallel_agrees_second :
    ∃ s, (machine localhost).Runs (start namesOnly localhost false)
        [.lookedUp (.ok loopback), .tick, .error 0 ⟨some [], []⟩, .connect 1, .abort] s ∧
      Agrees localhost ([.lookedUp (.ok loopback), .tick, .error 0 ⟨some [], []⟩, .connect 1,
        .abort].foldl Contest.react (Contest.start namesOnly localhost false)) s := by
  obtain ⟨s, hrun⟩ : ∃ s, (machine localhost).Steps Heard (start namesOnly localhost false)
      [.lookedUp (.ok loopback), .tick, .error 0 ⟨some [], []⟩, .connect 1, .abort] s :=
    ⟨_, .cons trivial rfl (.cons trivial rfl (.cons trivial rfl (.cons trivial rfl
      (.cons trivial rfl (.nil _)))))⟩
  have hruns := hrun.mono fun _ => trivial
  exact ⟨s, hruns, (connectInParallel_agrees namesOnly localhost false _ s hruns).2 hrun⟩

/-- An abort between the answer of the lookup and the race: the promise is resolved. -/
theorem not_agrees : ¬ ∀ (hosts : Hosts) (options : ConnectOptions) (aborted : Bool)
    (events : List ConnectEvent) (s : ConnectInParallel),
    (machine options).Runs (start hosts options aborted) events s →
      Agrees options (events.foldl Contest.react (Contest.start hosts options aborted)) s := by
  intro h
  have hagrees := h namesOnly localhost false
    [.lookedUp (.ok loopback), .abort, .tick, .connect 0] _
    (.cons trivial rfl (.cons trivial rfl (.cons trivial rfl (.cons trivial rfl (.nil _)))))
  have hresolved := (hagrees.settles_iff (.ok 0)).1 ⟨0, _, .nil _, rfl⟩
  cases hresolved

end ConnectInParallel

end Tedious
