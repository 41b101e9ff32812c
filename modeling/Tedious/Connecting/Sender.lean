import Tedious.Connecting.Sockets
import Tedious.Lib.Race

/-!
# Tedious.Connecting.Sender

`sendInParallel` (`sender.ts`): one datagram to every address, each from a socket of its own. The
promise is a race of the sockets, with the caller's signal to cancel it.

`sendInParallel_settles`: it is settled once, as the race is decided, and leaves closed sockets
without listeners behind.
-/

namespace Tedious

open Chunked Race

/-! ### Sockets -/

inductive UdpType
  | udp4 | udp6
  deriving DecidableEq, Repr

/-- What `socket.send` is called with. -/
structure Datagram where
  request : Bytes
  port : JsNumber
  address : JsString
  deriving DecidableEq, Repr

/-- A `dgram.Socket`: what it has sent, its listeners, how often it was closed, and whether it has
emitted an error. -/
structure UdpSocket where
  udpType : UdpType
  sent : List Datagram
  onError : Bool
  onMessage : Bool
  closed : Nat
  failed : Bool
  deriving DecidableEq, Repr

/-- The promise of `sendInParallel`: its sockets, whether the listener for `abort` is there, and
the calls of `resolve` and `reject`. -/
structure SendInParallel where
  sockets : List UdpSocket
  errorCount : Nat
  /-- `signal.aborted`. -/
  aborted : Bool
  onAbort : Bool
  settled : List (Except Rejection Bytes)

namespace UdpSocket

/-- `dgram.createSocket`, with the listeners and the request. -/
def create (port : JsNumber) (request : Bytes) (address : LookupAddress) : UdpSocket where
  udpType := if address.family = 6 then .udp6 else .udp4
  sent := [{ request, port, address := address.address }]
  onError := true
  onMessage := true
  closed := 0
  failed := false

/-- What `clearSockets` does to a socket. -/
def clear (socket : UdpSocket) : UdpSocket :=
  { socket with onError := false, onMessage := false, closed := socket.closed + 1 }

/-- Both listeners are there, and the socket is not closed. -/
structure IsOpen (socket : UdpSocket) : Prop where
  onError : socket.onError = true
  onMessage : socket.onMessage = true
  closed : socket.closed = 0

/-- Closed once, and without listeners. -/
structure IsCleared (socket : UdpSocket) : Prop where
  onError : socket.onError = false
  onMessage : socket.onMessage = false
  closed : socket.closed = 1

theorem IsOpen.clear {socket : UdpSocket} (h : socket.IsOpen) : socket.clear.IsCleared :=
  ⟨rfl, rfl, congrArg Nat.succ h.closed⟩

end UdpSocket

/-! ### The promise -/

namespace SendInParallel

variable (addresses : List LookupAddress)

def start (port : JsNumber) (request : Bytes) (aborted : Bool) : SendInParallel :=
  if aborted then
    { sockets := [], errorCount := 0, aborted, onAbort := false, settled := [.error .abortError] }
  else
    { sockets := addresses.map (UdpSocket.create port request), errorCount := 0, aborted,
      onAbort := true, settled := [] }

def clearSockets (s : SendInParallel) : SendInParallel :=
  { s with sockets := s.sockets.map UdpSocket.clear }

def settle (result : Except Rejection Bytes) (s : SendInParallel) : SendInParallel :=
  { s with settled := s.settled ++ [result] }

def onErrorListener (err : Failure) (s : SendInParallel) : SendInParallel :=
  let s := { s with errorCount := s.errorCount + 1 }
  if s.errorCount = addresses.length then
    ({ s with onAbort := false }.clearSockets).settle (.error (.failure err))
  else s

def onMessageListener (message : Bytes) (s : SendInParallel) : SendInParallel :=
  ({ s with onAbort := false }.clearSockets).settle (.ok message)

def onAbortListener (s : SendInParallel) : SendInParallel :=
  s.clearSockets.settle (.error .abortError)

/-- A message or an error of a socket, or the abort, as the listeners that are there hear it. The
listener for `abort` is there once. -/
def step (s : SendInParallel) : Event Bytes Failure → Option SendInParallel
  | .win i message =>
    s.sockets[i]?.map fun socket => if socket.onMessage then s.onMessageListener message else s
  | .fail i err =>
    s.sockets[i]?.map fun socket =>
      let s := { s with sockets := s.sockets.set i { socket with failed := true } }
      if socket.onError then s.onErrorListener addresses err else s
  | .cancel =>
    if s.aborted then none
    else
      let s := { s with aborted := true }
      some (if s.onAbort then { s with onAbort := false }.onAbortListener else s)

def machine : Machine SendInParallel (Event Bytes Failure) where
  step := step addresses

/-- A socket emits an error once at most. -/
def OneErrorEach (s : SendInParallel) : Event Bytes Failure → Prop
  | .fail i _ => ∀ socket ∈ s.sockets[i]?, socket.failed = false
  | _ => True

/-- The result that a verdict asks for: the first message, the last error, or an `AbortError`. -/
def resultOf : Verdict Bytes Failure → Except Rejection Bytes
  | .won _ message => .ok message
  | .lost failures =>
    match failures.getLast? with
    | some (_, err) => .error (.failure err)
    | none => .error .abortError
  | .cancelled => .error .abortError

/-- The race goes on. -/
structure Open (failures : List (Nat × Failure)) (s : SendInParallel) : Prop where
  once : Once addresses.length failures
  errorCount : s.errorCount = failures.length
  waiting : ¬ AllFailed addresses.length failures
  aborted : s.aborted = false
  onAbort : s.onAbort = true
  settled : s.settled = []
  length : s.sockets.length = addresses.length
  sockets : ∀ socket ∈ s.sockets, socket.IsOpen
  failed : ∀ i (h : i < s.sockets.length), s.sockets[i].failed = true ↔ i ∈ failures.map Prod.fst

/-- The race is decided. -/
structure Over (v : Verdict Bytes Failure) (s : SendInParallel) : Prop where
  settled : s.settled = [resultOf v]
  onAbort : s.onAbort = false
  length : s.sockets.length = addresses.length
  sockets : ∀ socket ∈ s.sockets, socket.IsCleared

variable {addresses} {s : SendInParallel} {failures : List (Nat × Failure)}

theorem start_open (h : addresses ≠ []) (port : JsNumber) (request : Bytes) :
    Open addresses [] (start addresses port request false) where
  once := .nil _
  errorCount := rfl
  waiting hall := absurd (hall 0 (List.length_pos_of_ne_nil h)) List.not_mem_nil
  aborted := rfl
  onAbort := rfl
  settled := rfl
  length := List.length_map _
  sockets socket hsocket := by
    obtain ⟨address, -, rfl⟩ := List.mem_map.1 hsocket
    exact ⟨rfl, rfl, rfl⟩
  failed i hi := by
    simp [start, UdpSocket.create]

/-- Whichever listener decides, it clears the sockets and settles the promise. -/
theorem clearSockets_over {v : Verdict Bytes Failure} (hsettled : s.settled = [])
    (hlength : s.sockets.length = addresses.length) (hsockets : ∀ socket ∈ s.sockets, socket.IsOpen)
    (honAbort : s.onAbort = false) : Over addresses v (s.clearSockets.settle (resultOf v)) where
  settled := by
    rw [settle, clearSockets, hsettled]
    rfl
  onAbort := honAbort
  length := (List.length_map _).trans hlength
  sockets socket hsocket := by
    obtain ⟨before, hbefore, rfl⟩ := List.mem_map.1 hsocket
    exact (hsockets before hbefore).clear

/-- A socket that has emitted an error keeps its listeners and stays open, or cleared. -/
theorem forall_mem_set_failed {P : UdpSocket → Prop} {sockets : List UdpSocket} {i : Nat}
    {socket : UdpSocket} (hP : P socket → P { socket with failed := true })
    (h : ∀ other ∈ sockets, P other) (hsocket : sockets[i]? = some socket) :
    ∀ other ∈ sockets.set i { socket with failed := true }, P other := by
  intro other hother
  rcases List.mem_or_eq_of_mem_set hother with hmem | rfl
  · exact h other hmem
  · exact hP (h socket (List.mem_of_getElem? hsocket))

theorem Open.mark (h : Open addresses failures s) {i : Nat} {socket : UdpSocket}
    (hsocket : s.sockets[i]? = some socket) :
    ∀ other ∈ s.sockets.set i { socket with failed := true }, other.IsOpen :=
  forall_mem_set_failed (fun h => ⟨h.onError, h.onMessage, h.closed⟩) h.sockets hsocket

theorem Open.once_append (h : Open addresses failures s) {i : Nat} {socket : UdpSocket}
    {err : Failure} (hsocket : s.sockets[i]? = some socket)
    (hguard : OneErrorEach s (.fail i err)) :
    Once addresses.length (failures ++ [(i, err)]) := by
  obtain ⟨hi, heq⟩ := List.getElem?_eq_some_iff.1 hsocket
  refine h.once.append (h.length ▸ hi) (fun hmem => ?_) err
  have hfailed := (h.failed i hi).2 hmem
  rw [heq, hguard socket hsocket] at hfailed
  cases hfailed

/-- The counter tells whether all have failed. -/
theorem Open.errorCount_iff (h : Open addresses failures s) {i : Nat} {socket : UdpSocket}
    {err : Failure} (hsocket : s.sockets[i]? = some socket)
    (hguard : OneErrorEach s (.fail i err)) :
    s.errorCount + 1 = addresses.length ↔ AllFailed addresses.length (failures ++ [(i, err)]) := by
  rw [allFailed_iff_length (h.once_append hsocket hguard), h.errorCount, List.length_append]
  rfl

/-- `sendInParallel` keeps up with the race of its sockets. -/
theorem follows (addresses : List LookupAddress) :
    Follows (machine addresses) OneErrorEach addresses.length (Open addresses) (Over addresses) where
  win {s s' failures i message} h _ hstep := by
    obtain ⟨socket, hsocket, rfl⟩ := Option.map_eq_some_iff.1 hstep
    rw [if_pos (h.sockets socket (List.mem_of_getElem? hsocket)).onMessage]
    exact clearSockets_over h.settled h.length h.sockets rfl
  last {s s' failures i err} h hguard hstep hall := by
    obtain ⟨socket, hsocket, rfl⟩ := Option.map_eq_some_iff.1 hstep
    rw [if_pos (h.sockets socket (List.mem_of_getElem? hsocket)).onError, onErrorListener,
      if_pos ((h.errorCount_iff hsocket hguard).2 hall)]
    have hresult : resultOf (.lost (failures ++ [(i, err)])) = .error (.failure err) := by
      rw [resultOf, List.getLast?_concat]
    rw [← hresult]
    exact clearSockets_over h.settled ((List.length_set ..).trans h.length) (h.mark hsocket) rfl
  fail {s s' failures i err} h hguard hstep hmore := by
    obtain ⟨socket, hsocket, rfl⟩ := Option.map_eq_some_iff.1 hstep
    rw [if_pos (h.sockets socket (List.mem_of_getElem? hsocket)).onError, onErrorListener,
      if_neg fun heq => hmore ((h.errorCount_iff hsocket hguard).1 heq)]
    refine ⟨h.once_append hsocket hguard, ?_, hmore, h.aborted, h.onAbort, h.settled,
      (List.length_set ..).trans h.length, h.mark hsocket, fun j hj => ?_⟩
    · rw [List.length_append, ← h.errorCount]
      rfl
    · have hj' : j < s.sockets.length := by rwa [List.length_set] at hj
      rw [List.getElem_set, List.map_append, List.mem_append]
      split
      · next heq => exact iff_of_true rfl (.inr (List.mem_singleton.2 heq.symm))
      · next hne =>
        rw [h.failed j hj', or_iff_left]
        exact fun hmem => hne (List.mem_singleton.1 hmem).symm
  cancel {s s' failures} h _ hstep := by
    change step addresses s .cancel = some s' at hstep
    rw [step, h.aborted] at hstep
    cases hstep
    rw [if_pos h.onAbort]
    exact clearSockets_over (v := .cancelled) h.settled h.length h.sockets rfl
  stays {s s' v event} h _ hstep := by
    cases event with
    | win i message =>
      obtain ⟨socket, hsocket, rfl⟩ := Option.map_eq_some_iff.1 hstep
      have hcleared := h.sockets socket (List.mem_of_getElem? hsocket)
      rw [if_neg (by rw [hcleared.onMessage]; decide)]
      exact h
    | fail i err =>
      obtain ⟨socket, hsocket, rfl⟩ := Option.map_eq_some_iff.1 hstep
      have hcleared := h.sockets socket (List.mem_of_getElem? hsocket)
      rw [if_neg (by rw [hcleared.onError]; decide)]
      exact ⟨h.settled, h.onAbort, (List.length_set ..).trans h.length,
        forall_mem_set_failed (fun h => ⟨h.onError, h.onMessage, h.closed⟩) h.sockets hsocket⟩
    | cancel =>
      change step addresses s .cancel = some s' at hstep
      rw [step] at hstep
      split at hstep
      · cases hstep
      · cases hstep
        rw [if_neg (by rw [h.onAbort]; decide)]
        exact ⟨h.settled, h.onAbort, h.length, h.sockets⟩

/-- **Settled once, and everything closed.** Where each socket emits one error at most, the promise
has been settled once if the race of the sockets is decided, with the result of that; then each of
the sockets has been closed once and has no listeners left. Until then nothing is settled and all
sockets are open. With a signal that was aborted before, there are no sockets. -/
theorem sendInParallel_settles (h : addresses ≠ []) (port : JsNumber) (request : Bytes)
    {aborted : Bool} {events : List (Event Bytes Failure)}
    (hrun : (machine addresses).Steps OneErrorEach (start addresses port request aborted)
      events s) :
    s.settled = (if aborted then [.error .abortError]
        else ((verdict addresses.length [] events).map resultOf).toList) ∧
      s.sockets.length = (if aborted then 0 else addresses.length) ∧
      if s.settled = [] then ∀ socket ∈ s.sockets, socket.IsOpen
      else ∀ socket ∈ s.sockets, socket.IsCleared := by
  cases aborted with
  | true =>
    have hsame : s = start addresses port request true := by
      cases hrun with
      | nil => rfl
      | @cons _ _ _ event _ _ hstep => cases event <;> cases hstep
    subst hsame
    exact ⟨rfl, rfl, fun _ hsocket => by cases hsocket⟩
  | false =>
    have hfollows := (follows addresses).run hrun (start_open h port request)
    cases hverdict : verdict addresses.length [] events with
    | none =>
      rw [hverdict] at hfollows
      obtain ⟨failures, hopen⟩ := hfollows
      rw [hopen.settled, if_pos rfl]
      exact ⟨rfl, hopen.length, hopen.sockets⟩
    | some v =>
      rw [hverdict] at hfollows
      rw [hfollows.settled, if_neg (List.cons_ne_nil _ _)]
      exact ⟨rfl, hfollows.length, hfollows.sockets⟩

/-- `::1` and `127.0.0.1`. -/
def twoAddresses : List LookupAddress :=
  [⟨JsString.ofString "::1", 6⟩, ⟨JsString.ofString "127.0.0.1", 4⟩]

/-- Two sockets fail, the second one first; the abort is too late. -/
theorem sendInParallel_settles_two :
    ∃ s, (machine twoAddresses).Steps OneErrorEach (start twoAddresses (.finite 1434) [0x02] false)
        [.fail 1 ⟨none, []⟩, .fail 0 ⟨some [], []⟩, .cancel] s ∧
      s.settled = [.error (.failure ⟨some [], []⟩)] ∧ ∀ socket ∈ s.sockets, socket.IsCleared := by
  have hunfailed : ∀ {s : SendInParallel} {i : Nat} {err : Failure},
      (∀ socket ∈ s.sockets[i]?.toList, socket.failed = false) → OneErrorEach s (.fail i err) :=
    fun h socket hsocket => h socket (Option.mem_toList.2 hsocket)
  obtain ⟨s, hrun⟩ : ∃ s, (machine twoAddresses).Steps OneErrorEach
      (start twoAddresses (.finite 1434) [0x02] false)
      [.fail 1 ⟨none, []⟩, .fail 0 ⟨some [], []⟩, .cancel] s :=
    ⟨_, .cons (hunfailed (by decide)) rfl (.cons (hunfailed (by decide)) rfl
      (.cons True.intro rfl (.nil _)))⟩
  obtain ⟨hsettled, -, hsockets⟩ := sendInParallel_settles (by decide) (.finite 1434) [0x02] hrun
  rw [hsettled] at hsockets
  exact ⟨s, hrun, hsettled, hsockets⟩

end SendInParallel

end Tedious
