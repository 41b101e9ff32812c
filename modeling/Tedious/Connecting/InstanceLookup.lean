import Tedious.Errors
import Tedious.Lib.Machine

/-!
# Tedious.Connecting.InstanceLookup

Asking the SQL Server Browser for the port of an instance (`instance-lookup.ts`), one attempt after
the other, each under a timer of its own (`with-timeout.ts`). The lookup is a machine: what happens
to the attempt that is under way, an abort at any time, and the continuations that are due.

The loop goes on after an answer. `stopsAtFirstAnswer`: the first answer decides in every run in
which it comes to the last attempt, and in no other run that ends.
-/

namespace Tedious

open Chunked

/-! ### The response -/

/-- `parseInt(s, 10)`; `none` is `NaN`. -/
def parseDecimal (s : JsString) : Option Int :=
  let (sign, s) := stripSign (s.dropWhile isStrWhiteSpace)
  match leadingDigits 10 s with
  | [] => none
  | digits => some (sign * toNumber (digits.foldl (fun n d => 10 * n + d) 0))

/-- A symbol in front of the first part. -/
def prepend (c : UInt16) : List JsString → List JsString
  | part :: parts => (c :: part) :: parts
  | [] => [[c]]

/-- `s.split(c + c)`. -/
def splitAtPair (c : UInt16) : JsString → List JsString
  | a :: b :: s => if a = c ∧ b = c then [] :: splitAtPair c s else prepend a (splitAtPair c (b :: s))
  | s => [s]

/-- `buf.toString('ascii', start)`. -/
def asciiText (start : Nat) (buf : Bytes) : JsString :=
  (buf.drop start).map fun b => UInt16.ofNat (b.toNat % 128)

/-- What the loop over the parts of an instance ends with: a return with a port, or the flag that
it passes on to the next instance. -/
inductive Parts
  | port (n : Option Int)
  | passed (getPort : Bool)
  deriving DecidableEq, Repr

section Parsing

variable (toUpperCase : JsString → JsString) (instanceName : JsString)

/-- The names and values of an instance. A last name without a value has `undefined`. -/
def scanParts : (getPort : Bool) → List JsString → Except Rejection Parts
  | getPort, name :: value :: parts =>
    if name = JsString.ofString "tcp" ∧ getPort then .ok (.port (parseDecimal value))
    else if name = JsString.ofString "InstanceName" then
      scanParts (toUpperCase value = toUpperCase instanceName) parts
    else scanParts getPort parts
  | getPort, [name] =>
    if name = JsString.ofString "tcp" ∧ getPort then .ok (.port none)
    else if name = JsString.ofString "InstanceName" then .error .typeError
    else .ok (.passed getPort)
  | getPort, [] => .ok (.passed getPort)

def scanInstances : (getPort : Bool) → List JsString → Except Rejection (Option (Option Int))
  | getPort, inst :: instances => do
    match ← scanParts toUpperCase instanceName getPort (inst.splitOn 0x3B) with
    | .port n => pure (some n)
    | .passed getPort => scanInstances getPort instances
  | _, [] => pure none

/-- `parseBrowserResponse`: the number it returns, or `none` for `undefined`. -/
def parseBrowserResponse (response : JsString) : Except Rejection (Option (Option Int)) :=
  scanInstances toUpperCase instanceName false (splitAtPair 0x3B response)

end Parsing

example : parseBrowserResponse id (JsString.ofString "b") (JsString.ofString
    "xxServerName;s;InstanceName;a;tcp;1;;ServerName;s;InstanceName;b;tcp;1433;;") =
    .ok (some (some 1433)) := by decide

/-! ### The lookup -/

def SQL_SERVER_BROWSER_PORT : JsNumber := .finite 1434
def TIMEOUT : JsNumber := .finite 2000
def RETRIES : JsNumber := .finite 3
def MYSTERY_HEADER_LENGTH : Nat := 3

/-- The options of a lookup, without its `lookup` function and its signal. -/
structure LookupOptions where
  server : JsString
  instanceName : JsString
  timeout : Option JsNumber := none
  retries : Option JsNumber := none
  port : Option JsNumber := none

/-- A call of `sendMessage`, under `withTimeout`. -/
structure BrowserRequest where
  host : JsString
  port : JsNumber
  request : Bytes
  timeout : JsNumber
  deriving DecidableEq, Repr

/-- What others see of a lookup. -/
inductive LookupEntry
  | sent (message : BrowserRequest)
  | timedOut
  | answered (response : Bytes)
  | failed (e : Failure)
  | aborted
  deriving DecidableEq, Repr

/-- Where a lookup is: an attempt is under way; its `sendMessage` is settled, and `withTimeout` has
not gone on; `withTimeout` is settled and no longer listens, and `instanceLookup` has not gone on;
or all is over. -/
inductive LookupPhase
  | attempt (i : Nat)
  | settled (i : Nat) (result : Except Rejection Bytes)
  | returned (i : Nat) (result : Except Rejection Bytes)
  | done (result : Except Rejection Int)

/-- A lookup, with its log, the latest entry first. -/
structure InstanceLookup where
  phase : LookupPhase
  /-- `signal.aborted`. -/
  aborted : Bool
  response : Option Bytes
  log : List LookupEntry

/-- The timer of the attempt, an abort by the caller, a datagram, an error, or the next
continuation that is due. -/
inductive LookupEvent
  | timer
  | abort
  | message (response : Bytes)
  | failure (e : Failure)
  | tick

namespace LookupOptions

variable (toUpperCase : JsString → JsString) (options : LookupOptions)

def message : BrowserRequest where
  host := options.server
  port := options.port.getD SQL_SERVER_BROWSER_PORT
  request := [0x02]
  timeout := options.timeout.getD TIMEOUT

def noResponse : Rejection :=
  .error (JsString.ofString "Failed to get response from SQL Server Browser on " ++ options.server)

def portNotFound : Rejection :=
  .error (JsString.ofString "Port for " ++ (options.instanceName ++
    (JsString.ofString " not found in " ++ options.server)))

/-- The port in a response: neither `undefined` nor `NaN` or zero. -/
def foundPort (response : Bytes) : Except Rejection Int := do
  let message := asciiText MYSTERY_HEADER_LENGTH response
  match ← parseBrowserResponse toUpperCase options.instanceName message with
  | some (some n) => if n ≠ 0 then pure n else throw options.portNotFound
  | some none | none => throw options.portNotFound

end LookupOptions

/-- The end of `withTimeout`, which makes a timeout of an `AbortError` that is not the caller's. -/
def withTimeout (aborted : Bool) (result : Except Rejection Bytes) : Except Rejection Bytes :=
  match result with
  | .ok response => .ok response
  | .error e =>
    if e.name = some (JsString.ofString "AbortError") ∧ !aborted then .error .timeoutError
    else .error e

namespace InstanceLookup

variable (toUpperCase : JsString → JsString) (options : LookupOptions)

def record (entry : LookupEntry) (s : InstanceLookup) : InstanceLookup :=
  { s with log := entry :: s.log }

/-- The head of the loop, and what follows it. -/
def next (i : Nat) (s : InstanceLookup) : InstanceLookup :=
  if (options.retries.getD RETRIES).bounds i then
    { s with phase := .attempt i }.record (.sent options.message)
  else
    { s with phase := .done (match s.response with
      | none => .error options.noResponse
      | some response => options.foundPort toUpperCase response) }

/-- `instanceLookup`, up to its first attempt. -/
def start (aborted : Bool) : InstanceLookup :=
  if aborted then
    { phase := .done (.error .abortError), aborted, response := none, log := [.aborted] }
  else next toUpperCase options 0 { phase := .attempt 0, aborted, response := none, log := [] }

/-- What the attempt ends with, as `sendMessage` reports it. -/
def settle (i : Nat) (result : Except Rejection Bytes) (s : InstanceLookup) : InstanceLookup :=
  { s with phase := .settled i result }

/-- The rest of an iteration. -/
def proceed (i : Nat) (result : Except Rejection Bytes) (s : InstanceLookup) : InstanceLookup :=
  match result with
  | .ok response => next toUpperCase options (i + 1) { s with response := some response }
  | .error e =>
    if !s.aborted ∧ e.name = some (JsString.ofString "TimeoutError") then
      next toUpperCase options (i + 1) s
    else { s with phase := .done (.error e) }

def step (s : InstanceLookup) : LookupEvent → Option InstanceLookup
  | .timer =>
    match s.phase with
    | .attempt i => some ((s.settle i (.error .abortError)).record .timedOut)
    | _ => none
  | .message response =>
    match s.phase with
    | .attempt i => some ((s.settle i (.ok response)).record (.answered response))
    | _ => none
  | .failure e =>
    match s.phase with
    | .attempt i => some ((s.settle i (.error (.failure e))).record (.failed e))
    | _ => none
  | .abort =>
    if s.aborted then none
    else match s.phase with
      | .attempt i => some ({ s.settle i (.error .abortError) with aborted := true }.record .aborted)
      | .settled .. | .returned .. => some ({ s with aborted := true }.record .aborted)
      | .done _ => none
  | .tick =>
    match s.phase with
    | .settled i result => some { s with phase := .returned i (withTimeout s.aborted result) }
    | .returned i result => some (s.proceed toUpperCase options i result)
    | .attempt _ | .done _ => none

/-- `instanceLookup` as a machine. -/
def machine : Machine InstanceLookup LookupEvent where
  step := step toUpperCase options

end InstanceLookup

/-! ### What the first answer decides -/

namespace LookupEntry

def isSent : LookupEntry → Bool
  | sent _ => true
  | timedOut | answered _ | failed _ | aborted => false

/-- An answer, an error that is no timeout, or an abort. -/
def decides : LookupEntry → Bool
  | answered _ | failed _ | aborted => true
  | sent _ | timedOut => false

/-- The first entry of a log that decides. -/
def verdict : List LookupEntry → Option LookupEntry
  | [] => none
  | entry :: log =>
    match verdict log with
    | some first => some first
    | none => if entry.decides then some entry else none

/-- Nothing is sent after an entry that decides. -/
def Quiet : List LookupEntry → Prop
  | [] => True
  | entry :: log => Quiet log ∧ (entry.isSent = true → verdict log = none)

theorem verdict_of_some {log : List LookupEntry} {first : LookupEntry}
    (h : verdict log = some first) (entry : LookupEntry) : verdict (entry :: log) = some first := by
  rw [verdict, h]

theorem verdict_of_none {log : List LookupEntry} (h : verdict log = none) (entry : LookupEntry) :
    verdict (entry :: log) = if entry.decides then some entry else none := by
  rw [verdict, h]

end LookupEntry

open LookupEntry

namespace InstanceLookup

variable (toUpperCase : JsString → JsString) (options : LookupOptions)

/-- The requests that have been sent. -/
def sent (s : InstanceLookup) : Nat := s.log.countP isSent

def timeouts (s : InstanceLookup) : Nat := s.log.count .timedOut

theorem sent_record (s : InstanceLookup) (entry : LookupEntry) :
    (s.record entry).sent = s.sent + if entry.isSent then 1 else 0 := List.countP_cons ..

theorem timeouts_record (s : InstanceLookup) (entry : LookupEntry) :
    (s.record entry).timeouts = s.timeouts + if entry == .timedOut then 1 else 0 :=
  List.count_cons ..

/-- The promise is settled. -/
def result (s : InstanceLookup) : Option (Except Rejection Int) :=
  match s.phase with
  | .done result => some result
  | .attempt _ | .settled .. | .returned .. => none

/-- A result that a lookup has, or will have after the continuations that are due. -/
def SettlesWith (s : InstanceLookup) (result : Except Rejection Int) : Prop :=
  (machine toUpperCase options).SettlesWith .tick InstanceLookup.result s result

/-- The results that an entry decides on. -/
def Follows (result : Except Rejection Int) : LookupEntry → Prop
  | .answered response => result = options.foundPort toUpperCase response
  | .failed e => result = .error (.failure e)
  | .aborted => result = .error .abortError ∨ result = .error .timeoutError
  | .sent _ | .timedOut => False

/-- The first answer decides: no more than one request and the retries, none after the first answer,
error or abort, and the result that it calls for; without one, the error of a lookup whose attempts
have all timed out. -/
structure StopsAtFirstAnswer (s : InstanceLookup) : Prop where
  requests : ∀ n < s.sent, (options.retries.getD RETRIES).bounds n
  quiet : Quiet s.log
  decided : ∀ first, verdict s.log = some first →
    ∃ result, SettlesWith toUpperCase options s result ∧
      Follows toUpperCase options result first
  undecided : verdict s.log = none → ∀ result, s.phase = .done result →
    result = .error options.noResponse
  exhausted_iff : SettlesWith toUpperCase options s (.error options.noResponse) ↔
    verdict s.log = none ∧ s.timeouts = s.sent ∧ ¬ (options.retries.getD RETRIES).bounds s.sent

/-- No error of the lookup function or of a socket has the name of a timeout or an abort. -/
def NamesApart (_ : InstanceLookup) : LookupEvent → Prop
  | .failure e => e.name ≠ some (JsString.ofString "AbortError") ∧
      e.name ≠ some (JsString.ofString "TimeoutError")
  | _ => True

/-- And an answer comes to the last attempt only. -/
def AnswersLast (s : InstanceLookup) : LookupEvent → Prop
  | .message _ => ∀ i, s.phase = .attempt i → ¬ (options.retries.getD RETRIES).bounds (i + 1)
  | e => NamesApart s e

variable {toUpperCase options} {s : InstanceLookup} {result : Except Rejection Int}

/-! ### Errors of a response -/

theorem scanParts_error {instanceName : JsString} {getPort : Bool} {parts : List JsString}
    {e : Rejection} (h : scanParts toUpperCase instanceName getPort parts = .error e) :
    e = .typeError := by
  fun_induction scanParts toUpperCase instanceName getPort parts with
  | case1 => cases h
  | case2 _ _ _ _ ih => exact ih h
  | case3 getPort name value parts _ _ ih => exact ih h
  | case4 => cases h
  | case5 => exact (Except.error.inj h).symm
  | case6 => cases h
  | case7 => cases h

theorem scanInstances_error {instanceName : JsString} {getPort : Bool} {instances : List JsString}
    {e : Rejection} (h : scanInstances toUpperCase instanceName getPort instances = .error e) :
    e = .typeError := by
  induction instances generalizing getPort with
  | nil => cases h
  | cons inst instances ih =>
    rw [scanInstances] at h
    cases hparts : scanParts toUpperCase instanceName getPort (inst.splitOn 0x3B) with
    | error e' =>
      rw [hparts] at h
      cases h
      exact scanParts_error hparts
    | ok parts =>
      rw [hparts] at h
      cases parts with
      | port n => cases h
      | passed getPort => exact ih h

theorem foundPort_ne_noResponse (response : Bytes) :
    options.foundPort toUpperCase response ≠ .error options.noResponse := by
  have hnotFound : options.portNotFound ≠ options.noResponse := by
    intro h
    have hhead := congrArg List.head? (Rejection.error.inj h)
    exact absurd (Option.some.inj hhead) (by decide)
  intro h
  rw [LookupOptions.foundPort] at h
  cases hparsed : parseBrowserResponse toUpperCase options.instanceName
      (asciiText MYSTERY_HEADER_LENGTH response) with
  | error e =>
    rw [hparsed] at h
    rw [scanInstances_error hparsed] at h
    cases h
  | ok port =>
    rw [hparsed] at h
    rcases port with _ | _ | n
    · exact hnotFound (Except.error.inj h)
    · exact hnotFound (Except.error.inj h)
    · by_cases hn : n ≠ 0
      · simp [hn, bind, Except.bind, pure, Except.pure] at h
      · simp only [hn, bind, Except.bind] at h
        exact hnotFound (Except.error.inj h)

theorem Follows.ne_noResponse {first : LookupEntry} (h : Follows toUpperCase options result first) :
    result ≠ .error options.noResponse := by
  rintro rfl
  cases first with
  | sent => exact h
  | timedOut => exact h
  | answered response => exact foundPort_ne_noResponse response h.symm
  | failed e => cases h
  | aborted => rcases h with h | h <;> cases h

/-! ### The continuations that are due -/

theorem settlesWith_done {result' : Except Rejection Int} (h : s.phase = .done result') :
    SettlesWith toUpperCase options s result ↔ result = result' := by
  refine Machine.settlesWith_of_result ?_ ?_
  · rw [InstanceLookup.result, h]
  · show step toUpperCase options s .tick = none
    rw [step, h]

theorem not_settlesWith_attempt {i : Nat} (h : s.phase = .attempt i) :
    ¬ SettlesWith toUpperCase options s result := by
  refine Machine.not_settlesWith ?_ ?_
  · rw [InstanceLookup.result, h]
  · show step toUpperCase options s .tick = none
    rw [step, h]

theorem settlesWith_returned {i : Nat} {returned : Except Rejection Bytes}
    (h : s.phase = .returned i returned) :
    SettlesWith toUpperCase options s result ↔
      SettlesWith toUpperCase options (s.proceed toUpperCase options i returned) result := by
  refine Machine.settlesWith_of_step ?_ ?_
  · rw [InstanceLookup.result, h]
  · show step toUpperCase options s .tick = _
    rw [step, h]

theorem settlesWith_settled {i : Nat} {settled : Except Rejection Bytes}
    (h : s.phase = .settled i settled) :
    SettlesWith toUpperCase options s result ↔ SettlesWith toUpperCase options
      { s with phase := .returned i (withTimeout s.aborted settled) } result := by
  refine Machine.settlesWith_of_step ?_ ?_
  · rw [InstanceLookup.result, h]
  · show step toUpperCase options s .tick = _
    rw [step, h]

/-! ### The invariant -/

/-- All of `i` attempts have timed out. -/
structure Waited (i : Nat) (s : InstanceLookup) : Prop where
  aborted : s.aborted = false
  response : s.response = none
  verdict : verdict s.log = none
  sent : s.sent = i
  timeouts : s.timeouts = i

/-- What an attempt ends with, where a timeout is reported by an error. -/
inductive Pending (options : LookupOptions) (timeout : Rejection) (i : Nat) (s : InstanceLookup) :
    Except Rejection Bytes → Prop
  | timedOut (h : Waited (i + 1) s) : Pending options timeout i s (.error timeout)
  | answered {response : Bytes} (hfirst : verdict s.log = some (.answered response))
      (hlast : ¬ (options.retries.getD RETRIES).bounds (i + 1)) :
      Pending options timeout i s (.ok response)
  | failed {e : Failure} (hfirst : verdict s.log = some (.failed e))
      (hname : NamesApart s (.failure e)) : Pending options timeout i s (.error (.failure e))
  | aborted {e : Rejection} (he : e = .abortError ∨ e = .timeoutError)
      (hfirst : verdict s.log = some .aborted) (haborted : s.aborted = true) :
      Pending options timeout i s (.error e)

/-- The phase of a lookup agrees with its log. -/
def Agrees (toUpperCase : JsString → JsString) (options : LookupOptions) (s : InstanceLookup) :
    LookupPhase → Prop
  | .attempt i => s.aborted = false ∧ s.response = none ∧ verdict s.log = none ∧ s.sent = i + 1 ∧
      s.timeouts = i
  | .settled i result => Pending options .abortError i s result
  | .returned i result => Pending options .timeoutError i s result
  | .done result => (∃ first, verdict s.log = some first ∧
        Follows toUpperCase options result first) ∨
      verdict s.log = none ∧ result = .error options.noResponse ∧ s.timeouts = s.sent ∧
        ¬ (options.retries.getD RETRIES).bounds s.sent

structure Invariant (toUpperCase : JsString → JsString) (options : LookupOptions)
    (s : InstanceLookup) : Prop where
  requests : ∀ n < s.sent, (options.retries.getD RETRIES).bounds n
  quiet : Quiet s.log
  agrees : Agrees toUpperCase options s s.phase

theorem Pending.returned {i : Nat} {settled : Except Rejection Bytes}
    (h : Pending options .abortError i s settled) :
    Pending options .timeoutError i { s with phase := .returned i (withTimeout s.aborted settled) }
      (withTimeout s.aborted settled) := by
  cases h with
  | timedOut h =>
    have htimeout : withTimeout s.aborted (.error .abortError) = .error .timeoutError := by
      rw [withTimeout, h.aborted]
      rfl
    rw [htimeout]
    exact .timedOut ⟨h.aborted, h.response, h.verdict, h.sent, h.timeouts⟩
  | answered hfirst hlast => exact .answered hfirst hlast
  | failed hfirst hname =>
    rw [withTimeout, if_neg fun h => hname.1 h.1]
    exact .failed hfirst hname
  | aborted he hfirst haborted =>
    rw [withTimeout, if_neg fun h => by rw [haborted] at h; cases h.2]
    exact .aborted he hfirst haborted

/-- An abort while a continuation is due. -/
theorem Pending.abort {i : Nat} {timeout : Rejection} {result : Except Rejection Bytes}
    (h : Pending options timeout i s result)
    (htimeout : timeout = .abortError ∨ timeout = .timeoutError) (phase : LookupPhase) :
    Pending options timeout i ({ s with phase, aborted := true }.record .aborted) result := by
  cases h with
  | timedOut h => exact .aborted htimeout (verdict_of_none h.verdict _) rfl
  | answered hfirst hlast => exact .answered (verdict_of_some hfirst _) hlast
  | failed hfirst hname => exact .failed (verdict_of_some hfirst _) hname
  | aborted he hfirst _ => exact .aborted he (verdict_of_some hfirst _) rfl

theorem Waited.next {i : Nat} (h : Waited i s)
    (hrequests : ∀ n < s.sent, (options.retries.getD RETRIES).bounds n) (hquiet : Quiet s.log) :
    Invariant toUpperCase options (s.next toUpperCase options i) := by
  rw [InstanceLookup.next]
  split
  · next hbounds =>
    have hsent : ({ s with phase := .attempt i }.record (.sent options.message)).sent = s.sent + 1 :=
      sent_record ..
    refine ⟨?_, ⟨hquiet, fun _ => h.verdict⟩, h.aborted, h.response,
      verdict_of_none h.verdict _, hsent.trans (congrArg Nat.succ h.sent), ?_⟩
    · intro n hn
      rw [hsent] at hn
      rcases Nat.lt_succ_iff_lt_or_eq.1 hn with hlt | rfl
      · exact hrequests n hlt
      · rwa [h.sent]
    · exact (timeouts_record ..).trans h.timeouts
  · next hbounds =>
    refine ⟨hrequests, hquiet, .inr ⟨h.verdict, ?_, h.timeouts.trans h.sent.symm, ?_⟩⟩
    · rw [h.response]
    · rwa [← h.sent] at hbounds

/-- An iteration goes on, or ends the loop with the result that the log calls for. -/
theorem Pending.proceed_cases {i : Nat} {result : Except Rejection Bytes}
    (h : Pending options .timeoutError i s result) :
    (Waited (i + 1) s ∧ s.proceed toUpperCase options i result = s.next toUpperCase options (i + 1)) ∨
      (s.proceed toUpperCase options i result).log = s.log ∧
        ∃ first result', verdict s.log = some first ∧ Follows toUpperCase options result' first ∧
          (s.proceed toUpperCase options i result).phase = .done result' := by
  cases h with
  | timedOut h =>
    refine .inl ⟨h, ?_⟩
    rw [InstanceLookup.proceed, h.aborted, if_pos ⟨rfl, rfl⟩]
  | answered hfirst hlast =>
    rw [InstanceLookup.proceed, InstanceLookup.next, if_neg hlast]
    exact .inr ⟨rfl, _, _, hfirst, rfl, rfl⟩
  | failed hfirst hname =>
    rw [InstanceLookup.proceed, if_neg fun h => hname.2 h.2]
    exact .inr ⟨rfl, _, _, hfirst, rfl, rfl⟩
  | aborted he hfirst haborted =>
    rw [InstanceLookup.proceed, if_neg fun h => by rw [haborted] at h; cases h.1]
    refine .inr ⟨rfl, _, _, hfirst, ?_, rfl⟩
    rcases he with rfl | rfl
    · exact .inl rfl
    · exact .inr rfl

theorem Pending.proceed {i : Nat} {result : Except Rejection Bytes}
    (h : Pending options .timeoutError i s result)
    (hrequests : ∀ n < s.sent, (options.retries.getD RETRIES).bounds n) (hquiet : Quiet s.log) :
    Invariant toUpperCase options (s.proceed toUpperCase options i result) := by
  rcases h.proceed_cases with ⟨hwaited, heq⟩ | ⟨hlog, first, result', hfirst, hfollows, hdone⟩
  · rw [heq]
    exact hwaited.next hrequests hquiet
  · have hsent : (s.proceed toUpperCase options i result).sent = s.sent :=
      congrArg (List.countP isSent) hlog
    refine ⟨by rw [hsent]; exact hrequests, by rw [hlog]; exact hquiet, ?_⟩
    rw [hdone]
    exact .inl ⟨first, by rw [hlog]; exact hfirst, hfollows⟩

theorem start_invariant (toUpperCase : JsString → JsString) (options : LookupOptions)
    (aborted : Bool) : Invariant toUpperCase options (start toUpperCase options aborted) := by
  cases aborted with
  | true =>
    exact ⟨fun n hn => absurd hn (Nat.not_lt_zero n), ⟨trivial, fun h => by cases h⟩,
      .inl ⟨.aborted, rfl, .inl rfl⟩⟩
  | false =>
    have hwaited : Waited 0
        { phase := .attempt 0, aborted := false, response := none, log := [] } :=
      ⟨rfl, rfl, rfl, rfl, rfl⟩
    exact hwaited.next (fun n hn => absurd hn (Nat.not_lt_zero n)) trivial

/-- A step that makes an entry. -/
theorem Invariant.entry (h : Invariant toUpperCase options s) {s' : InstanceLookup}
    {entry : LookupEntry} (hlog : s'.log = entry :: s.log) (hentry : entry.isSent = false)
    (hagrees : Agrees toUpperCase options s' s'.phase) : Invariant toUpperCase options s' := by
  have hsent : s'.sent = s.sent := by
    rw [InstanceLookup.sent, hlog, List.countP_cons, hentry]
    rfl
  refine ⟨by rw [hsent]; exact h.requests, ?_, hagrees⟩
  rw [hlog]
  exact ⟨h.quiet, fun hisSent => by rw [hentry] at hisSent; cases hisSent⟩

/-- What one step preserves. -/
theorem step_invariant {e : LookupEvent} {s' : InstanceLookup}
    (h : Invariant toUpperCase options s) (hguard : AnswersLast options s e)
    (hstep : step toUpperCase options s e = some s') : Invariant toUpperCase options s' := by
  have hagrees := h.agrees
  cases hphase : s.phase with
  | attempt i =>
    rw [hphase] at hagrees
    obtain ⟨haborted, hresponse, hverdict, hsent, htimeouts⟩ := hagrees
    cases e with
    | timer =>
      rw [step, hphase] at hstep
      cases hstep
      refine h.entry rfl rfl (Pending.timedOut ⟨haborted, hresponse, ?_, hsent, ?_⟩)
      · exact verdict_of_none hverdict _
      · exact (timeouts_record ..).trans (congrArg Nat.succ htimeouts)
    | abort =>
      rw [step, haborted, hphase] at hstep
      cases hstep
      exact h.entry rfl rfl (Pending.aborted (.inl rfl) (verdict_of_none hverdict _) rfl)
    | message response =>
      rw [step, hphase] at hstep
      cases hstep
      exact h.entry rfl rfl (Pending.answered (verdict_of_none hverdict _) (hguard i hphase))
    | failure e =>
      rw [step, hphase] at hstep
      cases hstep
      exact h.entry rfl rfl (Pending.failed (verdict_of_none hverdict _) hguard)
    | tick =>
      rw [step, hphase] at hstep
      cases hstep
  | settled i settled =>
    rw [hphase] at hagrees
    cases e with
    | abort =>
      cases haborted : s.aborted with
      | true =>
        rw [step, haborted] at hstep
        cases hstep
      | false =>
        rw [step, haborted, hphase] at hstep
        cases hstep
        exact h.entry rfl rfl (hagrees.abort (.inl rfl) _)
    | tick =>
      rw [step, hphase] at hstep
      cases hstep
      exact ⟨h.requests, h.quiet, hagrees.returned⟩
    | timer | message | failure =>
      rw [step, hphase] at hstep
      cases hstep
  | returned i returned =>
    rw [hphase] at hagrees
    cases e with
    | abort =>
      cases haborted : s.aborted with
      | true =>
        rw [step, haborted] at hstep
        cases hstep
      | false =>
        rw [step, haborted, hphase] at hstep
        cases hstep
        exact h.entry rfl rfl (hagrees.abort (.inr rfl) _)
    | tick =>
      rw [step, hphase] at hstep
      cases hstep
      exact hagrees.proceed h.requests h.quiet
    | timer | message | failure =>
      rw [step, hphase] at hstep
      cases hstep
  | done result =>
    cases e with
    | abort =>
      rw [step, hphase] at hstep
      split at hstep <;> cases hstep
    | timer | message | failure | tick =>
      rw [step, hphase] at hstep
      cases hstep

/-- What the continuations that are due lead to. -/
structure Due (toUpperCase : JsString → JsString) (options : LookupOptions) (s : InstanceLookup) :
    Prop where
  decided : ∀ first, verdict s.log = some first →
    ∃ result, (∀ result', SettlesWith toUpperCase options s result' ↔ result' = result) ∧
      Follows toUpperCase options result first
  undecided : verdict s.log = none → ∀ result, SettlesWith toUpperCase options s result ↔
    result = .error options.noResponse ∧ s.timeouts = s.sent ∧
      ¬ (options.retries.getD RETRIES).bounds s.sent

/-- A state whose continuations lead to those of another one with the same log. -/
theorem Due.of_iff {s' : InstanceLookup} (h : Due toUpperCase options s') (hlog : s'.log = s.log)
    (hiff : ∀ result, SettlesWith toUpperCase options s result ↔
      SettlesWith toUpperCase options s' result) : Due toUpperCase options s := by
  have hsent : s'.sent = s.sent := congrArg (List.countP isSent) hlog
  have htimeouts : s'.timeouts = s.timeouts := congrArg (List.count LookupEntry.timedOut) hlog
  refine ⟨fun first hfirst => ?_, fun hverdict result => ?_⟩
  · obtain ⟨result, hresult, hfollows⟩ := h.decided first (hlog ▸ hfirst)
    exact ⟨result, fun result' => (hiff result').trans (hresult result'), hfollows⟩
  · rw [hiff, h.undecided (hlog ▸ hverdict), hsent, htimeouts]

theorem due_of_done {result : Except Rejection Int} (hphase : s.phase = .done result)
    (h : Agrees toUpperCase options s (.done result)) : Due toUpperCase options s := by
  rcases h with ⟨first, hfirst, hfollows⟩ | ⟨hverdict, rfl, htimeouts, hsent⟩
  · refine ⟨fun first' hfirst' => ⟨result, fun _ => settlesWith_done hphase, ?_⟩, fun hnone => ?_⟩
    · rw [hfirst] at hfirst'
      exact Option.some.inj hfirst' ▸ hfollows
    · rw [hfirst] at hnone
      cases hnone
  · refine ⟨fun first hfirst => ?_, fun _ result => ?_⟩
    · rw [hverdict] at hfirst
      cases hfirst
    · rw [settlesWith_done hphase, and_iff_left ⟨htimeouts, hsent⟩]

theorem due_of_attempt {i : Nat} (hphase : s.phase = .attempt i)
    (h : Agrees toUpperCase options s (.attempt i)) : Due toUpperCase options s := by
  obtain ⟨-, -, hverdict, hsent, htimeouts⟩ := h
  refine ⟨fun first hfirst => ?_, fun _ result => ?_⟩
  · rw [hverdict] at hfirst
    cases hfirst
  · refine iff_of_false (not_settlesWith_attempt hphase) fun h => ?_
    have heq : i = i + 1 := htimeouts.symm.trans (h.2.1.trans hsent)
    omega

theorem due_of_returned {i : Nat} {result : Except Rejection Bytes}
    (hphase : s.phase = .returned i result) (h : Invariant toUpperCase options s) :
    Due toUpperCase options s := by
  have hpending := h.agrees
  rw [hphase] at hpending
  have hproceed : Invariant toUpperCase options (s.proceed toUpperCase options i result) :=
    hpending.proceed h.requests h.quiet
  have hiff : ∀ result', SettlesWith toUpperCase options s result' ↔
      SettlesWith toUpperCase options (s.proceed toUpperCase options i result) result' :=
    fun _ => settlesWith_returned hphase
  have hagrees := hproceed.agrees
  rcases hpending.proceed_cases with ⟨hwaited, heq⟩ | ⟨hlog, first, result', -, -, hdone⟩
  · rw [heq] at hiff hagrees
    by_cases hbounds : (options.retries.getD RETRIES).bounds (i + 1)
    · refine ⟨fun first hfirst => ?_, fun _ result' => ?_⟩
      · rw [hwaited.verdict] at hfirst
        cases hfirst
      · rw [hiff, InstanceLookup.next, if_pos hbounds, hwaited.sent]
        exact iff_of_false (not_settlesWith_attempt rfl) fun h => h.2.2 hbounds
    · rw [InstanceLookup.next, if_neg hbounds] at hiff hagrees
      exact (due_of_done rfl hagrees).of_iff rfl hiff
  · exact (due_of_done hdone (hdone ▸ hagrees)).of_iff hlog hiff

theorem Invariant.due (h : Invariant toUpperCase options s) : Due toUpperCase options s := by
  have hagrees := h.agrees
  cases hphase : s.phase with
  | attempt i => exact due_of_attempt hphase (hphase ▸ hagrees)
  | done result => exact due_of_done hphase (hphase ▸ hagrees)
  | returned i result => exact due_of_returned hphase h
  | settled i result =>
    rw [hphase] at hagrees
    have hnext : Invariant toUpperCase options
        { s with phase := .returned i (withTimeout s.aborted result) } :=
      ⟨h.requests, h.quiet, hagrees.returned⟩
    exact (due_of_returned rfl hnext).of_iff rfl fun _ => settlesWith_settled hphase

theorem Invariant.stops (h : Invariant toUpperCase options s) :
    StopsAtFirstAnswer toUpperCase options s where
  requests := h.requests
  quiet := h.quiet
  decided first hfirst := by
    obtain ⟨result, hresult, hfollows⟩ := h.due.decided first hfirst
    exact ⟨result, (hresult result).2 rfl, hfollows⟩
  undecided hverdict result hphase :=
    ((h.due.undecided hverdict result).1 ((settlesWith_done hphase).2 rfl)).1
  exhausted_iff := by
    cases hverdict : verdict s.log with
    | none => rw [h.due.undecided hverdict, and_iff_right rfl, and_iff_right rfl]
    | some first =>
      obtain ⟨result, hresult, hfollows⟩ := h.due.decided first hverdict
      rw [hresult]
      exact iff_of_false (Ne.symm hfollows.ne_noResponse) fun h => by cases h.1

/-! ### Answers that are not the last -/

/-- An answer has come and another request follows it, or will. -/
def Hurried (options : LookupOptions) (s : InstanceLookup) : Prop :=
  ¬ Quiet s.log ∨ verdict s.log ≠ none ∧ ∃ i response,
    (s.phase = .settled i (.ok response) ∨ s.phase = .returned i (.ok response)) ∧
      (options.retries.getD RETRIES).bounds (i + 1)

theorem next_log (i : Nat) (s : InstanceLookup) :
    ∃ entries, (s.next toUpperCase options i).log = entries ++ s.log := by
  rw [InstanceLookup.next]
  split
  · exact ⟨[_], rfl⟩
  · exact ⟨[], rfl⟩

theorem step_log {e : LookupEvent} {s' : InstanceLookup}
    (h : step toUpperCase options s e = some s') : ∃ entries, s'.log = entries ++ s.log := by
  cases e with
  | timer | message | failure =>
    rw [step] at h
    split at h <;> cases h
    exact ⟨[_], rfl⟩
  | abort =>
    rw [step] at h
    split at h
    · cases h
    · split at h <;> cases h <;> exact ⟨[_], rfl⟩
  | tick =>
    rw [step] at h
    split at h <;> cases h
    · exact ⟨[], rfl⟩
    · next i result _ =>
      cases result with
      | ok response => exact next_log ..
      | error e =>
        rw [InstanceLookup.proceed]
        split
        · exact next_log ..
        · exact ⟨[], rfl⟩

theorem quiet_of_append {entries log : List LookupEntry} (h : Quiet (entries ++ log)) :
    Quiet log := by
  induction entries with
  | nil => exact h
  | cons entry entries ih => exact ih h.1

theorem verdict_append_ne_none {log : List LookupEntry} (h : verdict log ≠ none)
    (entries : List LookupEntry) : verdict (entries ++ log) ≠ none := by
  obtain ⟨first, hfirst⟩ := Option.ne_none_iff_exists'.1 h
  induction entries with
  | nil => exact h
  | cons entry entries ih =>
    obtain ⟨first', hfirst'⟩ := Option.ne_none_iff_exists'.1 ih
    rw [List.cons_append, verdict_of_some hfirst']
    exact Option.some_ne_none _

theorem Hurried.step {e : LookupEvent} {s' : InstanceLookup} (h : Hurried options s)
    (hstep : step toUpperCase options s e = some s') : Hurried options s' := by
  obtain ⟨entries, hlog⟩ := step_log hstep
  rcases h with hquiet | ⟨hverdict, i, response, hphase, hbounds⟩
  · exact .inl fun h => hquiet (quiet_of_append (hlog ▸ h))
  · have hverdict' : verdict s'.log ≠ none := hlog ▸ verdict_append_ne_none hverdict entries
    rcases hphase with hphase | hphase
    · cases e with
      | abort =>
        rw [InstanceLookup.step, hphase] at hstep
        split at hstep <;> cases hstep
        exact .inr ⟨hverdict', i, response, .inl rfl, hbounds⟩
      | tick =>
        rw [InstanceLookup.step, hphase] at hstep
        cases hstep
        exact .inr ⟨hverdict', i, response, .inr rfl, hbounds⟩
      | timer | message | failure =>
        rw [InstanceLookup.step, hphase] at hstep
        cases hstep
    · cases e with
      | abort =>
        rw [InstanceLookup.step, hphase] at hstep
        split at hstep <;> cases hstep
        exact .inr ⟨hverdict', i, response, .inr rfl, hbounds⟩
      | tick =>
        rw [InstanceLookup.step, hphase] at hstep
        cases hstep
        rw [InstanceLookup.proceed, InstanceLookup.next, if_pos hbounds]
        exact .inl fun h => hverdict (h.2 rfl)
      | timer | message | failure =>
        rw [InstanceLookup.step, hphase] at hstep
        cases hstep

/-- A step that is no answer to the last attempt. -/
theorem hurried_of_not_answersLast {e : LookupEvent} {s' : InstanceLookup}
    (hnames : NamesApart s e) (h : ¬ AnswersLast options s e)
    (hstep : step toUpperCase options s e = some s') : Hurried options s' := by
  cases e with
  | message response =>
    simp only [AnswersLast, not_forall, not_not] at h
    obtain ⟨i, hphase, hbounds⟩ := h
    rw [step, hphase] at hstep
    cases hstep
    refine .inr ⟨?_, i, response, .inl rfl, hbounds⟩
    rw [settle, record, verdict]
    split <;> exact Option.some_ne_none _
  | failure => exact absurd hnames h
  | timer | abort | tick => exact absurd trivial h

/-- **The first answer.** It decides in every run in which answers come to the last attempt only and
other errors have names of their own; and of the runs that have ended, in these alone. -/
theorem stopsAtFirstAnswer (toUpperCase : JsString → JsString) (options : LookupOptions)
    (aborted : Bool) :
    (∀ events s, (machine toUpperCase options).Steps (AnswersLast options)
        (start toUpperCase options aborted) events s →
      StopsAtFirstAnswer toUpperCase options s) ∧
    (∀ events s result, (machine toUpperCase options).Steps NamesApart
        (start toUpperCase options aborted) events s → s.phase = .done result →
      (StopsAtFirstAnswer toUpperCase options s ↔
        (machine toUpperCase options).Steps (AnswersLast options)
          (start toUpperCase options aborted) events s)) := by
  have hstops : ∀ events s, (machine toUpperCase options).Steps (AnswersLast options)
      (start toUpperCase options aborted) events s → StopsAtFirstAnswer toUpperCase options s :=
    fun events s h => (h.invariant (fun h hguard hstep => step_invariant h hguard hstep)
      (start_invariant toUpperCase options aborted)).stops
  refine ⟨hstops, fun events s result hrun hdone => ⟨fun h => ?_, hstops events s⟩⟩
  have hor := hrun.steps_or
    hurried_of_not_answersLast fun h _ hstep => h.step hstep
  rcases hor with hsteps | hquiet | ⟨-, i, response, hphase, -⟩
  · exact hsteps
  · exact absurd h.quiet hquiet
  · rw [hdone] at hphase
    rcases hphase with h | h <;> cases h

/-- A lookup of the instance `b` with one retry. -/
def retryOnce : LookupOptions where
  server := JsString.ofString "s"
  instanceName := JsString.ofString "b"
  retries := some (.finite 1)

/-- `xxxInstanceName;b;tcp;7`. -/
def portSeven : Bytes :=
  [0x05, 0x10, 0x00, 0x49, 0x6E, 0x73, 0x74, 0x61, 0x6E, 0x63, 0x65, 0x4E, 0x61, 0x6D, 0x65, 0x3B,
    0x62, 0x3B, 0x74, 0x63, 0x70, 0x3B, 0x37]

/-- A timeout, and an answer to the second attempt. -/
theorem stopsAtFirstAnswer_second :
    ∃ s, (machine id retryOnce).Runs (start id retryOnce false)
        [.timer, .tick, .tick, .message portSeven, .tick, .tick] s ∧
      s.phase = .done (.ok 7) ∧ StopsAtFirstAnswer id retryOnce s := by
  obtain ⟨s, hrun, hdone⟩ : ∃ s, (machine id retryOnce).Steps (AnswersLast retryOnce)
      (start id retryOnce false) [.timer, .tick, .tick, .message portSeven, .tick, .tick] s ∧
        s.phase = .done (.ok 7) := by
    refine ⟨_, .cons trivial rfl (.cons trivial rfl (.cons trivial rfl (.cons ?_ rfl
      (.cons trivial rfl (.cons trivial rfl (.nil _)))))), rfl⟩
    intro i hphase
    cases hphase
    decide
  exact ⟨s, hrun.mono fun _ => trivial, hdone, (stopsAtFirstAnswer id retryOnce false).1 _ _ hrun⟩

/-- An answer to the first attempt, and an error of the second one. -/
theorem not_stopsAtFirstAnswer : ¬ ∀ (toUpperCase : JsString → JsString) (options : LookupOptions)
    (aborted : Bool) (events : List LookupEvent) (s : InstanceLookup),
    (machine toUpperCase options).Runs (start toUpperCase options aborted) events s →
      StopsAtFirstAnswer toUpperCase options s := by
  intro h
  have hstops := h id retryOnce false [.message portSeven, .tick, .tick] _
    (.cons trivial rfl (.cons trivial rfl (.cons trivial rfl (.nil _))))
  exact absurd (hstops.quiet.2 rfl) (by decide)

end InstanceLookup

end Tedious
