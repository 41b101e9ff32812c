import Tedious.Errors
import Tedious.Lib.Generator
import Tedious.Lib.Machine
import Tedious.PacketStructure

/-!
# Tedious.PayloadStream

The streams of `makeRequest` (`connection.ts`): `Readable.from(payload)`, the message that it is
piped into, and the outgoing stream that hears the message. The payload is read at whatever pace; it
may throw, and the request may be canceled, at every moment. `onCancel` and the payload's error both
set the `ignore` bit and end the message.

`Flows` is what a message can have come to when it ends: the whole payload, or the beginning of it
and the `ignore` bit. `flows_of_closed` says that these are the only ways.
-/

namespace Tedious

open Chunked

/-! ### The streams -/

/-- What `request.error` is set to. -/
inductive SendError
  /-- The error that the payload has thrown. -/
  | payload (error : JsError)
  /-- The one that `onCancel` destroys the payload stream with. -/
  | canceled
  /-- The one of `requestTimeout`. -/
  | timeout
  deriving DecidableEq, Repr

/-- What has become of the payload stream: it is read, its end was reached, or it was unpiped. -/
inductive PayloadControl
  | reading | ended | unpiped
  deriving DecidableEq, Repr

/-- The payload with what is left of it, the chunks that were read and not piped yet, and the chunks
in the message that the outgoing stream has not heard yet. -/
structure PayloadStream (σ : Type) where
  payload : σ
  control : PayloadControl
  readable : List Bytes
  message : List Bytes
  /-- `message.end()` was called. -/
  ended : Bool
  /-- `message.ignore`. -/
  ignore : Bool
  /-- The message has emitted `'finish'`: `onCancel` is not listening any more. -/
  finished : Bool
  /-- The message has emitted `'end'`: its last packet is written. -/
  closed : Bool
  /-- What the outgoing stream has heard of the message before. -/
  events : List MessageEvent
  canceled : Bool
  error : Option SendError

inductive PayloadEvent (ι : Type)
  /-- An event of the payload itself. -/
  | generate (event : ι)
  /-- The payload stream asks for the next chunk. -/
  | read
  | pipe
  /-- The `'end'` of the payload stream, behind its last chunk. -/
  | pipeEnd
  | cancel
  | timeout
  /-- The `'error'` of the payload stream that `onCancel` has destroyed. -/
  | destroyed
  | flow
  | finish
  | close

namespace PayloadStream

variable {σ ι : Type}

def start (payload : σ) : PayloadStream σ where
  payload
  control := .reading
  readable := []
  message := []
  ended := false
  ignore := false
  finished := false
  closed := false
  events := []
  canceled := false
  error := none

/-- `payloadStream.unpipe(message)`, `message.ignore = true` and `message.end()`. -/
def stop (s : PayloadStream σ) : PayloadStream σ :=
  { s with
    control := .unpiped
    readable := []
    ended := true
    ignore := true
    events := if s.ignore || s.closed then s.events else s.events ++ [.ignore] }

/-- `request.cancel()`, where `onCancel` listens until the message has finished. -/
def cancel (s : PayloadStream σ) : PayloadStream σ :=
  if s.canceled then s
  else
    let s := { s with canceled := true }
    if s.finished then s else s.stop

/-- `request.error ??= error`. -/
def setError (s : PayloadStream σ) (error : SendError) : PayloadStream σ :=
  { s with error := s.error.or (some error) }

def step (payload : Generator σ ι UInt8 JsError) (s : PayloadStream σ) :
    PayloadEvent ι → Option (PayloadStream σ)
  | .generate event => (payload.step s.payload event).map fun state => { s with payload := state }
  | .read =>
    if s.control = .reading then
      match payload.next s.payload with
      | some (.yield chunk, state) =>
        some { s with payload := state, readable := s.readable ++ [chunk] }
      | some (.done, state) => some { s with payload := state, control := .ended }
      | some (.throw error, state) =>
        some ({ s with payload := state }.setError (.payload error)).stop
      | none => none
    else none
  | .pipe =>
    match s.readable with
    | chunk :: readable => some { s with readable, message := s.message ++ [chunk] }
    | [] => none
  | .pipeEnd =>
    if s.control = .ended ∧ s.readable = [] ∧ s.ended = false then some { s with ended := true }
    else none
  | .cancel => some s.cancel
  | .timeout => some { s.cancel with error := some .timeout }
  | .destroyed =>
    if s.canceled = true ∧ s.control = .unpiped then some (s.setError .canceled) else none
  | .flow =>
    match s.message with
    | chunk :: message => some { s with message, events := s.events ++ [.data chunk] }
    | [] => none
  | .finish =>
    if s.ended = true ∧ s.finished = false then some { s with finished := true } else none
  | .close =>
    if s.ended = true ∧ s.message = [] ∧ s.closed = false then some { s with closed := true }
    else none

def machine (payload : Generator σ ι UInt8 JsError) :
    Machine (PayloadStream σ) (PayloadEvent ι) := ⟨step payload⟩

end PayloadStream

/-- What is heard of a message until it ends, when its payload may return some data: all of it,
unless the message is to be ignored; the beginning of it in any case. -/
structure Flows (returns : Bytes → Prop) (events : List MessageEvent) : Prop where
  whole : .ignore ∉ events → returns (events.flatMap MessageEvent.bytes)
  isPrefix : ∀ {data}, returns data → events.flatMap MessageEvent.bytes <+: data

/-! ### The invariant -/

namespace PayloadStream

section Flowing

variable {σ ι : Type} {payload : Generator σ ι UInt8 JsError} {I : Bytes → σ → Prop}
  {returns : Bytes → Prop} {throws : JsError → Prop} {s s' : PayloadStream σ}

/-- The data that was piped into the message. -/
def written (s : PayloadStream σ) : Bytes :=
  s.events.flatMap MessageEvent.bytes ++ s.message.flatten

/-- What holds at every moment. -/
structure Flowing (I : Bytes → σ → Prop) (returns : Bytes → Prop) (throws : JsError → Prop)
    (s : PayloadStream σ) : Prop where
  isPrefix : ∀ {data}, returns data → s.written <+: data
  piped : s.control ≠ .unpiped → I (s.written ++ s.readable.flatten) s.payload
  returned : s.control = .ended → returns (s.written ++ s.readable.flatten)
  ended : s.ended = true → s.readable = [] ∧ (s.control = .unpiped ∨ s.control = .ended)
  closed : s.closed = true → s.ended = true ∧ s.message = []
  unpiped : s.control = .unpiped → s.ended = true ∧
    (.ignore ∈ s.events ∨ s.closed = true ∧ returns s.written)
  ignored : .ignore ∈ s.events → s.control = .unpiped
  ignore : s.ignore = true ↔ s.control = .unpiped
  /-- A message is not stopped for nothing. -/
  reason : s.control = .unpiped → s.canceled = true ∨ s.error ≠ none ∧ ∃ e, throws e
  error : ∀ {e}, s.error = some (.payload e) → throws e

theorem flowing_start {state : σ} (h : I [] state) :
    Flowing I returns throws (start state) where
  isPrefix _ := List.nil_prefix
  piped _ := h
  returned h := by cases h
  ended h := by cases h
  closed h := by cases h
  unpiped h := by cases h
  ignored h := absurd h List.not_mem_nil
  ignore := by simp [start]
  reason h := by cases h
  error h := by cases h

theorem written_stop (s : PayloadStream σ) : s.stop.written = s.written := by
  rw [stop, written, written]
  split <;> simp [MessageEvent.bytes]

/-- The message is stopped, for a reason. -/
theorem Flowing.stop (h : Flowing I returns throws s)
    (hreason : s.canceled = true ∨ s.error ≠ none ∧ ∃ e, throws e) :
    Flowing I returns throws s.stop where
  isPrefix hdata := by
    rw [written_stop]
    exact h.isPrefix hdata
  piped hcontrol := absurd rfl hcontrol
  returned hcontrol := by cases hcontrol
  ended _ := ⟨rfl, .inl rfl⟩
  closed hclosed := ⟨rfl, (h.closed hclosed).2⟩
  unpiped _ := by
    refine ⟨rfl, ?_⟩
    rw [written_stop]
    by_cases hignore : s.ignore = true
    · rw [PayloadStream.stop, hignore]
      exact (h.unpiped (h.ignore.1 hignore)).2
    by_cases hclosed : s.closed = true
    · -- The last packet has been written, with everything that was returned.
      obtain ⟨hended, -⟩ := h.closed hclosed
      obtain ⟨hreadable, hcontrol | hcontrol⟩ := h.ended hended
      · exact absurd (h.ignore.2 hcontrol) hignore
      · have hreturned := h.returned hcontrol
        rw [hreadable, List.flatten_nil, List.append_nil] at hreturned
        exact .inr ⟨hclosed, hreturned⟩
    · left
      simp [PayloadStream.stop, hignore, hclosed]
  ignored _ := rfl
  ignore := by simp [PayloadStream.stop]
  reason _ := hreason
  error := h.error

theorem Flowing.cancel (h : Flowing I returns throws s) : Flowing I returns throws s.cancel := by
  have hcanceled : Flowing I returns throws { s with canceled := true } :=
    { h with reason := fun _ => .inl rfl }
  rw [PayloadStream.cancel]
  split
  · exact h
  · dsimp only
    split
    · exact hcanceled
    · exact hcanceled.stop (.inl rfl)

theorem Flowing.setError (h : Flowing I returns throws s) {error : SendError}
    (herror : ∀ e, error = .payload e → throws e) :
    Flowing I returns throws (s.setError error) where
  isPrefix := h.isPrefix
  piped := h.piped
  returned := h.returned
  ended := h.ended
  closed := h.closed
  unpiped := h.unpiped
  ignored := h.ignored
  ignore := h.ignore
  reason hcontrol := (h.reason hcontrol).imp_right fun ⟨_, hthrows⟩ => by
    refine ⟨?_, hthrows⟩
    rw [PayloadStream.setError]
    cases s.error <;> simp
  error := by
    intro e he
    rw [PayloadStream.setError] at he
    cases herr : s.error with
    | none =>
      rw [herr] at he
      exact herror e (Option.some.inj he)
    | some other =>
      rw [herr] at he
      exact h.error (herr.trans he)

/-- The payload is asked for its next chunk. -/
theorem Flowing.read (hkeeps : payload.Keeps I returns throws) (h : Flowing I returns throws s)
    (hstep : step payload s .read = some s') : Flowing I returns throws s' := by
  obtain ⟨hreading, hstep⟩ := Option.ite_none_right_eq_some.1 hstep
  have hpiped := h.piped (by rw [hreading]; decide)
  have hnot : s.ended ≠ true := fun hended => by
    rcases (h.ended hended).2 with hcontrol | hcontrol <;> cases hreading.symm.trans hcontrol
  rcases hnext : payload.next s.payload with _ | ⟨_ | _ | error, state⟩ <;> rw [hnext] at hstep <;>
    cases hstep
  · next chunk =>
    have hall : s.written ++ (s.readable ++ [chunk]).flatten =
        (s.written ++ s.readable.flatten) ++ chunk := by simp
    exact { h with
      piped := fun _ => hall ▸ hkeeps.yield hpiped hnext
      returned := fun hcontrol => by cases hreading.symm.trans hcontrol
      ended := fun hended => absurd hended hnot }
  · exact { h with
      piped := fun _ => (hkeeps.done hpiped hnext).2
      returned := fun _ => (hkeeps.done hpiped hnext).1
      ended := fun hended => absurd hended hnot
      unpiped := nofun
      ignored := fun hmem => by cases hreading.symm.trans (h.ignored hmem)
      ignore := by
        have := h.ignore
        rw [hreading] at this
        simpa using this
      reason := nofun }
  · have hthrows := hkeeps.throw hpiped hnext
    have hpayload : ∀ e, SendError.payload error = .payload e → throws e := by
      rintro e ⟨⟩
      exact hthrows
    have herror : (s.setError (.payload error)).error ≠ none := by
      rw [PayloadStream.setError]
      cases s.error <;> simp
    have hstopped := (h.setError hpayload).stop
      (.inr ⟨herror, error, hthrows⟩)
    exact { hstopped with piped := fun hcontrol => absurd rfl hcontrol }

/-- A chunk is piped into the message. -/
theorem Flowing.pipe (hkeeps : payload.Keeps I returns throws) (h : Flowing I returns throws s)
    (hstep : step payload s .pipe = some s') : Flowing I returns throws s' := by
  rw [PayloadStream.step] at hstep
  split at hstep
  · next chunk readable hreadable =>
    cases hstep
    have hnot : s.ended ≠ true := fun hended => by
      rw [(h.ended hended).1] at hreadable
      cases hreadable
    have hcontrol : s.control ≠ .unpiped := fun hcontrol => hnot (h.unpiped hcontrol).1
    have hpiped := h.piped hcontrol
    have hall : s.written ++ s.readable.flatten =
        (s.events.flatMap MessageEvent.bytes ++ (s.message ++ [chunk]).flatten) ++
          readable.flatten := by
      rw [hreadable, written]
      simp
    exact { h with
      isPrefix := fun hdata => by
        have hprefix := hkeeps.isPrefix hpiped hdata
        rw [hall] at hprefix
        exact (List.prefix_append _ _).trans hprefix
      piped := fun _ => hall ▸ hpiped
      returned := fun hended => hall ▸ h.returned hended
      ended := fun hended => absurd hended hnot
      closed := fun hclosed => absurd (h.closed hclosed).1 hnot
      unpiped := fun hunpiped => absurd hunpiped hcontrol }
  · cases hstep

/-- A chunk of the message is heard. -/
theorem Flowing.flow (h : Flowing I returns throws s) (hstep : step payload s .flow = some s') :
    Flowing I returns throws s' := by
  rw [PayloadStream.step] at hstep
  split at hstep
  · next chunk message hmessage =>
    cases hstep
    have hwritten : written { s with message, events := s.events ++ [.data chunk] } =
        s.written := by
      simp [written, hmessage, MessageEvent.bytes]
    have hopen : s.closed ≠ true := fun hclosed => by
      rw [(h.closed hclosed).2] at hmessage
      cases hmessage
    exact { h with
      isPrefix := fun hdata => hwritten ▸ h.isPrefix hdata
      piped := fun hcontrol => hwritten ▸ h.piped hcontrol
      returned := fun hcontrol => hwritten ▸ h.returned hcontrol
      closed := fun hclosed => absurd hclosed hopen
      unpiped := fun hcontrol => (h.unpiped hcontrol).imp_right fun hor =>
        .inl (List.mem_append_left _ (hor.resolve_right fun ⟨hclosed, _⟩ => hopen hclosed))
      ignored := fun hmem => h.ignored (by simpa using hmem) }
  · cases hstep

/-- Every event keeps it. -/
theorem Flowing.step (hkeeps : payload.Keeps I returns throws) (h : Flowing I returns throws s)
    {e : PayloadEvent ι} (hstep : step payload s e = some s') : Flowing I returns throws s' := by
  cases e with
  | generate event =>
    obtain ⟨state, hstate, rfl⟩ := Option.map_eq_some_iff.1 hstep
    exact { h with piped := fun hcontrol => hkeeps.step (h.piped hcontrol) hstate }
  | read => exact h.read hkeeps hstep
  | pipe => exact h.pipe hkeeps hstep
  | pipeEnd =>
    obtain ⟨⟨hcontrol, hreadable, -⟩, hs⟩ := Option.ite_none_right_eq_some.1 hstep
    cases hs
    have hnot : s.control ≠ .unpiped := by
      rw [hcontrol]
      decide
    exact { h with
      ended := fun _ => ⟨hreadable, .inr hcontrol⟩
      closed := fun hclosed => ⟨rfl, (h.closed hclosed).2⟩
      unpiped := fun hunpiped => absurd hunpiped hnot }
  | cancel =>
    cases hstep
    exact h.cancel
  | timeout =>
    cases hstep
    refine { h.cancel with reason := fun hcontrol => ?_, error := by rintro e ⟨⟩ }
    exact (h.cancel.reason hcontrol).imp_right fun ⟨_, hthrows⟩ => ⟨nofun, hthrows⟩
  | destroyed =>
    obtain ⟨-, hs⟩ := Option.ite_none_right_eq_some.1 hstep
    cases hs
    exact h.setError (by rintro e ⟨⟩)
  | flow => exact h.flow hstep
  | finish =>
    obtain ⟨-, hs⟩ := Option.ite_none_right_eq_some.1 hstep
    cases hs
    exact { h with }
  | close =>
    obtain ⟨⟨hended, hmessage, -⟩, hs⟩ := Option.ite_none_right_eq_some.1 hstep
    cases hs
    exact { h with
      closed := fun _ => ⟨hended, hmessage⟩
      unpiped := fun hcontrol =>
        ⟨hended, (h.unpiped hcontrol).2.imp_right fun ⟨_, hreturns⟩ => ⟨rfl, hreturns⟩⟩ }

/-! ### What a message comes to -/

theorem Flowing.run (hkeeps : payload.Keeps I returns throws) {state : σ} (hstate : I [] state)
    {es : List (PayloadEvent ι)} (hrun : (machine payload).Runs (start state) es s) :
    Flowing I returns throws s :=
  hrun.invariant (fun h _ hstep => h.step hkeeps hstep) (flowing_start hstate)

/-- A message that has ended has come to what `Flows` says. -/
theorem Flowing.flows (h : Flowing I returns throws s) (hclosed : s.closed = true) :
    Flows returns s.events := by
  obtain ⟨hended, hmessage⟩ := h.closed hclosed
  obtain ⟨hreadable, hcontrol⟩ := h.ended hended
  have hwritten : s.written = s.events.flatMap MessageEvent.bytes := by
    rw [written, hmessage]
    exact List.append_nil _
  refine ⟨fun hignore => ?_, fun hdata => hwritten ▸ h.isPrefix hdata⟩
  rw [← hwritten]
  rcases hcontrol with hcontrol | hcontrol
  · exact ((h.unpiped hcontrol).2.resolve_left hignore).2
  · have hreturned := h.returned hcontrol
    rwa [hreadable, List.flatten_nil, List.append_nil] at hreturned

/-- What is left of a message that has ended. -/
structure Settled (s s' : PayloadStream σ) : Prop where
  closed : s'.closed = true
  events : s'.events = s.events
  canceled : s.canceled = true → s'.canceled = true

theorem settled_stop (hclosed : s.closed = true) : Settled s s.stop where
  closed := hclosed
  events := by simp [stop, hclosed]
  canceled := id

theorem settled_cancel (hclosed : s.closed = true) : Settled s s.cancel := by
  rw [cancel]
  split
  · exact ⟨hclosed, rfl, id⟩
  · dsimp only
    split
    · exact ⟨hclosed, rfl, fun _ => rfl⟩
    · have hstopped := settled_stop (s := { s with canceled := true }) hclosed
      exact { hstopped with canceled := fun _ => rfl }

/-- Nothing more is heard of a message that has ended. -/
theorem Flowing.settled (h : Flowing I returns throws s) (hclosed : s.closed = true)
    {e : PayloadEvent ι} (hstep : PayloadStream.step payload s e = some s') : Settled s s' := by
  cases e with
  | generate event =>
    obtain ⟨state, -, rfl⟩ := Option.map_eq_some_iff.1 hstep
    exact ⟨hclosed, rfl, id⟩
  | read =>
    obtain ⟨-, hstep⟩ := Option.ite_none_right_eq_some.1 hstep
    rcases hnext : payload.next s.payload with _ | ⟨_ | _ | error, state⟩ <;>
      rw [hnext] at hstep <;> cases hstep
    · exact ⟨hclosed, rfl, id⟩
    · exact ⟨hclosed, rfl, id⟩
    · exact { settled_stop hclosed with }
  | pipe =>
    rw [PayloadStream.step] at hstep
    split at hstep <;> cases hstep
    exact ⟨hclosed, rfl, id⟩
  | flow =>
    rw [PayloadStream.step, (h.closed hclosed).2] at hstep
    cases hstep
  | cancel =>
    cases hstep
    exact settled_cancel hclosed
  | timeout =>
    cases hstep
    exact { settled_cancel hclosed with }
  | pipeEnd | destroyed | finish | close =>
    obtain ⟨-, hs⟩ := Option.ite_none_right_eq_some.1 hstep
    cases hs
    exact ⟨by first | exact hclosed | rfl, rfl, id⟩

/-- Where nothing was canceled and no error is reported, nothing was ignored. -/
theorem Flowing.whole (h : Flowing I returns throws s) (hclosed : s.closed = true)
    (hcanceled : s.canceled = false) (herror : s.error = none) :
    .ignore ∉ s.events ∧ returns (s.events.flatMap MessageEvent.bytes) := by
  have hignore : .ignore ∉ s.events := fun hmem => by
    rcases h.reason (h.ignored hmem) with hreason | ⟨hreason, -⟩
    · rw [hcanceled] at hreason
      cases hreason
    · exact hreason herror
  exact ⟨hignore, (h.flows hclosed).whole hignore⟩

/-- The events by which the streams go on by themselves. -/
def Idle (payload : Generator σ ι UInt8 JsError) (s : PayloadStream σ) : Prop :=
  ∀ e ∈ [PayloadEvent.read, .pipe, .pipeEnd, .flow, .close], step payload s e = none

/-- Only the payload can keep a message from its end. -/
theorem Flowing.closed_of_idle (h : Flowing I returns throws s) (hidle : Idle payload s) :
    s.closed = true ∨ s.control = .reading ∧ payload.next s.payload = none := by
  have hmessage : s.message = [] := by
    have hflow := hidle .flow (by simp)
    rw [PayloadStream.step] at hflow
    split at hflow
    · cases hflow
    · assumption
  have hreadable : s.readable = [] := by
    have hpipe := hidle .pipe (by simp)
    rw [PayloadStream.step] at hpipe
    split at hpipe
    · cases hpipe
    · assumption
  by_cases hclosed : s.closed = true
  · exact .inl hclosed
  have hended : s.ended = false := by
    by_contra hended
    have hclose := hidle .close (by simp)
    rw [PayloadStream.step,
      if_pos ⟨by simpa using hended, hmessage, by simpa using hclosed⟩] at hclose
    cases hclose
  cases hcontrol : s.control with
  | unpiped => exact absurd (h.unpiped hcontrol).1 (by simp [hended])
  | ended =>
    have hend := hidle .pipeEnd (by simp)
    rw [PayloadStream.step, if_pos ⟨hcontrol, hreadable, hended⟩] at hend
    cases hend
  | reading =>
    have hread := hidle .read (by simp)
    rw [PayloadStream.step, if_pos hcontrol] at hread
    refine .inr ⟨rfl, ?_⟩
    rcases hnext : payload.next s.payload with _ | ⟨_ | _ | error, state⟩
    · rfl
    all_goals
      rw [hnext] at hread
      cases hread

end Flowing

/-! ### Payloads that are known beforehand -/

/-- The message of a payload that yields some chunks and then returns or throws. -/
theorem flows_ofList {chunks : List Bytes} {error : Option JsError}
    {es : List (PayloadEvent Empty)} {s : PayloadStream (List Bytes × Option JsError)}
    (hrun : (machine .ofList).Runs (start (chunks, error)) es s) (hclosed : s.closed = true) :
    Flows (fun data => data = chunks.flatten ∧ error = none) s.events :=
  (Flowing.run (Generator.keeps_ofList chunks error) ⟨rfl, rfl⟩ hrun).flows hclosed

end PayloadStream

end Tedious
