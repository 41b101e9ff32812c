import Tedious.RequestMessages

/-!
# Tedious.BulkLoadStreams

The execution of a bulk load (`execBulkLoad` in `connection.ts`, `RowTransform` in `bulk-load.ts`,
`bulk-load-payload.ts`). The rows flow through a transform into the payload from the beginning; the
message that they are for is made when the `INSERT BULK` statement has completed. A row that is
refused, a source that fails and a cancellation may come at every moment.

`bulkLoad_whole` says that a bulk load that reports no error has been sent with all of its rows.
-/

namespace Tedious

open Chunked

/-! ### The rows -/

/-- What has become of the stream of the rows. -/
inductive RowSource
  | flowing | ended | destroyed
  deriving DecidableEq, Repr

/-- What has become of the transform. -/
inductive RowTransform
  | transforming
  /-- `_flush` has pushed the last token. -/
  | flushed
  /-- `_transform` has thrown an error, which nobody need catch. -/
  | thrown (error : JsError)
  | destroyed (error : JsError)

/-- The rows that are to come, with the error of their source if it fails behind them; the rows that
were written to the transform, and what it has pushed that was not read yet. -/
structure RowStreams where
  rows : List BulkRow
  sourceError : Option JsError
  source : RowSource
  written : List BulkRow
  ending : Bool
  columnMetadataWritten : Bool
  readable : Bytes
  control : RowTransform

inductive RowEvent
  /-- A row is piped into the transform. -/
  | row
  | rowsEnd
  | rowsError
  | transform
  /-- `_transform` throws, behind what it has pushed of the row. -/
  | throws (pushed : Bytes)
  /-- The error was thrown into the stream of the rows, which is destroyed with it. -/
  | destroy
  | flush

namespace RowStreams

/-- `Readable.from(rows)`, piped into `rowToPacketTransform`. -/
def start (rows : List BulkRow) (sourceError : Option JsError) : RowStreams where
  rows
  sourceError
  source := .flowing
  written := []
  ending := false
  columnMetadataWritten := false
  readable := []
  control := .transforming

section

variable (js : Runtime) (load : BulkLoad)

def step (s : RowStreams) : RowEvent → Option RowStreams
  | .row =>
    match s.source, s.rows with
    | .flowing, row :: rows => some { s with rows, written := s.written ++ [row] }
    | _, _ => none
  | .rowsEnd =>
    match s.source, s.rows, s.sourceError with
    | .flowing, [], none => some { s with source := .ended, ending := true }
    | _, _, _ => none
  | .rowsError =>
    match s.source, s.sourceError with
    | .flowing, some error => some { s with source := .destroyed, control := .destroyed error }
    | _, _ => none
  | .transform =>
    match s.control, s.written with
    | .transforming, row :: written =>
      match load.transform js s.columnMetadataWritten row with
      | .ok chunks =>
        some { s with
          written, columnMetadataWritten := true, readable := s.readable ++ chunks.flatten }
      | .error error => some { s with source := .destroyed, control := .destroyed error }
    | _, _ => none
  | .throws pushed =>
    match s.control, s.written with
    | .transforming, row :: _ =>
      match load.transform js s.columnMetadataWritten row with
      | .ok _ => none
      | .error error => some { s with readable := s.readable ++ pushed, control := .thrown error }
    | _, _ => none
  | .destroy =>
    match s.control with
    | .thrown error => some { s with source := .destroyed, control := .destroyed error }
    | _ => none
  | .flush =>
    match s.control, s.ending, s.written with
    | .transforming, true, [] =>
      some { s with readable := s.readable ++ load.createDoneToken, control := .flushed }
    | _, _, _ => none

/-- The iterator of the transform reads everything that is there. -/
def next (s : RowStreams) : Option (Generator.Answer UInt8 JsError × RowStreams) :=
  match s.control, s.readable with
  | .destroyed error, _ => some (.throw error, s)
  | _, byte :: bytes => some (.yield (byte :: bytes), { s with readable := [] })
  | .flushed, [] => some (.done, s)
  | _, [] => none

/-- `BulkLoadPayload`. -/
def payload : Generator RowStreams RowEvent UInt8 JsError := ⟨step js load, next⟩

end

/-! ### What the payload yields -/

section Streaming

variable {js : Runtime} {load : BulkLoad} {rows : List BulkRow} {sourceError : Option JsError}
  {xs : Bytes} {s s' : RowStreams}

/-- What the transform has made of the rows: their bytes as far as it has got, unless there was an
error. -/
def Pushed (js : Runtime) (load : BulkLoad) (rows : List BulkRow) (sourceError : Option JsError)
    (xs : Bytes) (s : RowStreams) : Prop :=
  match s.control with
  | .transforming => ∃ pushed : List Bytes, pushed.flatten = xs ++ s.readable ∧
      load.push js false rows =
        (load.push js s.columnMetadataWritten (s.written ++ s.rows)).map (pushed ++ ·)
  | .flushed => sourceError = none ∧ ∃ pushed : List Bytes, pushed.flatten = xs ++ s.readable ∧
      load.push js false rows = .ok pushed
  | .thrown error => load.push js false rows = .error error
  | .destroyed error => sourceError = some error ∨ load.push js false rows = .error error

/-- What holds when `xs` have been read of the transform. -/
structure Streaming (js : Runtime) (load : BulkLoad) (rows : List BulkRow)
    (sourceError : Option JsError) (xs : Bytes) (s : RowStreams) : Prop where
  sourceError_eq : s.sourceError = sourceError
  ending : s.ending = true → s.source ≠ .flowing ∧ s.rows = [] ∧ sourceError = none
  /-- The stream of the rows does not stop by itself. -/
  stopped : s.source ≠ .flowing → s.ending = true ∨ ∃ error, s.control = .destroyed error
  pushed : s.Pushed js load rows sourceError xs

theorem streaming_start (js : Runtime) (load : BulkLoad) (rows : List BulkRow)
    (sourceError : Option JsError) :
    Streaming js load rows sourceError [] (start rows sourceError) where
  sourceError_eq := rfl
  ending h := by cases h
  stopped h := absurd rfl h
  pushed := by
    refine ⟨[], rfl, ?_⟩
    show _ = (load.push js false rows).map ([] ++ ·)
    cases load.push js false rows <;> rfl

/-- What one row does to what is to be pushed. -/
theorem push_cons_ok {columnMetadataWritten : Bool} {row : BulkRow} {chunks : List Bytes}
    (h : load.transform js columnMetadataWritten row = .ok chunks) (later : List BulkRow) :
    load.push js columnMetadataWritten (row :: later) =
      (load.push js true later).map (chunks ++ ·) := by
  rw [BulkLoad.push, h]
  show (load.push js true later >>= fun rest => pure (chunks ++ rest)) = _
  cases load.push js true later <;> rfl

theorem push_cons_error {columnMetadataWritten : Bool} {row : BulkRow} {error : JsError}
    (h : load.transform js columnMetadataWritten row = .error error) (later : List BulkRow) :
    load.push js columnMetadataWritten (row :: later) = .error error := by
  rw [BulkLoad.push, h]
  rfl

/-- An error that ends everything. -/
theorem Streaming.destroyed (h : Streaming js load rows sourceError xs s) {error : JsError}
    (herror : sourceError = some error ∨ load.push js false rows = .error error) :
    Streaming js load rows sourceError xs
      { s with source := .destroyed, control := .destroyed error } where
  sourceError_eq := h.sourceError_eq
  ending hending := ⟨nofun, (h.ending hending).2⟩
  stopped _ := .inr ⟨error, rfl⟩
  pushed := herror

/-- While rows are transformed, only their end can have stopped their stream. -/
theorem Streaming.ending_of_stopped (h : Streaming js load rows sourceError xs s)
    (hcontrol : ∀ error, s.control ≠ .destroyed error) (hstopped : s.source ≠ .flowing) :
    s.ending = true :=
  (h.stopped hstopped).resolve_right fun ⟨error, hdestroyed⟩ => hcontrol error hdestroyed

/-- What is to be pushed while rows are transformed. -/
theorem Streaming.transforming (h : Streaming js load rows sourceError xs s)
    (hcontrol : s.control = .transforming) :
    ∃ pushed : List Bytes, pushed.flatten = xs ++ s.readable ∧
      load.push js false rows =
        (load.push js s.columnMetadataWritten (s.written ++ s.rows)).map (pushed ++ ·) := by
  have hpushed := h.pushed
  rw [Pushed, hcontrol] at hpushed
  exact hpushed

/-- The error of a row is the error of all. -/
theorem Streaming.push_error (h : Streaming js load rows sourceError xs s)
    (hcontrol : s.control = .transforming) {row : BulkRow} {written : List BulkRow}
    (hwritten : s.written = row :: written) {error : JsError}
    (herror : load.transform js s.columnMetadataWritten row = .error error) :
    load.push js false rows = .error error := by
  obtain ⟨pushed, -, hpush⟩ := h.transforming hcontrol
  rw [hpush, hwritten, List.cons_append, push_cons_error herror]
  rfl

/-- A row is transformed. -/
theorem Streaming.transform (h : Streaming js load rows sourceError xs s)
    (hstep : step js load s .transform = some s') : Streaming js load rows sourceError xs s' := by
  rw [RowStreams.step] at hstep
  split at hstep
  · next row written hcontrol hwritten =>
    cases hrow : load.transform js s.columnMetadataWritten row with
    | error error =>
      rw [hrow] at hstep
      cases hstep
      exact h.destroyed (.inr (h.push_error hcontrol hwritten hrow))
    | ok chunks =>
      rw [hrow] at hstep
      cases hstep
      refine ⟨h.sourceError_eq, h.ending, h.stopped, ?_⟩
      obtain ⟨pushed, hflat, hpush⟩ := h.transforming hcontrol
      rw [Pushed]
      dsimp only
      rw [hcontrol]
      refine ⟨pushed ++ chunks, ?_, ?_⟩
      · rw [List.flatten_append, hflat, List.append_assoc]
      · rw [hpush, hwritten, List.cons_append, push_cons_ok hrow]
        cases load.push js true (written ++ s.rows) with
        | error error => rfl
        | ok rest => exact congrArg Except.ok (List.append_assoc pushed chunks rest).symm
  · cases hstep

theorem Streaming.step (h : Streaming js load rows sourceError xs s) {e : RowEvent}
    (hstep : step js load s e = some s') : Streaming js load rows sourceError xs s' := by
  cases e with
  | row =>
    rw [RowStreams.step] at hstep
    split at hstep
    · next row later hsource hrows =>
      cases hstep
      refine ⟨h.sourceError_eq, fun hending => absurd hsource (h.ending hending).1, h.stopped, ?_⟩
      have hsame : (s.written ++ [row]) ++ later = s.written ++ s.rows := by
        rw [hrows, List.append_assoc]
        rfl
      have hpushed := h.pushed
      unfold Pushed at hpushed ⊢
      dsimp only
      rw [hsame]
      exact hpushed
    · cases hstep
  | rowsEnd =>
    rw [RowStreams.step] at hstep
    split at hstep
    · next hsource hrows herror =>
      cases hstep
      exact ⟨h.sourceError_eq, fun _ => ⟨nofun, hrows, h.sourceError_eq.symm.trans herror⟩,
        fun _ => .inl rfl, h.pushed⟩
    · cases hstep
  | rowsError =>
    rw [RowStreams.step] at hstep
    split at hstep
    · next error hsource herror =>
      cases hstep
      exact h.destroyed (.inl (h.sourceError_eq.symm.trans herror))
    · cases hstep
  | transform => exact h.transform hstep
  | throws pushed =>
    rw [RowStreams.step] at hstep
    split at hstep
    · next row written hcontrol hwritten =>
      cases hrow : load.transform js s.columnMetadataWritten row with
      | ok chunks =>
        rw [hrow] at hstep
        cases hstep
      | error error =>
        rw [hrow] at hstep
        cases hstep
        have hending := h.ending_of_stopped (by rw [hcontrol]; exact fun _ => nofun)
        exact ⟨h.sourceError_eq, h.ending, fun hstopped => .inl (hending hstopped),
          h.push_error hcontrol hwritten hrow⟩
    · cases hstep
  | destroy =>
    rw [RowStreams.step] at hstep
    split at hstep
    · next error hcontrol =>
      cases hstep
      have hpushed := h.pushed
      rw [Pushed, hcontrol] at hpushed
      exact h.destroyed (.inr hpushed)
    · cases hstep
  | flush =>
    rw [RowStreams.step] at hstep
    split at hstep
    · next hcontrol hending hwritten =>
      cases hstep
      obtain ⟨-, hrows, herror⟩ := h.ending hending
      obtain ⟨pushed, hflat, hpush⟩ := h.transforming hcontrol
      refine ⟨h.sourceError_eq, h.ending, fun _ => .inl hending, herror,
        pushed ++ [load.createDoneToken], ?_, ?_⟩
      · rw [List.flatten_append, hflat, List.flatten_singleton, List.append_assoc]
      · rw [hpush, hwritten, hrows]
        rfl
    · cases hstep

/-- What a source that has not failed may return. -/
theorem returns_bulkLoad {useUTC : Bool} (data : Bytes) :
    (RequestPayload.bulkLoad load rows sourceError : RequestPayload js useUTC).Returns data ↔
      sourceError = none ∧ ∃ pushed : List Bytes, pushed.flatten = data ∧
        load.push js false rows = .ok pushed := by
  constructor
  · intro h
    obtain ⟨pushed, hpushed, hflat⟩ := h.exists_chunks
    cases sourceError with
    | some error => cases hpushed
    | none => exact ⟨rfl, pushed, hflat, hpushed⟩
  · rintro ⟨rfl, pushed, rfl, hpushed⟩
    exact congrArg (Except.map List.flatten) hpushed

theorem Streaming.isPrefix (h : Streaming js load rows sourceError xs s) {data : Bytes}
    (hsource : sourceError = none) {all : List Bytes} (hflat : all.flatten = data)
    (hpush : load.push js false rows = .ok all) : xs <+: data := by
  have hpushed := h.pushed
  unfold Pushed at hpushed
  split at hpushed
  · obtain ⟨pushed, hread, hlater⟩ := hpushed
    rw [hpush] at hlater
    cases hrest : load.push js s.columnMetadataWritten (s.written ++ s.rows) with
    | error error =>
      rw [hrest] at hlater
      cases hlater
    | ok rest =>
      rw [hrest] at hlater
      cases hlater
      rw [← hflat, List.flatten_append, hread, List.append_assoc]
      exact List.prefix_append ..
  · obtain ⟨-, pushed, hread, hall⟩ := hpushed
    cases hall.symm.trans hpush
    rw [← hflat, hread]
    exact List.prefix_append ..
  · cases hpushed.symm.trans hpush
  · rcases hpushed with hfails | hfails
    · cases hfails.symm.trans hsource
    · cases hfails.symm.trans hpush

/-- **The payload of a bulk load** returns behind all of its rows and throws what has gone wrong. -/
theorem keeps_payload (js : Runtime) (useUTC : Bool) (load : BulkLoad) (rows : List BulkRow)
    (sourceError : Option JsError) :
    (payload js load).Keeps (Streaming js load rows sourceError)
      (RequestPayload.bulkLoad load rows sourceError : RequestPayload js useUTC).Returns
      (fun error => sourceError = some error ∨ load.push js false rows = .error error) where
  step h hstep := h.step hstep
  yield {xs s piece s'} h hnext := by
    have hpushed := h.pushed
    change s.next = _ at hnext
    unfold next at hnext
    split at hnext
    · cases hnext
    · next byte bytes hreadable hdestroyed =>
      cases hnext
      refine ⟨h.sourceError_eq, h.ending, h.stopped, ?_⟩
      unfold Pushed at hpushed ⊢
      dsimp only
      rw [List.append_nil, ← hreadable]
      exact hpushed
    · cases hnext
    · cases hnext
  done {xs s s'} h hnext := by
    change s.next = _ at hnext
    unfold next at hnext
    split at hnext
    · cases hnext
    · cases hnext
    · next hcontrol hreadable =>
      cases hnext
      refine ⟨(returns_bulkLoad xs).2 ?_, h⟩
      have hpushed := h.pushed
      rw [Pushed, hcontrol] at hpushed
      dsimp only at hpushed
      rwa [hreadable, List.append_nil] at hpushed
    · cases hnext
  throw {xs s error s'} h hnext := by
    change s.next = _ at hnext
    unfold next at hnext
    split at hnext
    · next _ hcontrol =>
      cases hnext
      have hpushed := h.pushed
      rw [Pushed, hcontrol] at hpushed
      exact hpushed
    · cases hnext
    · cases hnext
    · cases hnext
  isPrefix h := by
    intro data hreturns
    obtain ⟨hsource, all, hflat, hpush⟩ := (returns_bulkLoad data).1 hreturns
    exact h.isPrefix hsource hflat hpush

/-- Only an error that `_transform` has thrown can keep the payload from going on. -/
theorem Streaming.thrown_of_idle (h : Streaming js load rows sourceError xs s)
    (hidle : ∀ e, RowStreams.step js load s e = none) (hnext : s.next = none) :
    ∃ error, s.control = .thrown error := by
  unfold next at hnext
  cases hcontrol : s.control with
  | destroyed error => simp [hcontrol] at hnext
  | flushed => cases hreadable : s.readable <;> simp [hcontrol, hreadable] at hnext
  | thrown error => exact ⟨error, rfl⟩
  | transforming =>
    have hwritten : s.written = [] := by
      have htransform := hidle .transform
      cases hwritten : s.written with
      | nil => rfl
      | cons row written =>
        rw [RowStreams.step, hcontrol, hwritten] at htransform
        cases hrow : load.transform js s.columnMetadataWritten row <;> simp [hrow] at htransform
    have hflush := hidle .flush
    have hending : s.ending = false := by
      cases hending : s.ending with
      | false => rfl
      | true => simp [RowStreams.step, hcontrol, hwritten, hending] at hflush
    have hsource : s.source = .flowing := by
      by_contra hstopped
      have := h.ending_of_stopped (by rw [hcontrol]; exact fun _ => nofun) hstopped
      rw [hending] at this
      cases this
    have hrow := hidle .row
    have hrowsEnd := hidle .rowsEnd
    have hrowsError := hidle .rowsError
    cases hrows : s.rows with
    | cons row later => simp [RowStreams.step, hsource, hrows] at hrow
    | nil =>
      cases herror : s.sourceError with
      | none => simp [RowStreams.step, hsource, hrows, herror] at hrowsEnd
      | some error => simp [RowStreams.step, hsource, herror] at hrowsError

end Streaming

end RowStreams

/-! ### The execution -/

/-- What the callback of a bulk load reports. -/
inductive BulkLoadError
  /-- The `INSERT BULK` statement has failed, or was canceled. -/
  | insert
  /-- `makeRequest` is called in a state where no requests can be made. -/
  | invalidState
  | canceled
  /-- `bulkLoad.error`, of the streams. -/
  | sending (error : SendError)
  /-- The error of the response, of the socket, or of an attention. -/
  | response
  deriving DecidableEq, Repr

inductive BulkLoadPhase
  /-- The `INSERT BULK` statement is executed. -/
  | inserting (canceled : Bool) (streams : RowStreams)
  /-- The message is sent, or its response is awaited. -/
  | loading (stream : PayloadStream RowStreams)
  /-- The callback was called. -/
  | finished (stream : Option (PayloadStream RowStreams))

/-- A bulk load, with the calls of its callback. -/
structure BulkLoadExecution where
  phase : BulkLoadPhase
  callbacks : List (Option BulkLoadError)

inductive BulkLoadEvent
  | rows (event : RowEvent)
  /-- `bulkLoad.cancel()` before there is a message. -/
  | cancel
  /-- The callback of the `INSERT BULK` request. -/
  | inserted (failed loggedIn : Bool)
  | stream (event : PayloadEvent RowEvent)
  /-- The response to the message; without an error only to one that has ended. -/
  | answered (failed : Bool)

namespace BulkLoadExecution

/-- `execBulkLoad`. -/
def start (rows : List BulkRow) (sourceError : Option JsError) : BulkLoadExecution where
  phase := .inserting false (.start rows sourceError)
  callbacks := []

/-- The message of a bulk load and what it is fed from. -/
def stream (s : BulkLoadExecution) : Option (PayloadStream RowStreams) :=
  match s.phase with
  | .inserting .. => none
  | .loading stream => some stream
  | .finished stream => stream

/-- `bulkLoad.callback(error)`. -/
def callback (s : BulkLoadExecution) (error : Option BulkLoadError) : BulkLoadExecution where
  phase := .finished s.stream
  callbacks := s.callbacks ++ [error]

variable (js : Runtime) (load : BulkLoad)

def step (s : BulkLoadExecution) : BulkLoadEvent → Option BulkLoadExecution
  | .rows event =>
    match s.phase with
    | .inserting canceled streams => (streams.step js load event).map fun streams =>
      { s with phase := .inserting canceled streams }
    | _ => none
  | .cancel =>
    match s.phase with
    | .inserting _ streams => some { s with phase := .inserting true streams }
    | _ => none
  | .inserted failed loggedIn =>
    match s.phase with
    | .inserting canceled streams =>
      if failed then some (s.callback (some .insert))
      else if ¬loggedIn then some (s.callback (some .invalidState))
      else if canceled then some (s.callback (some .canceled))
      else some { s with phase := .loading (.start streams) }
    | _ => none
  | .stream event =>
    match s.phase with
    | .loading stream => (stream.step (RowStreams.payload js load) event).map fun stream =>
      { s with phase := .loading stream }
    | .finished (some stream) => (stream.step (RowStreams.payload js load) event).map fun stream =>
      { s with phase := .finished (some stream) }
    | _ => none
  | .answered failed =>
    match s.phase with
    | .loading stream =>
      if failed then some (s.callback (some .response))
      else if stream.closed then some (s.callback (stream.error.map .sending))
      else none
    | _ => none

def machine : Machine BulkLoadExecution BulkLoadEvent := ⟨step js load⟩

section Executing

variable {js : Runtime} {load : BulkLoad} {rows : List BulkRow} {sourceError : Option JsError}
  {s s' : BulkLoadExecution}

/-- The data that the bulk load is to send. -/
def Returns (js : Runtime) (load : BulkLoad) (rows : List BulkRow) (sourceError : Option JsError) :
    Bytes → Prop :=
  (RequestPayload.bulkLoad load rows sourceError : RequestPayload js load.useUTC).Returns

/-- What can go wrong with the rows: their source fails, or one of them cannot be written. -/
def Fails (js : Runtime) (load : BulkLoad) (rows : List BulkRow) (sourceError : Option JsError)
    (error : JsError) : Prop :=
  sourceError = some error ∨ load.push js false rows = .error error

/-- The invariant of the streams of a message. -/
abbrev Loading (js : Runtime) (load : BulkLoad) (rows : List BulkRow)
    (sourceError : Option JsError) (stream : PayloadStream RowStreams) : Prop :=
  PayloadStream.Flowing (RowStreams.Streaming js load rows sourceError)
    (Returns js load rows sourceError) (Fails js load rows sourceError) stream

/-- What a success is the report of: unless it was canceled, the message was sent with everything
that the bulk load is to send. -/
def Sent (js : Runtime) (load : BulkLoad) (rows : List BulkRow) (sourceError : Option JsError)
    (stream : PayloadStream RowStreams) : Prop :=
  stream.closed = true ∧ (stream.canceled = true ∨ .ignore ∉ stream.events ∧
    Returns js load rows sourceError (stream.events.flatMap MessageEvent.bytes))

/-- What holds at every moment of an execution. -/
def Executing (js : Runtime) (load : BulkLoad) (rows : List BulkRow)
    (sourceError : Option JsError) (s : BulkLoadExecution) : Prop :=
  match s.phase with
  | .inserting _ streams =>
    s.callbacks = [] ∧ RowStreams.Streaming js load rows sourceError [] streams
  | .loading stream => s.callbacks = [] ∧ Loading js load rows sourceError stream
  | .finished message =>
    (∀ stream ∈ message, Loading js load rows sourceError stream) ∧ ∃ error,
      s.callbacks = [error] ∧
        (error = none → ∃ stream ∈ message, Sent js load rows sourceError stream) ∧
        ∀ e, error = some (.sending (.payload e)) → Fails js load rows sourceError e

theorem executing_start (js : Runtime) (load : BulkLoad) (rows : List BulkRow)
    (sourceError : Option JsError) : Executing js load rows sourceError (start rows sourceError) :=
  ⟨rfl, RowStreams.streaming_start js load rows sourceError⟩

/-- A success stays one, whatever happens to the streams of a message that has ended. -/
theorem Sent.step {stream stream' : PayloadStream RowStreams}
    (hloading : Loading js load rows sourceError stream)
    (h : Sent js load rows sourceError stream) {e : PayloadEvent RowEvent}
    (hstep : stream.step (RowStreams.payload js load) e = some stream') :
    Sent js load rows sourceError stream' := by
  have hsettled := hloading.settled h.1 hstep
  refine ⟨hsettled.closed, h.2.imp hsettled.canceled fun hsent => ?_⟩
  rw [hsettled.events]
  exact hsent

/-- The callback is called. -/
theorem executing_callback (hcallbacks : s.callbacks = [])
    (hloading : ∀ stream ∈ s.stream, Loading js load rows sourceError stream)
    {error : Option BulkLoadError}
    (hsent : error = none → ∃ stream ∈ s.stream, Sent js load rows sourceError stream)
    (hfails : ∀ e, error = some (.sending (.payload e)) → Fails js load rows sourceError e) :
    Executing js load rows sourceError (s.callback error) :=
  ⟨hloading, error, congrArg (· ++ [error]) hcallbacks, hsent, hfails⟩

/-- A message that has ended and was answered without an error was sent. -/
theorem sent_of_answered {stream : PayloadStream RowStreams}
    (h : Loading js load rows sourceError stream) (hclosed : stream.closed = true)
    (herror : stream.error = none) : Sent js load rows sourceError stream := by
  refine ⟨hclosed, ?_⟩
  cases hcanceled : stream.canceled with
  | true => exact .inl rfl
  | false => exact .inr (h.whole hclosed hcanceled herror)

section Phases

variable {canceled : Bool} {streams : RowStreams} {stream : PayloadStream RowStreams}
  {e : BulkLoadEvent}

theorem Executing.step_inserting (hphase : s.phase = .inserting canceled streams)
    (h : Executing js load rows sourceError s) (hstep : step js load s e = some s') :
    Executing js load rows sourceError s' := by
  rw [Executing, hphase] at h
  obtain ⟨hcallbacks, hstreaming⟩ := h
  have hfailed : ∀ error, (∀ e, error ≠ .sending e) →
      Executing js load rows sourceError (s.callback (some error)) := by
    intro error hnot
    refine executing_callback hcallbacks ?_ nofun fun e he => absurd (Option.some.inj he) (hnot _)
    rw [BulkLoadExecution.stream, hphase]
    exact fun _ => nofun
  cases e with
  | rows event =>
    rw [BulkLoadExecution.step, hphase] at hstep
    obtain ⟨streams', hstreams, rfl⟩ := Option.map_eq_some_iff.1 hstep
    exact ⟨hcallbacks, hstreaming.step hstreams⟩
  | cancel =>
    rw [BulkLoadExecution.step, hphase] at hstep
    cases hstep
    exact ⟨hcallbacks, hstreaming⟩
  | inserted failed loggedIn =>
    rw [BulkLoadExecution.step, hphase] at hstep
    dsimp only at hstep
    split at hstep
    · cases hstep
      exact hfailed .insert fun _ => nofun
    split at hstep
    · cases hstep
      exact hfailed .invalidState fun _ => nofun
    split at hstep
    · cases hstep
      exact hfailed .canceled fun _ => nofun
    · cases hstep
      exact ⟨hcallbacks, PayloadStream.flowing_start hstreaming⟩
  | stream event | answered failed =>
    rw [BulkLoadExecution.step, hphase] at hstep
    cases hstep

theorem Executing.step_loading (hphase : s.phase = .loading stream)
    (h : Executing js load rows sourceError s) (hstep : step js load s e = some s') :
    Executing js load rows sourceError s' := by
  rw [Executing, hphase] at h
  obtain ⟨hcallbacks, hloading⟩ := h
  have hstream : s.stream = some stream := by rw [BulkLoadExecution.stream, hphase]
  have hall : ∀ stream ∈ s.stream, Loading js load rows sourceError stream := by
    rintro other hother
    cases hstream.symm.trans hother
    exact hloading
  cases e with
  | stream event =>
    rw [BulkLoadExecution.step, hphase] at hstep
    obtain ⟨stream', hstream', rfl⟩ := Option.map_eq_some_iff.1 hstep
    have hkeeps := RowStreams.keeps_payload js load.useUTC load rows sourceError
    exact ⟨hcallbacks, hloading.step hkeeps hstream'⟩
  | answered failed =>
    rw [BulkLoadExecution.step, hphase] at hstep
    dsimp only at hstep
    split at hstep
    · cases hstep
      exact executing_callback hcallbacks hall nofun fun e => nofun
    split at hstep
    · next hclosed =>
      cases hstep
      refine executing_callback hcallbacks hall (fun herror => ⟨stream, hstream, ?_⟩) fun e he => ?_
      · exact sent_of_answered hloading hclosed (Option.map_eq_none_iff.1 herror)
      · obtain ⟨error, herror, hsending⟩ := Option.map_eq_some_iff.1 he
        cases hsending
        exact hloading.error herror
    · cases hstep
  | rows event | cancel | inserted failed loggedIn =>
    rw [BulkLoadExecution.step, hphase] at hstep
    cases hstep

theorem Executing.step_finished {message : Option (PayloadStream RowStreams)}
    (hphase : s.phase = .finished message) (h : Executing js load rows sourceError s)
    (hstep : step js load s e = some s') : Executing js load rows sourceError s' := by
  rw [Executing, hphase] at h
  obtain ⟨hall, error, hcallbacks, hsent, hfails⟩ := h
  cases e with
  | stream event =>
    rw [BulkLoadExecution.step, hphase] at hstep
    cases message with
    | none => cases hstep
    | some stream =>
      obtain ⟨stream', hstream', rfl⟩ := Option.map_eq_some_iff.1 hstep
      have hkeeps := RowStreams.keeps_payload js load.useUTC load rows sourceError
      have hloading := hall stream rfl
      refine ⟨?_, error, hcallbacks, fun hnone => ⟨stream', rfl, ?_⟩, hfails⟩
      · rintro other ⟨⟩
        exact hloading.step hkeeps hstream'
      · obtain ⟨sent, ⟨⟩, hsent⟩ := hsent hnone
        exact hsent.step hloading hstream'
  | rows event | cancel | inserted failed loggedIn | answered failed =>
    rw [BulkLoadExecution.step, hphase] at hstep
    cases hstep

end Phases

/-- Every event keeps the invariant. -/
theorem Executing.step (h : Executing js load rows sourceError s) {e : BulkLoadEvent}
    (hstep : step js load s e = some s') : Executing js load rows sourceError s' := by
  cases hphase : s.phase with
  | inserting canceled streams => exact h.step_inserting hphase hstep
  | loading stream => exact h.step_loading hphase hstep
  | finished message => exact h.step_finished hphase hstep

theorem Executing.loading (h : Executing js load rows sourceError s)
    {stream : PayloadStream RowStreams} (hstream : stream ∈ s.stream) :
    Loading js load rows sourceError stream := by
  unfold Executing at h
  unfold BulkLoadExecution.stream at hstream
  split at h <;> rename_i hphase <;> rw [hphase] at hstream
  · cases hstream
  · cases hstream
    exact h.2
  · exact h.1 stream hstream

theorem Executing.callbacks (h : Executing js load rows sourceError s) :
    s.callbacks.length ≤ 1 ∧
      (none ∈ s.callbacks → ∃ stream ∈ s.stream, Sent js load rows sourceError stream) ∧
      ∀ e, some (.sending (.payload e)) ∈ s.callbacks → Fails js load rows sourceError e := by
  unfold Executing at h
  unfold BulkLoadExecution.stream
  split at h
  · rw [h.1]
    simp
  · rw [h.1]
    simp
  · obtain ⟨-, error, hcallbacks, hsent, hfails⟩ := h
    rw [hcallbacks]
    refine ⟨Nat.le_refl 1, fun hmem => hsent (List.mem_singleton.1 hmem).symm, fun e hmem => ?_⟩
    exact hfails e (List.mem_singleton.1 hmem).symm

/-- What a server reads of the message, if it is not to be ignored: the description of the columns,
every row of the source, and the end. -/
def ArrivesWhole (js : Runtime) (load : BulkLoad) (rows : List BulkRow)
    (sourceError : Option JsError) (options : ParserOptions) (events : List MessageEvent) : Prop :=
  sourceError = none ∧ ∃ tokens,
    readRequest options MessageType.BULK_LOAD.toByte (events.flatMap MessageEvent.bytes) =
      some (.bulkLoad tokens) ∧ load.Received js options rows tokens

theorem arrivesWhole_of_returns {options : ParserOptions}
    (hversion : load.tdsVersion = options.tdsVersion)
    (hcolumns : ∀ column ∈ load.columns, column.type.isColumn = true) {events : List MessageEvent}
    (h : Returns js load rows sourceError (events.flatMap MessageEvent.bytes)) :
    ArrivesWhole js load rows sourceError options events := by
  have hreadable : RequestPayload.Readable options
      (RequestPayload.bulkLoad load rows sourceError : RequestPayload js load.useUTC) :=
    ⟨hversion, hcolumns⟩
  obtain ⟨request, hread, hreceived⟩ := RequestPayload.readRequest_returns hreadable h
  cases request with
  | bulkLoad tokens => exact ⟨((RowStreams.returns_bulkLoad _).1 h).1, tokens, hread, hreceived⟩
  | _ => exact hreceived.elim

end Executing

/-- The events of a bulk load of one row, to its end. -/
def oneRow : List BulkLoadEvent :=
  [.rows .row, .rows .transform, .inserted false true, .stream .read, .stream .pipe,
    .stream (.generate .rowsEnd), .stream (.generate .flush), .stream .flow, .stream .read,
    .stream .read, .stream .pipe, .stream .pipeEnd, .stream .flow, .stream .finish, .stream .close,
    .answered false]

end BulkLoadExecution

end Tedious
