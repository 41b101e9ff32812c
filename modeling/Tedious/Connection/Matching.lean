import Tedious.Connection.AttentionResponse
import Tedious.Connection.Attentions

/-!
# Tedious.Connection.Matching

Which request a response belongs to is not written in it: the server answers in order, and the
connection takes what it reads for what it waits for. One answer too many or too few moves all
answers behind it (`responses_shifted`: without a cancel timer nothing waits for the
acknowledgement of an `ATTENTION` message that was sent before the response has begun).

`responses_matched` is about the runs of `attentions_disciplined`, with a cancel timeout: a
connection that takes requests is owed nothing, and the response that is read is the response to
the current request.
-/

namespace Tedious

open Chunked Reentrant

namespace Connection

/-- What the server owes for the `ATTENTION` messages of an execution. -/
def acknowledgements (sent : List Attention) (x : Execution) : List Answer :=
  List.replicate (attentions sent x) .attention

/-- What the server owes, by what the connection waits for. -/
structure Matched (s : Connection) (sent : List Attention) : Prop where
  idle : s.state = .LOGGED_IN → s.owed = []
  timer : s.state = .SENT_CLIENT_REQUEST → ∀ x, s.request = some x → 0 < attentions sent x →
    s.cancelTimer = true
  waiting : s.state = .SENT_CLIENT_REQUEST → ∀ x, s.request = some x →
    ∀ call, .requestMessage call ∈ s.pending →
      s.owed = .response x.call :: acknowledgements sent x
  reading : s.state = .SENT_CLIENT_REQUEST → ∀ x, s.request = some x →
    ∀ call r errors answers, .requestTokens call r errors answers ∈ s.pending →
      answers = some (.response x.call) ∧ s.owed = acknowledgements sent x
  attention : s.state = .SENT_ATTENTION → .attentionMessage ∈ s.pending → s.owed = [.attention]
  acknowledged : s.state = .SENT_ATTENTION →
    ∀ received answers, .attentionTokens received answers ∈ s.pending →
      answers = some .attention ∧ s.owed = []

/-- What the server owes a connection that logs in, that is open, or that has been closed. -/
inductive Owing (s : Connection) (stack : List Instr) (sent : List Attention) : Prop
  | login (h : LoginPhase s stack) (hout : s.state.isLoggedIn = false) (howed : s.owed = [])
  | serving (hphase : RequestPhase s stack) (hopen : s.state ≠ .FINAL) (hclosed : s.closed = false)
      (hserving : Serving s stack) (hmatched : Matched s sent)
  | ended (hphase : RequestPhase s stack)
      (hover : s.closed = true ∨ s.state = .FINAL ∧ ∃ x, s.request = some x)

/-- A step that neither asks the server for anything nor reads an answer. -/
structure Unasked (s s' : Connection) : Prop extends Remains s s' where
  owed : s'.owed = s.owed
  cancelTimer : s'.cancelTimer = s.cancelTimer

variable {c : ConnectionConfig} {s : Connection} {rest : List Instr} {sent : List Attention}

/-! ### Frames -/

theorem Unasked.of_eq {s' : Connection} (hstate : s'.state = s.state)
    (hrequest : s'.request = s.request) (hpending : s'.pending = s.pending)
    (howed : s'.owed = s.owed) (htimer : s'.cancelTimer = s.cancelTimer) : Unasked s s' :=
  ⟨⟨hstate, hrequest, .inr (by rw [hpending])⟩, howed, htimer⟩

/-- What is under way is what was under way before. -/
theorem Remains.subject {s' : Connection} (h : Remains s s') {p' : Pending} (hp' : p' ∈ s'.pending) :
    ∃ p ∈ s.pending, p.subject = p'.subject := by
  rcases h.pending with hnone | hsame
  · rw [hnone] at hp'
    cases hp'
  · have hmem : p'.subject ∈ s.pending.map Pending.subject :=
      hsame ▸ List.mem_map_of_mem hp'
    exact List.mem_map.1 hmem

theorem Matched.unasked {s' : Connection} (h : Matched s sent) (hunasked : Unasked s s') :
    Matched s' sent := by
  obtain ⟨hremains, howed, htimer⟩ := hunasked
  have hstate := hremains.state
  have hrequest := hremains.request
  constructor
  · exact fun hidle => howed.trans (h.idle (hstate ▸ hidle))
  · exact fun hsent x hx hpos => htimer.trans (h.timer (hstate ▸ hsent) x (hrequest ▸ hx) hpos)
  · intro hsent x hx call hmem
    obtain ⟨p, hp, hsubject⟩ := hremains.subject hmem
    cases p <;> cases hsubject
    exact howed.trans (h.waiting (hstate ▸ hsent) x (hrequest ▸ hx) call hp)
  · intro hsent x hx call r errors answers hmem
    obtain ⟨p, hp, hsubject⟩ := hremains.subject hmem
    cases p <;> cases hsubject
    rw [howed]
    exact h.reading (hstate ▸ hsent) x (hrequest ▸ hx) call r _ answers hp
  · intro hattention hmem
    obtain ⟨p, hp, hsubject⟩ := hremains.subject hmem
    cases p <;> cases hsubject
    exact howed.trans (h.attention (hstate ▸ hattention) hp)
  · intro hattention received answers hmem
    obtain ⟨p, hp, hsubject⟩ := hremains.subject hmem
    cases p <;> cases hsubject
    rw [howed]
    exact h.acknowledged (hstate ▸ hattention) _ answers hp

/-- A connection that takes requests is owed nothing. -/
theorem Matched.of_loggedIn (hstate : s.state = .LOGGED_IN) (howed : s.owed = []) :
    Matched s sent where
  idle := fun _ => howed
  timer := fun hsent => by cases hstate.symm.trans hsent
  waiting := fun hsent => by cases hstate.symm.trans hsent
  reading := fun hsent => by cases hstate.symm.trans hsent
  attention := fun hattention => by cases hstate.symm.trans hattention
  acknowledged := fun hattention => by cases hstate.symm.trans hattention

/-- An acknowledgement is waited for. -/
theorem Matched.of_attention (hstate : s.state = .SENT_ATTENTION)
    (hpending : s.pending = [.attentionMessage]) (howed : s.owed = [.attention]) :
    Matched s sent where
  idle := fun hidle => by cases hstate.symm.trans hidle
  timer := fun hsent => by cases hstate.symm.trans hsent
  waiting := fun hsent => by cases hstate.symm.trans hsent
  reading := fun hsent => by cases hstate.symm.trans hsent
  attention := fun _ _ => howed
  acknowledged := fun _ received answers hmem => by rw [hpending] at hmem; simp at hmem

/-- An open connection attends to its messages. -/
theorem Attends.attended (h : Attends s rest sent) (hphase : RequestPhase s rest)
    (hopen : s.state ≠ .FINAL) (hclosed : s.closed = false) : Attended s rest sent := by
  cases h with
  | login hlogin hout => cases hout.symm.trans (hphase.isLoggedIn hopen)
  | serving _ _ _ _ _ hattended => exact hattended
  | closing _ _ _ hstate => exact absurd hstate hopen
  | ended _ _ _ hover =>
    rcases hover with hset | ⟨hfinal, -⟩
    · cases hclosed.symm.trans hset
    · exact absurd hfinal hopen

/-- The one `ATTENTION` message that is sent for an execution is acknowledged once. -/
theorem Past.acknowledgements (h : Past s sent) {x : Execution} (hpos : 0 < attentions sent x) :
    Connection.acknowledgements sent x = [.attention] := by
  have hone : attentions sent x = 1 := Nat.le_antisymm (h.once x) hpos
  rw [Connection.acknowledgements, hone]
  rfl

/-! ### Instructions -/

/-- An `ATTENTION` message is sent, and the cancel timer set. -/
theorem Matched.cancel (hcancel : c.cancelTimeout.isPositive = true) (h : Matched s sent)
    {x : Execution} (hrequest : s.request = some x) (hstate : s.state = .SENT_CLIENT_REQUEST)
    (r : RequestId) :
    Matched (exec c (.cancelListener r .afterRequestSent) s).1 (s.attention r :: sent) := by
  have hadded : acknowledgements (s.attention r :: sent) x =
      acknowledgements sent x ++ [.attention] := by
    rw [acknowledgements, attentions_cons hrequest, if_pos rfl, List.replicate_succ', acknowledgements]
  constructor
  · exact fun hidle => by cases hstate.symm.trans hidle
  · exact fun _ _ _ _ => hcancel
  · intro _ y hy call hmem
    obtain rfl : x = y := Option.some.inj (hrequest.symm.trans hy)
    rw [hadded, ← List.cons_append, ← h.waiting hstate x hrequest call hmem]
    rfl
  · intro _ y hy call r' errors answers hmem
    obtain rfl : x = y := Option.some.inj (hrequest.symm.trans hy)
    obtain ⟨hanswers, howed⟩ := h.reading hstate x hrequest call r' errors answers hmem
    refine ⟨hanswers, ?_⟩
    rw [hadded, ← howed]
    rfl
  · exact fun hattention => by cases hstate.symm.trans hattention
  · exact fun hattention => by cases hstate.symm.trans hattention

/-- The response is given up. -/
theorem Matched.response (h : Matched s sent) (hpast : Past s sent)
    {r : RequestId} {call : Nat} (hopen : s.state ≠ .FINAL)
    (hserving : Serving s (.cancelListener r (.response call) :: rest)) {x : Execution}
    (hrequest : s.request = some x) (hpos : 0 < attentions sent x) :
    Matched (exec c (.cancelListener r (.response call)) s).1 sent := by
  have hresponses : 0 < responses s (.cancelListener r (.response call) :: rest) r call := by
    unfold responses
    rw [List.count_cons_self]
    omega
  obtain ⟨-, hreading⟩ := hserving.listened hopen r call hresponses
  obtain ⟨hstate, hrequest', errors, answers, hpending⟩ := hreading
  obtain rfl : x = { call, request := r } := Option.some.inj (hrequest.symm.trans hrequest')
  have hgiven : s.pending.filter (fun p => ¬p.isResponseOf call) = [] := by
    simp [hpending, Pending.isResponseOf]
  have hexec : exec c (.cancelListener r (.response call)) s =
      ({ s with pending := [] } : Connection).transitionTo c .SENT_ATTENTION := by
    rw [← hgiven]
    rfl
  obtain ⟨-, howed⟩ := h.reading hstate _ hrequest' _ _ _ answers (hpending ▸ List.mem_cons_self ..)
  rw [hexec]
  refine .of_attention (state_transitionTo _) ?_ ?_
  · rw [pending_transitionTo]
    simp [hstate, ConnectionState.waits]
  · rw [owed_transitionTo]
    exact howed.trans (hpast.acknowledgements hpos)

/-- What is left to do on a connection that stays open. -/
theorem Matched.exec (hcancel : c.cancelTimeout.isPositive = true) {i : Instr}
    (h : Matched s sent) (hpast : Past s sent) (hphase : RequestPhase s (i :: rest))
    (hopen : s.state ≠ .FINAL) (hserving : Serving s (i :: rest))
    (hattended : Attended s (i :: rest) sent)
    (hfinal : (Connection.exec c i s).1.state ≠ .FINAL) (k' : Config Connection Instr) :
    Matched (Connection.exec c i s).1 (extendAttentions ⟨s, i :: rest⟩ .next k' sent) := by
  cases hi : i.isAttending with
  | true =>
    obtain ⟨hstate, x, hrequest, hwatch⟩ := hattended.of_attending hphase hopen hserving hi
    cases i with
    | cancelListener r l =>
      cases l with
      | unsent call => cases hi
      | afterRequestSent => exact h.cancel hcancel hrequest hstate r
      | response call =>
        refine h.response hpast hopen hserving hrequest ?_
        have hstack : attending (.cancelListener r (.response call) :: rest) =
          .cancelListener r (.response call) :: attending rest := rfl
        cases hwatch with
        | calm hnone => cases hstack.symm.trans hnone
        | waiting hsome => cases (List.cons.inj (hstack.symm.trans hsome)).1
        | reading hsome => cases (List.cons.inj (hstack.symm.trans hsome)).1
        | sent _ _ hone => exact hone
    | _ => cases hi
  | false =>
    rw [extendAttentions_next hi]
    by_cases hlistener : ∃ r l, i = .cancelListener r l
    · obtain ⟨r, l, rfl⟩ := hlistener
      cases l <;> first | exact h.unasked (.of_eq rfl rfl rfl rfl rfl) | cases hi
    · have hnot : ∀ r l, i ≠ .cancelListener r l := fun r l heq => hlistener ⟨r, l, heq⟩
      have hremains := ((undisturbed_exec (c := c) hserving hphase hopen hnot).resolve_left
        hfinal).1
      by_cases htimeout : ∃ r, i = .requestTimeoutError r
      · obtain ⟨r, rfl⟩ := htimeout
        exact h.unasked (.of_eq rfl rfl rfl rfl rfl)
      · have hspares := spares_exec (c := c) (s := s) hnot fun r heq => htimeout ⟨r, heq⟩
        exact h.unasked ⟨hremains, hspares.owed, hspares.cancelTimer⟩

theorem owing_exec (hcancel : c.cancelTimeout.isPositive = true) {i : Instr}
    (hcourse : Course s (i :: rest)) (hattends : Attends s (i :: rest) sent) (hpast : Past s sent)
    (h : Owing s (i :: rest) sent) (k' : Config Connection Instr) :
    Owing (exec c i s).1 ((exec c i s).2 ++ rest)
      (extendAttentions ⟨s, i :: rest⟩ .next k' sent) := by
  cases h with
  | login hlogin hout howed =>
    have hlistener : ∀ r l, i ≠ .cancelListener r l := by
      rintro r l rfl
      exact hlogin.listenersRun r _ (List.mem_cons_self ..)
    refine .login hlogin.exec (exec_outside hlogin hout) ?_
    by_cases htimeout : ∃ r, i = .requestTimeoutError r
    · obtain ⟨r, rfl⟩ := htimeout
      exact howed
    · exact (spares_exec hlistener fun r heq => htimeout ⟨r, heq⟩).owed.trans howed
  | serving hphase hopen hclosed hserving hmatched =>
    by_cases hfinal : (exec c i s).1.state = .FINAL
    · exact .ended hphase.exec
        (over_of_proceeds (proceeds_exec hserving hphase hopen hclosed) hfinal)
    · have hattended := hattends.attended hphase hopen hclosed
      have hcleaning := hserving.cleaning (hphase.isLoggedIn hopen) i (List.mem_cons_self ..)
      exact .serving hphase.exec hfinal
        (((closesInFinal_exec hcleaning).resolve_right fun h => hfinal h.2).trans hclosed)
        (hserving.execRequest hphase hopen)
        (hmatched.exec hcancel hpast hphase hopen hserving hattended hfinal k')
  | ended hphase hover => exact .ended hphase.exec (over_exec hcourse hover)

/-! ### Events -/

theorem unasked_cancelRequest (r : RequestId) : Unasked s (s.cancelRequest r).1 := by
  refine .of_eq (state_cancelRequest r) (request_cancelRequest r) (pending_cancelRequest r) ?_
    (cancelTimer_cancelRequest r)
  unfold cancelRequest
  split <;> rfl

/-- A request that is not admitted. -/
theorem unasked_makeRequest {r : RequestId} (type : RequestType)
    (h : s.state = .LOGGED_IN → (s.requests r).canceled = true) :
    Unasked s (s.makeRequest c r type).1 := by
  unfold makeRequest
  dsimp only
  split
  · exact .of_eq rfl rfl rfl rfl rfl
  · next hstate =>
    rw [if_pos (h (Decidable.not_not.1 hstate))]
    exact .of_eq rfl rfl rfl rfl rfl

/-- The events that concern an execution, but those that make a request or go on with something
under way. -/
theorem unasked_handle {event : Event} (hconcerns : event.concerns = true)
    (hadmits : s.admitsRequest event = false) (hresume : ∀ p outcome, event ≠ .resume p outcome) :
    Unasked s (s.handle c event).1 := by
  have hrefused : ∀ {r : RequestId}, (s.state = .LOGGED_IN && !(s.requests r).canceled) = false →
      s.state = .LOGGED_IN → (s.requests r).canceled = true := by
    intro r hrefused hstate
    simpa [hstate] using hrefused
  cases event with
  | cancel =>
    show Unasked s s.cancel.1
    unfold cancel
    split
    · exact unasked_cancelRequest _
    · exact .of_eq rfl rfl rfl rfl rfl
  | cancelRequest r => exact unasked_cancelRequest r
  | requestTimer =>
    show Unasked s s.requestTimeout.1
    unfold requestTimeout
    dsimp only
    split
    · obtain ⟨⟨hstate, hrequest, hpending⟩, howed, htimer⟩ :=
        unasked_cancelRequest (s := { s with requestTimer := false }) _
      exact ⟨⟨hstate, hrequest, hpending⟩, howed, htimer⟩
    · exact .of_eq rfl rfl rfl rfl rfl
  | makeRequest r type => exact unasked_makeRequest type (hrefused hadmits)
  | prepare r =>
    have hsame : ((s.updateRequest r fun request => { request with
        preparing := true, prepared := request.prepared + 1 }).requests r).canceled =
          (s.requests r).canceled := by
      simp [updateRequest]
    obtain ⟨⟨hstate, hrequest, hpending⟩, howed, htimer⟩ :=
      unasked_makeRequest (c := c) (s := s.updateRequest r fun request => { request with
        preparing := true, prepared := request.prepared + 1 }) .RPC_REQUEST
        fun hstate => hsame.trans (hrefused hadmits hstate)
    exact ⟨⟨hstate, hrequest, hpending⟩, howed, htimer⟩
  | reset =>
    obtain ⟨⟨hstate, hrequest, hpending⟩, howed, htimer⟩ :=
      unasked_makeRequest (c := c) (s := { s with
        resetConnectionOnNextRequest := true, trace := .resetCalled :: s.trace }) .SQL_BATCH
        (hrefused hadmits)
    exact ⟨⟨hstate, hrequest, hpending⟩, howed, htimer⟩
  | tick t => cases t <;> exact .of_eq rfl rfl rfl rfl rfl
  | resume p outcome => exact absurd rfl (hresume p outcome)
  | _ => first | (cases hconcerns; done) | exact .of_eq rfl rfl rfl rfl rfl

/-- A request is made: its response is owed. -/
theorem Matched.makeRequest (h : Matched s sent) (hpast : Past s sent) (hserving : Serving s rest)
    (hstate : s.state = .LOGGED_IN) {r : RequestId} (hopen : (s.requests r).canceled = false)
    (type : RequestType) : Matched (s.makeRequest c r type).1 sent := by
  have hpending : s.pending = [] := by
    cases hserving.stage with
    | outside hout => rw [hstate] at hout; cases hout
    | idle _ _ hpending => exact hpending
    | waiting _ hsent => cases hstate.symm.trans hsent
    | reading _ hreading => cases hstate.symm.trans hreading.state
    | attending _ hattention => cases hstate.symm.trans hattention
  have hmade : s.makeRequest c r type =
      ((s.countCall { call := s.calls, request := r }).writeRequest c
        { call := s.calls, request := r } type).transitionTo c .SENT_CLIENT_REQUEST := by
    unfold Connection.makeRequest
    dsimp only
    rw [if_neg (by simp [hstate]), if_neg (by simp [hopen])]
  obtain ⟨_, _, _, hwrite⟩ := writeRequest_eq c (s.countCall { call := s.calls, request := r })
    { call := s.calls, request := r } type
  rw [hmade]
  have hnone : attentions sent { call := s.calls, request := r } = 0 :=
    hpast.attentions_eq_zero hopen
  have hstate' := state_transitionTo (c := c) (s := (s.countCall
    { call := s.calls, request := r }).writeRequest c { call := s.calls, request := r } type)
      .SENT_CLIENT_REQUEST
  have hpending' : (((s.countCall { call := s.calls, request := r }).writeRequest c
      { call := s.calls, request := r } type).transitionTo c .SENT_CLIENT_REQUEST).1.pending =
        [.requestMessage s.calls] := by
    rw [pending_transitionTo, hwrite]
    simp [countCall, record, hpending, hstate, ConnectionState.waits]
  constructor
  · exact fun hidle => by cases hstate'.symm.trans hidle
  · intro _ x hx hpos
    rw [request_transitionTo, hwrite] at hx
    cases hx
    omega
  · intro _ x hx call _
    rw [request_transitionTo, hwrite] at hx
    cases hx
    rw [owed_transitionTo, hwrite, acknowledgements, hnone]
    simp [countCall, record, h.idle hstate]
  · intro _ x _ call r' errors answers hmem
    rw [hpending'] at hmem
    simp at hmem
  · exact fun hattention => by cases hstate'.symm.trans hattention
  · exact fun hattention => by cases hstate'.symm.trans hattention

/-- A message has begun: the response to the request, which is given up if the request has been
canceled behind it. -/
theorem Matched.afterRequestMessage (h : Matched s sent) (hpast : Past s sent)
    (hattended : Attended s [] sent) (hstate : s.state = .SENT_CLIENT_REQUEST) {x : Execution}
    (hrequest : s.request = some x) (hpending : s.pending = [.requestMessage x.call]) :
    Matched (Connection.afterRequestMessage c { s with pending := [] } x.call).1 sent := by
  have howed := h.waiting hstate x hrequest x.call (hpending ▸ List.mem_cons_self ..)
  unfold Connection.afterRequestMessage
  dsimp only
  split
  · next hset =>
    have htimer : s.cancelTimer = true := ((Bool.and_eq_true _ _).mp hset).2
    refine .of_attention (state_transitionTo _) ?_ ?_
    · rw [pending_transitionTo]
      simp [hstate, ConnectionState.waits]
    · rw [owed_transitionTo]
      dsimp only
      rw [howed, List.tail_cons]
      exact hpast.acknowledgements (hattended.calm hstate hrequest htimer).1
  · rw [updateCurrentRequest_eq (x := x) (by exact hrequest)]
    constructor
    · exact fun hidle => by cases hstate.symm.trans hidle
    · exact fun _ y hy hpos => h.timer hstate y hy hpos
    · intro _ _ _ call hmem
      simp [await, Connection.updateRequest] at hmem
    · intro _ y hy call r errors answers hmem
      obtain rfl : x = y := Option.some.inj (hrequest.symm.trans hy)
      simp only [await, Connection.updateRequest, List.nil_append, List.mem_singleton] at hmem
      cases hmem
      exact ⟨by rw [howed]; rfl, by dsimp only [await, Connection.updateRequest]; rw [howed]; rfl⟩
    · exact fun hattention => by cases hstate.symm.trans hattention
    · exact fun hattention => by cases hstate.symm.trans hattention

/-- The response has ended, and nothing is owed behind it. -/
theorem Matched.onEndOfMessage (h : Matched s sent) (hattended : Attended s [] sent) {x : Execution}
    (hreading : Reading s x) (pending : List Pending) :
    Matched (Connection.onEndOfMessage c { s with pending } x.call).1 sent := by
  have hreading' := hreading
  obtain ⟨hstate, hrequest, errors, answers, hpending⟩ := hreading
  have hunset : s.cancelTimer = false :=
    Bool.eq_false_iff.2 fun htimer => (hattended.calm hstate hrequest htimer).2 hreading'
  have hnone : attentions sent x = 0 := by
    refine Nat.eq_zero_of_not_pos fun hpos => ?_
    exact Bool.false_ne_true (hunset.symm.trans (h.timer hstate x hrequest hpos))
  obtain ⟨-, howed⟩ := h.reading hstate x hrequest _ _ _ answers (hpending ▸ List.mem_cons_self ..)
  refine .of_loggedIn (state_transitionTo _) ?_
  unfold Connection.onEndOfMessage
  dsimp only
  rw [owed_transitionTo, updateCurrentRequest_eq (x := x) (by exact hrequest)]
  exact howed.trans (by rw [acknowledgements, hnone]; rfl)

/-- Something under way goes on while requests are made. -/
theorem Matched.resume (h : Matched s sent) (hpast : Past s sent) (hserving : Serving s [])
    (hattended : Attended s [] sent) (hin : s.state.isLoggedIn = true) {p : Pending}
    {outcome : Outcome} (henabled : s.enabled (.resume p outcome) = true)
    (hconcerns : Event.concerns (.resume p outcome) = true) :
    Matched (s.handle c (.resume p outcome)).1 sent := by
  have hp : p ∈ s.pending := of_decide_eq_true ((Bool.and_eq_true _ _).mp henabled).1
  cases hserving.stage with
  | outside hout => cases hin.symm.trans hout
  | idle _ _ hpending =>
    rw [hpending] at hp
    cases hp
  | waiting x hstate hrequest hpending =>
    rcases hpending with hpending | hpending
    · rw [hpending] at hp
      cases hp
    · obtain rfl : p = .requestMessage x.call := by simpa [hpending] using hp
      cases outcome <;> cases hconcerns
      have herased : s.pending.erase (.requestMessage x.call) = [] := by simp [hpending]
      show Matched (Connection.afterRequestMessage c { s with pending := s.pending.erase _ } _).1 _
      rw [herased]
      exact h.afterRequestMessage hpast hattended hstate hrequest hpending
  | reading x hreading =>
    have hreading' := hreading
    obtain ⟨-, -, errors, answers, hpending⟩ := hreading
    obtain rfl : p = .requestTokens x.call (some x.request) errors answers := by
      simpa [hpending] using hp
    cases outcome <;> cases hconcerns
    exact h.onEndOfMessage hattended hreading' _
  | attending x hstate hrequest hpending =>
    rcases hpending with hpending | ⟨q, hpending, hq⟩
    · rw [hpending] at hp
      cases hp
    · obtain rfl : p = q := by simpa [hpending] using hp
      have herased : s.pending.erase p = [] := by simp [hpending]
      cases p <;> cases hq <;> cases outcome <;> cases hconcerns
      · have howed := h.attention hstate hp
        show Matched (Connection.afterAttentionMessage { s with pending := s.pending.erase _ }).1 _
        rw [herased]
        unfold Connection.afterAttentionMessage
        dsimp only
        rw [howed]
        constructor
        · exact fun hidle => by cases hstate.symm.trans hidle
        · exact fun hsent => by cases hstate.symm.trans hsent
        · exact fun hsent => by cases hstate.symm.trans hsent
        · exact fun hsent => by cases hstate.symm.trans hsent
        · intro _ hmem
          simp [await] at hmem
        · intro _ received answers hmem
          simp only [await, List.nil_append, List.mem_singleton] at hmem
          cases hmem
          exact ⟨rfl, rfl⟩
      · next attentionReceived answers =>
        obtain ⟨-, howed⟩ := h.acknowledged hstate _ _ hp
        show Matched (Connection.afterAttention c { s with pending := s.pending.erase _ }
          attentionReceived).1 _
        rw [herased]
        unfold Connection.afterAttention
        split
        · refine .of_loggedIn (state_transitionTo _) ?_
          dsimp only
          rw [owed_transitionTo]
          exact howed
        · exact h.unasked ⟨⟨rfl, rfl, .inl rfl⟩, rfl, rfl⟩

/-- An event of a connection that stays open. -/
theorem Matched.handle (h : Matched s sent) (hpast : Past s sent) (hserving : Serving s rest)
    (hattended : Attended s rest sent) (hphase : RequestPhase s rest) (hopen : s.state ≠ .FINAL)
    {event : Event} (henabled : s.enabled event = true) (hrest : event.isCall = true ∨ rest = [])
    (hfinal : (s.handle c event).1.state ≠ .FINAL) : Matched (s.handle c event).1 sent := by
  cases hconcerns : event.concerns with
  | false =>
    have hremains := ((undisturbed_handle (c := c) hserving hphase hopen henabled hrest
      hconcerns).resolve_left hfinal).1
    have hspares : Spares (s.errors c event) s (s.handle c event) :=
      spares_handle henabled hconcerns
    exact h.unasked ⟨hremains, hspares.owed, hspares.cancelTimer⟩
  | true =>
    cases hadmits : s.admitsRequest event with
    | false =>
      by_cases hresume : ∃ p outcome, event = .resume p outcome
      · obtain ⟨p, outcome, rfl⟩ := hresume
        obtain rfl := hrest.resolve_left (by simp [Event.isCall])
        exact h.resume hpast hserving hattended (hphase.isLoggedIn hopen) henabled hconcerns
      · exact h.unasked (unasked_handle hconcerns hadmits fun p outcome heq =>
          hresume ⟨p, outcome, heq⟩)
    | true =>
      cases event with
      | makeRequest r type =>
        obtain ⟨hstate, hr⟩ := (Bool.and_eq_true _ _).mp hadmits
        exact h.makeRequest hpast hserving (of_decide_eq_true hstate) (by simpa using hr) type
      | prepare r =>
        obtain ⟨hstate, hr⟩ := (Bool.and_eq_true _ _).mp hadmits
        have hcanceled : ∀ r', ((s.updateRequest r fun request => { request with
            preparing := true, prepared := request.prepared + 1 }).requests r').canceled =
              (s.requests r').canceled := by
          intro r'
          dsimp only [updateRequest]
          split
          · next heq => rw [heq]
          · rfl
        refine Matched.makeRequest (s := s.updateRequest r fun request => { request with
            preparing := true, prepared := request.prepared + 1 })
          (h.unasked (.of_eq rfl rfl rfl rfl rfl))
          (hpast.frame fun r' hr' => (hcanceled r').trans hr')
          (hserving.same rfl rfl rfl fun _ _ => count_updateRequest rfl)
          (of_decide_eq_true hstate) ?_ .RPC_REQUEST
        rw [hcanceled]
        simpa using hr
      | reset =>
        obtain ⟨hstate, hr⟩ := (Bool.and_eq_true _ _).mp hadmits
        exact Matched.makeRequest (s := { s with
            resetConnectionOnNextRequest := true, trace := .resetCalled :: s.trace })
          (h.unasked (.of_eq rfl rfl rfl rfl rfl)) (hpast.frame fun _ => id)
          (hserving.same rfl rfl rfl fun _ _ => rfl) (of_decide_eq_true hstate) (by simpa using hr)
          .SQL_BATCH
      | _ => cases hadmits

/-- What has been closed stays closed, or goes on to be. -/
theorem over_handle {event : Event} (hphase : RequestPhase s rest) (hcourse : Course s rest)
    (hguard : Attentive s rest event) (henabled : s.enabled event = true)
    (hrest : event.isCall = true ∨ rest = [])
    (hover : s.closed = true ∨ s.state = .FINAL ∧ ∃ x, s.request = some x) :
    (s.handle c event).1.closed = true ∨
      (s.handle c event).1.state = .FINAL ∧ ∃ x, (s.handle c event).1.request = some x := by
  cases hclosed : s.closed with
  | true => exact .inl (closed_handle hclosed hphase henabled)
  | false =>
    obtain ⟨hfinal, x, hrequest⟩ := hover.resolve_left (by simp [hclosed])
    obtain ⟨above, below, hbelow, -⟩ := hcourse.closing_of_final hfinal hrequest
    have hcall : event.isCall = true := by
      refine hrest.resolve_right fun hnil => ?_
      rw [hnil] at hbelow
      simp at hbelow
    obtain ⟨hstate', hrequest', -⟩ := handle_closing (c := c) hfinal hcall
      ((answerable_of_attentive hguard).2 hfinal hclosed)
    exact .inr ⟨hstate', x, hrequest'.trans hrequest⟩

/-- While a connection logs in, the server is asked for nothing that is counted. -/
theorem owed_login {event : Event} (hlogin : LoginPhase s rest) (hout : s.state.isLoggedIn = false)
    (henabled : s.enabled event = true) : (s.handle c event).1.owed = s.owed := by
  cases hconcerns : event.concerns with
  | false =>
    have hspares : Spares (s.errors c event) s (s.handle c event) :=
      spares_handle henabled hconcerns
    exact hspares.owed
  | true =>
    have hadmits : s.admitsRequest event = false := by
      have hstate : s.state ≠ .LOGGED_IN := fun hstate => by rw [hstate] at hout; cases hout
      cases event <;> first | rfl | simp [admitsRequest, hstate]
    refine (unasked_handle hconcerns hadmits fun p outcome heq => ?_).owed
    subst heq
    have hp := hlogin.pending p (of_decide_eq_true ((Bool.and_eq_true _ _).mp henabled).1)
    cases p <;> cases hp <;> cases outcome <;> cases hconcerns

theorem owing_handle {event : Event} (hcourse : Course s rest)
    (hcourse' : Course (s.handle c event).1 ((s.handle c event).2 ++ rest))
    (hattends : Attends s rest sent) (hpast : Past s sent) (h : Owing s rest sent)
    (hguard : Attentive s rest event) (henabled : s.enabled event = true)
    (hrest : event.isCall = true ∨ rest = []) :
    Owing (s.handle c event).1 ((s.handle c event).2 ++ rest) sent := by
  cases h with
  | login hlogin hout howed =>
    have howed' := (owed_login (c := c) hlogin hout henabled).trans howed
    have hstate : s.state ≠ .LOGGED_IN := fun hstate => by rw [hstate] at hout; cases hout
    have hlogin' := hlogin.handle (c := c) hstate henabled hrest
    cases hcourse' with
    | login _ hout' => exact .login hlogin' hout' howed'
    | serving hphase hopen hclosed hserving =>
      refine .serving hphase hopen hclosed hserving (.of_loggedIn ?_ howed')
      rcases hphase.state with hstate' | hstate' | hstate' | hstate'
      · exact hstate'
      · exact absurd hstate' hlogin'.state.1
      · exact absurd hstate' hlogin'.state.2
      · exact absurd hstate' hopen
    | closing _ x hrequest => cases hlogin'.request.symm.trans hrequest
    | closed hphase hclosed => exact .ended hphase (.inl hclosed)
  | serving hphase hopen hclosed hserving hmatched =>
    have hphase' := hphase.handle (c := c) henabled hrest
    by_cases hfinal : (s.handle c event).1.state = .FINAL
    · have hcalling : event.isCalling = false :=
        Bool.eq_false_iff.2 fun hcalling => open_handle hphase hopen (.inr hcalling) hfinal
      exact .ended hphase'
        (over_of_proceeds (proceeds_handle hphase hopen hclosed henabled hcalling) hfinal)
    · have hattended := hattends.attended hphase hopen hclosed
      exact .serving hphase' hfinal (((closesInFinal_handle hphase henabled).resolve_right
        fun h => hfinal h.2).trans hclosed) (hserving.handleRequest hphase hopen henabled hrest)
        (hmatched.handle hpast hserving hattended hphase hopen henabled hrest hfinal)
  | ended hphase hover =>
    exact .ended (hphase.handle henabled hrest)
      (over_handle hphase hcourse hguard henabled hrest hover)

/-! ### Runs -/

theorem owing_of_runs (hcancel : c.cancelTimeout.isPositive = true) {moves : List (Move Event)}
    {k : Config Connection Instr} {sent : List Attention}
    (h : AttentionRuns c Attentive moves k sent) :
    Attends k.state k.stack sent ∧ Past k.state sent ∧ Owing k.state k.stack sent := by
  refine Machine.Steps.history_invariant
    (I := fun k sent => Attends k.state k.stack sent ∧ Past k.state sent ∧
      Owing k.state k.stack sent)
    (J := fun k => Course k.state k.stack) ?_ ?_ h ?_
  · intro moves k hrun
    refine (accounted_of_runsTo (hrun.mono ?_)).1
    intro k m hguard
    cases m with
    | next => trivial
    | event e => exact answerable_of_attentive hguard
  · intro k m k' sent hcourse hcourse' ⟨hattends, hpast, howing⟩ hguard hstep
    obtain ⟨i, rest, rfl, hstack, rfl⟩ | ⟨event, s', is, rfl, hadmits, hstart, rfl⟩ :=
      Component.step_cases hstep
    · obtain ⟨s, stack⟩ := k
      dsimp only at hstack
      subst hstack
      obtain ⟨hattends', hpast'⟩ := attends_exec (c := c) hcourse hattends hpast ⟨s, []⟩
      exact ⟨hattends', hpast', owing_exec hcancel hcourse hattends hpast howing ⟨s, []⟩⟩
    · obtain ⟨henabled, hhandle⟩ := start_eq_some hstart
      obtain ⟨rfl, rfl⟩ := Prod.mk.inj hhandle
      exact ⟨attends_handle hcourse hcourse' hattends hpast hguard henabled hadmits,
        hpast.frame fun r => canceled_handle, owing_handle hcourse hcourse' hattends hpast howing
          hguard henabled (isCall_or_eq_nil hadmits)⟩
  · refine ⟨.login loginPhase_new rfl rfl, ?_, .login loginPhase_new rfl rfl⟩
    constructor <;> simp [attentions]

/-- A connection that takes requests is owed nothing; the response that is read is the response to
the current request, and what is read for the acknowledgement of an `ATTENTION` message is one. -/
structure InStep (s : Connection) : Prop where
  idle : s.state = .LOGGED_IN → s.owed = []
  response : s.state = .SENT_CLIENT_REQUEST →
    ∀ call r errors answers, .requestTokens call r errors answers ∈ s.pending →
      ∃ x, s.request = some x ∧ call = x.call ∧ r = some x.request ∧
        answers = some (.response x.call)
  acknowledgement : s.state = .SENT_ATTENTION →
    ∀ received answers, .attentionTokens received answers ∈ s.pending → answers = some .attention

/-- **Responses are matched to requests**, for a cancel timeout that is not 0: as long as the
connection is open. -/
theorem responses_matched (hcancel : c.cancelTimeout.isPositive = true) {moves : List (Move Event)}
    {k : Config Connection Instr} {sent : List Attention}
    (h : AttentionRuns c Attentive moves k sent) (hclosed : k.state.closed = false) :
    InStep k.state := by
  obtain ⟨-, -, howing⟩ := owing_of_runs hcancel h
  have hoff : k.state.state.isLoggedIn = false → InStep k.state := by
    intro hout
    constructor <;> intro hstate <;> rw [hstate] at hout <;> cases hout
  cases howing with
  | login _ hout => exact hoff hout
  | ended _ hover =>
    rcases hover with hset | ⟨hfinal, -⟩
    · cases hclosed.symm.trans hset
    · exact hoff (by rw [hfinal]; rfl)
  | serving _ _ _ hserving hmatched =>
    refine ⟨hmatched.idle, fun hstate call r errors answers hmem => ?_,
      fun hstate received answers hmem => (hmatched.acknowledged hstate received answers hmem).1⟩
    cases hserving.stage with
    | outside hout => rw [hstate] at hout; cases hout
    | idle hstate' => cases hstate.symm.trans hstate'
    | attending _ hstate' => cases hstate.symm.trans hstate'
    | waiting _ _ _ hpending => rcases hpending with hnil | hone <;> simp_all
    | reading x hreading =>
      obtain ⟨-, hrequest, errors', answers', hpending⟩ := hreading
      obtain ⟨hanswers, -⟩ := hmatched.reading hstate x hrequest call r errors answers hmem
      rw [hpending, List.mem_singleton] at hmem
      cases hmem
      exact ⟨x, hrequest, rfl, rfl, hanswers⟩

/-- The first request is canceled behind its message, and acknowledged. -/
def acknowledgedMoves : List (Move Event) :=
  canceledReadingMoves [.event (.payloadEnd 0), .event (.finish 0)] ++
    [.next, .event (.resume .attentionMessage .done),
      .event (.resume (.attentionTokens false (some .attention)) (.token (exampleDone true))),
      .event (.resume (.attentionTokens true (some .attention)) .done), .next, .next]

/-- The response to the second one is read. -/
def secondResponseMoves : List (Move Event) :=
  [.event (.makeRequest (.request 1) .SQL_BATCH), .event (.payloadEnd 1), .event (.finish 1),
    .event (.resume (.requestMessage 1) .done)]

theorem responses_matched_second : ∃ k sent,
    AttentionRuns exampleConfig Attentive (acknowledgedMoves ++ secondResponseMoves) k sent ∧
      k.state.pending = [.requestTokens 1 (some (.request 1)) [] (some (.response 1))] ∧
        InStep k.state := by
  have hrun : ((attentionMachine exampleConfig).run (fun p => Component.guarded Attentive p.1)
      (⟨.new, []⟩, []) (acknowledgedMoves ++ secondResponseMoves)).any (fun p =>
        p.1.state.closed = false &&
          p.1.state.pending = [.requestTokens 1 (some (.request 1)) [] (some (.response 1))]) =
            true := by decide
  obtain ⟨⟨k, sent⟩, hk, hp⟩ := Machine.exists_steps_of_run _ hrun
  obtain ⟨hclosed, hpending⟩ := (Bool.and_eq_true _ _).mp hp
  exact ⟨k, sent, hk, of_decide_eq_true hpending,
    responses_matched (by decide) hk (of_decide_eq_true hclosed)⟩

/-- A connection without a cancel timer. -/
def patientConfig : ConnectionConfig := { exampleConfig with cancelTimeout := .finite 0 }

/-- Where an `ATTENTION` message is sent before the response has begun, its acknowledgement is
still to come when the next request is made: it is read as the response to that. -/
theorem responses_shifted : ¬ ∀ (c : ConnectionConfig) (moves : List (Move Event))
    (k : Config Connection Instr) (sent : List Attention),
      AttentionRuns c Attentive moves k sent → k.state.closed = false → InStep k.state := by
  intro h
  have hrun : ((attentionMachine patientConfig).run (fun p => Component.guarded Attentive p.1)
      (⟨.new, []⟩, []) (loggedInMoves ++
        [.event (.makeRequest (.request 0) .SQL_BATCH), .event (.payloadEnd 0), .event (.finish 0),
          .event (.cancelRequest (.request 0)), .next, .next, .next,
          .event (.resume (.requestMessage 0) .done),
          .event (.resume (.requestTokens 0 (some (.request 0)) [] (some (.response 0))) .done),
          .next, .next])).any (fun p =>
        p.1.state.closed = false && (p.1.state.state = .LOGGED_IN && p.1.state.owed ≠ [])) =
            true := by decide
  obtain ⟨⟨k, sent⟩, hk, hp⟩ := Machine.exists_steps_of_run _ hrun
  obtain ⟨hclosed, hp⟩ := (Bool.and_eq_true _ _).mp hp
  obtain ⟨hstate, howed⟩ := (Bool.and_eq_true _ _).mp hp
  exact of_decide_eq_true howed ((h _ _ k sent hk (of_decide_eq_true hclosed)).idle
    (of_decide_eq_true hstate))

end Connection

end Tedious
