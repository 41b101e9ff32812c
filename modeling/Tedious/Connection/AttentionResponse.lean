import Tedious.Connection.LoginResponse

/-!
# Tedious.Connection.AttentionResponse

The messages that arrive in `SENT_ATTENTION`. The state reads one message, and knows no
token but `DONE`; so it discards nothing, and it is left only where the first message is
the acknowledgement and has no other tokens (`discarded_iff`).
-/

namespace Tedious

open Chunked Reentrant

namespace AttentionTokenHandler

/-- The tokens of a message, one after the other. -/
def read : Bool → List Token → Option Bool
  | attentionReceived, [] => some attentionReceived
  | attentionReceived, token :: tokens =>
      (onToken attentionReceived token).bind fun attentionReceived => read attentionReceived tokens

def isDone : Token → Bool
  | .done _ => true
  | _ => false

/-- The acknowledgement of an `ATTENTION` message. -/
def isAttention : Token → Bool
  | .done data => data.attention
  | _ => false

/-- A message of `DONE` tokens is read to its end. -/
theorem read_of_isDone {tokens : List Token} (h : ∀ token ∈ tokens, isDone token = true)
    (attentionReceived : Bool) :
    read attentionReceived tokens = some (attentionReceived || tokens.any isAttention) := by
  induction tokens generalizing attentionReceived with
  | nil => simp [read]
  | cons token tokens ih =>
    have hrest := ih fun t ht => h t (List.mem_cons_of_mem _ ht)
    cases token with
    | done data => simp [read, onToken, hrest, isAttention, Bool.or_assoc]
    | _ => cases h _ (List.mem_cons_self ..)

/-- Every other token is unexpected. -/
theorem isDone_of_read {tokens : List Token} {attentionReceived attentionReceived' : Bool}
    (h : read attentionReceived tokens = some attentionReceived') :
    ∀ token ∈ tokens, isDone token = true := by
  induction tokens generalizing attentionReceived with
  | nil => simp
  | cons token tokens ih =>
    obtain ⟨received, htoken, hrest⟩ := Option.bind_eq_some_iff.1 h
    intro t ht
    rcases List.mem_cons.1 ht with rfl | ht
    · cases t with
      | done data => rfl
      | _ => cases htoken
    · exact ih hrest t ht

end AttentionTokenHandler

namespace Connection

open AttentionTokenHandler

variable {c : ConnectionConfig} {s : Connection}

/-- A message that `SENT_ATTENTION` reads. -/
def readAttentionMessage (c : ConnectionConfig) (s : Connection) (tokens : List Token) :
    Connection × List Instr :=
  match read false tokens with
  | some attentionReceived => s.afterAttention c attentionReceived
  | none => (s, [.throw])

/-- The next message arrives; where nothing waits for it, it stays unread. -/
def deliver (c : ConnectionConfig) (r : Connection × List Instr) (tokens : List Token) :
    Connection × List Instr :=
  if .attentionMessage ∈ r.1.pending then
    let r' := readAttentionMessage c
      { r.1 with pending := r.1.pending.erase .attentionMessage, owed := r.1.owed.tail } tokens
    (r'.1, r.2 ++ r'.2)
  else r

/-- Messages arrive one after the other. -/
def deliverAll (c : ConnectionConfig) (s : Connection) (messages : List (List Token)) :
    Connection × List Instr :=
  messages.foldl (deliver c) (s, [])

/-- Everything has been discarded up to the acknowledgement, and the request is answered. -/
structure Discarded (execution : Execution) (r : Connection × List Instr) : Prop where
  state : r.1.state = .LOGGED_IN
  quiet : .throw ∉ r.2 ∧ ∀ event, .emit (.request event) ∉ r.2
  answered : ∃ err, .answer execution (some err) ∈ r.2 ∧
    (err = canceledError ∨ err.isRequestTimeout = true)

theorem attentionError_cases : s.attentionError = canceledError ∨
    s.attentionError.isRequestTimeout = true := by
  unfold attentionError
  split
  · split
    · next h => exact .inr h
    · exact .inl rfl
  · exact .inl rfl

/-- Without anybody who waits, the state stays. -/
theorem deliverAll_unread {r : Connection × List Instr} (h : .attentionMessage ∉ r.1.pending)
    (messages : List (List Token)) : messages.foldl (deliver c) r = r := by
  induction messages with
  | nil => rfl
  | cons tokens messages ih =>
    rw [List.foldl_cons, deliver, if_neg h]
    exact ih

/-- A message without the acknowledgement leaves nothing but its own pieces. -/
theorem readAttentionMessage_of_not_attention {tokens : List Token}
    (h : ∀ token ∈ tokens, isAttention token = false) :
    (readAttentionMessage c s tokens).1 = s := by
  unfold readAttentionMessage
  split
  · next attentionReceived hread =>
    rw [read_of_isDone (isDone_of_read hread), List.any_eq_false.2 (by simpa using h)] at hread
    obtain rfl : false = attentionReceived := by simpa using hread
    rfl
  · rfl

/-- A message with the acknowledgement, and nothing but `DONE` tokens. -/
theorem discarded_of_isDone {execution : Execution} {tokens : List Token}
    (hstate : s.state = .SENT_ATTENTION) (hrequest : s.request = some execution)
    (hattention : ∃ token ∈ tokens, isAttention token = true)
    (hdone : ∀ token ∈ tokens, isDone token = true) :
    Discarded execution (readAttentionMessage c s tokens) := by
  have hread : read false tokens = some true := by
    rw [read_of_isDone hdone]
    simpa using hattention
  have hresult : readAttentionMessage c s tokens =
      ({ s.changeState .LOGGED_IN with
          cancelTimer := false, cancelTimerArmed := false, request := none },
        [.answer execution (some s.attentionError)]) := by
    simp [readAttentionMessage, hread, afterAttention, Connection.transitionTo, hstate, hrequest,
      changeState, enter, answerOrThrow]
  rw [hresult]
  exact ⟨rfl, by simp, s.attentionError, by simp, attentionError_cases⟩

/-- **Discarding until the acknowledgement** happens exactly when there is nothing to
discard: no message before the acknowledgement, and no token but `DONE` in it. -/
theorem discarded_iff {execution : Execution} {before : List (List Token)} {last : List Token}
    (hstate : s.state = .SENT_ATTENTION) (hrequest : s.request = some execution)
    (hpending : .attentionMessage ∈ s.pending)
    (honce : .attentionMessage ∉ s.pending.erase .attentionMessage)
    (hbefore : ∀ tokens ∈ before, ∀ token ∈ tokens, isAttention token = false)
    (hlast : ∃ token ∈ last, isAttention token = true) :
    Discarded execution (deliverAll c s (before ++ [last])) ↔
      before = [] ∧ ∀ token ∈ last, isDone token = true := by
  have hfirst : ∀ tokens, deliver c (s, []) tokens = readAttentionMessage c { s with
      pending := s.pending.erase .attentionMessage, owed := s.owed.tail } tokens := by
    intro tokens
    unfold deliver
    rw [if_pos hpending]
    rfl
  cases before with
  | nil =>
    show Discarded execution (deliver c (s, []) last) ↔ _
    rw [hfirst]
    constructor
    · intro h
      refine ⟨rfl, ?_⟩
      cases hread : read false last with
      | some attentionReceived => exact isDone_of_read hread
      | none =>
        have hquiet := h.quiet.1
        simp [readAttentionMessage, hread] at hquiet
    · intro h
      exact discarded_of_isDone (s := { s with
        pending := s.pending.erase .attentionMessage, owed := s.owed.tail }) hstate hrequest hlast h.2
  | cons tokens before =>
    refine iff_of_false (fun h => ?_) (by simp)
    have hunread : deliverAll c s (tokens :: before ++ [last]) = deliver c (s, []) tokens := by
      show (before ++ [last]).foldl (deliver c) (deliver c (s, []) tokens) = _
      refine deliverAll_unread ?_ _
      rw [hfirst, readAttentionMessage_of_not_attention (hbefore tokens (List.mem_cons_self ..))]
      exact honce
    have hloggedIn := h.state
    rw [hunread, hfirst,
      readAttentionMessage_of_not_attention (hbefore tokens (List.mem_cons_self ..))] at hloggedIn
    cases hstate.symm.trans hloggedIn

/-! ### The messages in a run -/

/-- The tokens of a message in a run. -/
theorem leads_attentionTokens (tokens : List Token) {attentionReceived : Bool}
    {answers : Option Answer} (hdone : ∀ token ∈ tokens, isDone token = true)
    (hpending : s.pending = [.attentionTokens attentionReceived answers]) :
    (component c).Leads ⟨s, []⟩ ⟨{ s with pending :=
      [.attentionTokens (attentionReceived || tokens.any isAttention) answers] }, []⟩ := by
  induction tokens generalizing s attentionReceived with
  | nil =>
    simp only [List.any_nil, Bool.or_false, ← hpending]
    exact .refl _
  | cons token tokens ih =>
    cases token with
    | done data =>
      have htoken := leads_handle (c := c) (s := s)
        (.resume (.attentionTokens attentionReceived answers) (.token (.done data)))
        (by simp [enabled, hpending, accepts])
      have hrest := ih (s := { s with pending :=
        [.attentionTokens (attentionReceived || data.attention) answers] })
        (fun t ht => hdone t (List.mem_cons_of_mem _ ht)) rfl
      rw [List.any_cons, ← Bool.or_assoc]
      refine .trans ?_ hrest
      simpa [handle, resume, attentionToken, onToken, await, hpending] using htoken
    | _ => cases hdone _ (List.mem_cons_self ..)

/-- The connection reads a message of `DONE` tokens as `readAttentionMessage` says. -/
theorem leads_readAttentionMessage {tokens : List Token}
    (hpending : s.pending = [.attentionMessage]) (hdone : ∀ token ∈ tokens, isDone token = true) :
    (component c).Leads ⟨s, []⟩
      ⟨(readAttentionMessage c { s with pending := [], owed := s.owed.tail } tokens).1,
        (readAttentionMessage c { s with pending := [], owed := s.owed.tail } tokens).2⟩ := by
  have hbegins := leads_handle (c := c) (s := s) (.resume .attentionMessage .done)
    (by simp [enabled, hpending, accepts])
  have htokens := leads_attentionTokens (c := c) tokens (s := { s with
    pending := [.attentionTokens false s.owed.head?], owed := s.owed.tail }) hdone rfl
  have hends := leads_handle (c := c) (s := { s with
    pending := [.attentionTokens (false || tokens.any isAttention) s.owed.head?],
    owed := s.owed.tail })
    (.resume (.attentionTokens (false || tokens.any isAttention) s.owed.head?) .done)
    (by simp [enabled, accepts])
  refine .trans ?_ (htokens.trans ?_)
  · simpa [handle, resume, afterAttentionMessage, await, hpending] using hbegins
  · rw [readAttentionMessage, read_of_isDone hdone]
    simpa [handle, resume] using hends

/-! ### A canceled request -/

def exampleDone (attention : Bool) : Token :=
  .done
    { more := false
      sqlError := false
      attention
      serverError := false
      rowCount := none
      curCmd := 0 }

/-- A request is canceled while its response is read. -/
def canceledMoves : List (Move Event) :=
  loggedInMoves ++
    [.event (.makeRequest (.request 0) .SQL_BATCH), .event (.payloadEnd 0), .event (.finish 0),
      .event (.resume (.requestMessage 0) .done), .event (.cancelRequest (.request 0)),
      .next, .next, .next, .next, .next]

/-- What `discarded_iff` asks of a connection. -/
def readsAttention (s : Connection) : Bool :=
  s.state = .SENT_ATTENTION && s.request = some { call := 0, request := .request 0 } &&
    decide (.attentionMessage ∈ s.pending) &&
      decide (.attentionMessage ∉ s.pending.erase .attentionMessage)

/-- The acknowledgement alone. -/
theorem discarded_iff_alone : ∃ k, RunsTo exampleConfig (fun _ _ _ => True) canceledMoves k ∧
    (Discarded { call := 0, request := .request 0 }
        (deliverAll exampleConfig k.state ([] ++ [[exampleDone true]])) ↔
      ([] : List (List Token)) = [] ∧ ∀ token ∈ [exampleDone true], isDone token = true) := by
  obtain ⟨k, hk, hp⟩ := @exists_runsTo exampleConfig (fun _ _ _ => True) _ canceledMoves
    (fun k => readsAttention k.state) (by decide)
  simp only [readsAttention, Bool.and_eq_true, decide_eq_true_eq] at hp
  obtain ⟨⟨⟨hstate, hrequest⟩, hpending⟩, honce⟩ := hp
  exact ⟨k, hk, discarded_iff hstate hrequest hpending honce (by simp)
    ⟨exampleDone true, by simp, rfl⟩⟩

/-- The rest of the response that was canceled comes first: nothing reads on. -/
theorem discarded_first_only : ¬∀ (c : ConnectionConfig) (moves : List (Move Event))
    (k : Config Connection Instr) (execution : Execution) (before : List (List Token))
    (last : List Token), RunsTo c (fun _ _ _ => True) moves k →
      k.state.state = .SENT_ATTENTION → k.state.request = some execution →
      .attentionMessage ∈ k.state.pending →
      .attentionMessage ∉ k.state.pending.erase .attentionMessage →
      (∀ tokens ∈ before, ∀ token ∈ tokens, isAttention token = false) →
      (∃ token ∈ last, isAttention token = true) →
        Discarded execution (deliverAll c k.state (before ++ [last])) := by
  intro h
  obtain ⟨k, hk, hp⟩ := @exists_runsTo exampleConfig (fun _ _ _ => True) _ canceledMoves
    (fun k => readsAttention k.state && (deliverAll exampleConfig k.state
      ([[exampleDone false]] ++ [[exampleDone true]])).1.state = .SENT_ATTENTION) (by decide)
  simp only [readsAttention, Bool.and_eq_true, decide_eq_true_eq] at hp
  obtain ⟨⟨⟨⟨hstate, hrequest⟩, hpending⟩, honce⟩, hstays⟩ := hp
  have hdiscarded := h exampleConfig _ k _ [[exampleDone false]] [exampleDone true] hk hstate
    hrequest hpending honce (by simp [exampleDone, isAttention]) ⟨exampleDone true, by simp, rfl⟩
  cases hstays.symm.trans hdiscarded.state

end Connection

end Tedious
