import WispersConnect.HttpFraming

/-!
# What the HTTP proxy writes to its clients

For a request the proxy writes what upstream sends, after a 200 response if it is a
tunnel, or else an error response of its own. One timer covers the exchange from the
first byte of the request to the last byte of the response, and when it fires the
proxy writes an error response whatever it has written before: the two are in order
only where nothing was, or where the client is past hearing.
-/

namespace WispersConnect.HttpResponses

open Messages Utf8Text StreamCommands CommandFraming ProxyRequests HttpFraming

section Model

/-- What comes of something that a timer may cut short. -/
inductive Awaited where
  /-- It is done. -/
  | done
  /-- It fails. -/
  | failed
  /-- The timer fires before it is either. -/
  | timedOut
  deriving DecidableEq

/-- What comes of writing to the client. -/
inductive ClientWrite where
  /-- The client takes it all. -/
  | written
  /-- The client fails when it has taken so many bytes. -/
  | failed (taken : ℕ)
  /-- The timer fires when it has taken so many bytes. -/
  | timedOut (taken : ℕ)
  deriving DecidableEq

/-- What the client took of a write. -/
inductive Written where
  /-- Bytes of the 200 response. -/
  | established (bytes : Bytes)
  /-- Bytes of upstream. -/
  | upstream (bytes : Bytes)
  /-- An error response. -/
  | error (error : ProxyError)
  deriving DecidableEq

/-- The 200 response. -/
def establishedResponse : Bytes := ascii "HTTP/1.1 200 Connection Established\r\n\r\n"

/-- The status text of `send_error`. -/
def statusText : ℕ→Text
  | 400 => "Bad Request".toList
  | 403 => "Forbidden".toList
  | 502 => "Bad Gateway".toList
  | 504 => "Gateway Timeout".toList
  | _ => "Error".toList

/-- `send_error`. -/
def sendError (status : ℕ) (message : Text) : Bytes :=
  encode ("HTTP/1.1 ".toList++displayDecimal status++ ' '::statusText status++
    "\r\nContent-Type: text/plain\r\nConnection: close\r\n\r\n".toList++message++"\n".toList)

/-- The bytes of a write; those of an error response are `send_proxy_error`'s. -/
def Written.bytes : Written→Bytes
  | established bytes | upstream bytes => bytes
  | error e => sendError e.statusCode e.display

/-- The loops that relay upstream to the client: the pieces that are read, each with what comes
of writing it, and what comes of the read after them. A read of nothing is the end. -/
def relayResponse : List (Bytes×ClientWrite)→Awaited→List Written×Awaited
  | [],ending => ([],ending)
  | (bytes,write)::rest,ending =>
    if bytes=[] then ([],.done)
    else
      match write with
      | .written =>
        let later := relayResponse rest ending
        (.upstream bytes::later.1,later.2)
      | .failed taken => ([.upstream (bytes.take taken)],.failed)
      | .timedOut taken => ([.upstream (bytes.take taken)],.timedOut)

/-- What happens while a request is forwarded. -/
structure HttpTurns where
  /-- What comes of `write_all` of the request. -/
  request : Awaited
  /-- What comes of `finish`. -/
  finish : Awaited
  /-- The pieces of the response, and what comes of writing each. -/
  pieces : List (Bytes×ClientWrite)
  /-- What comes of the read after them. -/
  ending : Awaited

/-- `handle_http_request` under a timer. -/
def handleHttpRequest (turns : HttpTurns) : List Written×Awaited :=
  match turns.request with
  | .done =>
    match turns.finish with
    | .done => relayResponse turns.pieces turns.ending
    | result => ([],result)
  | result => ([],result)

/-- What happens while a tunnel is open. -/
structure TunnelTurns where
  /-- What comes of writing the 200 response. -/
  established : ClientWrite
  /-- The pieces that upstream sends, and what comes of writing each. -/
  pieces : List (Bytes×ClientWrite)
  /-- What comes of the read after them. -/
  ending : Awaited
  /-- The timer fires before the client's side of the tunnel ends. -/
  clientStays : Bool

/-- `handle_tunnel` under a timer, and whether the client's socket is shut down: it is when the
loop that relays upstream has ended. -/
def handleTunnel (turns : TunnelTurns) : List Written×Awaited×Bool :=
  match turns.established with
  | .failed taken => ([.established (establishedResponse.take taken)],.failed,false)
  | .timedOut taken => ([.established (establishedResponse.take taken)],.timedOut,false)
  | .written =>
    let relayed := relayResponse turns.pieces turns.ending
    let written := .established establishedResponse::relayed.1
    match relayed.2 with
    | .timedOut => (written,.timedOut,false)
    | .done | .failed => (written,if turns.clientStays then .timedOut else .done,true)

/-- What happens while a request is handled. -/
structure RequestTurns where
  /-- `open_stream` to a node. -/
  openStream : Int32→Opening
  /-- `send_command`: the text of its error, if any. -/
  sendCommand : Bytes→Option Text
  /-- What happens if the request is forwarded. -/
  http : HttpTurns
  /-- What happens if it opens a tunnel. -/
  tunnel : TunnelTurns

/-- The turn of the loop of `handle_client_connection` for a request that was parsed: what is
written, and whether the loop goes on. What is written to a socket that was shut down is lost. -/
def answerRequest (egressNode : Option Int32) (turns : RequestTurns) (request : ParsedRequest) :
    List Written×Bool :=
  match requestSending egressNode request with
  | none => ([],false)
  | some sending =>
    match openingError sending.destination (turns.openStream sending.node) with
    | some e => ([.error e],false)
    | none =>
      match turns.sendCommand sending.command with
      | some e => ([.error (.badGateway e)],false)
      | none =>
        match request.target.mode with
        | .httpRequest _ =>
          match handleHttpRequest turns.http with
          | (written,.done) => (written,request.keepAlive)
          | (written,.failed) => (written,false)
          | (written,.timedOut) =>
            (written++[.error (.gatewayTimeout "request timed out".toList)],false)
        | .tunnel =>
          match handleTunnel turns.tunnel with
          | (written,.timedOut,false) =>
            (written++[.error (.gatewayTimeout "tunnel setup timed out".toList)],false)
          | (written,_,_) => (written,false)

/-- A request, and what was written for it. -/
structure Answer where
  /-- How many requests of the connection were handled before. -/
  count : ℕ
  /-- The request, if it was parsed. -/
  request : Option ParsedRequest
  /-- What was written. -/
  written : List Written

/-- `handle_client_connection`, for at most `fuel` turns of its loop after `count` requests: what
is written for each request. -/
def clientAnswers (L : HttpLibrary) (egressNode : Option Int32) (io : Text)
    (turns : ℕ→RequestTurns) : ℕ→ℕ→List Chunk→List Answer
  | 0,_,_ => []
  | fuel+1,count,stream =>
    match readRequestBytes io [] stream with
    | (.ok none,_) => []
    | (.error e,_) => if count=0 then [⟨count,none,[.error e]⟩] else []
    | (.ok (some buf),rest) =>
      match parseRequest L buf egressNode with
      | .error e => [⟨count,none,[.error e]⟩]
      | .ok request =>
        let answered := answerRequest egressNode (turns count) request
        ⟨count,some request,answered.1⟩::
          if answered.2 then clientAnswers L egressNode io turns fuel (count+1) rest else []

end Model

section Refinement

/-- What became of an exchange. -/
def exchangeOf (turns : HttpTurns) : Exchange :=
  match (handleHttpRequest turns).2 with
  | .done => .done
  | .failed => .failed (decide (turns.request=.done))
  | .timedOut => .timedOut (decide (turns.request=.done))

/-- What a connection makes of its upstream side, whatever is written to the client. -/
def upstreamOf (turns : ℕ→RequestTurns) : Upstream where
  openStream := fun count => (turns count).openStream
  sendCommand := fun count => (turns count).sendCommand
  exchange := fun count => exchangeOf (turns count).http
  tunnelTimesOut := fun count => decide ((handleTunnel (turns count).tunnel).2=(.timedOut,false))

/-- The error response of a write. -/
def Written.proxyError : Written→Option ProxyError
  | error e => some e
  | established _ | upstream _ => none

/-- Relaying writes no error response. -/
theorem relayResponse_errors (pieces : List (Bytes×ClientWrite)) (ending : Awaited) :
    (relayResponse pieces ending).1.filterMap Written.proxyError=[] := by
  induction pieces with
  | nil => rfl
  | cons piece pieces ih =>
    obtain ⟨bytes,write⟩ := piece
    unfold relayResponse
    split_ifs
    · rfl
    · cases write with
      | written => exact ih
      | failed | timedOut => rfl

/-- Nor does forwarding a request. -/
theorem handleHttpRequest_errors (turns : HttpTurns) :
    (handleHttpRequest turns).1.filterMap Written.proxyError=[] := by
  unfold handleHttpRequest
  cases turns.request with
  | done =>
    cases turns.finish with
    | done => exact relayResponse_errors _ _
    | failed | timedOut => rfl
  | failed | timedOut => rfl

/-- Nor does a tunnel. -/
theorem handleTunnel_errors (turns : TunnelTurns) :
    (handleTunnel turns).1.filterMap Written.proxyError=[] := by
  unfold handleTunnel
  cases turns.established with
  | written =>
    have hrelayed := relayResponse_errors turns.pieces turns.ending
    dsimp only
    split <;> exact hrelayed
  | failed | timedOut => rfl

/-- The error responses written to a client are those by which the connection ends. -/
theorem clientAnswers_errors (L : HttpLibrary) (egressNode : Option Int32) (io : Text)
    (turns : ℕ→RequestTurns) (fuel count taken : ℕ) (stream : List Chunk) :
    ((clientAnswers L egressNode io turns fuel count stream).flatMap Answer.written).filterMap
        Written.proxyError=
      (handleClientConnection L egressNode io (upstreamOf turns) fuel count taken
        stream).response.toList := by
  induction fuel generalizing count taken stream with
  | zero => rfl
  | succ fuel ih =>
    unfold clientAnswers handleClientConnection
    cases hread : readRequestBytes io [] stream with
    | mk result rest =>
      cases result with
      | error e =>
        dsimp only
        split_ifs <;> rfl
      | ok buf =>
        cases buf with
        | none => rfl
        | some buf =>
          dsimp only
          cases hparse : parseRequest L buf egressNode with
          | error e => rfl
          | ok request =>
            dsimp only
            generalize hanswered : answerRequest egressNode (turns count) request=answered
            have hlater : ∀ more : Bool,((if more then
                clientAnswers L egressNode io turns fuel (count+1) rest else []).flatMap
                  Answer.written).filterMap Written.proxyError=
                (if more then (handleClientConnection L egressNode io (upstreamOf turns) fuel
                  (count+1) (taken+buf.length) rest).response else none).toList := by
              intro more
              cases more with
              | true => exact ih (count+1) (taken+buf.length) rest
              | false => rfl
            rw [List.flatMap_cons,List.filterMap_append,hlater]
            unfold answerRequest at hanswered
            cases hsending : requestSending egressNode request with
            | none =>
              rw [hsending] at hanswered
              cases hanswered
              rfl
            | some sending =>
              rw [hsending] at hanswered
              dsimp only at hanswered ⊢
              have hopen : (upstreamOf turns).openStream count sending.node=
                  (turns count).openStream sending.node := rfl
              have hcommand : (upstreamOf turns).sendCommand count sending.command=
                  (turns count).sendCommand sending.command := rfl
              rw [hopen,hcommand]
              cases hopening : openingError sending.destination
                  ((turns count).openStream sending.node) with
              | some e =>
                rw [hopening] at hanswered
                cases hanswered
                rfl
              | none =>
                rw [hopening] at hanswered
                dsimp only at hanswered ⊢
                cases hsent : (turns count).sendCommand sending.command with
                | some e =>
                  rw [hsent] at hanswered
                  cases hanswered
                  rfl
                | none =>
                  rw [hsent] at hanswered
                  dsimp only at hanswered ⊢
                  cases hmode : request.target.mode with
                  | httpRequest path =>
                    rw [hmode] at hanswered
                    dsimp only at hanswered ⊢
                    have herrors := handleHttpRequest_errors (turns count).http
                    have hexchange : (upstreamOf turns).exchange count=
                        exchangeOf (turns count).http := rfl
                    rw [hexchange]
                    unfold exchangeOf
                    rcases hforward : handleHttpRequest (turns count).http with ⟨written,_|_|_⟩
                    · rw [hforward] at hanswered herrors
                      cases hanswered
                      rw [herrors]
                      cases request.keepAlive with
                      | true | false => rfl
                    · rw [hforward] at hanswered herrors
                      cases hanswered
                      rw [herrors]
                      rfl
                    · rw [hforward] at hanswered herrors
                      cases hanswered
                      rw [List.filterMap_append,herrors]
                      rfl
                  | tunnel =>
                    rw [hmode] at hanswered
                    dsimp only at hanswered ⊢
                    have herrors := handleTunnel_errors (turns count).tunnel
                    have htimesOut : (upstreamOf turns).tunnelTimesOut count=
                        decide ((handleTunnel (turns count).tunnel).2=(.timedOut,false)) := rfl
                    rw [htimesOut]
                    rcases htunnel : handleTunnel (turns count).tunnel with ⟨written,result,shut⟩
                    rw [htunnel] at hanswered herrors
                    cases result with
                    | timedOut =>
                      cases shut with
                      | false =>
                        cases hanswered
                        rw [List.filterMap_append,herrors]
                        rfl
                      | true =>
                        cases hanswered
                        rw [herrors]
                        rfl
                    | done | failed =>
                      cases hanswered
                      rw [herrors]
                      rfl

end Refinement

section Order

/-- What the client took of some writes. -/
def taken (written : List Written) : Bytes := written.flatMap Written.bytes

/-- The writes of which the client took something. -/
def wrote (written : List Written) : List Written := written.filter fun write => write.bytes≠[]

/-- What should be written for a request: what upstream sends, after the 200 response of a tunnel. -/
def promised (turns : RequestTurns) : Option ParsedRequest→Bytes
  | none => []
  | some request =>
    match request.target.mode with
    | .httpRequest _ => turns.http.pieces.flatMap Prod.fst
    | .tunnel => establishedResponse++turns.tunnel.pieces.flatMap Prod.fst

/-- What is written is what should be, as far as it goes, or one error response. -/
def InOrder (expected : Bytes) (written : List Written) : Prop :=
  ((∀ e,.error e∉written) ∧ taken written <+: expected) ∨ ∃ e,wrote written=[.error e]

/-- The timer fires while pieces are relayed, or while the next one is awaited. -/
def TimerFires : List (Bytes×ClientWrite)→Awaited→Prop
  | [],ending => ending=.timedOut
  | (bytes,.written)::rest,ending => bytes≠[] ∧ TimerFires rest ending
  | (_,.failed _)::_,_ => False
  | (bytes,.timedOut _)::_,_ => bytes≠[]

/-- The client takes a byte of the first piece. -/
def Starts : List (Bytes×ClientWrite)→Prop
  | [] => False
  | (bytes,.written)::_ => bytes≠[]
  | (bytes,.failed taken)::_ | (bytes,.timedOut taken)::_ => bytes≠[] ∧ taken≠0

/-- The timer fires while a response is relayed of which the client has taken a byte. -/
def HttpTurns.CutShort (turns : HttpTurns) : Prop :=
  turns.request=.done ∧ turns.finish=.done ∧ Starts turns.pieces ∧
    TimerFires turns.pieces turns.ending

/-- The timer fires when the client has taken a byte of the 200 response, and before upstream
ends. -/
def TunnelTurns.CutShort (turns : TunnelTurns) : Prop :=
  match turns.established with
  | .written => TimerFires turns.pieces turns.ending
  | .failed _ => False
  | .timedOut taken => taken≠0

/-- The exchange comes about, and the timer cuts it short. -/
def CutShort (egressNode : Option Int32) (request : ParsedRequest) (turns : RequestTurns) : Prop :=
  ∃ sending,requestSending egressNode request=some sending ∧
    turns.openStream sending.node=.opened ∧ turns.sendCommand sending.command=none ∧
    match request.target.mode with
    | .httpRequest _ => turns.http.CutShort
    | .tunnel => turns.tunnel.CutShort

/-- What is relayed is what upstream sends, as far as it goes. -/
theorem relayResponse_asSent (pieces : List (Bytes×ClientWrite)) (ending : Awaited) :
    taken (relayResponse pieces ending).1 <+: pieces.flatMap Prod.fst := by
  induction pieces with
  | nil => exact List.prefix_refl _
  | cons piece pieces ih =>
    obtain ⟨bytes,write⟩ := piece
    rw [List.flatMap_cons]
    unfold relayResponse
    split_ifs with hempty
    · exact List.nil_prefix
    · cases write with
      | written => exact (List.prefix_append_right_inj bytes).mpr ih
      | failed n | timedOut n =>
        have htaken : ∀ write : Written,taken [write]=write.bytes := fun write => List.append_nil _
        rw [htaken]
        exact (List.take_prefix n bytes).trans (List.prefix_append _ _)

/-- Relaying ends by the timer where the timer fires. -/
theorem relayResponse_timedOut (pieces : List (Bytes×ClientWrite)) (ending : Awaited) :
    (relayResponse pieces ending).2=.timedOut ↔ TimerFires pieces ending := by
  induction pieces with
  | nil => rfl
  | cons piece pieces ih =>
    obtain ⟨bytes,write⟩ := piece
    unfold relayResponse
    by_cases hempty : bytes=[]
    · rw [if_pos hempty]
      refine iff_of_false nofun ?_
      cases write with
      | written => exact fun h => h.1 hempty
      | failed => exact id
      | timedOut => exact fun h => h hempty
    · rw [if_neg hempty]
      cases write with
      | written => exact ih.trans (and_iff_right hempty).symm
      | failed => exact iff_of_false nofun id
      | timedOut => exact iff_of_true rfl hempty

/-- The client takes something of it where it takes a byte of the first piece. -/
theorem relayResponse_wrote (pieces : List (Bytes×ClientWrite)) (ending : Awaited) :
    wrote (relayResponse pieces ending).1≠[] ↔ Starts pieces := by
  cases pieces with
  | nil => exact iff_of_false (fun h => h rfl) id
  | cons piece pieces =>
    obtain ⟨bytes,write⟩ := piece
    unfold relayResponse wrote
    by_cases hempty : bytes=[]
    · rw [if_pos hempty]
      refine iff_of_false (fun h => h rfl) ?_
      cases write with
      | written => exact fun h => h hempty
      | failed | timedOut => exact fun h => h.1 hempty
    · rw [if_neg hempty]
      cases write with
      | written => simp [Written.bytes,Starts,hempty]
      | failed | timedOut => simp [Written.bytes,Starts,hempty]

/-- Writes without an error response. -/
theorem not_mem_of_errors {written : List Written} (h : written.filterMap Written.proxyError=[])
    (e : ProxyError) : .error e∉written :=
  fun hmem => Option.some_ne_none e (List.filterMap_eq_nil_iff.mp h _ hmem)

/-- An error response has bytes. -/
theorem error_bytes (e : ProxyError) : (Written.error e).bytes≠[] := by
  unfold Written.bytes sendError
  simp only [List.append_assoc]
  rw [encode_append]
  exact List.append_ne_nil_of_left_ne_nil (by decide) _

/-- An error response is in order after writes of which the client took nothing. -/
theorem inOrder_error (written : List Written) (expected : Bytes) (e : ProxyError) :
    InOrder expected (written++[.error e]) ↔ wrote written=[] := by
  have hwrote : wrote (written++[.error e])=wrote written++[.error e] := by
    unfold wrote
    rw [List.filter_append,List.filter_cons_of_pos (by simpa using error_bytes e)]
    rfl
  constructor
  · rintro (⟨hnone,_⟩|⟨e',hone⟩)
    · exact absurd (List.mem_append_right _ (List.mem_singleton_self _)) (hnone e)
    · rw [hwrote] at hone
      have hlength := congrArg List.length hone
      rw [List.length_append,List.length_singleton,List.length_singleton] at hlength
      exact List.length_eq_zero_iff.mp (by omega)
  · intro hnothing
    refine .inr ⟨e,?_⟩
    rw [hwrote,hnothing]
    rfl

/-- A single error response is in order. -/
theorem inOrder_single (expected : Bytes) (e : ProxyError) : InOrder expected [.error e] :=
  (inOrder_error [] expected e).mpr rfl

/-- What upstream sends, as far as it goes, is in order. -/
theorem inOrder_asSent {written : List Written} {expected : Bytes}
    (herrors : written.filterMap Written.proxyError=[]) (h : taken written <+: expected) :
    InOrder expected written := .inl ⟨not_mem_of_errors herrors,h⟩

/-- What is written while a request is forwarded is what upstream sends, as far as it goes. -/
theorem handleHttpRequest_asSent (turns : HttpTurns) :
    taken (handleHttpRequest turns).1 <+: turns.pieces.flatMap Prod.fst := by
  unfold handleHttpRequest
  cases turns.request with
  | done =>
    cases turns.finish with
    | done => exact relayResponse_asSent _ _
    | failed | timedOut => exact List.nil_prefix
  | failed | timedOut => exact List.nil_prefix

/-- The timer fires after something was written where it fires while the response is relayed. -/
theorem handleHttpRequest_cut (turns : HttpTurns) :
    (handleHttpRequest turns).2=.timedOut ∧ wrote (handleHttpRequest turns).1≠[] ↔
      turns.CutShort := by
  unfold handleHttpRequest HttpTurns.CutShort
  cases hrequest : turns.request with
  | done =>
    cases hfinish : turns.finish with
    | done =>
      dsimp only
      rw [relayResponse_timedOut,relayResponse_wrote]
      constructor
      · rintro ⟨hfires,hstarts⟩
        exact ⟨rfl,rfl,hstarts,hfires⟩
      · rintro ⟨_,_,hstarts,hfires⟩
        exact ⟨hfires,hstarts⟩
    | failed | timedOut => exact iff_of_false (fun h => h.2 rfl) (fun h => nomatch h.2.1)
  | failed | timedOut => exact iff_of_false (fun h => h.2 rfl) (fun h => nomatch h.1)

/-- What is written while a tunnel is open is the 200 response and what upstream sends, as far as
it goes. -/
theorem handleTunnel_asSent (turns : TunnelTurns) :
    taken (handleTunnel turns).1 <+: establishedResponse++turns.pieces.flatMap Prod.fst := by
  have hpart : ∀ n,taken [.established (establishedResponse.take n)] <+:
      establishedResponse++turns.pieces.flatMap Prod.fst := by
    intro n
    have htaken : taken [.established (establishedResponse.take n)]=establishedResponse.take n :=
      List.append_nil _
    rw [htaken]
    exact (List.take_prefix n _).trans (List.prefix_append _ _)
  unfold handleTunnel
  cases turns.established with
  | failed n | timedOut n => exact hpart n
  | written =>
    have hrelayed := (List.prefix_append_right_inj establishedResponse).mpr
      (relayResponse_asSent turns.pieces turns.ending)
    dsimp only
    split <;> exact hrelayed

/-- The timer fires after something was written and before the client's socket is shut down where
it fires after a byte of the 200 response and before the end of upstream. -/
theorem handleTunnel_cut (turns : TunnelTurns) :
    (handleTunnel turns).2=(.timedOut,false) ∧ wrote (handleTunnel turns).1≠[] ↔
      turns.CutShort := by
  unfold handleTunnel TunnelTurns.CutShort
  cases turns.established with
  | failed n => exact iff_of_false (fun h => nomatch h.1) id
  | timedOut n =>
    have hresponse : establishedResponse≠[] := by decide
    simp [wrote,Written.bytes,hresponse]
  | written =>
    have hwrote : ∀ written,wrote (.established establishedResponse::written)≠[] := by
      intro written h
      have hmem : Written.established establishedResponse∈
          wrote (.established establishedResponse::written) :=
        List.mem_filter.mpr ⟨List.mem_cons_self,by decide⟩
      rw [h] at hmem
      cases hmem
    dsimp only
    rw [←relayResponse_timedOut]
    cases (relayResponse turns.pieces turns.ending).2 with
    | timedOut => exact iff_of_true ⟨rfl,hwrote _⟩ rfl
    | done | failed => exact iff_of_false (fun h => nomatch (Prod.mk.inj h.1).2) nofun

/-- What is written for a request that is forwarded is in order unless it is cut short. -/
theorem answerRequest_inOrder (egressNode : Option Int32) (turns : RequestTurns)
    (request : ParsedRequest) :
    InOrder (promised turns (some request)) (answerRequest egressNode turns request).1 ↔
      ¬CutShort egressNode request turns := by
  unfold answerRequest CutShort
  cases hsending : requestSending egressNode request with
  | none =>
    refine iff_of_true (inOrder_asSent rfl List.nil_prefix) ?_
    rintro ⟨_,hsome,_⟩
    cases hsome
  | some sending =>
    dsimp only
    cases hopening : turns.openStream sending.node with
    | failed e | timedOut =>
      have herror : ∃ error,openingError sending.destination (turns.openStream sending.node)=
          some error := by
        rw [hopening]
        cases sending.destination <;> exact ⟨_,rfl⟩
      obtain ⟨error,herror⟩ := herror
      rw [hopening] at herror
      rw [herror]
      refine iff_of_true (inOrder_single _ _) ?_
      rintro ⟨_,hsame,hopened,_⟩
      cases hsame
      cases hopening.symm.trans hopened
    | opened =>
      dsimp only [openingError]
      cases hcommand : turns.sendCommand sending.command with
      | some e =>
        refine iff_of_true (inOrder_single _ _) ?_
        rintro ⟨_,hsame,_,hnone,_⟩
        cases hsame
        cases hcommand.symm.trans hnone
      | none =>
        have hreached : ∀ {cut : Prop},(∃ reached,some sending=some reached ∧
            turns.openStream reached.node=.opened ∧ turns.sendCommand reached.command=none ∧ cut) ↔
            cut := by
          intro cut
          refine ⟨fun ⟨_,_,_,_,hcut⟩ => hcut,fun hcut => ⟨sending,rfl,hopening,hcommand,hcut⟩⟩
        rw [hreached]
        dsimp only
        cases hmode : request.target.mode with
        | httpRequest path =>
          have hexpected : promised turns (some request)=turns.http.pieces.flatMap Prod.fst := by
            rw [promised,hmode]
          have herrors := handleHttpRequest_errors turns.http
          have hasSent := handleHttpRequest_asSent turns.http
          dsimp only
          rw [←handleHttpRequest_cut,hexpected]
          generalize handleHttpRequest turns.http=handled at herrors hasSent
          obtain ⟨written,result⟩ := handled
          cases result with
          | done | failed =>
            exact iff_of_true (inOrder_asSent herrors hasSent) fun h => nomatch h.1
          | timedOut =>
            rw [inOrder_error]
            exact ⟨fun hnothing h => h.2 hnothing,fun h => by_contra fun hsome => h ⟨rfl,hsome⟩⟩
        | tunnel =>
          have hexpected : promised turns (some request)=
              establishedResponse++turns.tunnel.pieces.flatMap Prod.fst := by
            rw [promised,hmode]
          have herrors := handleTunnel_errors turns.tunnel
          have hasSent := handleTunnel_asSent turns.tunnel
          dsimp only
          rw [←handleTunnel_cut,hexpected]
          generalize handleTunnel turns.tunnel=handled at herrors hasSent
          obtain ⟨written,result,shut⟩ := handled
          cases result with
          | done | failed =>
            exact iff_of_true (inOrder_asSent herrors hasSent) fun h => nomatch h.1
          | timedOut =>
            cases shut with
            | true => exact iff_of_true (inOrder_asSent herrors hasSent) fun h => nomatch h.1
            | false =>
              rw [inOrder_error]
              exact ⟨fun hnothing h => h.2 hnothing,fun h => by_contra fun hsome => h ⟨rfl,hsome⟩⟩

end Order

/-- What is written for a request that the proxy handles is in order, and has no error response
after a byte of a response, if and only if the request was not parsed or no timer cuts its
exchange short. -/
theorem client_answer_inOrder (L : HttpLibrary) (egressNode : Option Int32) (io : Text)
    (turns : ℕ→RequestTurns) (fuel count : ℕ) (stream : List Chunk) (answer : Answer)
    (h : answer∈clientAnswers L egressNode io turns fuel count stream) :
    InOrder (promised (turns answer.count) answer.request) answer.written ↔
      ∀ request,answer.request=some request → ¬CutShort egressNode request (turns answer.count) := by
  induction fuel generalizing count stream with
  | zero => cases h
  | succ fuel ih =>
    have herror : ∀ e,answer=⟨count,none,[.error e]⟩ →
        (InOrder (promised (turns answer.count) answer.request) answer.written ↔
          ∀ request,answer.request=some request →
            ¬CutShort egressNode request (turns answer.count)) := by
      rintro e rfl
      exact iff_of_true (inOrder_single _ e) nofun
    unfold clientAnswers at h
    split at h
    · cases h
    next e rest hread =>
      split_ifs at h
      · exact herror e (List.mem_singleton.mp h)
      · cases h
    next buf rest hread =>
      split at h
      next e hparse => exact herror e (List.mem_singleton.mp h)
      next request hparse =>
        rcases List.mem_cons.mp h with rfl|hlater
        · refine (answerRequest_inOrder egressNode (turns count) request).trans ?_
          exact ⟨fun hnot found hfound => Option.some.inj hfound ▸ hnot,fun hall => hall request rfl⟩
        · split_ifs at hlater
          · exact ih (count+1) rest hlater
          · cases hlater

/-- A response of one piece, or a tunnel without traffic, and what comes after it. -/
def answering (ending : Awaited) : RequestTurns where
  openStream := fun _ => .opened
  sendCommand := fun _ => none
  http := ⟨.done,.done,[(ascii "HTTP/1.1 200 OK\r\n\r\nhello",.written)],ending⟩
  tunnel := ⟨.written,[],ending,true⟩

/-- An HTTP parser that finds one request in whatever it gets. -/
def findsRequest (method path : String) : HttpLibrary where
  parse := fun _ => .ok (some ⟨some method.toList,some path.toList,some 1,[]⟩)
  toLowercase := fun text => text.map Char.toLower

/-- What is written to a client that sends one request. -/
def answersOne (method path : String) (ending : Awaited) : List Answer :=
  clientAnswers (findsRequest method path) none [] (fun _ => answering ending) 1 0 [.data getHead]

/-- A response that ends is written as upstream sends it. -/
theorem client_answer_inOrder_done : ∃ answer,
    answer∈answersOne "GET" "http://2.wispers.link/" .done ∧
    answer.written=[.upstream (ascii "HTTP/1.1 200 OK\r\n\r\nhello")] ∧
    InOrder (promised (answering .done) answer.request) answer.written := by
  have hanswers : (answersOne "GET" "http://2.wispers.link/" .done).map Answer.written=
      [[.upstream (ascii "HTTP/1.1 200 OK\r\n\r\nhello")]] := by decide +kernel
  obtain ⟨answer,hmem,hwritten⟩ := List.mem_map.mp
    (hanswers ▸ List.mem_singleton_self [Written.upstream (ascii "HTTP/1.1 200 OK\r\n\r\nhello")])
  refine ⟨answer,hmem,hwritten,(client_answer_inOrder _ none [] _ 1 0 _ answer hmem).mpr ?_⟩
  rintro request _ ⟨sending,_,_,_,hcut⟩
  cases hmode : request.target.mode with
  | httpRequest path =>
    rw [hmode] at hcut
    cases hcut.2.2.2.2
  | tunnel =>
    rw [hmode] at hcut
    cases hcut

/-- When the timer fires after the first piece of a response, an error response follows it; and
the error response goes to whoever uses a tunnel when the tunnel has been open for that long. -/
theorem error_injected :
    (answersOne "GET" "http://2.wispers.link/" .timedOut).map Answer.written=
      [[.upstream (ascii "HTTP/1.1 200 OK\r\n\r\nhello"),
        .error (.gatewayTimeout "request timed out".toList)]] ∧
    (answersOne "CONNECT" "2.wispers.link:22" .timedOut).map Answer.written=
      [[.established establishedResponse,
        .error (.gatewayTimeout "tunnel setup timed out".toList)]] ∧
    (∀ expected,¬InOrder expected [.upstream (ascii "HTTP/1.1 200 OK\r\n\r\nhello"),
      .error (.gatewayTimeout "request timed out".toList)]) ∧
    ∀ expected,¬InOrder expected [.established establishedResponse,
      .error (.gatewayTimeout "tunnel setup timed out".toList)] := by
  refine ⟨by decide +kernel,by decide +kernel,fun expected h => ?_,fun expected h => ?_⟩
  · have hnothing := (inOrder_error [.upstream (ascii "HTTP/1.1 200 OK\r\n\r\nhello")] expected
      (.gatewayTimeout "request timed out".toList)).mp h
    revert hnothing
    decide
  · have hnothing := (inOrder_error [.established establishedResponse] expected
      (.gatewayTimeout "tunnel setup timed out".toList)).mp h
    revert hnothing
    decide

end WispersConnect.HttpResponses
