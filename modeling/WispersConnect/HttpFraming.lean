import WispersConnect.CommandFraming
import WispersConnect.ProxyRequests
import Mathlib.Data.List.Infix

/-!
# Where HTTP requests end

`handle_client_connection` of `proxy_http.rs`: it reads until its buffer has an empty
line, parses the buffer, forwards the head of the request and reads on into an empty
buffer. What came after the head in the same read is gone, and a body that comes
later is read as the next request. The upstream side is a parameter.
-/

namespace WispersConnect.HttpFraming

open Messages Utf8Text StreamCommands CommandFraming ProxyRequests

/-- What comes of opening a stream to a node. -/
inductive Opening where
  /-- It is opened. -/
  | opened
  /-- It fails, with the text of its error. -/
  | failed (error : Text)
  /-- It takes too long. -/
  | timedOut
  deriving DecidableEq

/-- What comes of sending a request and relaying the response. -/
inductive Exchange where
  /-- Both were done. -/
  | done
  /-- It failed, after or before the request was sent. -/
  | failed (sent : Bool)
  /-- It took too long. -/
  | timedOut (sent : Bool)
  deriving DecidableEq

/-- The request was sent. -/
def Exchange.sent : Exchange→Bool
  | done => true
  | failed sent | timedOut sent => sent

/-- The upstream side, by the number of requests before. -/
structure Upstream where
  /-- `open_stream` to a node. -/
  openStream : ℕ→Int32→Opening
  /-- `send_command`: the text of its error, if any. -/
  sendCommand : ℕ→Bytes→Option Text
  /-- `handle_http_request`. -/
  exchange : ℕ→Exchange
  /-- Whether the relay of a tunnel takes too long. -/
  tunnelTimesOut : ℕ→Bool

/-- What was made of a request. -/
structure Forwarded where
  /-- How many bytes of the client came before those that were parsed. -/
  start : ℕ
  /-- The request that was found. -/
  request : ParsedRequest
  /-- Where it was sent. -/
  sending : Sending
  /-- What was sent there. -/
  written : Option Bytes
  deriving DecidableEq

/-- What came of a client connection. -/
structure Handled where
  /-- The requests that reached a node, in order. -/
  forwarded : List Forwarded
  /-- The error response that ended it, if one did. -/
  response : Option ProxyError
  /-- How many bytes of the client came before each buffer that was parsed. -/
  parsed : List ℕ
  deriving DecidableEq

/-- There is an empty line in the data. -/
def hasEmptyLine (data : Bytes) : Bool := data.tails.any fun tail => [13,10,13,10].isPrefixOf tail

/-- `read_request_bytes` with what it has read so far: a buffer with an empty line, or
nothing if the client closed the connection; `io` is the text of a read error. -/
def readRequestBytes (io : Text) : Bytes→List Chunk→Except ProxyError (Option Bytes)×List Chunk
  | buf,[] =>
    (if buf=[] then .ok none
      else .error (.badRequest "connection closed before complete request".toList),[])
  | _,.failed::rest =>
    (.error (.badRequest ("failed to read request: ".toList++io)),.failed::rest)
  | buf,.data bytes::rest =>
    let room := 8192-buf.length
    if bytes=[] then
      (if buf=[] then .ok none
        else .error (.badRequest "connection closed before complete request".toList),rest)
    else
      let buf := buf++bytes.take room
      let left := if room<bytes.length then .data (bytes.drop room)::rest else rest
      if hasEmptyLine buf then (.ok (some buf),left)
      else if 8192≤buf.length then (.error (.badRequest "request too large".toList),left)
      else readRequestBytes io buf rest

/-- The stream could not be opened. -/
def openingError (destination : Destination) : Opening→Option ProxyError
  | .opened => none
  | .failed e =>
    match destination with
    | .wispersNode _ _ => some (.badGateway ("failed to open stream to node: ".toList++e))
    | .internet _ _ => some (.badGateway ("failed to open stream to egress node: ".toList++e))
  | .timedOut =>
    match destination with
    | .wispersNode _ _ => some (.gatewayTimeout "open_stream to node timed out".toList)
    | .internet _ _ => some (.gatewayTimeout "open_stream to egress node timed out".toList)

/-- `handle_client_connection`, for at most `fuel` turns of its loop, after `count` requests
and `taken` bytes of the client. -/
def handleClientConnection (L : HttpLibrary) (egressNode : Option Int32) (io : Text)
    (upstream : Upstream) : ℕ→ℕ→ℕ→List Chunk→Handled
  | 0,_,_,_ => ⟨[],none,[]⟩
  | fuel+1,count,taken,stream =>
    match readRequestBytes io [] stream with
    | (.ok none,_) => ⟨[],none,[]⟩
    | (.error e,_) => ⟨[],if count=0 then some e else none,[]⟩
    | (.ok (some buf),rest) =>
      match parseRequest L buf egressNode with
      | .error e => ⟨[],some e,[taken]⟩
      | .ok request =>
        match requestSending egressNode request with
        | none => ⟨[],none,[taken]⟩
        | some sending =>
          match openingError sending.destination (upstream.openStream count sending.node) with
          | some e => ⟨[],some e,[taken]⟩
          | none =>
            match upstream.sendCommand count sending.command with
            | some e => ⟨[],some (.badGateway e),[taken]⟩
            | none =>
              match request.target.mode with
              | .tunnel =>
                ⟨[⟨taken,request,sending,some (relayed rest)⟩],
                  if upstream.tunnelTimesOut count then
                    some (.gatewayTimeout "tunnel setup timed out".toList) else none,[taken]⟩
              | .httpRequest path =>
                let written :=
                  if (upstream.exchange count).sent then some (buildHttpRequest request path) else none
                let forwarded := ⟨taken,request,sending,written⟩
                match upstream.exchange count with
                | .failed _ => ⟨[forwarded],none,[taken]⟩
                | .timedOut _ =>
                  ⟨[forwarded],some (.gatewayTimeout "request timed out".toList),[taken]⟩
                | .done =>
                  if request.keepAlive then
                    let later := handleClientConnection L egressNode io upstream fuel (count+1)
                      (taken+buf.length) rest
                    ⟨forwarded::later.forwarded,later.response,taken::later.parsed⟩
                  else ⟨[forwarded],none,[taken]⟩

section Heads

/-- Data with an empty line has it anywhere. -/
theorem hasEmptyLine_iff (data : Bytes) : hasEmptyLine data=true ↔ [13,10,13,10] <:+: data := by
  unfold hasEmptyLine
  rw [List.any_eq_true]
  constructor
  · rintro ⟨tail,htail,hstart⟩
    exact (List.isPrefixOf_iff_prefix.mp hstart).isInfix.trans
      ((List.mem_tails _ _).mp htail).isInfix
  · intro h
    obtain ⟨tail,hstart,hsuffix⟩ := List.infix_iff_prefix_suffix.mp h
    exact ⟨tail,(List.mem_tails _ _).mpr hsuffix,List.isPrefixOf_iff_prefix.mpr hstart⟩

/-- A request as the client sends it. -/
structure ClientRequest where
  /-- The request line and the headers, up to the empty line. -/
  head : Bytes
  /-- The body, as it is encoded. -/
  body : Bytes

/-- Its bytes. -/
def ClientRequest.bytes (request : ClientRequest) : Bytes := request.head++request.body

/-- A well-formed request whose head is bounded: the head ends with its only empty line, and
the parser finds it complete, whatever follows; it is not a tunnel. -/
structure WellFormed (L : HttpLibrary) (request : ClientRequest) : Prop where
  /-- It ends with an empty line. -/
  ends : hasEmptyLine request.head=true
  /-- There is no other. -/
  only : ∀ n < request.head.length,hasEmptyLine (request.head.take n)=false
  /-- It fits the buffer. -/
  bounded : request.head.length ≤ 8192
  /-- It is complete. -/
  complete : ∀ rest,∃ head,L.parse (request.head++rest)=.ok (some head) ∧
    L.parse request.head=.ok (some head) ∧ head.method≠some "CONNECT".toList

/-- What is left of the pieces of a stream when a read ends exactly after `n` bytes, either
with its piece or with a buffer that is full then. -/
def afterRead (full : Bool) : ℕ→List Bytes→Option (List Bytes)
  | 0,chunks => some chunks
  | _+1,[] => none
  | n+1,chunk::rest =>
    if chunk.length≤n+1 then afterRead full (n+1-chunk.length) rest
    else if full then some (chunk.drop (n+1)::rest) else none

/-- One piece of a stream that is read. -/
theorem afterRead_cons {full : Bool} {n : ℕ} (hn : 0<n) (chunk : Bytes) (rest : List Bytes) :
    afterRead full n (chunk::rest)=
      if chunk.length≤n then afterRead full (n-chunk.length) rest
      else if full then some (chunk.drop n::rest) else none := by
  cases n with
  | zero => omega
  | succ n => rfl

/-- A head is not empty. -/
theorem head_length {head : Bytes} (hends : hasEmptyLine head=true) : 0<head.length := by
  refine List.length_pos_iff.mpr fun hnil => ?_
  rw [hnil] at hends
  cases hends

/-- What a read into a buffer with some room leaves of a piece and of those after it. -/
def unread (room : ℕ) (chunk : Bytes) (rest : List Bytes) : List Bytes :=
  if room<chunk.length then chunk.drop room::rest else rest

/-- A read and what it leaves are the piece and those after it. -/
theorem unread_flatten (room : ℕ) (chunk : Bytes) (rest : List Bytes) :
    chunk.take room++(unread room chunk rest).flatten=chunk++rest.flatten := by
  unfold unread
  split_ifs with hlong
  · rw [List.flatten_cons,←List.append_assoc,List.take_append_drop]
  · rw [List.take_of_length_le (by omega)]

/-- No piece that is left is empty. -/
theorem unread_ne_nil {room : ℕ} {chunk : Bytes} {rest : List Bytes}
    (hrest : ∀ k∈rest,k≠[]) : ∀ k∈unread room chunk rest,k≠[] := by
  unfold unread
  split_ifs with hlong
  · intro k hk
    rcases List.mem_cons.mp hk with rfl|hk
    · intro hnil
      have hshort := List.drop_eq_nil_iff.mp hnil
      omega
    · exact hrest k hk
  · exact hrest

/-- A read that does not come to the end of the head is followed by the next one. -/
theorem readRequestBytes_within {io : Text} {head buf chunk : Bytes}
    (honly : ∀ n<head.length,hasEmptyLine (head.take n)=false) (hbounded : head.length ≤ 8192)
    (hchunk : chunk≠[]) (hstart : buf++chunk <+: head) (hshort : (buf++chunk).length<head.length)
    (rest : List Chunk) :
    readRequestBytes io buf (.data chunk::rest)=readRequestBytes io (buf++chunk) rest := by
  have hnone : hasEmptyLine (buf++chunk)=false := by
    rw [List.prefix_iff_eq_take.mp hstart]
    exact honly _ hshort
  have hlength : (buf++chunk).length=buf.length+chunk.length := List.length_append
  have hwhole : chunk.take (8192-buf.length)=chunk := List.take_of_length_le (by omega)
  rw [readRequestBytes]
  dsimp only
  rw [if_neg hchunk,hwhole,hnone,if_neg Bool.false_ne_true,if_neg (by omega)]

/-- A read that comes to the end of the head is the last. -/
theorem readRequestBytes_through {io : Text} {head buf chunk extra : Bytes}
    (hends : hasEmptyLine head=true) (hchunk : chunk≠[])
    (hreach : buf++chunk.take (8192-buf.length)=head++extra) (rest : List Bytes) :
    readRequestBytes io buf (.data chunk::sent rest)=
      (.ok (some (head++extra)),sent (unread (8192-buf.length) chunk rest)) := by
  have hline : hasEmptyLine (head++extra)=true := by
    rw [hasEmptyLine_iff] at hends ⊢
    exact hends.trans (List.prefix_append head extra).isInfix
  rw [readRequestBytes]
  dsimp only
  rw [if_neg hchunk,hreach,hline,if_pos rfl]
  unfold unread
  split_ifs with hlong
  · rfl
  · rfl

/-- The head ends with a read exactly when nothing comes after it in that read. -/
theorem afterRead_through {head buf chunk extra : Bytes} (hbounded : head.length ≤ 8192)
    (hshort : buf.length<head.length) (hreach : buf++chunk.take (8192-buf.length)=head++extra)
    (rest : List Bytes) :
    afterRead (decide (head.length=8192)) (head.length-buf.length) (chunk::rest)=
      if extra=[] then some (unread (8192-buf.length) chunk rest) else none := by
  have hlength := congrArg List.length hreach
  rw [List.length_append,List.length_append,List.length_take] at hlength
  rw [afterRead_cons (by omega)]
  by_cases hnone : extra=[]
  · rw [hnone,List.length_nil] at hlength
    unfold unread
    rw [if_pos hnone]
    by_cases hfits : chunk.length≤head.length-buf.length
    · have hzero : head.length-buf.length-chunk.length=0 := by omega
      rw [if_pos hfits,if_neg (by omega),hzero]
      cases rest with
      | nil | cons => rfl
    · have hfull : head.length=8192 := by omega
      rw [if_neg hfits,hfull,if_pos (decide_eq_true rfl),if_pos (by omega)]
  · have hsome : 0<extra.length := List.length_pos_iff.mpr hnone
    have hpart : head.length≠8192 := by omega
    rw [if_neg hnone,if_neg (by omega),decide_eq_false hpart,if_neg Bool.false_ne_true]

/-- A head is read to its end, and with it the rest of the read that has its end. -/
theorem readRequestBytes_head {io : Text} {head buf tail : Bytes} {chunks : List Bytes}
    (hends : hasEmptyLine head=true) (honly : ∀ n<head.length,hasEmptyLine (head.take n)=false)
    (hbounded : head.length ≤ 8192) (hchunks : ∀ chunk∈chunks,chunk≠[])
    (hcut : buf++chunks.flatten=head++tail) (hshort : buf.length<head.length) :
    ∃ extra rest,readRequestBytes io buf (sent chunks)=(.ok (some (head++extra)),sent rest) ∧
      tail=extra++rest.flatten ∧ (∀ chunk∈rest,chunk≠[]) ∧
      afterRead (decide (head.length=8192)) (head.length-buf.length) chunks=
        if extra=[] then some rest else none := by
  induction chunks generalizing buf with
  | nil =>
    have hlength := congrArg List.length hcut
    simp only [List.flatten_nil,List.append_nil,List.length_append] at hlength
    omega
  | cons chunk chunks ih =>
    have hchunk := hchunks chunk List.mem_cons_self
    have hrest : ∀ k∈chunks,k≠[] := fun k hk => hchunks k (List.mem_cons_of_mem _ hk)
    have hpieces : (buf++chunk.take (8192-buf.length))++
        (unread (8192-buf.length) chunk chunks).flatten=head++tail := by
      rw [←hcut,List.append_assoc,unread_flatten]
      rfl
    change ∃ extra rest,readRequestBytes io buf (.data chunk::sent chunks)=_ ∧ _
    by_cases hwithin : (buf++chunk).length<head.length
    · have hcut' : (buf++chunk)++chunks.flatten=head++tail := by
        rw [List.append_assoc]
        exact hcut
      have hstart : buf++chunk <+: head := by
        refine List.prefix_of_prefix_length_le ?_ (List.prefix_append head tail) hwithin.le
        rw [←hcut']
        exact List.prefix_append _ _
      have hpositive : 0<chunk.length := List.length_pos_iff.mpr hchunk
      obtain ⟨extra,rest,hread,htail,hpieces',hafter⟩ := ih hrest hcut' hwithin
      rw [List.length_append] at hwithin hafter
      refine ⟨extra,rest,?_,htail,hpieces',?_⟩
      · rw [readRequestBytes_within honly hbounded hchunk hstart
          (by rw [List.length_append]; exact hwithin),hread]
      · rw [afterRead_cons (by omega),if_pos (by omega),←hafter]
        congr 1
        omega
    · rw [List.length_append] at hwithin
      have hreached : head.length≤(buf++chunk.take (8192-buf.length)).length := by
        rw [List.length_append,List.length_take]
        omega
      obtain ⟨extra,hextra⟩ : head <+: buf++chunk.take (8192-buf.length) := by
        refine List.prefix_of_prefix_length_le (List.prefix_append head tail) ?_ hreached
        rw [←hpieces]
        exact List.prefix_append _ _
      rw [←hextra,List.append_assoc] at hpieces
      exact ⟨extra,_,readRequestBytes_through hends hchunk hextra.symm chunks,
        (List.append_cancel_left hpieces).symm,unread_ne_nil hrest,
        afterRead_through hbounded hshort hextra.symm chunks⟩

end Heads

section Turns

variable (L : HttpLibrary) (egressNode : Option Int32) (io : Text) (upstream : Upstream)

/-- A request that is parsed, and whose node is reached and accepts the command. -/
def takeUp (count : ℕ) (buf : Bytes) : Option (ParsedRequest×Sending) :=
  match parseRequest L buf egressNode with
  | .error _ => none
  | .ok request =>
    match requestSending egressNode request with
    | none => none
    | some sending =>
      if upstream.openStream count sending.node=.opened ∧
        upstream.sendCommand count sending.command=none then some (request,sending) else none

/-- What comes of a request that is sent with a body, before those that come `later`. -/
def forwardRequest (count start : ℕ) (request : ParsedRequest) (sending : Sending) (path : Text)
    (body : Bytes) (later : Handled) : Handled :=
  let written := if (upstream.exchange count).sent then
    some (buildHttpRequest request path++body) else none
  let forwarded := ⟨start,request,sending,written⟩
  match upstream.exchange count with
  | .failed _ => ⟨[forwarded],none,[start]⟩
  | .timedOut _ => ⟨[forwarded],some (.gatewayTimeout "request timed out".toList),[start]⟩
  | .done =>
    if request.keepAlive then ⟨forwarded::later.forwarded,later.response,start::later.parsed⟩
    else ⟨[forwarded],none,[start]⟩

/-- What comes of a request whose head is in a buffer. -/
def handleRequest (count start : ℕ) (buf tunnelled body : Bytes) (later : Handled) : Handled :=
  match parseRequest L buf egressNode with
  | .error e => ⟨[],some e,[start]⟩
  | .ok request =>
    match requestSending egressNode request with
    | none => ⟨[],none,[start]⟩
    | some sending =>
      match openingError sending.destination (upstream.openStream count sending.node) with
      | some e => ⟨[],some e,[start]⟩
      | none =>
        match upstream.sendCommand count sending.command with
        | some e => ⟨[],some (.badGateway e),[start]⟩
        | none =>
          match request.target.mode with
          | .tunnel =>
            ⟨[⟨start,request,sending,some tunnelled⟩],
              if upstream.tunnelTimesOut count then
                some (.gatewayTimeout "tunnel setup timed out".toList) else none,[start]⟩
          | .httpRequest path => forwardRequest upstream count start request sending path body later

/-- What a proxy makes of requests that frames them correctly: each that it comes to is handled
from its first byte on, and sent with its whole body. -/
def framed : ℕ→ℕ→List ClientRequest→Handled
  | _,_,[] => ⟨[],none,[]⟩
  | count,start,request::requests =>
    handleRequest L egressNode upstream count start request.head [] request.body
      (framed (count+1) (start+request.bytes.length) requests)

/-- A turn of the loop handles the buffer that was read, without a body. -/
theorem handle_turn {buf : Bytes} {stream rest : List Chunk} (fuel count taken : ℕ)
    (hread : readRequestBytes io [] stream=(.ok (some buf),rest)) :
    handleClientConnection L egressNode io upstream (fuel+1) count taken stream=
      handleRequest L egressNode upstream count taken buf (relayed rest) []
        (handleClientConnection L egressNode io upstream fuel (count+1) (taken+buf.length)
          rest) := by
  unfold handleRequest forwardRequest
  rw [handleClientConnection,hread]
  dsimp only
  cases hparse : parseRequest L buf egressNode with
  | error e => rfl
  | ok request =>
    dsimp only
    cases hsending : requestSending egressNode request with
    | none => rfl
    | some sending =>
      dsimp only
      cases openingError sending.destination (upstream.openStream count sending.node) with
      | some e => rfl
      | none =>
        dsimp only
        cases upstream.sendCommand count sending.command with
        | some e => rfl
        | none =>
          dsimp only
          cases request.target.mode with
          | tunnel => rfl
          | httpRequest path =>
            dsimp only
            simp only [List.append_nil]

/-- Where a request is not taken up, neither its body nor what comes later matters. -/
theorem handleRequest_refused {count : ℕ} {buf : Bytes}
    (h : takeUp L egressNode upstream count buf=none) (start : ℕ)
    (tunnelled tunnelled' body body' : Bytes) (later later' : Handled) :
    handleRequest L egressNode upstream count start buf tunnelled body later=
      handleRequest L egressNode upstream count start buf tunnelled' body' later' := by
  unfold takeUp at h
  unfold handleRequest
  cases hparse : parseRequest L buf egressNode with
  | error e => rfl
  | ok request =>
    rw [hparse] at h
    dsimp only at h ⊢
    cases hsending : requestSending egressNode request with
    | none => rfl
    | some sending =>
      rw [hsending] at h
      dsimp only at h ⊢
      cases hopening : upstream.openStream count sending.node with
      | failed e | timedOut =>
        cases sending.destination with
        | wispersNode | internet => rfl
      | opened =>
        dsimp only [openingError]
        cases hcommand : upstream.sendCommand count sending.command with
        | some e => rfl
        | none =>
          rw [if_pos ⟨hopening,hcommand⟩] at h
          cases h

/-- Where a request for a path is taken up, it is forwarded. -/
theorem handleRequest_taken {count : ℕ} {buf : Bytes} {parsed : ParsedRequest}
    {sending : Sending} {path : Text}
    (h : takeUp L egressNode upstream count buf=some (parsed,sending))
    (hmode : parsed.target.mode=.httpRequest path) (start : ℕ) (tunnelled body : Bytes)
    (later : Handled) :
    handleRequest L egressNode upstream count start buf tunnelled body later=
      forwardRequest upstream count start parsed sending path body later := by
  unfold takeUp at h
  unfold handleRequest
  cases hparse : parseRequest L buf egressNode with
  | error e =>
    rw [hparse] at h
    cases h
  | ok request =>
    rw [hparse] at h
    dsimp only at h ⊢
    cases hsending : requestSending egressNode request with
    | none =>
      rw [hsending] at h
      cases h
    | some node =>
      rw [hsending] at h
      dsimp only at h ⊢
      split_ifs at h with hreached
      obtain ⟨rfl,rfl⟩ := Prod.mk.inj (Option.some.inj h)
      rw [hreached.1]
      dsimp only [openingError]
      rw [hreached.2]
      dsimp only
      rw [hmode]

/-- A request is forwarded alike with and without its body exactly when, if it is sent, it has
none, and, if the connection goes on after it, what comes later is the same. -/
theorem forwardRequest_eq_iff (count start : ℕ) (request : ParsedRequest) (sending : Sending)
    (path : Text) (body : Bytes) (later later' : Handled) :
    forwardRequest upstream count start request sending path [] later=
        forwardRequest upstream count start request sending path body later' ↔
      ((upstream.exchange count).sent=true → body=[]) ∧
        (upstream.exchange count=.done → request.keepAlive=true → later=later') := by
  have hwritten : (if (upstream.exchange count).sent then
        some (buildHttpRequest request path++[]) else none)=
      (if (upstream.exchange count).sent then some (buildHttpRequest request path++body)
        else none) ↔ ((upstream.exchange count).sent=true → body=[]) := by
    cases (upstream.exchange count).sent with
    | false => exact ⟨(fun _ h => by cases h),fun _ => rfl⟩
    | true =>
      rw [if_pos rfl,if_pos rfl,Option.some_inj,List.append_cancel_left_eq]
      exact ⟨fun h _ => h.symm,fun h => (h rfl).symm⟩
  rw [←hwritten]
  unfold forwardRequest
  generalize (if (upstream.exchange count).sent then
    some (buildHttpRequest request path++[]) else none)=written
  generalize (if (upstream.exchange count).sent then
    some (buildHttpRequest request path++body) else none)=written'
  dsimp only
  cases upstream.exchange count with
  | failed sent =>
    simp only [Handled.mk.injEq,List.cons.injEq,Forwarded.mk.injEq,true_and,and_true,
      reduceCtorEq,false_implies]
  | timedOut sent =>
    simp only [Handled.mk.injEq,List.cons.injEq,Forwarded.mk.injEq,true_and,and_true,
      reduceCtorEq,false_implies]
  | done =>
    dsimp only
    cases request.keepAlive with
    | false =>
      simp only [Bool.false_eq_true,if_false,Handled.mk.injEq,List.cons.injEq,
        Forwarded.mk.injEq,true_and,and_true,false_implies,implies_true]
    | true =>
      obtain ⟨forwarded,response,parsed⟩ := later
      obtain ⟨forwarded',response',parsed'⟩ := later'
      simp only [if_true,Handled.mk.injEq,List.cons.injEq,Forwarded.mk.injEq,true_and,
        forall_const,and_assoc]

/-- A request that is not for a tunnel is for a path. -/
theorem parseRequest_mode {request : ClientRequest} (h : WellFormed L request)
    {parsed : ParsedRequest} (hparse : parseRequest L request.head egressNode=.ok parsed) :
    ∃ path,parsed.target.mode=.httpRequest path := by
  obtain ⟨head,_,hhead,hmethod⟩ := h.complete []
  unfold parseRequest at hparse
  rw [hhead] at hparse
  dsimp only at hparse
  split at hparse
  · cases hparse
  · cases hparse
  · cases hparse
  next method path version hname hpath hversion =>
    split_ifs at hparse with hconnect
    · rw [hname,hconnect] at hmethod
      exact absurd rfl hmethod
    · split at hparse
      · cases hparse
      next target htarget =>
        cases hparse
        unfold parseProxyTarget at htarget
        split at htarget
        · cases htarget
        · dsimp only at htarget
          split at htarget
          · cases htarget
          · split at htarget
            · cases htarget
              exact ⟨_,rfl⟩
            · cases htarget

/-- What is taken up was parsed and has a node. -/
theorem takeUp_some {count : ℕ} {buf : Bytes} {parsed : ParsedRequest} {sending : Sending}
    (h : takeUp L egressNode upstream count buf=some (parsed,sending)) :
    parseRequest L buf egressNode=.ok parsed ∧ requestSending egressNode parsed=some sending := by
  unfold takeUp at h
  split at h
  · cases h
  next request hparse =>
    split at h
    · cases h
    next sending' hsending =>
      split_ifs at h
      cases h
      exact ⟨hparse,hsending⟩

/-- When the client has nothing more to say, nothing more is made of it. -/
theorem handle_closed (fuel count taken : ℕ) :
    handleClientConnection L egressNode io upstream fuel count taken (sent [])=⟨[],none,[]⟩ := by
  cases fuel with
  | zero | succ => rfl

/-- The buffer of a request is parsed first. -/
theorem handleRequest_parsed (count start : ℕ) (buf tunnelled body : Bytes) (later : Handled) :
    ∃ others,(handleRequest L egressNode upstream count start buf tunnelled body later).parsed=
      start::others := by
  unfold handleRequest
  cases parseRequest L buf egressNode with
  | error e => exact ⟨[],rfl⟩
  | ok request =>
    dsimp only
    cases requestSending egressNode request with
    | none => exact ⟨[],rfl⟩
    | some sending =>
      dsimp only
      cases openingError sending.destination (upstream.openStream count sending.node) with
      | some e => exact ⟨[],rfl⟩
      | none =>
        dsimp only
        cases upstream.sendCommand count sending.command with
        | some e => exact ⟨[],rfl⟩
        | none =>
          dsimp only
          cases request.target.mode with
          | tunnel => exact ⟨[],rfl⟩
          | httpRequest path =>
            dsimp only [forwardRequest]
            cases upstream.exchange count with
            | failed | timedOut => exact ⟨[],rfl⟩
            | done =>
              cases request.keepAlive with
              | true => exact ⟨later.parsed,rfl⟩
              | false => exact ⟨[],rfl⟩

/-- The first buffer that is parsed starts where the connection has come to. -/
theorem parsed_start {fuel count taken start : ℕ} {stream : List Chunk} {others : List ℕ}
    (h : (handleClientConnection L egressNode io upstream fuel count taken stream).parsed=
      start::others) : start=taken := by
  cases fuel with
  | zero => cases h
  | succ fuel =>
    cases hread : readRequestBytes io [] stream with
    | mk result rest =>
      cases result with
      | error e =>
        rw [handleClientConnection,hread] at h
        cases h
      | ok buf =>
        cases buf with
        | none =>
          rw [handleClientConnection,hread] at h
          cases h
        | some buf =>
          rw [handle_turn L egressNode io upstream fuel count taken hread] at h
          obtain ⟨others',hparsed⟩ := handleRequest_parsed L egressNode upstream count taken buf
            (relayed rest) [] (handleClientConnection L egressNode io upstream fuel (count+1)
              (taken+buf.length) rest)
          rw [hparsed] at h
          exact (List.cons.inj h).1.symm

/-- The requests that the proxy frames correctly. Each that it takes up and sends has no body,
and where the connection goes on after it to another one, a read ends exactly with it. After
one that is not taken up, the connection ends. -/
def Proper : ℕ→List ClientRequest→List Bytes→Prop
  | _,[],_ => True
  | count,request::requests,chunks =>
    ∀ parsed sending,takeUp L egressNode upstream count request.head=some (parsed,sending) →
      ((upstream.exchange count).sent=true → request.body=[]) ∧
      (upstream.exchange count=.done → parsed.keepAlive=true → requests≠[] →
        ∃ rest,afterRead (decide (request.head.length=8192)) request.head.length chunks=some rest ∧
          Proper (count+1) requests rest)

/-- When all bytes were read, no piece is left. -/
theorem pieces_nil {chunks : List Bytes} (hchunks : ∀ chunk∈chunks,chunk≠[])
    (h : chunks.flatten=[]) : chunks=[] :=
  List.eq_nil_iff_forall_not_mem.mpr fun chunk hm =>
    hchunks chunk hm (List.flatten_eq_nil_iff.mp h chunk hm)

/-- A request whose head comes first in a buffer is handled as it was sent exactly when, if it
is taken up and sent, it has no body, and, if the connection goes on, those after it are. -/
theorem handleRequest_eq_iff {request : ClientRequest} (hwell : WellFormed L request)
    (extra tunnelled : Bytes) (count start : ℕ) (later later' : Handled) :
    handleRequest L egressNode upstream count start (request.head++extra) tunnelled [] later=
        handleRequest L egressNode upstream count start request.head [] request.body later' ↔
      ∀ parsed sending,takeUp L egressNode upstream count request.head=some (parsed,sending) →
        ((upstream.exchange count).sent=true → request.body=[]) ∧
        (upstream.exchange count=.done → parsed.keepAlive=true → later=later') := by
  obtain ⟨head,hwhole,hhead,_⟩ := hwell.complete extra
  have hparse : parseRequest L (request.head++extra) egressNode=
      parseRequest L request.head egressNode := by
    unfold parseRequest
    rw [hwhole,hhead]
  have hbuf : handleRequest L egressNode upstream count start (request.head++extra) tunnelled []
      later=handleRequest L egressNode upstream count start request.head tunnelled [] later := by
    unfold handleRequest
    rw [hparse]
  rw [hbuf]
  cases htake : takeUp L egressNode upstream count request.head with
  | none =>
    refine ⟨(fun _ _ _ h => by cases h),fun _ => ?_⟩
    exact handleRequest_refused L egressNode upstream htake start _ _ _ _ _ _
  | some taken =>
    obtain ⟨parsed,sending⟩ := taken
    obtain ⟨path,hmode⟩ := parseRequest_mode L egressNode hwell
      (takeUp_some L egressNode upstream htake).1
    rw [handleRequest_taken L egressNode upstream htake hmode,
      handleRequest_taken L egressNode upstream htake hmode,forwardRequest_eq_iff]
    constructor
    · rintro h _ _ ⟨⟩
      exact h
    · exact fun h => h parsed sending rfl

/-- A client's requests are handled as they were sent exactly when they are proper. -/
theorem requests_framed_iff (requests : List ClientRequest) (chunks : List Bytes) (fuel : ℕ)
    (hrequests : ∀ request∈requests,WellFormed L request)
    (hchunks : ∀ chunk∈chunks,chunk≠[])
    (hcut : chunks.flatten=requests.flatMap ClientRequest.bytes) (hfuel : requests.length<fuel)
    (count taken : ℕ) :
    handleClientConnection L egressNode io upstream fuel count taken (sent chunks)=
        framed L egressNode upstream count taken requests ↔
      Proper L egressNode upstream count requests chunks := by
  induction requests generalizing chunks fuel count taken with
  | nil =>
    obtain rfl := pieces_nil hchunks hcut
    rw [handle_closed]
    exact ⟨fun _ => trivial,fun _ => rfl⟩
  | cons request requests ih =>
    obtain ⟨fuel,rfl⟩ : ∃ n,fuel=n+1 := ⟨fuel-1,by omega⟩
    have hwell := hrequests request List.mem_cons_self
    have hlater : ∀ request'∈requests,WellFormed L request' := fun request' h =>
      hrequests request' (List.mem_cons_of_mem _ h)
    have hsplit : []++chunks.flatten=
        request.head++(request.body++requests.flatMap ClientRequest.bytes) := by
      rw [←List.append_assoc]
      exact hcut
    obtain ⟨extra,rest,hread,htail,hpieces,hafter⟩ := readRequestBytes_head hwell.ends hwell.only
      hwell.bounded hchunks hsplit (head_length hwell.ends)
    rw [List.length_nil,Nat.sub_zero] at hafter
    rw [handle_turn L egressNode io upstream fuel count taken hread,framed,
      handleRequest_eq_iff L egressNode upstream hwell,Proper]
    refine forall_congr' fun parsed => forall_congr' fun sending => imp_congr_right fun _ =>
      and_congr_right fun hsent => imp_congr_right fun hdone => imp_congr_right fun _ => ?_
    have hbody : request.body=[] := hsent (by rw [hdone]; rfl)
    have hbytes : request.bytes=request.head++[] := congrArg (request.head++·) hbody
    rw [hbody,List.nil_append] at htail
    cases requests with
    | nil =>
      obtain rfl := pieces_nil hpieces (List.append_eq_nil_iff.mp htail.symm).2
      rw [handle_closed]
      exact ⟨fun _ h => absurd rfl h,fun _ => rfl⟩
    | cons second others =>
      rw [List.length_cons] at hfuel
      rw [hafter]
      by_cases hextra : extra=[]
      · rw [hextra] at htail
        rw [hextra,hbytes,if_pos rfl,ih rest fuel hlater hpieces htail.symm (by omega)]
        constructor
        · exact fun h _ => ⟨rest,rfl,h⟩
        · intro h
          obtain ⟨_,hsame,hproper⟩ := h (List.cons_ne_nil _ _)
          cases hsame
          exact hproper
      · rw [if_neg hextra]
        constructor
        · intro hsame _
          obtain ⟨later,hfirst⟩ := handleRequest_parsed L egressNode upstream (count+1)
            (taken+request.bytes.length) second.head [] second.body
            (framed L egressNode upstream (count+1+1) (taken+request.bytes.length+
              second.bytes.length) others)
          have hstart := parsed_start L egressNode io upstream
            ((congrArg Handled.parsed hsame).trans hfirst)
          rw [hbytes,List.length_append,List.length_append,List.length_nil] at hstart
          exact absurd (List.length_eq_zero_iff.mp (by omega)) hextra
        · intro h
          obtain ⟨_,hnone,_⟩ := h (List.cons_ne_nil _ _)
          cases hnone

end Turns

section Connections

/-- How many bytes are on a stream. -/
def streamBytes : List Chunk→ℕ
  | [] => 0
  | .failed::rest => streamBytes rest
  | .data bytes::rest => bytes.length+streamBytes rest

/-- Each request takes some bytes of the stream. -/
theorem readRequestBytes_less {io : Text} {buf data : Bytes} {stream rest : List Chunk}
    (hroom : buf.length<8192) (h : readRequestBytes io buf stream=(.ok (some data),rest)) :
    streamBytes rest<streamBytes stream := by
  induction stream generalizing buf with
  | nil =>
    unfold readRequestBytes at h
    split_ifs at h
    · cases h
    · cases h
  | cons chunk stream ih =>
    cases chunk with
    | failed => cases h
    | data bytes =>
      unfold readRequestBytes at h
      dsimp only at h
      by_cases hnone : bytes=[]
      · rw [if_pos hnone] at h
        split_ifs at h
        · cases h
        · cases h
      · have hpositive : 0<bytes.length := List.length_pos_iff.mpr hnone
        change streamBytes rest<bytes.length+streamBytes stream
        rw [if_neg hnone] at h
        split_ifs at h with hline hlong hfull
        · cases h
          change (bytes.drop (8192-buf.length)).length+streamBytes stream<_
          rw [List.length_drop]
          omega
        · cases h
          omega
        · cases h
        · cases h
        · have hless := ih (by omega) h
          omega

/-- A turn for each byte, and one more, are all that are taken. -/
theorem handle_enough (L : HttpLibrary) (egressNode : Option Int32) (io : Text)
    (upstream : Upstream) {fuel fuel' : ℕ} {stream : List Chunk} (h : streamBytes stream<fuel)
    (h' : streamBytes stream<fuel') (count taken : ℕ) :
    handleClientConnection L egressNode io upstream fuel count taken stream=
      handleClientConnection L egressNode io upstream fuel' count taken stream := by
  induction fuel generalizing fuel' stream count taken with
  | zero => omega
  | succ fuel ih =>
    obtain ⟨fuel',rfl⟩ : ∃ n,fuel'=n+1 := ⟨fuel'-1,by omega⟩
    rw [handleClientConnection,handleClientConnection]
    cases hread : readRequestBytes io [] stream with
    | mk result rest =>
      cases result with
      | error e => rfl
      | ok buf =>
        cases buf with
        | none => rfl
        | some buf =>
          have hless := readRequestBytes_less (by decide) hread
          dsimp only
          rw [@ih fuel' _ (by omega) (by omega)]

/-- What the proxy makes of the pieces that arrive from a client. -/
def serveClient (L : HttpLibrary) (egressNode : Option Int32) (io : Text) (upstream : Upstream)
    (chunks : List Bytes) : Handled :=
  handleClientConnection L egressNode io upstream (chunks.flatten.length+1) 0 0 (sent chunks)

/-- The proxy frames the requests of a client correctly, each from its first byte on and with
its whole body, exactly when they are proper. -/
theorem client_framed_iff (L : HttpLibrary) (egressNode : Option Int32) (io : Text)
    (upstream : Upstream) (requests : List ClientRequest) (chunks : List Bytes)
    (hrequests : ∀ request∈requests,WellFormed L request) (hchunks : ∀ chunk∈chunks,chunk≠[])
    (hcut : chunks.flatten=requests.flatMap ClientRequest.bytes) :
    serveClient L egressNode io upstream chunks=framed L egressNode upstream 0 0 requests ↔
      Proper L egressNode upstream 0 requests chunks := by
  refine requests_framed_iff L egressNode io upstream requests chunks _ hrequests hchunks hcut ?_ 0 0
  have hlength : ∀ requests : List ClientRequest,(∀ request∈requests,WellFormed L request) →
      requests.length≤(requests.flatMap ClientRequest.bytes).length := by
    intro requests hall
    induction requests with
    | nil => exact Nat.zero_le _
    | cons request requests ih =>
      have hrest := ih fun r hr => hall r (List.mem_cons_of_mem _ hr)
      have hpositive := head_length (hall request List.mem_cons_self).ends
      rw [List.flatMap_cons,List.length_append,List.length_cons]
      unfold ClientRequest.bytes
      rw [List.length_append]
      unfold ClientRequest.bytes at hrest
      omega
  have hbound := hlength requests hrequests
  rw [←hcut] at hbound
  omega

/-- A request without a body. -/
def getHead : Bytes := ascii "GET http://2.wispers.link/ HTTP/1.1\r\n\r\n"

/-- The head of a request with a body of 39 bytes. -/
def postHead : Bytes :=
  ascii "POST http://1.wispers.link/ HTTP/1.1\r\nContent-Length: 39\r\n\r\n"

/-- What an HTTP parser makes of these two heads. -/
def twoHeads : HttpLibrary where
  parse := fun buf =>
    if getHead.isPrefixOf buf then
      .ok (some ⟨some "GET".toList,some "http://2.wispers.link/".toList,some 1,[]⟩)
    else if postHead.isPrefixOf buf then
      .ok (some ⟨some "POST".toList,some "http://1.wispers.link/".toList,some 1,
        [("Content-Length".toList,ascii "39")]⟩)
    else .ok none
  toLowercase := fun text => text.map Char.toLower

/-- An upstream side where everything works. -/
def willing : Upstream := ⟨fun _ _ => .opened,fun _ _ => none,fun _ => .done,fun _ => false⟩

/-- Two requests without bodies, each in a read of its own, are framed correctly. -/
theorem client_framed_iff_two :
    serveClient twoHeads none [] willing [getHead,getHead]=
      framed twoHeads none willing 0 0 [⟨getHead,[]⟩,⟨getHead,[]⟩] := by
  have hwell : WellFormed twoHeads ⟨getHead,[]⟩ := by
    have hparse : ∀ rest,twoHeads.parse (getHead++rest)=
        .ok (some ⟨some "GET".toList,some "http://2.wispers.link/".toList,some 1,[]⟩) := by
      intro rest
      have hstart := List.isPrefixOf_iff_prefix.mpr (List.prefix_append getHead rest)
      simp only [twoHeads,hstart,if_true]
    exact ⟨by decide,by decide,by decide,fun rest => ⟨_,hparse rest,rfl,by decide⟩⟩
  refine (client_framed_iff twoHeads none [] willing [⟨getHead,[]⟩,⟨getHead,[]⟩] [getHead,getHead]
    ?_ (by decide) rfl).mpr ?_
  · intro request hrequest
    rcases List.mem_cons.mp hrequest with rfl|hrequest
    · exact hwell
    · obtain rfl := List.mem_singleton.mp hrequest
      exact hwell
  · exact fun _ _ _ => ⟨fun _ => rfl,fun _ _ _ => ⟨_,rfl,fun _ _ _ =>
      ⟨fun _ => rfl,fun _ _ h => absurd rfl h⟩⟩⟩

/-- A body that looks like a request is parsed as one and sent to another node, and the
request it belongs to is sent without it; in the same read as its head it is lost. -/
theorem body_becomes_request :
    (serveClient twoHeads none [] willing [postHead,getHead]).forwarded.map
        (fun forwarded => (forwarded.start,forwarded.sending.node,forwarded.written))=
      [(0,1,some (ascii ("POST / HTTP/1.1\r\nContent-Length: 39\r\n"++
        "Host: 1.wispers.link\r\nConnection: close\r\n\r\n"))),
       (postHead.length,2,some (ascii ("GET / HTTP/1.1\r\n"++
        "Host: 2.wispers.link\r\nConnection: close\r\n\r\n")))] ∧
    (serveClient twoHeads none [] willing [postHead++getHead]).forwarded.map
        (fun forwarded => (forwarded.start,forwarded.sending.node,forwarded.written))=
      [(0,1,some (ascii ("POST / HTTP/1.1\r\nContent-Length: 39\r\n"++
        "Host: 1.wispers.link\r\nConnection: close\r\n\r\n")))] ∧
    serveClient twoHeads none [] willing [postHead,getHead]≠
      framed twoHeads none willing 0 0 [⟨postHead,getHead⟩] := by
  have htwo : (serveClient twoHeads none [] willing [postHead,getHead]).parsed.length=2 := by
    decide +kernel
  have hone : (framed twoHeads none willing 0 0 [⟨postHead,getHead⟩]).parsed.length=1 := by
    decide +kernel
  refine ⟨by decide +kernel,by decide +kernel,fun hsame => ?_⟩
  rw [hsame,hone] at htwo
  cases htwo

end Connections

end WispersConnect.HttpFraming
