import WispersConnect.SocksHandshake

/-!
# Connections through the SOCKS5 proxy

A client is greeted, its request is read, a stream to the node is opened, the command is sent
and answered, and only then is the client told that it is connected. What the client and the
node have sent after their parts of the handshake is what the relay loops find.
-/

namespace WispersConnect.SocksConnections

open Messages Utf8Text StreamCommands CommandFraming ProxyRequests SocksHandshake

section Handlers

/-- What comes of opening a stream to a node within `REQUEST_TIMEOUT`. -/
inductive Opening where
  /-- It is there; whether the command could be written, and what the node sends on it. -/
  | opened (written : Bool) (answers : List Chunk)
  /-- `open_stream` failed. -/
  | failed
  /-- It took too long. -/
  | timedOut

/-- What came of a client. -/
structure Handled where
  /-- What is written to the client ahead of the relay. -/
  replies : Bytes
  /-- What was asked of a node. -/
  sending : Option Sending
  /-- What the relay loops find on the client's connection and on the stream of the node. -/
  relays : Option (List Chunk×List Chunk)

/-- `send_reply`; a client that takes none is not noticed. -/
def sendReply (replyCode : UInt8) : Bytes := [5,replyCode,0,1,0,0,0,0,0,0]

/-- `forward_to_node` and `egress_to_node`, which differ in the command that is sent. -/
def askNode (opening : Int32→Opening) (sending : Sending) (client : List Chunk) : Handled :=
  match opening sending.node with
  | .failed => ⟨sendReply 4,none,none⟩
  | .timedOut => ⟨sendReply 6,none,none⟩
  | .opened written answers =>
    if written then
      match sendCommand answers with
      | (.ok (),rest) => ⟨sendReply 0,some sending,some (client,rest)⟩
      | (.error _,_) => ⟨sendReply 5,some sending,none⟩
    else ⟨sendReply 5,some sending,none⟩

/-- `handle_client_connection`, up to the relay. -/
def handleClientConnection (eof io : Text) (writing : Option Text) (egressNode : Option Int32)
    (opening : Int32→Opening) (stream : List Chunk) : Handled :=
  match handleAuth io writing stream with
  | (⟨answer,.error _⟩,_) => ⟨answer,none,none⟩
  | (⟨answer,.ok ()⟩,rest) =>
    match readConnectRequest eof io rest with
    | .error (code,_) => ⟨answer++(code.map sendReply).getD [],none,none⟩
    | .ok (request,client) =>
      match routeConnection egressNode request with
      | .error code => ⟨answer++sendReply code,none,none⟩
      | .ok sending =>
        let handled := askNode opening sending client
        {handled with replies := answer++handled.replies}

end Handlers

section Requests

/-- The destination address that a client sends. -/
inductive Address where
  /-- An IPv4 address. -/
  | ipv4 (a b c d : UInt8)
  /-- A name; its length is one byte. -/
  | domain (name : Text) (short : (encode name).length<256)
  /-- An IPv6 address. -/
  | ipv6 (address : Bytes) (whole : address.length=16)

/-- Its type. -/
def Address.atyp : Address→UInt8
  | ipv4 _ _ _ _ => 1
  | domain _ _ => 3
  | ipv6 _ _ => 4

/-- Its bytes. -/
def Address.bytes : Address→Bytes
  | ipv4 a b c d => [a,b,c,d]
  | domain name _ => UInt8.ofNat (encode name).length::encode name
  | ipv6 address _ => address

/-- The host that it names. -/
def Address.host : Address→Text
  | ipv4 a b c d => displayIpv4 a b c d
  | domain name _ => name
  | ipv6 address _ => displayIpv6 address

/-- A request to connect. -/
structure Connect where
  /-- A byte that nobody reads. -/
  reserved : UInt8
  /-- The address. -/
  address : Address
  /-- The high byte of the port. -/
  high : UInt8
  /-- The low byte of the port. -/
  low : UInt8

/-- Its bytes. -/
def Connect.bytes (connect : Connect) : Bytes :=
  5::1::connect.reserved::connect.address.atyp::(connect.address.bytes++[connect.high,connect.low])

/-- What it asks for. -/
def Connect.request (connect : Connect) : ConnectRequest :=
  ⟨connect.address.host,UInt16.ofNat (connect.high.toNat*256+connect.low.toNat)⟩

variable (eof io : Text)

/-- An address is read, and what follows is left. -/
theorem Address.readHost_bytes (address : Address) (rest : Bytes) :
    readHost eof address.atyp (address.bytes++rest)=.ok (address.host,rest) := by
  cases address with
  | ipv4 a b c d => rfl
  | domain name short =>
    have hlen : (UInt8.ofNat (encode name).length).toNat=(encode name).length :=
      UInt8.toNat_ofNat_of_lt' short
    have hone : ¬(3 : UInt8)=1 := by decide
    unfold readHost atyp bytes
    rw [if_neg hone,if_pos rfl]
    dsimp only [List.cons_append]
    rw [hlen,if_neg (by rw [List.length_append]; omega),List.take_left',List.drop_left',
      fromUtf8_encode]
    · rfl
    · rfl
    · rfl
  | ipv6 address whole =>
    have hone : ¬(4 : UInt8)=1 := by decide
    have hthree : ¬(4 : UInt8)=3 := by decide
    unfold readHost atyp bytes
    dsimp only
    rw [if_neg hone,if_neg hthree,if_pos rfl,if_neg (by rw [List.length_append]; omega),
      List.take_left' whole,List.drop_left' whole]
    rfl

/-- A request is read off a stream, and what follows is left. -/
theorem readConnectRequest_bytes {stream : List Chunk} (connect : Connect) (d : Bytes)
    (h : Carries stream (connect.bytes++d)) :
    ∃ client,readConnectRequest eof io stream=.ok (connect.request,client) ∧ Carries client d := by
  obtain ⟨rest,hcarries,hread⟩ :=
    readField_enough eof io "failed to read request header: " h (n := 4) (by simp [Connect.bytes])
  have hleft : (connect.bytes++d).drop 4=
      connect.address.bytes++(connect.high::connect.low::d) := List.append_assoc _ _ _
  rw [hleft] at hcarries
  have hhost := connect.address.readHost_bytes eof (connect.high::connect.low::d)
  rcases readAddress_carries eof io connect.address.atyp hcarries with
    ⟨e,herror,_⟩|⟨host,ports,later,hfound,hports,haddress⟩
  · cases hhost.symm.trans herror
  · obtain ⟨rfl,rfl⟩ := Prod.mk.inj (Except.ok.inj (hhost.symm.trans hfound))
    obtain ⟨client,hclient,hport⟩ := readField_enough eof io "failed to read port: " hports (n := 2)
      (by simp)
    refine ⟨client,?_,hclient⟩
    unfold readConnectRequest
    rw [hread]
    change ((readAddress eof io connect.address.atyp >>= _ : Reading _) rest)=_
    change Except.bind (readAddress eof io connect.address.atyp rest) _=_
    rw [haddress]
    change ((readField eof io "failed to read port: " 2 >>= _ : Reading _) later)=_
    rw [hport]
    rfl

end Requests

section Refusals

variable {eof io : Text} {stream : List Chunk} {code : Option UInt8} {error : ProxyError}

/-- Where reading in two parts is refused, one of the parts is. -/
theorem bind_refused {α β : Type} {first : Reading α} {next : α→Reading β}
    (h : (first >>= next) stream=.error (code,error)) :
    first stream=.error (code,error) ∨
      ∃ a rest,first stream=.ok (a,rest) ∧ next a rest=.error (code,error) := by
  change Except.bind (first stream) _=_ at h
  cases hfirst : first stream with
  | error refusal =>
    rw [hfirst] at h
    exact .inl (congrArg Except.error (Except.error.inj h))
  | ok pair =>
    rw [hfirst] at h
    exact .inr ⟨pair.1,pair.2,rfl,h⟩

/-- A field that is missing is refused without a reply. -/
theorem readField_refused {message : String} {n : ℕ}
    (h : readField eof io message n stream=.error (code,error)) : code=none := by
  unfold readField at h
  split at h
  next => cases h
  next => exact (Prod.mk.inj (Except.error.inj h)).1.symm

/-- An address is refused without a reply, or for its type. -/
theorem readAddress_refused {atyp : UInt8}
    (h : readAddress eof io atyp stream=.error (code,error)) : code=none ∨ code=some 8 := by
  unfold readAddress at h
  split at h
  next =>
    rcases bind_refused h with h|⟨_,_,_,h⟩
    · exact .inl (readField_refused h)
    · cases h
  next =>
    split at h
    next =>
      rcases bind_refused h with h|⟨_,_,_,h⟩
      · exact .inl (readField_refused h)
      rcases bind_refused h with h|⟨domain,_,_,h⟩
      · exact .inl (readField_refused h)
      cases hname : fromUtf8 domain with
      | none =>
        rw [hname] at h
        exact .inl (Prod.mk.inj (Except.error.inj h)).1.symm
      | some host =>
        rw [hname] at h
        cases h
    next =>
      split at h
      next =>
        rcases bind_refused h with h|⟨_,_,_,h⟩
        · exact .inl (readField_refused h)
        · cases h
      next => exact .inr (Prod.mk.inj (Except.error.inj h)).1.symm

/-- A request is refused without a reply, for its command, or for the type of its address. -/
theorem readConnectRequest_refused
    (h : readConnectRequest eof io stream=.error (code,error)) :
    code=none ∨ code=some 7 ∨ code=some 8 := by
  unfold readConnectRequest at h
  rcases bind_refused h with h|⟨_,_,_,h⟩
  · exact .inl (readField_refused h)
  dsimp only at h
  split at h
  next => exact .inl (Prod.mk.inj (Except.error.inj h)).1.symm
  next =>
    split at h
    next => exact .inr (.inl (Prod.mk.inj (Except.error.inj h)).1.symm)
    next =>
      rcases bind_refused h with h|⟨_,_,_,h⟩
      · rcases readAddress_refused h with h|h
        · exact .inl h
        · exact .inr (.inr h)
      rcases bind_refused h with h|⟨_,_,_,h⟩
      · exact .inl (readField_refused h)
      · cases h

/-- A greeting is answered by two bytes at most. -/
theorem negotiate_short (writing : Option Text) (buf : Bytes) :
    (negotiate writing buf).answer.length≤2 := by
  unfold negotiate malformed
  split
  next =>
    split_ifs
    · exact Nat.zero_le 2
    · exact Nat.zero_le 2
    · split <;> exact Nat.le_refl 2
    · exact Nat.le_refl 2
  next => exact Nat.zero_le 2

/-- What is answered in place of the choice of a method is at most two bytes. -/
theorem handleAuth_short (writing : Option Text) :
    (handleAuth io writing stream).1.answer.length≤2 := by
  unfold handleAuth
  split
  next => exact Nat.zero_le 2
  next => exact negotiate_short writing _

/-- No request is routed to a reply of success. -/
theorem routeConnection_refused {egressNode : Option Int32} {request : ConnectRequest}
    {replyCode : UInt8} (h : routeConnection egressNode request=.error replyCode) :
    replyCode≠0 := by
  unfold routeConnection at h
  split at h
  next => cases h
  next =>
    split at h
    next => cases h
    next =>
      obtain rfl := Except.error.inj h
      decide
  next =>
    obtain rfl := Except.error.inj h
    decide

/-- Replies with other codes are others. -/
theorem sendReply_eq {answer front : Bytes} {replyCode : UInt8}
    (h : answer++sendReply replyCode=front++sendReply 0) : replyCode=0 := by
  have hlast := (List.append_inj' h rfl).2
  exact (List.cons.inj (List.cons.inj hlast).2).1

/-- An answer to a greeting is no reply. -/
theorem short_ne {answer front : Bytes} (hshort : answer.length≤2)
    (h : answer=front++sendReply 0) : False := by
  rw [h,List.length_append] at hshort
  change front.length+10≤2 at hshort
  omega

end Refusals

section Tunnels

/-- A greeting that offers no authentication is accepted. -/
theorem negotiate_accepts {greeting : Greeting} (hversion : greeting.version=5)
    (hmethods : 0∈greeting.methods) : negotiate none greeting.bytes=⟨[5,0],.ok ()⟩ := by
  have hlen : (UInt8.ofNat greeting.methods.length).toNat=greeting.methods.length :=
    UInt8.toNat_ofNat_of_lt' greeting.bounded
  unfold negotiate Greeting.bytes
  dsimp only
  rw [hlen,if_neg (not_not.mpr hversion),if_neg (Nat.lt_irrefl _),List.take_length,
    if_neg (not_not.mpr hmethods)]

/-- What is heard as an acknowledgement is one. -/
theorem hear_relays {data e : Bytes} {rest : List Chunk} :
    hear data rest=.relays e ↔ checkResponse data=.ok () ∧ relayed rest=e := by
  unfold hear checkResponse
  dsimp only
  by_cases hok : trim (fromUtf8Lossy data)="OK".toList
  · rw [if_pos hok,hok]
    exact ⟨fun h => ⟨rfl,Forwarding.relays.inj h⟩,fun ⟨_,h⟩ => congrArg Forwarding.relays h⟩
  · rw [if_neg hok]
    split
    next => exact ⟨(fun h => by cases h),(fun ⟨h,_⟩ => by cases h)⟩
    next =>
      rw [if_neg hok]
      exact ⟨(fun h => by cases h),(fun ⟨h,_⟩ => by cases h)⟩

/-- A client whose greeting comes alone is handled by the node that its request is routed to, and
what it sends after the request is left. -/
theorem handle_greeted {eof io : Text} {egressNode : Option Int32} {opening : Int32→Opening}
    {greeting : Greeting} {connect : Connect} {sending : Sending} {d : Bytes}
    {chunks : List Bytes} (hversion : greeting.version=5) (hmethods : 0∈greeting.methods)
    (hchunks : ∀ chunk∈chunks,chunk≠[])
    (hcut : chunks.flatten=greeting.bytes++(connect.bytes++d))
    (halone : chunks.head?=some greeting.bytes)
    (hroute : routeConnection egressNode connect.request=.ok sending) :
    ∃ client,Carries client d ∧
      handleClientConnection eof io none egressNode opening (sent chunks)=
        {askNode opening sending client with
          replies := [5,0]++(askNode opening sending client).replies} := by
  cases chunks with
  | nil => cases halone
  | cons chunk others =>
    obtain rfl : chunk=greeting.bytes := Option.some.inj halone
    have hcarries : Carries (sent others) (connect.bytes++d) :=
      ⟨others,rfl,fun other hother => hchunks other (List.mem_cons_of_mem _ hother),
        List.append_cancel_left hcut⟩
    obtain ⟨client,hread,hclient⟩ := readConnectRequest_bytes eof io connect d hcarries
    refine ⟨client,hclient,?_⟩
    unfold handleClientConnection
    rw [handleAuth_greeting,negotiate_accepts hversion hmethods]
    dsimp only
    rw [hread]
    dsimp only
    rw [hroute]

end Tunnels

section Results

/-- Whatever a client and the nodes send, a client is told of success exactly when its
connection is relayed. -/
theorem success_iff_relayed (eof io : Text) (writing : Option Text) (egressNode : Option Int32)
    (opening : Int32→Opening) (stream : List Chunk) :
    (∃ front,(handleClientConnection eof io writing egressNode opening stream).replies=
      front++sendReply 0) ↔
    (handleClientConnection eof io writing egressNode opening stream).relays.isSome=true := by
  have hshort := @handleAuth_short io stream writing
  unfold handleClientConnection
  split
  next answer error rest hauth =>
    rw [hauth] at hshort
    exact ⟨(fun ⟨front,h⟩ => (short_ne hshort h).elim),(fun h => by cases h)⟩
  next answer rest hauth =>
    rw [hauth] at hshort
    split
    next code error hrequest =>
      refine ⟨fun ⟨front,h⟩ => ?_,(fun h => by cases h)⟩
      rcases readConnectRequest_refused hrequest with rfl|rfl|rfl
      · rw [Option.map_none,Option.getD_none,List.append_nil] at h
        exact (short_ne hshort h).elim
      · cases sendReply_eq h
      · cases sendReply_eq h
    next request client hrequest =>
      split
      next replyCode hroute =>
        exact ⟨(fun ⟨front,h⟩ => absurd (sendReply_eq h) (routeConnection_refused hroute)),
          (fun h => by cases h)⟩
      next sending hroute =>
        unfold askNode
        split
        next => exact ⟨(fun ⟨front,h⟩ => by cases sendReply_eq h),(fun h => by cases h)⟩
        next => exact ⟨(fun ⟨front,h⟩ => by cases sendReply_eq h),(fun h => by cases h)⟩
        next =>
          split
          next =>
            split
            next => exact ⟨fun _ => rfl,fun _ => ⟨answer,rfl⟩⟩
            next => exact ⟨(fun ⟨front,h⟩ => by cases sendReply_eq h),(fun h => by cases h)⟩
          next => exact ⟨(fun ⟨front,h⟩ => by cases sendReply_eq h),(fun h => by cases h)⟩

/-- Where the greeting of a client comes in a read of its own and a stream to the node is opened,
then however else the bytes are cut, the client is told of success and the relay loops find just
what the client sent after its request and what the node sent after its acknowledgement, exactly
if the acknowledgement comes in a read of its own. -/
theorem tunnel_whole_iff (eof io : Text) (egressNode : Option Int32) (opening : Int32→Opening)
    (greeting : Greeting) (connect : Connect) (sending : Sending) (d e : Bytes)
    (chunks answers : List Bytes) (hversion : greeting.version=5)
    (hmethods : 0∈greeting.methods) (hchunks : ∀ chunk∈chunks,chunk≠[])
    (hcut : chunks.flatten=greeting.bytes++(connect.bytes++d))
    (halone : chunks.head?=some greeting.bytes)
    (hroute : routeConnection egressNode connect.request=.ok sending)
    (hopened : opening sending.node=.opened true (sent answers))
    (hanswers : ∀ answer∈answers,answer≠[]) (hacknowledged : answers.flatten=ascii "OK\n"++e) :
    (∃ up down,handleClientConnection eof io none egressNode opening (sent chunks)=
        ⟨[5,0]++sendReply 0,some sending,some (up,down)⟩ ∧ relayed up=d ∧ relayed down=e) ↔
      firstRead 256 answers=ascii "OK\n" := by
  obtain ⟨client,hclient,heq⟩ := @handle_greeted eof io egressNode opening greeting connect sending
    d chunks hversion hmethods hchunks hcut halone hroute
  have hsome : answers.flatten≠[] := by
    rw [hacknowledged]
    exact List.append_ne_nil_of_left_ne_nil (List.cons_ne_nil _ _) _
  obtain ⟨rest,hread,-,hwhole⟩ := read_sent (by decide : 0<256) hanswers hsome
  have hsend : sendCommand (sent answers)=(checkResponse (firstRead 256 answers),rest) := by
    unfold sendCommand
    rw [hread]
  have hheard : hear (firstRead 256 answers) rest=.relays e ↔
      firstRead 256 answers=ascii "OK\n" := ok_heard_iff (hwhole.trans hacknowledged)
  have hask : askNode opening sending client=match checkResponse (firstRead 256 answers) with
      | .ok () => ⟨sendReply 0,some sending,some (client,rest)⟩
      | .error _ => ⟨sendReply 5,some sending,none⟩ := by
    unfold askNode
    rw [hopened]
    dsimp only
    rw [if_pos rfl,hsend]
    cases checkResponse (firstRead 256 answers) <;> rfl
  rw [heq,hask,←hheard,hear_relays]
  cases checkResponse (firstRead 256 answers) with
  | ok value =>
    refine ⟨fun ⟨up,down,hhandled,_,hdown⟩ => ⟨rfl,?_⟩,fun ⟨_,hrest⟩ =>
      ⟨client,rest,rfl,hclient.relayed,hrest⟩⟩
    obtain ⟨_,_,hrelays⟩ := Handled.mk.inj hhandled
    rw [(Prod.mk.inj (Option.some.inj hrelays)).2]
    exact hdown
  | error error =>
    refine ⟨fun ⟨up,down,hhandled,_⟩ => ?_,fun ⟨h,_⟩ => by cases h⟩
    cases (Handled.mk.inj hhandled).2.2

/-- A request for port 80 of the first node. -/
def plainConnect : Connect := ⟨0,.domain "1.wispers.link".toList (by decide),0,80⟩

/-- A request that is cut into pieces and followed by data at once is tunnelled whole. -/
theorem tunnel_whole_iff_plain : ∃ up down,
    handleClientConnection [] [] none none (fun _ => .opened true (sent [ascii "OK\n",ascii "hi"]))
      (sent [plainGreeting.bytes,plainConnect.bytes.take 3,
        plainConnect.bytes.drop 3++ascii "GET"])=
      ⟨[5,0]++sendReply 0,some ⟨.wispersNode 1 80,1,forwardCommand 80⟩,some (up,down)⟩ ∧
    relayed up=ascii "GET" ∧ relayed down=ascii "hi" :=
  (tunnel_whole_iff [] [] none (fun _ => .opened true (sent [ascii "OK\n",ascii "hi"]))
    plainGreeting plainConnect ⟨.wispersNode 1 80,1,forwardCommand 80⟩ (ascii "GET") (ascii "hi")
    [plainGreeting.bytes,plainConnect.bytes.take 3,plainConnect.bytes.drop 3++ascii "GET"]
    [ascii "OK\n",ascii "hi"] rfl (by decide) (by decide) (by decide) rfl (by decide +kernel) rfl
    (by decide) (by decide)).mpr (by decide)

end Results

end WispersConnect.SocksConnections
