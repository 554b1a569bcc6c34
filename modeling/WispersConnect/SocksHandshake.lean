import WispersConnect.CommandFraming
import WispersConnect.ProxyRequests

/-!
# The SOCKS5 handshake and where its bytes are cut

`handle_auth` reads the greeting of a client once and takes what it got for the whole
greeting; `handle_connect_request` reads each field of the request until it has all of
its bytes. So the request may be cut anywhere, and the greeting nowhere: it has to
come in one read, and nothing else with it.
-/

namespace WispersConnect.SocksHandshake

open Messages Utf8Text StreamCommands CommandFraming ProxyRequests

section Greeting

/-- What came of a greeting. -/
structure Negotiated where
  /-- What is written to the client. -/
  answer : Bytes
  /-- Whether the handshake goes on. -/
  result : Except ProxyError Unit
  deriving DecidableEq

/-- A malformed greeting. -/
def malformed (answer : Bytes) (message : String) (detail : Text) : Negotiated :=
  ⟨answer,.error (.badRequest (message.toList++detail))⟩

/-- What is made of the bytes that were read for the greeting; `writing` is the text of the error
of a client that takes no answer. -/
def negotiate (writing : Option Text) (buf : Bytes) : Negotiated :=
  match buf with
  | version::nmethods::methods =>
    if version≠5 then malformed [] "unsupported SOCKS version: " (displayDecimal version.toNat)
    else if methods.length<nmethods.toNat then malformed [] "auth request truncated" []
    else if 0∉methods.take nmethods.toNat then
      malformed [5,0xFF] "client does not support NOAUTH" []
    else
      match writing with
      | some e => malformed [5,0] "failed to send auth response: " e
      | none => ⟨[5,0],.ok ()⟩
  | _ => malformed [] "auth request too short" []

/-- `handle_auth`; `io` is the text of a read error. -/
def handleAuth (io : Text) (writing : Option Text) (stream : List Chunk) : Negotiated×List Chunk :=
  match read 258 stream with
  | (none,rest) => (malformed [] "failed to read auth request: " io,rest)
  | (some buf,rest) => (negotiate writing buf,rest)

end Greeting

section Request

/-- `read_exact`: the bytes, or the text of its error, and what is left. -/
def readExact (eof io : Text) : ℕ→List Chunk→Except Text Bytes×List Chunk
  | 0,stream => (.ok [],stream)
  | _+1,[] => (.error eof,[])
  | _+1,.failed::rest => (.error io,.failed::rest)
  | n+1,.data bytes::rest =>
    if bytes=[] then (.error eof,rest)
    else if n+1<bytes.length then (.ok (bytes.take (n+1)),.data (bytes.drop (n+1))::rest)
    else
      match readExact eof io (n+1-bytes.length) rest with
      | (.ok more,left) => (.ok (bytes++more),left)
      | (.error e,left) => (.error e,left)

/-- What reads a request from a stream, up to an error. -/
abbrev Reading := StateT (List Chunk) (Except Refusal)

/-- A field of a request, with the message of its error. -/
def readField (eof io : Text) (message : String) (n : ℕ) : Reading Bytes := fun stream =>
  match readExact eof io n stream with
  | (.ok bytes,rest) => .ok (bytes,rest)
  | (.error e,_) => refuse message e

/-- The destination address of a request, by its type, read from the stream. -/
def readAddress (eof io : Text) (atyp : UInt8) : Reading Text :=
  if atyp=1 then do
    let addr ← readField eof io "failed to read IPv4 address: " 4
    return displayIpv4 (addr.getD 0 0) (addr.getD 1 0) (addr.getD 2 0) (addr.getD 3 0)
  else if atyp=3 then do
    let len ← readField eof io "failed to read domain length: " 1
    let domain ← readField eof io "failed to read domain: " (len.getD 0 0).toNat
    match fromUtf8 domain with
    | none => throw (none,.badRequest "invalid domain name encoding".toList)
    | some host => return host
  else if atyp=4 then do
    let addr ← readField eof io "failed to read IPv6 address: " 16
    return displayIpv6 addr
  else
    throw (some 8,.badRequest ("unsupported address type: ".toList++displayDecimal atyp.toNat))

/-- `handle_connect_request`, read from the stream. -/
def readConnectRequest (eof io : Text) : Reading ConnectRequest := do
  let header ← readField eof io "failed to read request header: " 4
  let version := header.getD 0 0
  let cmd := header.getD 1 0
  let atyp := header.getD 3 0
  if version≠5 then
    throw (none,.badRequest ("unsupported SOCKS version: ".toList++displayDecimal version.toNat))
  else if cmd≠1 then
    throw (some 7,.badRequest ("unsupported command: ".toList++displayDecimal cmd.toNat))
  else
    let host ← readAddress eof io atyp
    let port ← readField eof io "failed to read port: " 2
    return ⟨host,UInt16.ofNat ((port.getD 0 0).toNat*256+(port.getD 1 0).toNat)⟩

end Request

section Segments

/-- A stream brings these bytes, in some pieces, and ends. -/
def Carries (stream : List Chunk) (bytes : Bytes) : Prop :=
  ∃ chunks,stream=sent chunks ∧ (∀ chunk∈chunks,chunk≠[]) ∧ chunks.flatten=bytes

/-- What a stream brings is all that can be relayed. -/
theorem Carries.relayed {stream : List Chunk} {bytes : Bytes} (h : Carries stream bytes) :
    StreamCommands.relayed stream=bytes := by
  obtain ⟨chunks,rfl,hne,rfl⟩ := h
  exact relayed_sent hne

/-- What is left of a piece comes before the rest. -/
theorem Carries.cons {chunk bytes : Bytes} {stream : List Chunk} (hne : chunk≠[])
    (h : Carries stream bytes) : Carries (.data chunk::stream) (chunk++bytes) := by
  obtain ⟨chunks,rfl,hall,rfl⟩ := h
  refine ⟨chunk::chunks,rfl,fun other hother => ?_,rfl⟩
  rcases List.mem_cons.mp hother with rfl|hother
  · exact hne
  · exact hall other hother

variable (eof io : Text)

/-- Reading exactly some bytes takes them off a stream that brings enough. -/
theorem readExact_enough {n : ℕ} {stream : List Chunk} {bytes : Bytes} (h : Carries stream bytes)
    (hn : n≤bytes.length) :
    ∃ rest,readExact eof io n stream=(.ok (bytes.take n),rest) ∧ Carries rest (bytes.drop n) := by
  obtain ⟨chunks,rfl,hne,rfl⟩ := h
  induction chunks generalizing n with
  | nil =>
    obtain rfl : n=0 := Nat.le_zero.mp hn
    exact ⟨_,rfl,[],rfl,hne,rfl⟩
  | cons chunk chunks ih =>
    have hrest : ∀ other∈chunks,other≠[] := fun other hother => hne other (List.mem_cons_of_mem _ hother)
    have hchunk := hne chunk List.mem_cons_self
    cases n with
    | zero => exact ⟨_,rfl,chunk::chunks,rfl,hne,rfl⟩
    | succ n =>
      change ∃ rest,readExact eof io (n+1) (.data chunk::sent chunks)=_ ∧ _
      rw [List.flatten_cons,List.length_append] at hn
      rw [readExact,if_neg hchunk,List.flatten_cons]
      split_ifs with hlong
      · refine ⟨.data (chunk.drop (n+1))::sent chunks,?_,?_⟩
        · rw [List.take_append_of_le_length (by omega)]
        · rw [List.drop_append_of_le_length (by omega)]
          refine Carries.cons (fun hnil => ?_) ⟨chunks,rfl,hrest,rfl⟩
          have hshort := List.drop_eq_nil_iff.mp hnil
          omega
      · obtain ⟨rest,hread,hcarries⟩ := ih (n := n+1-chunk.length) hrest (by omega)
        have htake : chunk.take (n+1)=chunk := List.take_of_length_le (by omega)
        have hdrop : chunk.drop (n+1)=[] := List.drop_eq_nil_of_le (by omega)
        refine ⟨rest,?_,?_⟩
        · rw [hread,List.take_append,htake]
        · rw [List.drop_append,hdrop]
          exact hcarries

/-- It fails on a stream that ends before. -/
theorem readExact_short {n : ℕ} {stream : List Chunk} {bytes : Bytes} (h : Carries stream bytes)
    (hn : bytes.length<n) : ∃ rest,readExact eof io n stream=(.error eof,rest) := by
  obtain ⟨chunks,rfl,hne,rfl⟩ := h
  induction chunks generalizing n with
  | nil =>
    cases n with
    | zero => cases hn
    | succ n => exact ⟨_,rfl⟩
  | cons chunk chunks ih =>
    have hrest : ∀ other∈chunks,other≠[] := fun other hother => hne other (List.mem_cons_of_mem _ hother)
    have hchunk := hne chunk List.mem_cons_self
    cases n with
    | zero => cases hn
    | succ n =>
      change ∃ rest,readExact eof io (n+1) (.data chunk::sent chunks)=_
      rw [List.flatten_cons,List.length_append] at hn
      obtain ⟨rest,hread⟩ := ih (n := n+1-chunk.length) hrest (by omega)
      exact ⟨rest,by rw [readExact,if_neg hchunk,if_neg (by omega),hread]⟩

/-- A field is read off a stream that brings enough. -/
theorem readField_enough (message : String) {n : ℕ} {stream : List Chunk} {bytes : Bytes}
    (h : Carries stream bytes) (hn : n≤bytes.length) :
    ∃ rest,Carries rest (bytes.drop n) ∧ ∀ {α : Type} (next : Bytes→Reading α),
      (readField eof io message n >>= next) stream=next (bytes.take n) rest := by
  obtain ⟨rest,hread,hcarries⟩ := @readExact_enough eof io _ _ _ h hn
  refine ⟨rest,hcarries,fun next => ?_⟩
  change Except.bind (readField eof io message n stream) _=_
  unfold readField
  rw [hread]
  rfl

/-- A field is missing on a stream that ends before. -/
theorem readField_short (message : String) {n : ℕ} {stream : List Chunk} {bytes : Bytes}
    (h : Carries stream bytes) (hn : bytes.length<n) {α : Type} (next : Bytes→Reading α) :
    (readField eof io message n >>= next) stream=refuse message eof := by
  obtain ⟨rest,hread⟩ := @readExact_short eof io _ _ _ h hn
  change Except.bind (readField eof io message n stream) _=_
  unfold readField
  rw [hread]
  rfl

/-- Four bytes at least are at the start of these. -/
theorem four_bytes {bytes : Bytes} (h : 4≤bytes.length) :
    ∃ a b c d rest,bytes=a::b::c::d::rest := by
  match bytes,h with
  | a::b::c::d::rest,_ => exact ⟨a,b,c,d,rest,rfl⟩

/-- The address of a request is read off a stream as it is off its bytes. -/
theorem readAddress_carries (atyp : UInt8) {stream : List Chunk} {bytes : Bytes}
    (h : Carries stream bytes) :
    (∃ e,readHost eof atyp bytes=.error e ∧ readAddress eof io atyp stream=.error e) ∨
    ∃ host left rest,readHost eof atyp bytes=.ok (host,left) ∧ Carries rest left ∧
      readAddress eof io atyp stream=.ok (host,rest) := by
  unfold readHost readAddress
  by_cases hone : atyp=1
  · rw [if_pos hone,if_pos hone]
    by_cases hlength : 4≤bytes.length
    · obtain ⟨a,b,c,d,left,rfl⟩ := four_bytes hlength
      obtain ⟨rest,hcarries,hread⟩ :=
        readField_enough eof io "failed to read IPv4 address: " h hlength
      exact .inr ⟨_,_,rest,rfl,hcarries,hread _⟩
    · refine .inl ⟨_,?_,readField_short eof io _ h (by omega) _⟩
      match bytes,hlength with
      | [],_ | [_],_ | [_,_],_ | [_,_,_],_ => rfl
      | a::b::c::d::left,hlength => exact absurd (by simp) hlength
  rw [if_neg hone,if_neg hone]
  by_cases hthree : atyp=3
  · rw [if_pos hthree,if_pos hthree]
    cases bytes with
    | nil => exact .inl ⟨_,rfl,readField_short eof io _ h (by simp) _⟩
    | cons len bytes =>
      obtain ⟨rest,hcarries,hread⟩ := readField_enough eof io "failed to read domain length: " h (n := 1) (by simp)
      rw [hread]
      change Carries rest bytes at hcarries
      dsimp only
      by_cases hlength : bytes.length<len.toNat
      · rw [if_pos hlength]
        exact .inl ⟨_,rfl,readField_short eof io _ hcarries hlength _⟩
      · obtain ⟨left,hleft,hread⟩ := readField_enough eof io _ hcarries (Nat.le_of_not_lt hlength)
        have hlen : ((len::bytes).take 1).getD 0 0=len := rfl
        rw [if_neg hlength,hlen,hread]
        cases fromUtf8 (bytes.take len.toNat) with
        | none => exact .inl ⟨_,rfl,rfl⟩
        | some host => exact .inr ⟨_,_,left,rfl,hleft,rfl⟩
  rw [if_neg hthree,if_neg hthree]
  by_cases hfour : atyp=4
  · rw [if_pos hfour,if_pos hfour]
    by_cases hlength : bytes.length<16
    · rw [if_pos hlength]
      exact .inl ⟨_,rfl,readField_short eof io _ h hlength _⟩
    · obtain ⟨rest,hcarries,hread⟩ := readField_enough eof io _ h (Nat.le_of_not_lt hlength)
      rw [if_neg hlength]
      exact .inr ⟨_,_,rest,rfl,hcarries,hread _⟩
  · rw [if_neg hfour,if_neg hfour]
    exact .inl ⟨_,rfl,rfl⟩

/-- A request is read off a stream as it is off its bytes, however they are cut. -/
theorem readConnectRequest_carries {stream : List Chunk} {bytes : Bytes}
    (h : Carries stream bytes) :
    (readConnectRequest eof io stream).map Prod.fst=handleConnectRequest eof bytes := by
  unfold readConnectRequest
  by_cases hlength : 4≤bytes.length
  · obtain ⟨version,cmd,reserved,atyp,left,rfl⟩ := four_bytes hlength
    obtain ⟨rest,hcarries,hread⟩ :=
      readField_enough eof io "failed to read request header: " h hlength
    change Carries rest left at hcarries
    rw [hread]
    unfold handleConnectRequest
    dsimp only
    change Except.map _ ((if version≠5 then _ else if cmd≠1 then _ else _ : Reading _) rest)=_
    by_cases hversion : version≠5
    · rw [if_pos hversion,if_pos hversion]
      rfl
    rw [if_neg hversion,if_neg hversion]
    by_cases hcmd : cmd≠1
    · rw [if_pos hcmd,if_pos hcmd]
      rfl
    rw [if_neg hcmd,if_neg hcmd]
    change Except.map _ (Except.bind (readAddress eof io atyp rest) _)=_
    rcases readAddress_carries eof io atyp hcarries with
      ⟨e,hhost,haddress⟩|⟨host,ports,later,hhost,hports,haddress⟩
    · rw [hhost,haddress]
      rfl
    · rw [hhost,haddress]
      change Except.map _ ((readField eof io "failed to read port: " 2 >>= _ : Reading _) later)=_
      by_cases hport : 2≤ports.length
      · match ports,hport with
        | high::low::others,hport =>
          obtain ⟨_,_,hread⟩ := readField_enough eof io "failed to read port: " hports hport
          rw [hread]
          rfl
      · rw [readField_short eof io _ hports (by omega)]
        match ports,hport with
        | [],_ | [_],_ => rfl
        | high::low::others,hport => exact absurd (by simp) hport
  · rw [readField_short eof io _ h (by omega)]
    match bytes,hlength with
    | [],_ | [_],_ | [_,_],_ | [_,_,_],_ => rfl
    | a::b::c::d::left,hlength => exact absurd (by simp) hlength

end Segments

section Handshakes

/-- A greeting: a version and at most 255 methods. -/
structure Greeting where
  /-- The version. -/
  version : UInt8
  /-- The methods. -/
  methods : Bytes
  /-- Their number is one byte. -/
  bounded : methods.length<256

/-- The bytes of a greeting. -/
def Greeting.bytes (greeting : Greeting) : Bytes :=
  greeting.version::UInt8.ofNat greeting.methods.length::greeting.methods

/-- How many bytes a greeting has. -/
theorem Greeting.length_bytes (greeting : Greeting) :
    greeting.bytes.length=2+greeting.methods.length := by
  unfold bytes
  rw [List.length_cons,List.length_cons]
  omega

/-- A handshake goes as if the greeting came alone in one read: it gets the same answer, its bytes
and no others are taken off the stream, and the request is read off what follows. -/
structure Undisturbed (eof io : Text) (writing : Option Text) (greeting : Greeting)
    (request : Bytes) (chunks : List Bytes) : Prop where
  /-- It gets the same answer. -/
  answer : (handleAuth io writing (sent chunks)).1=(handleAuth io writing (sent [greeting.bytes])).1
  /-- What follows is left. -/
  consumed : relayed (handleAuth io writing (sent chunks)).2=request
  /-- What follows is read as the request. -/
  requested : (readConnectRequest eof io (handleAuth io writing (sent chunks)).2).map Prod.fst=
    handleConnectRequest eof request

variable {eof io : Text} {writing : Option Text} {greeting : Greeting} {request : Bytes}

/-- What is read first is taken for the greeting. -/
theorem handleAuth_read {stream rest : List Chunk} {buf : Bytes}
    (h : read 258 stream=(some buf,rest)) :
    handleAuth io writing stream=(negotiate writing buf,rest) := by
  unfold handleAuth
  rw [h]

/-- A greeting that comes in one read is taken off the stream. -/
theorem handleAuth_greeting (others : List Bytes) :
    handleAuth io writing (sent (greeting.bytes::others))=
      (negotiate writing greeting.bytes,sent others) := by
  have hlength := greeting.length_bytes
  have hbounded := greeting.bounded
  have htake : greeting.bytes.take 258=greeting.bytes := List.take_of_length_le (by omega)
  refine handleAuth_read ?_
  change read 258 (.data greeting.bytes::sent others)=_
  rw [StreamCommands.read,htake,if_neg (by omega)]

/-- A handshake goes as if the greeting came alone exactly if the first read returns the greeting
and nothing else. -/
theorem handshake_undisturbed_iff (eof io : Text) (writing : Option Text) (greeting : Greeting)
    (request : Bytes) {chunks : List Bytes} (hne : ∀ chunk∈chunks,chunk≠[])
    (hcut : chunks.flatten=greeting.bytes++request) :
    Undisturbed eof io writing greeting request chunks ↔ chunks.head?=some greeting.bytes := by
  have hlength := greeting.length_bytes
  have hbounded := greeting.bounded
  constructor
  · intro h
    have hsome : chunks.flatten≠[] := by
      rw [hcut]
      exact List.append_ne_nil_of_left_ne_nil (List.cons_ne_nil _ _) _
    obtain ⟨rest,hread,_,hall⟩ := read_sent (show 0<258 by decide) hne hsome
    have hrest := h.consumed
    rw [handleAuth_read hread] at hrest
    dsimp only at hrest
    rw [hrest,hcut] at hall
    have hfirst := List.append_cancel_right hall
    cases chunks with
    | nil => exact absurd rfl hsome
    | cons chunk chunks =>
      change chunk.take 258=greeting.bytes at hfirst
      have htake := congrArg List.length hfirst
      rw [List.length_take] at htake
      rw [List.take_of_length_le (by omega)] at hfirst
      exact congrArg some hfirst
  · intro h
    cases chunks with
    | nil => cases h
    | cons chunk others =>
      obtain rfl : chunk=greeting.bytes := Option.some.inj h
      have hothers : others.flatten=request := List.append_cancel_left hcut
      have hcarries : Carries (sent others) request :=
        ⟨others,rfl,fun other hother => hne other (List.mem_cons_of_mem _ hother),hothers⟩
      refine ⟨?_,?_,?_⟩
      · rw [handleAuth_greeting,handleAuth_greeting]
      · rw [handleAuth_greeting]
        exact hcarries.relayed
      · rw [handleAuth_greeting]
        exact readConnectRequest_carries eof io hcarries

/-- The greeting of a client that offers no authentication. -/
def plainGreeting : Greeting := ⟨5,[0],by decide⟩

/-- A request for port 80 of the first node. -/
def plainRequest : Bytes := [5,1,0,3,14]++ascii "1.wispers.link"++[0,80]

/-- A request that is cut twice after a greeting of its own is read. -/
theorem handshake_undisturbed_iff_plain :
    (handleAuth [] none (sent [plainGreeting.bytes,plainRequest.take 3,plainRequest.drop 3])).1=
        ⟨[5,0],.ok ()⟩ ∧
      (readConnectRequest [] [] (handleAuth [] none
        (sent [plainGreeting.bytes,plainRequest.take 3,plainRequest.drop 3])).2).map Prod.fst=
          .ok ⟨"1.wispers.link".toList,80⟩ := by
  have h := (@handshake_undisturbed_iff [] [] none plainGreeting plainRequest
    [plainGreeting.bytes,plainRequest.take 3,plainRequest.drop 3] (by decide) (by decide)).mpr rfl
  exact ⟨h.answer.trans rfl,h.requested.trans (by decide +kernel)⟩

/-- A greeting that is cut is refused, and of a request that comes in the same read as the greeting
nothing is left. -/
theorem greeting_cut_or_run_over :
    (handleAuth [] none (sent [[5],[1,0],plainRequest])).1=
        malformed [] "auth request too short" [] ∧
      ¬Undisturbed [] [] none plainGreeting plainRequest [[5],[1,0],plainRequest] ∧
      (handleAuth [] none (sent [plainGreeting.bytes++plainRequest])).1=⟨[5,0],.ok ()⟩ ∧
      relayed (handleAuth [] none (sent [plainGreeting.bytes++plainRequest])).2=[] ∧
      (readConnectRequest [] [] (handleAuth [] none
        (sent [plainGreeting.bytes++plainRequest])).2).map Prod.fst=
          refuse "failed to read request header: " [] ∧
      ¬Undisturbed [] [] none plainGreeting plainRequest [plainGreeting.bytes++plainRequest] := by
  refine ⟨by decide,fun h => ?_,by decide,by decide,by decide,fun h => ?_⟩
  · have hconsumed := h.answer
    revert hconsumed
    decide
  · have hconsumed := h.consumed
    revert hconsumed
    decide

end Handshakes

end WispersConnect.SocksHandshake
