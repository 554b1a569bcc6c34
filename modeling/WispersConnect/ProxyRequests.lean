import WispersConnect.PairingCodes
import WispersConnect.StreamCommands

/-!
# Requests to the proxies

`proxy_socks.rs`, `proxy_http.rs` and `proxy_common.rs`: how a SOCKS5 request or an
HTTP request is taken apart, and the command that the proxy writes for it. The HTTP
parser and the lower case of Unicode are parameters.
-/

namespace WispersConnect.ProxyRequests

open Messages Utf8Text PairingCodes StreamCommands

/-- `ProxyError`. -/
inductive ProxyError where
  /-- 400, a malformed request. -/
  | badRequest (message : Text)
  /-- 403, a host that needs an egress node. -/
  | forbidden (message : Text)
  /-- 502, the other side failed. -/
  | badGateway (message : Text)
  /-- 504, the other side took too long. -/
  | gatewayTimeout (message : Text)
  deriving DecidableEq

/-- `status_code`. -/
def ProxyError.statusCode : ProxyError→ℕ
  | badRequest _ => 400
  | forbidden _ => 403
  | badGateway _ => 502
  | gatewayTimeout _ => 504

/-- The message of an error. -/
def ProxyError.display : ProxyError→Text
  | badRequest message | forbidden message | badGateway message | gatewayTimeout message => message

/-- An `i32` in decimal. -/
def displayInt (n : Int32) : Text :=
  if n.toInt<0 then '-'::displayDecimal n.toInt.natAbs else displayDecimal n.toInt.natAbs

/-- `parse_wispers_host`: the node that a host names; an error without a message for any
other host. -/
def parseWispersHost (host : Text) : Except (Option ProxyError) Int32 :=
  match stripSuffix ".wispers.link".toList host with
  | none => .error none
  | some node =>
    match parseI32 (encode node) with
    | none =>
      .error (some (.badRequest ("invalid node number in hostname: ".toList++node)))
    | some number =>
      if number≤0 then
        .error (some (.badRequest ("node number must be positive, got: ".toList++displayInt number)))
      else .ok number

/-- Where a connection should go. -/
inductive Destination where
  /-- To a port of a node. -/
  | wispersNode (nodeNumber : Int32) (port : UInt16)
  /-- To an internet host, through the egress node. -/
  | internet (host : Text) (port : UInt16)
  deriving DecidableEq

/-- The line that asks a node to forward to one of its ports. -/
def forwardCommand (port : UInt16) : Bytes :=
  encode ("FORWARD ".toList++displayU16 port++['\n'])

/-- The line that asks a node to connect to a host. -/
def connectCommand (host : Text) (port : UInt16) : Bytes :=
  encode ("CONNECT ".toList++(host++ ':'::displayU16 port)++['\n'])

/-- What a proxy asks of which node, and on whose behalf. -/
structure Sending where
  /-- Where the connection should go. -/
  destination : Destination
  /-- The node that is asked. -/
  node : Int32
  /-- The line it is sent. -/
  command : Bytes
  deriving DecidableEq

section Socks

/-- `ConnectRequest`. -/
structure ConnectRequest where
  /-- The host or address. -/
  host : Text
  /-- The port. -/
  port : UInt16
  deriving DecidableEq

/-- Why a SOCKS5 request is refused: the reply code sent, if any, and the error. -/
abbrev Refusal := Option UInt8×ProxyError

/-- The 16-bit segments of an address. -/
def segments : Bytes→List ℕ
  | high::low::rest => (high.toNat*256+low.toNat)::segments rest
  | _ => []

/-- The longest run of zero segments found so far, and the one at the end, each by its
start and length. -/
def zeroRuns : ℕ→ℕ×ℕ→ℕ×ℕ→List ℕ→ℕ×ℕ
  | _,longest,_,[] => longest
  | i,longest,current,segment::rest =>
    if segment=0 then
      let current := if current.2=0 then (i,1) else (current.1,current.2+1)
      zeroRuns (i+1) (if longest.2<current.2 then current else longest) current rest
    else zeroRuns (i+1) longest (0,0) rest

/-- Segments in hexadecimal with colons between them. -/
def displaySegments : List ℕ→Text
  | [] => []
  | [segment] => Nat.toDigits 16 segment
  | segment::rest => Nat.toDigits 16 segment++ ':'::displaySegments rest

/-- An IPv4 address. -/
def displayIpv4 (a b c d : UInt8) : Text :=
  displayDecimal a.toNat++ '.'::displayDecimal b.toNat++ '.'::displayDecimal c.toNat++
    '.'::displayDecimal d.toNat

/-- `Ipv6Addr::to_string`: the first of the longest runs of at least two zero segments is
left out; a mapped IPv4 address is shown as such. -/
def displayIpv6 (address : Bytes) : Text :=
  match address with
  | [0,0,0,0,0,0,0,0,0,0,255,255,a,b,c,d] => "::ffff:".toList++displayIpv4 a b c d
  | _ =>
    let parts := segments address
    let (start,length) := zeroRuns 0 (0,0) (0,0) parts
    if 1<length then
      displaySegments (parts.take start)++"::".toList++displaySegments (parts.drop (start+length))
    else displaySegments parts

/-- A refusal without a reply. -/
def refuse {α : Type} (message : String) (detail : Text) : Except Refusal α :=
  .error (none,.badRequest (message.toList++detail))

/-- The destination address of a SOCKS5 request, by its type; `eof` is the text of the
error of a stream that ends early. -/
def readHost (eof : Text) (atyp : UInt8) (input : Bytes) : Except Refusal (Text×Bytes) :=
  if atyp=1 then
    match input with
    | a::b::c::d::rest => .ok (displayIpv4 a b c d,rest)
    | _ => refuse "failed to read IPv4 address: " eof
  else if atyp=3 then
    match input with
    | [] => refuse "failed to read domain length: " eof
    | len::rest =>
      if rest.length<len.toNat then refuse "failed to read domain: " eof
      else
        match fromUtf8 (rest.take len.toNat) with
        | none => refuse "invalid domain name encoding" []
        | some host => .ok (host,rest.drop len.toNat)
  else if atyp=4 then
    if input.length<16 then refuse "failed to read IPv6 address: " eof
    else .ok (displayIpv6 (input.take 16),input.drop 16)
  else
    .error (some 8,.badRequest ("unsupported address type: ".toList++displayDecimal atyp.toNat))

/-- `handle_connect_request`. -/
def handleConnectRequest (eof : Text) (input : Bytes) : Except Refusal ConnectRequest :=
  match input with
  | version::cmd::_::atyp::input =>
    if version≠5 then refuse "unsupported SOCKS version: " (displayDecimal version.toNat)
    else if cmd≠1 then
      .error (some 7,.badRequest ("unsupported command: ".toList++displayDecimal cmd.toNat))
    else
      match readHost eof atyp input with
      | .error e => .error e
      | .ok (host,high::low::_) => .ok ⟨host,UInt16.ofNat (high.toNat*256+low.toNat)⟩
      | .ok (_,_) => refuse "failed to read port: " eof
  | _ => refuse "failed to read request header: " eof

/-- `route_connection`, up to the command: refused with a reply code, or sent. -/
def routeConnection (egressNode : Option Int32) (request : ConnectRequest) : Except UInt8 Sending :=
  match parseWispersHost request.host with
  | .ok node => .ok ⟨.wispersNode node request.port,node,forwardCommand request.port⟩
  | .error none =>
    match egressNode with
    | some egress =>
      .ok ⟨.internet request.host request.port,egress,connectCommand request.host request.port⟩
    | none => .error 2
  | .error (some _) => .error 1

end Socks

section Http

/-- `ProxyMode`. -/
inductive ProxyMode where
  /-- Forward a request for a path. -/
  | httpRequest (path : Text)
  /-- Relay both ways. -/
  | tunnel
  deriving DecidableEq

/-- `ProxyTarget`. -/
structure ProxyTarget where
  /-- Where the connection should go. -/
  destination : Destination
  /-- How it is handled. -/
  mode : ProxyMode
  deriving DecidableEq

/-- What the HTTP parser found: `httparse::Request`. -/
structure HttpHead where
  /-- The method. -/
  method : Option Text
  /-- The request target. -/
  path : Option Text
  /-- The minor version. -/
  version : Option ℕ
  /-- Names and values of the headers. -/
  headers : List (Text×Bytes)

/-- What is used of `httparse` and of Unicode. -/
structure HttpLibrary where
  /-- `Request::parse`: an error with its text, nothing yet, or a complete head. -/
  parse : Bytes→Except Text (Option HttpHead)
  /-- `to_lowercase`. -/
  toLowercase : Text→Text

/-- `parse_wispers_host` as both kinds of HTTP request use it. -/
def destinationOf (egressNode : Option Int32) (forbidden : String) (host : Text) (port : UInt16) :
    Except ProxyError Destination :=
  match parseWispersHost host with
  | .ok node => .ok (.wispersNode node port)
  | .error none =>
    match egressNode with
    | some _ => .ok (.internet host port)
    | none => .error (.forbidden (forbidden.toList++host))
  | .error (some e) => .error e

/-- `parse_connect_target`. -/
def parseConnectTarget (target : Text) (egressNode : Option Int32) : Except ProxyError ProxyTarget :=
  match splitLast ':' target with
  | none => .error (.badRequest "CONNECT target must be host:port".toList)
  | some (host,portStr) =>
    match parseU16 portStr with
    | none => .error (.badRequest ("invalid port in CONNECT: ".toList++portStr))
    | some port =>
      match destinationOf egressNode
          "CONNECT to non-wispers.link hosts requires --egress-node, got: " host port with
      | .ok destination => .ok ⟨destination,.tunnel⟩
      | .error e => .error e

/-- `parse_proxy_target`. -/
def parseProxyTarget (url : Text) (egressNode : Option Int32) : Except ProxyError ProxyTarget :=
  match stripPrefix "http://".toList url with
  | none => .error (.badRequest "proxy requests must use absolute URLs (http://...)".toList)
  | some rest =>
    let hostPort := rest.takeWhile (·≠ '/')
    let path := if '/'∈rest then rest.dropWhile (·≠ '/') else ['/']
    let authority : Except ProxyError (Text×UInt16) :=
      match splitLast ':' hostPort with
      | none => .ok (hostPort,80)
      | some (host,portStr) =>
        match parseU16 portStr with
        | none => .error (.badRequest ("invalid port: ".toList++portStr))
        | some port => .ok (host,port)
    match authority with
    | .error e => .error e
    | .ok (host,port) =>
      match destinationOf egressNode
          "only *.wispers.link hosts are allowed without --egress-node, got: " host port with
      | .ok destination => .ok ⟨destination,.httpRequest path⟩
      | .error e => .error e

/-- `is_hop_by_hop_header`. -/
def isHopByHopHeader (name : Text) : Bool :=
  ["connection","keep-alive","proxy-authenticate","proxy-authorization","te","trailers",
    "transfer-encoding","upgrade"].any fun header => name=header.toList

/-- `ParsedRequest`. -/
structure ParsedRequest where
  /-- Where it goes. -/
  target : ProxyTarget
  /-- The method. -/
  method : Text
  /-- The minor version. -/
  version : ℕ
  /-- The headers to forward. -/
  headers : List (Text×Text)
  /-- Whether another request may follow. -/
  keepAlive : Bool
  deriving DecidableEq

/-- Whether a text occurs in another. -/
def contains (part text : Text) : Bool := text.tails.any fun tail => part.isPrefixOf tail

/-- The headers collected so far, the keep-alive flag and whether there was a host header. -/
structure Collected where
  /-- The headers. -/
  headers : List (Text×Text)
  /-- The flag. -/
  keepAlive : Bool
  /-- There was a host header. -/
  host : Bool

/-- One header of a request. -/
def collectHeader (L : HttpLibrary) (collected : Collected) (header : Text×Bytes) : Collected :=
  let name := L.toLowercase header.1
  let value := fromUtf8Lossy header.2
  if name="connection".toList then
    {collected with keepAlive := contains "keep-alive".toList (L.toLowercase value)}
  else if isHopByHopHeader name then collected
  else {collected with
    headers := collected.headers++[(header.1,value)]
    host := collected.host || name="host".toList}

/-- The host header of a request that came without one. -/
def hostHeader : Destination→Text
  | .wispersNode node port =>
    if port=80 then displayInt node++".wispers.link".toList
    else displayInt node++".wispers.link:".toList++displayU16 port
  | .internet host port => if port=80 then host else host++ ':'::displayU16 port

/-- `parse_request`. -/
def parseRequest (L : HttpLibrary) (buf : Bytes) (egressNode : Option Int32) :
    Except ProxyError ParsedRequest :=
  match L.parse buf with
  | .error e => .error (.badRequest ("failed to parse HTTP request: ".toList++e))
  | .ok none => .error (.badRequest "incomplete HTTP request".toList)
  | .ok (some head) =>
    match head.method,head.path,head.version with
    | none,_,_ => .error (.badRequest "missing method".toList)
    | some _,none,_ => .error (.badRequest "missing path".toList)
    | some _,some _,none => .error (.badRequest "missing version".toList)
    | some method,some path,some version =>
      if method="CONNECT".toList then
        match parseConnectTarget path egressNode with
        | .error e => .error e
        | .ok target => .ok ⟨target,method,version,[],false⟩
      else
        match parseProxyTarget path egressNode with
        | .error e => .error e
        | .ok target =>
          let collected := head.headers.foldl (collectHeader L) ⟨[],version=1,false⟩
          let headers :=
            match collected.host,target.mode with
            | false,.httpRequest _ =>
              collected.headers++[("Host".toList,hostHeader target.destination)]
            | _,_ => collected.headers
          .ok ⟨target,method,version,headers,collected.keepAlive⟩

/-- The node and the command for a parsed request. -/
def requestSending (egressNode : Option Int32) (request : ParsedRequest) : Option Sending :=
  match request.target.destination with
  | .wispersNode node port => some ⟨.wispersNode node port,node,forwardCommand port⟩
  | .internet host port =>
    egressNode.map fun egress => ⟨.internet host port,egress,connectCommand host port⟩

/-- `build_http_request`. -/
def buildHttpRequest (request : ParsedRequest) (path : Text) : Bytes :=
  let version := if request.version=0 then "1.0".toList else "1.1".toList
  encode (request.method++ ' '::path++" HTTP/".toList++version++"\r\n".toList++
    request.headers.flatMap (fun header => header.1++": ".toList++header.2++"\r\n".toList)++
    "Connection: close\r\n".toList++"\r\n".toList)

end Http

end WispersConnect.ProxyRequests
