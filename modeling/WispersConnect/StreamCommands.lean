import WispersConnect.Messages
import WispersConnect.Utf8Text

/-!
# Commands on a stream

`serving.rs`, `proxy_common.rs` and `p2p.rs`: the first line on a stream is a
command, which the serving side answers with a line of its own before it relays.
Both sides read once into a buffer and take what they got for the whole line. What
arrives on a stream is a list of chunks; the surroundings decide where it is cut,
and whether the target of a command accepts a connection.
-/

namespace WispersConnect.StreamCommands

open Messages Utf8Text

/-- What arrives on a stream: some bytes, or a failure. The end of the stream reads as no bytes. -/
inductive Chunk where
  /-- Some bytes. -/
  | data (bytes : Bytes)
  /-- The stream failed. -/
  | failed
  deriving DecidableEq

/-- `read` into a buffer of some size: what it returns, `none` for an error, and what is left. -/
def read (size : ℕ) : List Chunk→Option Bytes×List Chunk
  | [] => (some [],[])
  | .failed::rest => (none,.failed::rest)
  | .data bytes::rest =>
    (some (bytes.take size),if size<bytes.length then .data (bytes.drop size)::rest else rest)

/-- What a relay loop passes on: all there is up to the end or a failure. -/
def relayed : List Chunk→Bytes
  | [] => []
  | .failed::_ => []
  | .data []::_ => []
  | .data (byte::bytes)::rest => byte::bytes++relayed rest

/-- The bytes of a text that the code writes or compares with. -/
def ascii (text : String) : Bytes := encode text.toList

/-- What follows the given bytes at the start of others. -/
def afterPrefix : Bytes→Bytes→Option Bytes
  | [],bytes => some bytes
  | _::_,[] => none
  | a::start,b::bytes => if a=b then afterPrefix start bytes else none

/-- `u16::from_str`: an optional plus, then decimal digits within range. -/
def parseU16 (text : Text) : Option UInt16 :=
  let digits := match text with
    | '+'::rest => rest
    | _ => text
  match parseDecimal digits with
  | none => none
  | some n => if n<65536 then some (UInt16.ofNat n) else none

/-- A `u16` in decimal. -/
def displayU16 (port : UInt16) : Text := displayDecimal port.toNat

section Serving

/-- `AllowedPorts`. -/
inductive AllowedPorts where
  /-- Every port. -/
  | all
  /-- The ports listed. -/
  | whitelist (ports : List UInt16)

/-- `is_allowed`. -/
def AllowedPorts.isAllowed (port : UInt16) : AllowedPorts→Bool
  | all => true
  | whitelist ports => ports.contains port

/-- What the serving side was started with. -/
structure Serving where
  /-- The ports it forwards to; none at all without the option. -/
  allowedPorts : Option AllowedPorts
  /-- Whether it connects to other hosts. -/
  allowEgress : Bool

/-- `parse_host_port`. -/
def parseHostPort (target : Text) : Option (Text×UInt16) :=
  match splitLast ':' target with
  | none => none
  | some (host,port) =>
    if host=[] then none
    else
      match parseU16 port with
      | none => none
      | some port => some (host,port)

/-- What the serving side does about a command. -/
inductive Reaction where
  /-- It writes an answer and finishes. -/
  | reply (text : Bytes)
  /-- It connects to a local port. -/
  | forward (port : UInt16)
  /-- It connects to another host. -/
  | connect (host : Text) (port : UInt16)
  deriving DecidableEq

/-- `handle_forward_stream` before it connects. -/
def handleForward (serving : Serving) (port : UInt16) : Reaction :=
  let allowed := match serving.allowedPorts with
    | none => false
    | some ports => ports.isAllowed port
  if allowed then .forward port else .reply (ascii "ERROR port not allowed\n")

/-- `handle_connect_stream` before it connects. -/
def handleConnect (serving : Serving) (target : Text) : Reaction :=
  if serving.allowEgress then
    match parseHostPort target with
    | none => .reply (ascii "ERROR invalid target format\n")
    | some (host,port) => .connect host port
  else .reply (ascii "ERROR egress not allowed\n")

/-- What `handle_quic_stream` does about a line. -/
def dispatch (serving : Serving) (line : Bytes) : Reaction :=
  if line=ascii "PING" then .reply (ascii "PONG\n")
  else
    match afterPrefix (ascii "FORWARD ") line with
    | some port =>
      match parseU16 (trim (fromUtf8Lossy port)) with
      | some port => handleForward serving port
      | none => .reply (ascii "ERROR invalid port\n")
    | none =>
      match afterPrefix (ascii "CONNECT ") line with
      | some target => handleConnect serving (trim (fromUtf8Lossy target))
      | none => .reply (ascii "ERROR unknown command\n")

/-- The first line of what was read. -/
def firstLine (data : Bytes) : Bytes := data.takeWhile (·≠10)

/-- Whether a connection that a reaction asks for comes about, or what the error says. -/
abbrev Dial := Reaction→Except Text Unit

/-- What came of a stream. -/
structure Served where
  /-- The line that was acted on. -/
  line : Bytes
  /-- What was written before any relaying. -/
  answer : Bytes
  /-- What was relayed to the target, if the connection came about. -/
  relayed : Option Bytes
  deriving DecidableEq

/-- What the serving side does once it knows what to do, with the rest of the stream. -/
def carryOut (dial : Dial) (line : Bytes) (rest : List Chunk) : Reaction→Served
  | .reply text => ⟨line,text,none⟩
  | reaction =>
    match dial reaction with
    | .ok () => ⟨line,ascii "OK\n",some (StreamCommands.relayed rest)⟩
    | .error e => ⟨line,ascii "ERROR "++encode e++ascii "\n",none⟩

/-- `handle_quic_stream`: one read into 1024 bytes. Nothing is done about a stream that
ends or fails before. -/
def handleQuicStream (serving : Serving) (dial : Dial) (stream : List Chunk) : Option Served :=
  match read 1024 stream with
  | (none,_) => none
  | (some [],_) => none
  | (some data,rest) =>
    let line := firstLine data
    some (carryOut dial line rest (dispatch serving line))

end Serving

section Client

/-- `CommandError`. -/
inductive CommandError where
  /-- The stream failed. -/
  | io
  /-- The serving side answered with an error. -/
  | rejected (message : Text)
  /-- The answer was something else. -/
  | protocol (response : Text)
  deriving DecidableEq

/-- What `send_command` makes of the answer it read. -/
def checkResponse (data : Bytes) : Except CommandError Unit :=
  let response := trim (fromUtf8Lossy data)
  match stripPrefix "ERROR ".toList response with
  | some message => .error (.rejected message)
  | none => if response="OK".toList then .ok () else .error (.protocol response)

/-- `send_command` once the command is written: one read into 256 bytes. -/
def sendCommand (stream : List Chunk) : Except CommandError Unit×List Chunk :=
  match read 256 stream with
  | (none,rest) => (.error .io,rest)
  | (some data,rest) => (checkResponse data,rest)

/-- How `handle_forward_connection` goes on. -/
inductive Forwarding where
  /-- It relays what follows. -/
  | relays (bytes : Bytes)
  /-- The remote side reported an error. -/
  | remoteError (message : Text)
  /-- The answer was something else. -/
  | unexpected (response : Text)
  /-- The stream failed. -/
  | failed
  deriving DecidableEq

/-- What `handle_forward_connection` makes of the answer it read. -/
def hear (data : Bytes) (rest : List Chunk) : Forwarding :=
  let response := trim (fromUtf8Lossy data)
  if response="OK".toList then .relays (relayed rest)
  else
    match stripPrefix "ERROR ".toList response with
    | some message => .remoteError message
    | none => .unexpected response

/-- `handle_forward_connection` once the command is written: one read into 256 bytes. -/
def handleForwardConnection (stream : List Chunk) : Forwarding :=
  match read 256 stream with
  | (none,_) => .failed
  | (some data,rest) => hear data rest

/-- How a command and its relay go on after `send_command`. -/
def commandForwarding (stream : List Chunk) : Forwarding :=
  match sendCommand stream with
  | (.ok (),rest) => .relays (relayed rest)
  | (.error (.rejected message),_) => .remoteError message
  | (.error (.protocol response),_) => .unexpected response
  | (.error .io,_) => .failed

end Client

end WispersConnect.StreamCommands
