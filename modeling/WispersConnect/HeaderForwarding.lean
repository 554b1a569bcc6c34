import WispersConnect.HttpHeads
import WispersConnect.ProxyRequests

/-!
# What becomes of a request's headers

`parse_request` takes the headers that concern the connection only out of a request
and `build_http_request` prints the rest. Which headers these are depends on what the
Connection header names, which nobody looks at; values are read as UTF-8 where
they are any bytes; and the path begins at the first slash, which need not come
before the query.
-/

namespace WispersConnect.HeaderForwarding

open Messages Utf8Text StreamCommands ProxyRequests HttpHeads

section Preserving

/-- A name without its case. -/
def lower (name : Text) : Text := name.map Char.toLower

/-- A header has a name. -/
def isNamed (name : String) (header : Text×Bytes) : Bool := decide (lower header.1=name.toList)

/-- A byte without its case. -/
def lowerByte (b : UInt8) : UInt8 := if 65≤b ∧ b≤90 then b+32 else b

/-- The members of a list in a header's value. -/
def listMembers (value : Bytes) : List Bytes :=
  (value.splitOn 44).map fun part => (trimSpace part).map lowerByte

/-- A Connection header names this header. -/
def nominated (headers : List (Text×Bytes)) (name : Text) : Bool :=
  headers.any fun header => isNamed "connection" header &&
    (listMembers header.2).any fun part => decide (part=encode (lower name))

/-- A header is for one connection only: by its name, or because a Connection header names it. -/
def isHopByHop (standard : Text→Bool) (headers : List (Text×Bytes)) (name : Text) : Bool :=
  standard (lower name) || nominated headers name

/-- What follows the scheme of an absolute URL. -/
def afterScheme (url : Text) : Text := (stripPrefix "http://".toList url).getD url

/-- A path and a query, with a slash before them if there is none. -/
def withSlash : Text→Text
  | '/'::rest => '/'::rest
  | rest => '/'::rest

/-- The path and the query of an absolute URL, with a slash for an empty path. -/
def originForm (url : Text) : Text :=
  withSlash ((afterScheme url).dropWhile fun c => c≠ '/' && c≠ '?')

/-- A request that arrives is the one that was sent: with the same request line in origin form,
the same end-to-end headers, a Host header where there was none, and `Connection: close`. -/
structure Preserved (standard : Text→Bool) (original arrived : Head) : Prop where
  /-- It has the same method. -/
  method : arrived.method=original.method
  /-- It has the path and the query of the URL. -/
  target : arrived.target=originForm original.target
  /-- It has the same version. -/
  version : arrived.version=original.version
  /-- It has one Connection header. -/
  connection : arrived.headers.filter (isNamed "connection")=[("Connection".toList,ascii "close")]
  /-- It has one Host header where there was none. -/
  host : original.headers.any (isNamed "host")=false →
    (arrived.headers.filter (isNamed "host")).length=1
  /-- Its other headers are the end-to-end headers. -/
  others : arrived.headers.filter (fun header => !isNamed "connection" header &&
      (original.headers.any (isNamed "host") || !isNamed "host" header))=
    original.headers.filter fun header => !isHopByHop standard original.headers header.1

/-- A header that the code keeps. -/
def isKept (header : Text×Bytes) : Bool := !isHopByHopHeader (lower header.1)

/-- A request whose headers can be forwarded as they are: the URL has no query before its path,
and each header that is kept is a text and concerns more than the connection. -/
structure Forwardable (standard : Text→Bool) (original : Head) : Prop where
  /-- A slash comes first. -/
  slash : '?'∉(afterScheme original.target).takeWhile (·≠ '/')
  /-- The headers that are kept are texts. -/
  text : ∀ header∈original.headers,isKept header=true → ∃ text,encode text=header.2
  /-- They are end-to-end headers. -/
  endToEnd : ∀ header∈original.headers,isKept header=true →
    isHopByHop standard original.headers header.1=false

end Preserving

section Parsing

/-- The head that the HTTP parser finds. -/
def parsedHead (L : HttpLibrary) (buf : Bytes) : Option Head :=
  match L.parse buf with
  | .ok (some found) => do
    let method ← found.method
    let path ← found.path
    let version ← found.version
    return ⟨method,path,version,found.headers⟩
  | _ => none

/-- What the HTTP parser and Unicode promise: a head that is found is well formed, and the lower
case of ASCII is that of its characters. -/
structure LawfulHttp (L : HttpLibrary) : Prop where
  /-- What is found is well formed. -/
  wellFormed : ∀ buf original,parsedHead L buf=some original → WellFormed original
  /-- ASCII characters are lowered one by one. -/
  toLowercase : ∀ text,(∀ c∈text,c.toNat<128) → L.toLowercase text=lower text

/-- The Host header that is added to a request which came without one. -/
def addedHost (original : Head) (target : ProxyTarget) : List (Text×Text) :=
  if original.headers.any (isNamed "host") then [] else [("Host".toList,hostHeader target.destination)]

/-- A header with its value as a text. -/
def asText (header : Text×Bytes) : Text×Text := (header.1,fromUtf8Lossy header.2)

/-- A header with its value as bytes. -/
def asBytes (header : Text×Text) : Text×Bytes := (header.1,encode header.2)

variable {L : HttpLibrary}

/-- Letters and digits are ASCII. -/
theorem alphanum_ascii {c : Char} (h : c.isAlphanum=true) : c.toNat<128 := by
  have hbound : ∀ last : UInt32,last.toNat<128 → c.val≤last → c.toNat<128 :=
    fun last hlast hle => lt_of_le_of_lt (UInt32.le_iff_toNat_le.mp hle) hlast
  rcases Bool.or_eq_true_iff.mp h with hletter|hdigit
  · rcases Bool.or_eq_true_iff.mp hletter with hupper|hlower
    · exact hbound 90 (by decide) (of_decide_eq_true hupper).2
    · exact hbound 122 (by decide) (of_decide_eq_true (Bool.and_eq_true_iff.mp hlower).2)
  · exact hbound 57 (by decide) (of_decide_eq_true (Bool.and_eq_true_iff.mp hdigit).2)

/-- Tokens are ASCII. -/
theorem token_ascii {text : Text} (h : IsToken text) : ∀ c∈text,c.toNat<128 := by
  have hspecial : "!#$%&'*+-.^_`|~".toList.all (fun c => c.toNat<128)=true := by decide
  intro c hc
  rcases Bool.or_eq_true_iff.mp (h.2 c hc) with halnum|hother
  · exact alphanum_ascii halnum
  · exact of_decide_eq_true (List.all_eq_true.mp hspecial c (List.contains_iff_mem.mp hother))

/-- A header that is not kept is not collected, and is not a Host header. -/
theorem collectHeader_dropped (hL : LawfulHttp L) {header : Text×Bytes} (hname : IsToken header.1)
    (h : isKept header=false) (collected : Collected) :
    (collectHeader L collected header).headers=collected.headers ∧
      (collectHeader L collected header).host=collected.host ∧ isNamed "host" header=false := by
  have hhop : isHopByHopHeader (lower header.1)=true := by
    unfold isKept at h
    simpa using h
  have hother : isNamed "host" header=false := by
    refine decide_eq_false fun hhost => ?_
    rw [hhost] at hhop
    revert hhop
    decide
  unfold collectHeader
  rw [hL.toLowercase header.1 (token_ascii hname)]
  dsimp only
  rw [if_pos hhop]
  split_ifs
  · exact ⟨rfl,rfl,hother⟩
  · exact ⟨rfl,rfl,hother⟩

/-- A header that is kept is collected as a text. -/
theorem collectHeader_kept (hL : LawfulHttp L) {header : Text×Bytes} (hname : IsToken header.1)
    (h : isKept header=true) (collected : Collected) :
    (collectHeader L collected header).headers=collected.headers++[asText header] ∧
      (collectHeader L collected header).host=(collected.host || isNamed "host" header) := by
  have hend : isHopByHopHeader (lower header.1)=false := by
    unfold isKept at h
    simpa using h
  have hconnection : lower header.1≠"connection".toList := by
    intro heq
    rw [heq] at hend
    revert hend
    decide
  unfold collectHeader
  rw [hL.toLowercase header.1 (token_ascii hname)]
  dsimp only
  rw [if_neg hconnection,if_neg (ne_true_of_eq_false hend)]
  exact ⟨rfl,rfl⟩

/-- What is collected of headers whose names are tokens: those that are kept, as texts, and
whether one of them is a Host header. -/
theorem foldl_collectHeader (hL : LawfulHttp L) {headers : List (Text×Bytes)}
    (hnames : ∀ header∈headers,IsToken header.1) (collected : Collected) :
    (headers.foldl (collectHeader L) collected).headers=
        collected.headers++(headers.filter isKept).map asText ∧
      (headers.foldl (collectHeader L) collected).host=
        (collected.host || headers.any (isNamed "host")) := by
  induction headers generalizing collected with
  | nil => exact ⟨(List.append_nil _).symm,(Bool.or_false _).symm⟩
  | cons header headers ih =>
    have hname := hnames header List.mem_cons_self
    obtain ⟨hheaders,hhost⟩ := ih (fun other hother => hnames other (List.mem_cons_of_mem _ hother))
      (collectHeader L collected header)
    rw [List.foldl_cons,List.any_cons,hheaders,hhost]
    cases hkept : isKept header with
    | false =>
      obtain ⟨hsame,hhosts,hother⟩ := collectHeader_dropped hL hname hkept collected
      rw [List.filter_cons_of_neg (ne_true_of_eq_false hkept),hsame,hhosts,hother]
      exact ⟨rfl,rfl⟩
    | true =>
      obtain ⟨hmore,hhosts⟩ := collectHeader_kept hL hname hkept collected
      rw [List.filter_cons_of_pos hkept,List.map_cons,hmore,hhosts,List.append_assoc,Bool.or_assoc]
      exact ⟨rfl,rfl⟩

/-- A CONNECT request is relayed. -/
theorem parseConnectTarget_mode {target : Text} {egressNode : Option Int32} {parsed : ProxyTarget}
    (h : parseConnectTarget target egressNode=.ok parsed) : parsed.mode=.tunnel := by
  unfold parseConnectTarget at h
  split at h
  · cases h
  · split at h
    · cases h
    · split at h
      · cases h
        rfl
      · cases h

/-- What is known of a request that is accepted in absolute form. -/
theorem parseRequest_absolute (hL : LawfulHttp L) {buf : Bytes} {egressNode : Option Int32}
    {request : ParsedRequest} {path : Text} (h : parseRequest L buf egressNode=.ok request)
    (hmode : request.target.mode=.httpRequest path) : ∃ original,parsedHead L buf=some original ∧
      parseProxyTarget original.target egressNode=.ok request.target ∧
      request.method=original.method ∧ request.version=original.version ∧
      request.headers=(original.headers.filter isKept).map asText++
        addedHost original request.target := by
  unfold parseRequest at h
  unfold parsedHead
  cases hfound : L.parse buf with
  | error e =>
    rw [hfound] at h
    cases h
  | ok found =>
    rw [hfound] at h
    cases found with
    | none => cases h
    | some found =>
      have hwell := hL.wellFormed buf
      unfold parsedHead at hwell
      rw [hfound] at hwell
      obtain ⟨method,target,version,headers⟩ := found
      rcases method with _|method
      · cases h
      rcases target with _|target
      · cases h
      rcases version with _|version
      · cases h
      have horiginal := hwell ⟨method,target,version,headers⟩ rfl
      refine ⟨⟨method,target,version,headers⟩,rfl,?_⟩
      dsimp only at h
      by_cases hconnect : method="CONNECT".toList
      · rw [if_pos hconnect] at h
        have htunnel := @parseConnectTarget_mode target egressNode
        cases hparsed : parseConnectTarget target egressNode with
        | error e =>
          rw [hparsed] at h
          cases h
        | ok parsed =>
          rw [hparsed] at h
          cases h
          rw [htunnel hparsed] at hmode
          cases hmode
      · rw [if_neg hconnect] at h
        cases hparsed : parseProxyTarget target egressNode with
        | error e =>
          rw [hparsed] at h
          cases h
        | ok parsed =>
          rw [hparsed] at h
          cases h
          have hnames : ∀ header∈headers,IsToken header.1 := fun header hmem =>
            (horiginal.2.2.2 header hmem).1
          obtain ⟨hheaders,hhost⟩ := foldl_collectHeader hL hnames ⟨[],version=1,false⟩
          refine ⟨rfl,rfl,rfl,?_⟩
          dsimp only at hmode ⊢
          rw [hheaders,hhost,hmode,Bool.false_or]
          unfold addedHost
          dsimp only
          cases headers.any (isNamed "host") with
          | true => exact (List.append_nil _).symm
          | false => rfl

/-- Numbers are visible. -/
theorem display_visible {n : ℕ} {c : Char} (h : c∈displayDecimal n) : isTargetChar c=true := by
  have hdigit := displayDecimal_digits h
  simp only [Char.isDigit,Bool.and_eq_true,decide_eq_true_eq] at hdigit
  have hlow := UInt32.le_iff_toNat_le.mp hdigit.1
  have hhigh := UInt32.le_iff_toNat_le.mp hdigit.2
  change 48 ≤ c.toNat at hlow
  change c.toNat ≤ 57 at hhigh
  unfold isTargetChar
  rw [decide_eq_true (by omega),decide_eq_true (by omega)]
  rfl

/-- What two visible texts make up is visible. -/
theorem visible_append {s t : Text} (hs : ∀ c∈s,isTargetChar c=true)
    (ht : ∀ c∈t,isTargetChar c=true) : ∀ c∈s++t,isTargetChar c=true := by
  intro c hc
  exact (List.mem_append.mp hc).elim (hs c) (ht c)

/-- A Host header that is added is visible if the host is. -/
theorem hostHeader_visible {host : Text} {egressNode : Option Int32} {forbidden : String}
    {port : UInt16} {destination : Destination} (hhost : ∀ c∈host,isTargetChar c=true)
    (h : destinationOf egressNode forbidden host port=.ok destination) :
    ∀ c∈hostHeader destination,isTargetChar c=true := by
  have hport : ∀ c∈displayU16 port,isTargetChar c=true := fun _ => display_visible
  have hcolon : isTargetChar ':'=true := by decide
  unfold destinationOf at h
  cases hnode : parseWispersHost host with
  | ok node =>
    rw [hnode] at h
    cases h
    have hnumber : ∀ c∈displayInt node,isTargetChar c=true := by
      unfold displayInt
      split_ifs with hneg
      · intro c hc
        rcases List.mem_cons.mp hc with rfl|hc
        · decide
        · exact display_visible hc
      · exact fun _ => display_visible
    unfold hostHeader
    dsimp only
    split_ifs with heighty
    · exact visible_append hnumber (List.all_eq_true.mp (by decide))
    · exact visible_append (visible_append hnumber (List.all_eq_true.mp (by decide))) hport
  | error e =>
    rw [hnode] at h
    cases e with
    | some e => cases h
    | none =>
      cases egressNode with
      | none => cases h
      | some egress =>
        cases h
        unfold hostHeader
        dsimp only
        split_ifs with heighty
        · exact hhost
        · refine visible_append hhost fun c hc => ?_
          rcases List.mem_cons.mp hc with rfl|hc
          · exact hcolon
          · exact hport c hc

/-- What follows the start of a visible text is visible. -/
theorem rest_visible {start text rest : Text} (h : ∀ c∈text,isTargetChar c=true)
    (hrest : stripPrefix start text=some rest) : ∀ c∈rest,isTargetChar c=true := by
  intro c hc
  refine h c ?_
  rw [stripPrefix_eq hrest]
  exact List.mem_append_right _ hc

/-- What is known of a URL that is accepted: where its path begins, and that the Host header for
it is visible. -/
theorem parseProxyTarget_path {url : Text} {egressNode : Option Int32} {target : ProxyTarget}
    {path : Text} (hurl : ∀ c∈url,isTargetChar c=true)
    (h : parseProxyTarget url egressNode=.ok target) (hmode : target.mode=.httpRequest path) :
    path=(if '/'∈afterScheme url then (afterScheme url).dropWhile (·≠ '/') else ['/']) ∧
      ∀ c∈hostHeader target.destination,isTargetChar c=true := by
  unfold parseProxyTarget at h
  unfold afterScheme
  cases hrest : stripPrefix "http://".toList url with
  | none =>
    rw [hrest] at h
    cases h
  | some rest =>
    rw [hrest] at h
    dsimp only at h
    have hhostPort : ∀ c∈rest.takeWhile (·≠ '/'),isTargetChar c=true := fun c hc =>
      rest_visible hurl hrest c ((List.takeWhile_prefix _).subset hc)
    cases hsplit : splitLast ':' (rest.takeWhile (·≠ '/')) with
    | none =>
      rw [hsplit] at h
      dsimp only at h
      split at h
      next destination hsent =>
        cases h
        cases hmode
        exact ⟨rfl,hostHeader_visible hhostPort hsent⟩
      next => cases h
    | some parts =>
      obtain ⟨host,portStr⟩ := parts
      rw [hsplit] at h
      dsimp only at h
      cases hport : parseU16 portStr with
      | none =>
        rw [hport] at h
        cases h
      | some port =>
        rw [hport] at h
        have hhost : ∀ c∈host,isTargetChar c=true := by
          intro c hc
          refine hhostPort c ?_
          rw [splitLast_eq hsplit]
          exact List.mem_append_left _ hc
        dsimp only at h
        split at h
        next destination hsent =>
          cases h
          cases hmode
          exact ⟨rfl,hostHeader_visible hhost hsent⟩
        next => cases h

end Parsing

section Printing

/-- The head that is sent for a request. -/
def sentHead (original : Head) (target : ProxyTarget) (path : Text) : Head where
  method := original.method
  target := path
  version := original.version
  headers := ((original.headers.filter isKept).map asText++addedHost original target).map asBytes++
    [("Connection".toList,ascii "close")]

/-- The bytes of header lines. -/
theorem encode_headers (headers : List (Text×Text)) :
    encode (headers.flatMap fun header => header.1++": ".toList++header.2++"\r\n".toList)=
      (headers.map asBytes).flatMap fun header => headerLine header++crlf := by
  induction headers with
  | nil => rfl
  | cons header headers ih =>
    rw [List.flatMap_cons,List.map_cons,List.flatMap_cons,encode_append,ih]
    congr 1
    rw [encode_append,encode_append,encode_append]
    unfold headerLine asBytes
    dsimp only
    rw [List.append_assoc (encode header.1)]
    rfl

/-- What is built for a request is the head that is sent, printed. -/
theorem buildHttpRequest_eq {request : ParsedRequest} {original : Head} (path : Text)
    (hmethod : request.method=original.method) (hversion : request.version=original.version)
    (hone : original.version ≤ 1)
    (hheaders : request.headers=(original.headers.filter isKept).map asText++
      addedHost original request.target) :
    buildHttpRequest request path=printHead (sentHead original request.target path) := by
  have hdisplay : "HTTP/1.".toList++displayDecimal original.version=
      "HTTP/".toList++(if original.version=0 then "1.0".toList else "1.1".toList) := by
    obtain hv|hv : original.version=0 ∨ original.version=1 := by omega
    · rw [hv]
      decide
    · rw [hv]
      decide
  have hspace : encodeChar ' '=[32] := rfl
  have hprotocol : encode " HTTP/".toList=32::encode "HTTP/".toList := rfl
  have hend : encode "\r\n".toList=crlf := rfl
  have hclose : encode "Connection: close\r\n".toList=
      [("Connection".toList,ascii "close")].flatMap fun header => headerLine header++crlf := rfl
  unfold buildHttpRequest printHead sentHead requestLine
  dsimp only
  rw [hmethod,hversion,hdisplay,←hheaders,List.flatMap_append]
  rw [encode_append _ "\r\n".toList,encode_append _ "Connection: close\r\n".toList,
    encode_append _ (request.headers.flatMap _),encode_headers]
  simp only [encode_append,encode_cons,List.append_assoc,List.cons_append]
  rw [hspace,hprotocol,hend,hclose]
  rfl

/-- A byte of ASCII is a character. -/
theorem encodeChar_ascii {b : UInt8} (h : b<128) : encodeChar (Char.ofNat b.toNat)=[b] := by
  have hall : ∀ n<128,encodeChar (Char.ofNat n)=[UInt8.ofNat n] := by decide +kernel
  have hb := hall b.toNat (UInt8.lt_iff_toNat_lt.mp h)
  rw [UInt8.ofNat_toNat] at hb
  exact hb

/-- The bytes of visible characters are visible. -/
theorem visible_byte {text : Text} (h : ∀ c∈text,isTargetChar c=true) {b : UInt8}
    (hb : b∈encode text) : isValueByte b=true ∧ isSpaceByte b=false := by
  have hall : ∀ n<256,(UInt8.ofNat n<128 → isTargetChar (Char.ofNat n)=true) →
      isValueByte (UInt8.ofNat n)=true ∧ isSpaceByte (UInt8.ofNat n)=false := by
    decide +kernel
  have hvisible := hall b.toNat b.toNat_lt
  rw [UInt8.ofNat_toNat] at hvisible
  exact hvisible fun hlow => h _ ((mem_encode (encodeChar_ascii hlow) text).mp hb)

/-- A visible text is a value. -/
theorem visible_value {text : Text} (h : ∀ c∈text,isTargetChar c=true) : IsValue (encode text) :=
  ⟨fun _ hb => (visible_byte h hb).1,
    fun _ hb => (visible_byte h (List.mem_of_mem_head? hb)).2,
    fun _ hb => (visible_byte h (List.mem_of_getLast? hb)).2⟩

/-- A value is still one when what is not UTF-8 in it is replaced. -/
theorem lossy_value {value : Bytes} (h : IsValue value) :
    IsValue (encode (fromUtf8Lossy value)) := by
  have hreplacement : ∀ b∈encodeChar replacement,isValueByte b=true ∧ isSpaceByte b=false := by
    have hall : (encodeChar replacement).all (fun b => isValueByte b && !isSpaceByte b)=true := by
      decide
    intro b hb
    simpa using List.all_eq_true.mp hall b hb
  obtain ⟨hbytes,hfirst,hlast⟩ := h
  refine ⟨fun b hb => ?_,fun b hb => ?_,fun b hb => ?_⟩
  · rcases mem_encode_fromUtf8Lossy hb with hmem|hmem
    · exact hbytes b hmem
    · exact (hreplacement b hmem).1
  · rcases head?_encode_fromUtf8Lossy value with hsame|hreplaced
    · exact hfirst b (hsame▸hb)
    · exact (hreplacement b (List.mem_of_mem_head? (hreplaced▸hb))).2
  · rcases getLast?_encode_fromUtf8Lossy value with hsame|hreplaced
    · exact hlast b (hsame▸hb)
    · exact (hreplacement b (List.mem_of_getLast? (hreplaced▸hb))).2

/-- The head that is sent for a well-formed request is well formed. -/
theorem sentHead_wellFormed {original : Head} {target : ProxyTarget} {path : Text}
    (h : WellFormed original) (hpath : path≠[] ∧ ∀ c∈path,isTargetChar c=true)
    (hhost : ∀ c∈hostHeader target.destination,isTargetChar c=true) :
    WellFormed (sentHead original target path) := by
  obtain ⟨hmethod,_,hversion,hheaders⟩ := h
  refine ⟨hmethod,hpath,hversion,fun header hmem => ?_⟩
  unfold sentHead at hmem
  rw [List.map_append,List.mem_append,List.mem_append] at hmem
  rcases hmem with (hkept|hadded)|hclose
  · rw [List.map_map] at hkept
    obtain ⟨other,hother,rfl⟩ := List.mem_map.mp hkept
    obtain ⟨hname,hvalue⟩ := hheaders other (List.mem_of_mem_filter hother)
    exact ⟨hname,lossy_value hvalue⟩
  · unfold addedHost at hadded
    split_ifs at hadded with hany
    · cases hadded
    · obtain rfl := List.mem_singleton.mp hadded
      have hname : IsToken "Host".toList := by decide
      exact ⟨hname,visible_value hhost⟩
  · obtain rfl := List.mem_singleton.mp hclose
    exact ⟨by decide,by decide⟩

end Printing

section Forwarding

/-- A slash is added where there is none. -/
theorem withSlash_cons {c : Char} (h : c≠ '/') (rest : Text) :
    withSlash (c::rest)= '/'::c::rest := by
  unfold withSlash
  split
  next heq => exact absurd (List.cons.inj heq).1 h
  next => rfl

/-- At most one slash is added. -/
theorem length_withSlash (text : Text) : (withSlash text).length ≤ text.length+1 := by
  unfold withSlash
  split
  next => exact Nat.le_succ _
  next => exact Nat.le_refl _

/-- The first character that is not dropped. -/
theorem head_dropWhile {p : Char→Bool} {text rest : Text} {c : Char}
    (h : text.dropWhile p=c::rest) : p c=false ∧ c∈text := by
  have hhead := List.head?_dropWhile_not p text
  rw [h] at hhead
  refine ⟨Bool.not_eq_true' _ |>.mp (by simpa using hhead),?_⟩
  refine (List.dropWhile_suffix p).subset ?_
  rw [h]
  exact List.mem_cons_self

/-- The path begins at the first slash. -/
theorem path_withSlash (rest : Text) : (if '/'∈rest then rest.dropWhile (·≠ '/') else ['/'])=
    withSlash (rest.dropWhile (·≠ '/')) := by
  cases hdrop : rest.dropWhile (·≠ '/') with
  | nil =>
    have hnone : '/'∉rest := by
      intro hmem
      have hkept := List.dropWhile_eq_nil_iff.mp hdrop _ hmem
      revert hkept
      decide
    rw [if_neg hnone]
    rfl
  | cons c after =>
    obtain ⟨hc,hmem⟩ := head_dropWhile hdrop
    obtain rfl : c= '/' := by simpa using hc
    rw [if_pos hmem]
    rfl

/-- No query comes before the path. -/
theorem dropWhile_path (rest : Text) :
    (rest.dropWhile (·≠ '/')).dropWhile (fun c => c≠ '/' && c≠ '?')=rest.dropWhile (·≠ '/') := by
  cases hdrop : rest.dropWhile (·≠ '/') with
  | nil => rfl
  | cons c after =>
    obtain rfl : c= '/' := by simpa using (head_dropWhile hdrop).1
    rfl

/-- The path that is sent is the one of the URL exactly if no query comes before it. -/
theorem path_originForm (url : Text) :
    (if '/'∈afterScheme url then (afterScheme url).dropWhile (·≠ '/') else ['/'])=originForm url ↔
      '?'∉(afterScheme url).takeWhile (·≠ '/') := by
  unfold originForm
  rw [path_withSlash]
  generalize afterScheme url=rest
  have hafter := dropWhile_path rest
  have hsplit := @List.takeWhile_append_dropWhile _ (fun c => decide (c≠ '/')) rest
  have hnoSlash : ∀ c∈rest.takeWhile (·≠ '/'),c≠ '/' := fun c hc => by
    have hkept := List.mem_takeWhile_imp hc
    exact of_decide_eq_true hkept
  generalize rest.takeWhile (·≠ '/')=before at hsplit hnoSlash ⊢
  generalize rest.dropWhile (·≠ '/')=after at hsplit hafter ⊢
  rw [←hsplit,List.dropWhile_append,hafter]
  cases hdrop : before.dropWhile fun c => c≠ '/' && c≠ '?' with
  | nil =>
    refine iff_of_true rfl fun hmem => ?_
    have hkept := List.dropWhile_eq_nil_iff.mp hdrop _ hmem
    revert hkept
    decide
  | cons c later =>
    obtain ⟨hc,hmem⟩ := head_dropWhile hdrop
    have hslash := hnoSlash c hmem
    have hquery : c= '?' := by simpa [hslash] using hc
    refine iff_of_false (fun heq => ?_) fun hnone => hnone (hquery▸hmem)
    have hlength := congrArg List.length heq
    have hbound := length_withSlash after
    rw [List.isEmpty_cons,if_neg Bool.false_ne_true,List.cons_append,
      withSlash_cons hslash] at hlength
    simp only [List.length_cons,List.length_append] at hlength
    omega

/-- What follows the scheme of a visible URL is visible. -/
theorem afterScheme_visible {url : Text} (h : ∀ c∈url,isTargetChar c=true) :
    ∀ c∈afterScheme url,isTargetChar c=true := by
  unfold afterScheme
  cases hrest : stripPrefix "http://".toList url with
  | none => exact h
  | some rest => exact rest_visible h hrest

/-- The path of a visible URL is a request target. -/
theorem path_visible {url : Text} (h : ∀ c∈url,isTargetChar c=true) :
    (if '/'∈afterScheme url then (afterScheme url).dropWhile (·≠ '/') else ['/'])≠[] ∧
      ∀ c∈(if '/'∈afterScheme url then (afterScheme url).dropWhile (·≠ '/') else ['/']),
        isTargetChar c=true := by
  split_ifs with hslash
  · refine ⟨fun hnil => ?_,fun c hc => afterScheme_visible h c ((List.dropWhile_suffix _).subset hc)⟩
    have hkept := List.dropWhile_eq_nil_iff.mp hnil _ hslash
    revert hkept
    decide
  · exact ⟨List.cons_ne_nil _ _,List.all_eq_true.mp (by decide)⟩

/-- A header that is kept is not a Connection header. -/
theorem kept_connection {header : Text×Bytes} (h : isKept header=true) :
    isNamed "connection" header=false := by
  refine decide_eq_false fun hname => ?_
  unfold isKept at h
  rw [hname] at h
  revert h
  decide

/-- The headers that are kept, as they are sent. -/
theorem sent_kept (original : Head) :
    ((original.headers.filter isKept).map asText).map asBytes=
      (original.headers.filter isKept).map fun header => asBytes (asText header) :=
  List.map_map

/-- Only one Connection header is sent. -/
theorem sentHead_connection (original : Head) (target : ProxyTarget) (path : Text) :
    (sentHead original target path).headers.filter (isNamed "connection")=
      [("Connection".toList,ascii "close")] := by
  have hkept : ((original.headers.filter isKept).map fun header =>
      asBytes (asText header)).filter (isNamed "connection")=[] := by
    refine List.filter_eq_nil_iff.mpr fun header hmem => ne_true_of_eq_false ?_
    obtain ⟨other,hother,rfl⟩ := List.mem_map.mp hmem
    exact kept_connection (List.mem_filter.mp hother).2
  have hadded : ((addedHost original target).map asBytes).filter (isNamed "connection")=[] := by
    unfold addedHost
    split_ifs <;> rfl
  unfold sentHead
  dsimp only
  rw [List.filter_append,List.map_append,List.filter_append,sent_kept,hkept,hadded]
  rfl

/-- A Host header is sent where there was none. -/
theorem sentHead_host {original : Head} (target : ProxyTarget) (path : Text)
    (h : original.headers.any (isNamed "host")=false) :
    ((sentHead original target path).headers.filter (isNamed "host")).length=1 := by
  have hkept : ((original.headers.filter isKept).map fun header =>
      asBytes (asText header)).filter (isNamed "host")=[] := by
    refine List.filter_eq_nil_iff.mpr fun header hmem => ne_true_of_eq_false ?_
    obtain ⟨other,hother,rfl⟩ := List.mem_map.mp hmem
    exact List.any_eq_false.mp h other (List.mem_of_mem_filter hother) |> eq_false_of_ne_true
  unfold sentHead addedHost
  dsimp only
  rw [h,List.filter_append,List.map_append,List.filter_append,sent_kept,hkept]
  rfl

/-- The other headers that are sent are those that are kept. -/
theorem sentHead_others (original : Head) (target : ProxyTarget) (path : Text) :
    (sentHead original target path).headers.filter (fun header => !isNamed "connection" header &&
        (original.headers.any (isNamed "host") || !isNamed "host" header))=
      (original.headers.filter isKept).map fun header => asBytes (asText header) := by
  unfold sentHead
  dsimp only
  rw [List.filter_append,List.map_append,List.filter_append,sent_kept]
  have hkept : ((original.headers.filter isKept).map fun header =>
      asBytes (asText header)).filter (fun header => !isNamed "connection" header &&
        (original.headers.any (isNamed "host") || !isNamed "host" header))=
      (original.headers.filter isKept).map fun header => asBytes (asText header) := by
    refine List.filter_eq_self.mpr fun header hmem => ?_
    obtain ⟨other,hother,rfl⟩ := List.mem_map.mp hmem
    obtain ⟨hmember,hkeep⟩ := List.mem_filter.mp hother
    have hconnection : isNamed "connection" (asBytes (asText other))=false := kept_connection hkeep
    have hname : isNamed "host" (asBytes (asText other))=isNamed "host" other := rfl
    rw [hconnection,hname]
    cases hhost : isNamed "host" other with
    | false => simp
    | true =>
      have hany := List.any_eq_true.mpr ⟨other,hmember,hhost⟩
      rw [hany]
      rfl
  have hadded : ((addedHost original target).map asBytes).filter (fun header =>
      !isNamed "connection" header &&
        (original.headers.any (isNamed "host") || !isNamed "host" header))=[] := by
    unfold addedHost
    split_ifs with hany
    · rfl
    · rw [eq_false_of_ne_true hany]
      rfl
  have hclose : [("Connection".toList,ascii "close")].filter (fun header =>
      !isNamed "connection" header &&
        (original.headers.any (isNamed "host") || !isNamed "host" header))=[] := rfl
  rw [hkept,hadded,hclose,List.append_nil,List.append_nil]

/-- What is kept is sent as the end-to-end headers exactly if it is texts, and concerns more than
the connection. -/
theorem kept_endToEnd {standard : Text→Bool}
    (hstandard : ∀ name,isHopByHopHeader name=true → standard name=true)
    (headers : List (Text×Bytes)) :
    ((headers.filter isKept).map fun header => asBytes (asText header))=
        headers.filter (fun header => !isHopByHop standard headers header.1) ↔
      (∀ header∈headers,isKept header=true → ∃ text,encode text=header.2) ∧
        ∀ header∈headers,isKept header=true → isHopByHop standard headers header.1=false := by
  have hends : headers.filter (fun header => !isHopByHop standard headers header.1)=
      (headers.filter isKept).filter fun header => !isHopByHop standard headers header.1 := by
    rw [List.filter_filter]
    refine List.filter_congr fun header _ => ?_
    cases hkept : isKept header with
    | true => rw [Bool.and_true]
    | false =>
      have hhop : isHopByHopHeader (lower header.1)=true := by
        unfold isKept at hkept
        simpa using hkept
      unfold isHopByHop
      rw [hstandard _ hhop]
      rfl
  rw [hends]
  constructor
  · intro heq
    have hlength := congrArg List.length heq
    rw [List.length_map] at hlength
    have hall := List.length_filter_eq_length_iff.mp hlength.symm
    rw [List.filter_eq_self.mpr hall] at heq
    have hsame : ∀ header∈headers.filter isKept,asBytes (asText header)=header :=
      List.map_inj_left.mp (heq.trans (List.map_id _).symm)
    refine ⟨fun header hmem hkept => ?_,fun header hmem hkept => ?_⟩
    · exact ⟨_,congrArg Prod.snd (hsame header (List.mem_filter.mpr ⟨hmem,hkept⟩))⟩
    · simpa using hall header (List.mem_filter.mpr ⟨hmem,hkept⟩)
  · rintro ⟨htext,hend⟩
    have hall : ∀ header∈headers.filter isKept,(!isHopByHop standard headers header.1)=true := by
      intro header hmem
      obtain ⟨hmember,hkept⟩ := List.mem_filter.mp hmem
      rw [hend header hmember hkept]
      rfl
    rw [List.filter_eq_self.mpr hall]
    refine (List.map_inj_left.mpr fun header hmem => ?_).trans (List.map_id _)
    obtain ⟨hmember,hkept⟩ := List.mem_filter.mp hmem
    exact Prod.ext rfl (encode_fromUtf8Lossy_eq.mpr (htext header hmember hkept))

/-- What is sent for a request is that request exactly if it can be forwarded as it is. -/
theorem sentHead_preserved {standard : Text→Bool}
    (hstandard : ∀ name,isHopByHopHeader name=true → standard name=true) {original : Head}
    (target : ProxyTarget) {path : Text} (hpath : path=if '/'∈afterScheme original.target then
      (afterScheme original.target).dropWhile (·≠ '/') else ['/']) :
    Preserved standard original (sentHead original target path) ↔ Forwardable standard original := by
  have hslash := path_originForm original.target
  rw [←hpath] at hslash
  have hheaders := kept_endToEnd hstandard original.headers
  rw [←sentHead_others original target path] at hheaders
  constructor
  · intro h
    obtain ⟨htext,hend⟩ := hheaders.mp h.others
    exact ⟨hslash.mp h.target,htext,hend⟩
  · intro h
    exact {
      method := rfl
      target := hslash.mpr h.slash
      version := rfl
      connection := sentHead_connection original target path
      host := sentHead_host target path
      others := hheaders.mpr ⟨h.text,h.endToEnd⟩}

/-- A request that is accepted in absolute form arrives as it was sent exactly if no query comes
before its path, and every header but those of the standard connection headers is a text and
concerns more than the connection. -/
theorem request_preserved_iff {L : HttpLibrary} (hL : LawfulHttp L) {standard : Text→Bool}
    (hstandard : ∀ name,isHopByHopHeader name=true → standard name=true) {buf : Bytes}
    {egressNode : Option Int32} {request : ParsedRequest} {path : Text}
    (h : parseRequest L buf egressNode=.ok request) (hmode : request.target.mode=.httpRequest path) :
    ∃ original,parsedHead L buf=some original ∧
      ((∃ arrived,parseHead (buildHttpRequest request path)=some arrived ∧
        Preserved standard original arrived) ↔ Forwardable standard original) := by
  obtain ⟨original,hfound,hparsed,hmethod,hversion,hheaders⟩ := parseRequest_absolute hL h hmode
  have hwell := hL.wellFormed buf original hfound
  obtain ⟨hpath,hhost⟩ := parseProxyTarget_path hwell.2.1.2 hparsed hmode
  have hvisible := path_visible hwell.2.1.2
  rw [←hpath] at hvisible
  have hbuilt := buildHttpRequest_eq path hmethod hversion hwell.2.2.1 hheaders
  have hread := parseHead_print (sentHead_wellFormed hwell hvisible hhost)
  rw [←hbuilt] at hread
  refine ⟨original,hfound,?_⟩
  rw [←sentHead_preserved hstandard request.target hpath]
  constructor
  · rintro ⟨arrived,harrived,hpreserved⟩
    rw [hread] at harrived
    obtain rfl := Option.some.inj harrived
    exact hpreserved
  · exact fun hpreserved => ⟨_,hread,hpreserved⟩

/-- An HTTP parser that reads heads as they are printed. -/
def plainLibrary : HttpLibrary where
  parse := fun buf =>
    match parseHead buf with
    | none => .ok none
    | some head => .ok (some ⟨some head.method,some head.target,some head.version,head.headers⟩)
  toLowercase := lower

/-- It finds what is read. -/
theorem plainLibrary_parse {buf : Bytes} {head : Head} (h : parseHead buf=some head) :
    plainLibrary.parse buf=
      .ok (some ⟨some head.method,some head.target,some head.version,head.headers⟩) := by
  unfold plainLibrary
  dsimp only
  rw [h]

/-- It finds nothing else. -/
theorem parsedHead_plain (buf : Bytes) : parsedHead plainLibrary buf=parseHead buf := by
  unfold parsedHead plainLibrary
  dsimp only
  cases parseHead buf with
  | none => rfl
  | some head => rfl

/-- It keeps what is promised. -/
theorem plainLibrary_lawful : LawfulHttp plainLibrary where
  wellFormed := fun buf _ h => parseHead_wellFormed ((parsedHead_plain buf).symm.trans h)
  toLowercase := fun _ _ => rfl

/-- A request with one header for the connection and one for the other side:
`GET http://1.wispers.link/a?b` with `Connection: keep-alive` and `Accept: text/html`. -/
def plainRequest : Head where
  method := "GET".toList
  target := "http://1.wispers.link/a?b".toList
  version := 1
  headers := [("Connection".toList,ascii "keep-alive"),("Accept".toList,ascii "text/html")]

/-- A request with a header that its Connection header names, and one that is not UTF-8:
`GET http://1.wispers.link/` with `Connection: X-Hop`, `X-Hop: 1` and `X-Name: caf` and a byte. -/
def namedRequest : Head where
  method := "GET".toList
  target := "http://1.wispers.link/".toList
  version := 1
  headers := [("Connection".toList,ascii "X-Hop"),("X-Hop".toList,ascii "1"),
    ("X-Name".toList,ascii "caf"++[0xE9])]

/-- A plain request arrives as it was sent. -/
theorem request_preserved_iff_plain :
    ∃ request arrived,parseRequest plainLibrary (printHead plainRequest) none=.ok request ∧
      parseHead (buildHttpRequest request "/a?b".toList)=some arrived ∧
      Preserved isHopByHopHeader plainRequest arrived := by
  have hread := parseHead_print (show WellFormed plainRequest by decide)
  have hrequest : parseRequest plainLibrary (printHead plainRequest) none=
      .ok ⟨⟨.wispersNode 1 80,.httpRequest "/a?b".toList⟩,"GET".toList,1,
        [("Accept".toList,"text/html".toList),("Host".toList,"1.wispers.link".toList)],true⟩ := by
    unfold parseRequest
    rw [plainLibrary_parse hread]
    rfl
  obtain ⟨original,horiginal,hiff⟩ :=
    request_preserved_iff plainLibrary_lawful (fun _ h => h) hrequest rfl
  rw [parsedHead_plain,hread] at horiginal
  obtain rfl := Option.some.inj horiginal
  have htext : ∀ header∈plainRequest.headers,encode (fromUtf8Lossy header.2)=header.2 := by
    decide +kernel
  obtain ⟨arrived,harrived,hpreserved⟩ :=
    hiff.mpr ⟨by decide,fun header hmem _ => ⟨_,htext header hmem⟩,by decide⟩
  exact ⟨_,arrived,hrequest,harrived,hpreserved⟩

/-- What `parse_request` makes of that. -/
def namedParsed : ParsedRequest where
  target := ⟨.wispersNode 1 80,.httpRequest "/".toList⟩
  method := "GET".toList
  version := 1
  headers := [("X-Hop".toList,"1".toList),("X-Name".toList,"caf\uFFFD".toList),
    ("Host".toList,"1.wispers.link".toList)]
  keepAlive := false

/-- A header that the Connection header names is sent, and a byte that is not UTF-8 is sent as a
replacement. -/
theorem named_header_forwarded :
    parseRequest plainLibrary (printHead namedRequest) none=.ok namedParsed ∧
      ∃ arrived,parseHead (buildHttpRequest namedParsed "/".toList)=some arrived ∧
        arrived.headers=[("X-Hop".toList,ascii "1"),
          ("X-Name".toList,ascii "caf"++[0xEF,0xBF,0xBD]),("Host".toList,ascii "1.wispers.link"),
          ("Connection".toList,ascii "close")] ∧
        ¬Preserved isHopByHopHeader namedRequest arrived := by
  have hread := parseHead_print (show WellFormed namedRequest by decide)
  have hbuilt : buildHttpRequest namedParsed "/".toList=
      printHead (sentHead namedRequest namedParsed.target "/".toList) :=
    buildHttpRequest_eq _ rfl rfl (by decide) rfl
  have hsent := parseHead_print
    (show WellFormed (sentHead namedRequest namedParsed.target "/".toList) by decide)
  rw [←hbuilt] at hsent
  refine ⟨?_,_,hsent,by decide +kernel,fun h => ?_⟩
  · unfold parseRequest
    rw [plainLibrary_parse hread]
    rfl
  · have hothers := h.others
    revert hothers
    decide +kernel

end Forwarding

end WispersConnect.HeaderForwarding
