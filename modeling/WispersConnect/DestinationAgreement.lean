import WispersConnect.CommandFraming
import WispersConnect.ProxyRequests

/-!
# Proxy and serving side on a destination

A proxy puts the host of a request between `CONNECT` and a colon, and the serving
side takes its command from what comes before the first newline, trims it and splits
it at the last colon. Both mean the same destination unless the host brings a newline
or white space at its start, or makes the line longer than the serving side's buffer.
-/

namespace WispersConnect.DestinationAgreement

open Messages Utf8Text StreamCommands CommandFraming ProxyRequests

section Lines

/-- What follows a start that some bytes have. -/
theorem afterPrefix_append (start bytes : Bytes) : afterPrefix start (start++bytes)=some bytes := by
  induction start with
  | nil => rfl
  | cons byte start ih =>
    change (if byte=byte then afterPrefix start (start++bytes) else none)=some bytes
    rw [if_pos rfl,ih]

/-- The first line of a text's bytes is the text up to its first newline. -/
theorem firstLine_encode (text : Text) (rest : Bytes) :
    firstLine (encode text++10::rest)=encode (text.takeWhile (·≠ '\n')) := by
  have hnewline : encodeChar '\n'=[10] := rfl
  induction text with
  | nil => rfl
  | cons c text ih =>
    by_cases hc : c= '\n'
    · subst hc
      rfl
    · have hbytes : ∀ byte∈encodeChar c,(decide (byte≠10))=true := by
        intro byte hbyte
        refine decide_eq_true fun he => hc ?_
        rw [he] at hbyte
        exact (mem_encodeChar hnewline).mp hbyte
      have hkeep : (decide (c≠ '\n'))=true := decide_eq_true hc
      rw [List.takeWhile_cons_of_pos (p:=fun x => decide (x≠ '\n')) hkeep,encode_cons,encode_cons,
        List.append_assoc]
      unfold firstLine at ih ⊢
      rw [List.takeWhile_append_of_pos hbytes,ih]

/-- What is trimmed does not start with white space. -/
theorem trim_head {text : Text} {c : Char} (h : (trim text).head?=some c) : isWhitespace c=false := by
  have hstart : trim text <+: text.dropWhile isWhitespace := List.rdropWhile_prefix _ _
  obtain ⟨rest,hrest⟩ := hstart
  cases htrim : trim text with
  | nil =>
    rw [htrim] at h
    cases h
  | cons d tail =>
    rw [htrim] at h hrest
    obtain rfl := Option.some.inj h
    have hne : text.dropWhile isWhitespace≠[] := by
      rw [←hrest]
      exact List.cons_ne_nil _ _
    have hhead := List.head_dropWhile_not isWhitespace hne
    simp only [←hrest,List.cons_append,List.head_cons] at hhead
    exact hhead

/-- A digit is neither a newline, nor a colon, nor white space. -/
theorem digit_ordinary {c : Char} (h : c.isDigit=true) :
    c≠ '\n' ∧ c≠ ':' ∧ c≠ '+' ∧ isWhitespace c=false := by
  have hlow : 48≤c.toNat ∧ c.toNat≤57 := by
    simp only [Char.isDigit,Bool.and_eq_true,decide_eq_true_eq] at h
    exact h
  refine ⟨?_,?_,?_,?_⟩
  · rintro rfl
    cases h
  · rintro rfl
    cases h
  · rintro rfl
    cases h
  · unfold isWhitespace
    simp only [Bool.or_eq_false_iff,Bool.and_eq_false_iff,decide_eq_false_iff_not]
    omega

/-- A port of a number that fits. -/
def toPort (n : ℕ) : Option UInt16 := if n<65536 then some (UInt16.ofNat n) else none

/-- A port is read after a plus. -/
theorem parseU16_plus (digits : Text) :
    parseU16 ('+'::digits)=(parseDecimal digits).bind toPort := by
  simp only [parseU16]
  cases parseDecimal digits <;> rfl

/-- A port is read without a plus. -/
theorem parseU16_plain {text : Text} (h : text.head?≠some '+') :
    parseU16 text=(parseDecimal text).bind toPort := by
  unfold parseU16
  split
  next => exact absurd rfl h
  next =>
    dsimp only
    cases parseDecimal text <;> rfl

/-- The digits of a port stand for it. -/
theorem bind_toPort_eq_some {digits : Text} {port : UInt16} :
    (parseDecimal digits).bind toPort=some port ↔
      digits≠[] ∧ (∀ c∈digits,c.isDigit=true) ∧ Nat.ofDigitChars 10 digits 0=port.toNat := by
  rw [←parseDecimal_eq_some]
  cases parseDecimal digits with
  | none => simp
  | some n =>
    have hbound := port.toNat_lt
    unfold toPort
    rw [Option.bind_some,Option.some.injEq]
    constructor
    · intro h
      split_ifs at h with hn
      cases h
      exact (UInt16.toNat_ofNat_of_lt hn).symm
    · rintro rfl
      rw [if_pos hbound,UInt16.ofNat_toNat]

/-- A port is read from its digits, perhaps after a plus. -/
theorem parseU16_eq_some {text : Text} {port : UInt16} : parseU16 text=some port ↔
    ∃ sign digits,text=sign++digits ∧ (sign=[] ∨ sign=['+']) ∧ digits≠[] ∧
      (∀ c∈digits,c.isDigit=true) ∧ Nat.ofDigitChars 10 digits 0=port.toNat := by
  constructor
  · intro h
    by_cases hplus : text.head?=some '+'
    · obtain ⟨digits,rfl⟩ := List.head?_eq_some_iff.mp hplus
      rw [parseU16_plus] at h
      exact ⟨['+'],digits,rfl,.inr rfl,bind_toPort_eq_some.mp h⟩
    · rw [parseU16_plain hplus] at h
      exact ⟨[],text,rfl,.inl rfl,bind_toPort_eq_some.mp h⟩
  · rintro ⟨sign,digits,rfl,rfl|rfl,hne,hdigits,hvalue⟩
    · have hplus : digits.head?≠some '+' := fun hhead =>
        absurd (hdigits '+' (List.mem_of_head? hhead)) (by decide)
      rw [List.nil_append,parseU16_plain hplus]
      exact bind_toPort_eq_some.mpr ⟨hne,hdigits,hvalue⟩
    · rw [List.singleton_append,parseU16_plus]
      exact bind_toPort_eq_some.mpr ⟨hne,hdigits,hvalue⟩

/-- A port is read back from its decimal digits. -/
theorem parseU16_displayU16 (port : UInt16) : parseU16 (displayU16 port)=some port := by
  obtain ⟨hne,hdigits,hvalue⟩ :=
    parseDecimal_eq_some.mp (parseDecimal_displayDecimal port.toNat)
  exact parseU16_eq_some.mpr ⟨[],displayU16 port,rfl,.inl rfl,hne,hdigits,hvalue⟩

/-- A host and a port that follow each other with a colon between are read back. -/
theorem parseHostPort_append {host : Text} (hne : host≠[]) (port : UInt16) :
    parseHostPort (host++ ':'::displayU16 port)=some (host,port) := by
  have hcolon : ':'∉displayU16 port := fun hmem =>
    (digit_ordinary (displayDecimal_digits hmem)).2.1 rfl
  unfold parseHostPort
  rw [splitLast_append hcolon]
  dsimp only
  rw [if_neg hne,parseU16_displayU16]

/-- No host is read from a port with a colon before it. -/
theorem parseHostPort_nil (port : UInt16) : parseHostPort ([]++ ':'::displayU16 port)=none := by
  have hcolon : ':'∉displayU16 port := fun hmem =>
    (digit_ordinary (displayDecimal_digits hmem)).2.1 rfl
  unfold parseHostPort
  rw [splitLast_append hcolon]
  rfl

end Lines

section Agreement

/-- What the serving side does when it takes a destination as it was meant. -/
def meant : Destination→Reaction
  | .wispersNode _ port => .forward port
  | .internet host port => .connect host port

/-- A line that is received whole is refused, or it is taken as it was meant and nothing of
it is left to be relayed. -/
def Agrees (serving : Serving) (sending : Sending) : Prop :=
  ∃ first rest,read 1024 [.data sending.command]=(some first,rest) ∧
    ((∃ text,dispatch serving (firstLine first)=.reply (ascii "ERROR "++text)) ∨
      (dispatch serving (firstLine first)=meant sending.destination ∧ relayed rest=[]))

/-- The target that the serving side finds on a line: what comes after `CONNECT`, before the
first newline and within its buffer, trimmed. -/
def foundTarget (command : Bytes) : Text :=
  trim (fromUtf8Lossy (firstLine ((command.take 1024).drop 8)))

/-- A host that passes through a command: it has no newline, does not start with white space
and leaves the line within the serving side's buffer. -/
structure PlainHost (host : Text) (port : UInt16) : Prop where
  /-- There is no newline. -/
  newline : '\n'∉host
  /-- It does not start with white space. -/
  start : ∀ c,host.head?=some c → isWhitespace c=false
  /-- The line fits. -/
  fits : (connectCommand host port).length ≤ 1024

/-- The destinations on which both sides agree: all of a node's ports; and an internet host
if the serving side connects to none, or the host is plain, or what is found in its place is
no host with a port. -/
def Agreeable (serving : Serving) : Destination→Prop
  | .wispersNode _ _ => True
  | .internet host port => serving.allowEgress=false ∨ PlainHost host port ∨
      parseHostPort (foundTarget (connectCommand host port))=none

/-- What is read of a line, and what is left of it. -/
theorem read_line (command : Bytes) :
    ∃ rest,read 1024 [.data command]=(some (command.take 1024),rest) ∧
      (relayed rest=[] ↔ command.length ≤ 1024) := by
  refine ⟨_,rfl,?_⟩
  split_ifs with hlong
  · refine ⟨fun hnone => ?_,fun hfits => by omega⟩
    cases hdrop : command.drop 1024 with
    | nil => exact List.drop_eq_nil_iff.mp hdrop
    | cons byte bytes =>
      rw [hdrop] at hnone
      cases hnone
  · exact ⟨fun _ => by omega,fun _ => rfl⟩

/-- A port's digits end a text that is not trimmed there. -/
theorem getLast_port {before : Text} {port : UInt16} {c : Char}
    (h : (before++displayU16 port).getLast?=some c) : isWhitespace c=false := by
  have hne : displayU16 port≠[] := displayDecimal_ne_nil port.toNat
  rw [List.getLast?_append_of_ne_nil before hne] at h
  exact (digit_ordinary (displayDecimal_digits (List.mem_of_getLast? h))).2.2.2

/-- A port has no newline. -/
theorem newline_port (port : UInt16) : '\n'∉displayU16 port := fun hmem =>
  (digit_ordinary (displayDecimal_digits hmem)).1 rfl

/-- The digits of a port have at most five bytes. -/
theorem length_port (port : UInt16) : (encode (displayU16 port)).length≤5 := by
  have hlt := port.toNat_lt
  have hdigits : (displayDecimal port.toNat).length≤5 :=
    (Nat.length_toDigits_le_iff (by decide) (by decide)).mpr (by omega)
  have hbytes := length_encode_digits fun c (hc : c∈displayDecimal port.toNat) =>
    displayDecimal_digits hc
  exact hbytes.trans_le hdigits

/-- The first line of a text and a newline, if the text has none. -/
theorem firstLine_text {text : Text} (h : '\n'∉text) : firstLine (encode (text++['\n']))=encode text := by
  rw [encode_append]
  refine (firstLine_encode text []).trans ?_
  have hall : ∀ c∈text,(decide (c≠ '\n'))=true := fun c hc => decide_eq_true fun he => h (he ▸ hc)
  rw [List.takeWhile_eq_self_iff.mpr hall]

/-- What is done about a line that starts with `FORWARD` and has a port. -/
theorem dispatch_forward {serving : Serving} {text : Bytes} {port : UInt16}
    (h : parseU16 (trim (fromUtf8Lossy text))=some port) :
    dispatch serving (ascii "FORWARD "++text)=handleForward serving port := by
  have hping : ascii "FORWARD "++text≠ascii "PING" := fun h => by cases h
  unfold dispatch
  rw [if_neg hping,afterPrefix_append]
  dsimp only
  rw [h]

/-- What is done about a line that starts with `CONNECT`. -/
theorem dispatch_connect (serving : Serving) (target : Bytes) :
    dispatch serving (ascii "CONNECT "++target)=
      handleConnect serving (trim (fromUtf8Lossy target)) := by
  have hother : afterPrefix (ascii "FORWARD ") (ascii "CONNECT "++target)=none := rfl
  have hping : ascii "CONNECT "++target≠ascii "PING" := fun h => by cases h
  unfold dispatch
  rw [if_neg hping,hother,afterPrefix_append]

/-- The serving side finds the port of a forward command, or refuses it. -/
theorem forward_agrees (serving : Serving) (node node' : Int32) (port : UInt16) :
    Agrees serving ⟨.wispersNode node port,node',forwardCommand port⟩ := by
  have hlength := length_port port
  have hcommand : forwardCommand port=ascii "FORWARD "++encode (displayU16 port)++[10] := by
    unfold forwardCommand
    rw [encode_append,encode_append]
    rfl
  have hfits : (forwardCommand port).length ≤ 1024 := by
    rw [hcommand,List.length_append,List.length_append]
    change 8+_+1 ≤ 1024
    omega
  obtain ⟨rest,hread,hrest⟩ := read_line (forwardCommand port)
  refine ⟨_,rest,hread,?_⟩
  have hline : '\n'∉"FORWARD ".toList++displayU16 port := by
    rw [List.mem_append,not_or]
    exact ⟨by decide,newline_port port⟩
  have hfirst : firstLine ((forwardCommand port).take 1024)=
      ascii "FORWARD "++encode (displayU16 port) := by
    rw [List.take_of_length_le hfits]
    unfold forwardCommand
    rw [firstLine_text hline,encode_append]
    rfl
  have htrim : trim (displayU16 port)=displayU16 port := by
    refine trim_eq_self (fun c hc => ?_) fun c hc => @getLast_port [] port c hc
    exact (digit_ordinary (displayDecimal_digits (List.mem_of_head? hc))).2.2.2
  have hport : parseU16 (trim (fromUtf8Lossy (encode (displayU16 port))))=some port := by
    rw [fromUtf8Lossy_encode,htrim,parseU16_displayU16]
  rw [hfirst,dispatch_forward hport]
  change (∃ text,handleForward serving port=.reply (ascii "ERROR "++text)) ∨
    (handleForward serving port=.forward port ∧ relayed rest=[])
  unfold handleForward
  dsimp only
  split_ifs with hallowed
  · exact .inr ⟨rfl,hrest.mpr hfits⟩
  · exact .inl ⟨ascii "port not allowed\n",rfl⟩

/-- The bytes of a connect command. -/
theorem connectCommand_bytes (host : Text) (port : UInt16) :
    connectCommand host port=ascii "CONNECT "++encode ((host++ ':'::displayU16 port)++['\n']) := by
  unfold connectCommand
  rw [List.append_assoc,encode_append]
  rfl

/-- What is done about a connect command depends on the target found. -/
theorem dispatch_connectCommand (serving : Serving) (host : Text) (port : UInt16) :
    dispatch serving (firstLine ((connectCommand host port).take 1024))=
      handleConnect serving (foundTarget (connectCommand host port)) := by
  have htake : (connectCommand host port).take 1024=
      ascii "CONNECT "++(encode ((host++ ':'::displayU16 port)++['\n'])).take 1016 := by
    rw [connectCommand_bytes,List.take_append]
    rfl
  unfold foundTarget
  rw [htake]
  exact dispatch_connect serving _

/-- What is found on a connect command that fits has no newline and does not start with
white space. -/
theorem foundTarget_plain {host : Text} {port : UInt16}
    (hfits : (connectCommand host port).length ≤ 1024) :
    '\n'∉foundTarget (connectCommand host port) ∧
      ∀ c,(foundTarget (connectCommand host port)).head?=some c → isWhitespace c=false := by
  have hline : firstLine (((connectCommand host port).take 1024).drop 8)=
      encode ((host++ ':'::displayU16 port).takeWhile (·≠ '\n')) := by
    rw [List.take_of_length_le hfits,connectCommand_bytes,encode_append]
    exact firstLine_encode _ []
  unfold foundTarget
  rw [hline,fromUtf8Lossy_encode]
  refine ⟨fun hmem => ?_,fun c hc => trim_head hc⟩
  have hkept := List.mem_takeWhile_imp (mem_of_mem_trim hmem)
  cases hkept

/-- On the line of a plain host, the host is found. -/
theorem foundTarget_eq {host : Text} {port : UInt16} (h : PlainHost host port) :
    foundTarget (connectCommand host port)=host++ ':'::displayU16 port := by
  have hcolon : '\n'≠ ':' := by decide
  have hnewline : '\n'∉host++ ':'::displayU16 port := by
    rw [List.mem_append,List.mem_cons,not_or,not_or]
    exact ⟨h.newline,hcolon,newline_port port⟩
  have hline : firstLine (((connectCommand host port).take 1024).drop 8)=
      encode (host++ ':'::displayU16 port) := by
    rw [List.take_of_length_le h.fits,connectCommand_bytes]
    exact firstLine_text hnewline
  unfold foundTarget
  rw [hline,fromUtf8Lossy_encode]
  refine trim_eq_self (fun c hc => ?_) fun c hc => ?_
  · cases hhost : host with
    | nil =>
      rw [hhost] at hc
      obtain rfl := Option.some.inj hc
      rfl
    | cons d tail =>
      rw [hhost] at hc
      refine h.start c ?_
      rw [hhost]
      exact hc
  · have hsplit : host++ ':'::displayU16 port=(host++[':'])++displayU16 port :=
      (List.append_assoc host [':'] _).symm
    rw [hsplit] at hc
    exact getLast_port hc

/-- Where the host itself is found on a line that fits, it is plain. -/
theorem plainHost_of_found {host : Text} {port : UInt16}
    (hfits : (connectCommand host port).length ≤ 1024)
    (hfound : parseHostPort (foundTarget (connectCommand host port))=some (host,port)) :
    PlainHost host port := by
  obtain ⟨hnewline,hstart⟩ := foundTarget_plain hfits
  obtain ⟨after,htarget⟩ : ∃ after,foundTarget (connectCommand host port)=host++ ':'::after := by
    unfold parseHostPort at hfound
    split at hfound
    · cases hfound
    next before after hsplit =>
      split_ifs at hfound
      split at hfound
      · cases hfound
      · cases hfound
        exact ⟨after,splitLast_eq hsplit⟩
  rw [htarget] at hnewline hstart
  refine ⟨fun hmem => hnewline (List.mem_append_left _ hmem),fun c hc => hstart c ?_,hfits⟩
  rw [List.head?_append,hc]
  rfl

/-- Both sides agree on an internet host exactly where that is so. -/
theorem connect_agrees_iff (serving : Serving) (node : Int32) (host : Text) (port : UInt16) :
    Agrees serving ⟨.internet host port,node,connectCommand host port⟩ ↔
      Agreeable serving (.internet host port) := by
  obtain ⟨rest,hread,hrest⟩ := read_line (connectCommand host port)
  have hagrees : Agrees serving ⟨.internet host port,node,connectCommand host port⟩ ↔
      (∃ text,handleConnect serving (foundTarget (connectCommand host port))=
        .reply (ascii "ERROR "++text)) ∨
      (handleConnect serving (foundTarget (connectCommand host port))=.connect host port ∧
        (connectCommand host port).length ≤ 1024) := by
    rw [←dispatch_connectCommand,←hrest]
    constructor
    · rintro ⟨first,rest',hread',h⟩
      cases hread.symm.trans hread'
      exact h
    · exact fun h => ⟨_,rest,hread,h⟩
  rw [hagrees]
  unfold Agreeable handleConnect
  by_cases hegress : serving.allowEgress=true
  · rw [if_pos hegress]
    constructor
    · intro h
      cases hfound : parseHostPort (foundTarget (connectCommand host port)) with
      | none => exact .inr (.inr hfound)
      | some found =>
        rw [hfound] at h
        rcases h with ⟨text,hreply⟩|⟨hconnect,hfits⟩
        · cases hreply
        · obtain ⟨rfl,rfl⟩ := Reaction.connect.inj hconnect
          exact .inr (.inl (plainHost_of_found hfits hfound))
    · rintro (hdenied|hplain|hnone)
      · cases hegress.symm.trans hdenied
      · rw [foundTarget_eq hplain]
        by_cases hne : host=[]
        · refine .inl ⟨ascii "invalid target format\n",?_⟩
          have hnone : parseHostPort (host++ ':'::displayU16 port)=none := by
            rw [hne]
            exact parseHostPort_nil port
          rw [hnone]
          rfl
        · rw [parseHostPort_append hne]
          exact .inr ⟨rfl,hplain.fits⟩
      · rw [hnone]
        exact .inl ⟨ascii "invalid target format\n",rfl⟩
  · rw [if_neg hegress]
    exact ⟨fun _ => .inl (eq_false_of_ne_true hegress),
      fun _ => .inl ⟨ascii "egress not allowed\n",rfl⟩⟩

/-- A request to a proxy. -/
inductive ProxyRequest where
  /-- The bytes of a SOCKS5 request. -/
  | socks (input : Bytes)
  /-- The bytes of an HTTP request. -/
  | http (buf : Bytes)

/-- What a proxy sends for a request that it accepts. -/
def sendingOf (eof : Text) (L : HttpLibrary) (egressNode : Option Int32) :
    ProxyRequest→Option Sending
  | .socks input =>
    match handleConnectRequest eof input with
    | .error _ => none
    | .ok request => (routeConnection egressNode request).toOption
  | .http buf =>
    match parseRequest L buf egressNode with
    | .error _ => none
    | .ok request => requestSending egressNode request

/-- A proxy sends the line of its destination. -/
theorem sendingOf_command {eof : Text} {L : HttpLibrary} {egressNode : Option Int32}
    {request : ProxyRequest} {sending : Sending}
    (h : sendingOf eof L egressNode request=some sending) :
    sending.command=match sending.destination with
      | .wispersNode _ port => forwardCommand port
      | .internet host port => connectCommand host port := by
  cases request with
  | socks input =>
    unfold sendingOf at h
    dsimp only at h
    split at h
    · cases h
    next request hrequest =>
      unfold routeConnection at h
      split at h
      · cases h
        rfl
      · split at h
        · cases h
          rfl
        · cases h
      · cases h
  | http buf =>
    unfold sendingOf at h
    dsimp only at h
    split at h
    · cases h
    next request hrequest =>
      unfold requestSending at h
      split at h
      · cases h
        rfl
      · obtain ⟨egress,_,rfl⟩ := Option.map_eq_some_iff.mp h
        rfl

/-- For every request that a proxy accepts, the serving side takes the destination as it was
meant, or refuses it, exactly when the two agree on it. -/
theorem destination_agrees_iff (eof : Text) (L : HttpLibrary) (egressNode : Option Int32)
    (serving : Serving) (request : ProxyRequest) (sending : Sending)
    (h : sendingOf eof L egressNode request=some sending) :
    Agrees serving sending ↔ Agreeable serving sending.destination := by
  have hcommand := sendingOf_command h
  obtain ⟨destination,node,command⟩ := sending
  cases destination with
  | wispersNode node' port =>
    obtain rfl : command=forwardCommand port := hcommand
    exact ⟨fun _ => trivial,fun _ => forward_agrees serving node' node port⟩
  | internet host port =>
    obtain rfl : command=connectCommand host port := hcommand
    exact connect_agrees_iff serving node host port

/-- A SOCKS5 request for a domain name and port 80. -/
def domainRequest (domain : String) : ProxyRequest :=
  .socks ([5,1,0,3,UInt8.ofNat (ascii domain).length]++ascii domain++[0,80])

/-- An HTTP parser that accepts nothing. -/
def noHttp : HttpLibrary := ⟨fun _ => .ok none,id⟩

/-- A plain domain name is taken as it was meant. -/
theorem destination_agrees_iff_plain :
    Agrees ⟨none,true⟩ ⟨.internet "a.b".toList 80,3,ascii "CONNECT a.b:80\n"⟩ := by
  refine (destination_agrees_iff [] noHttp (some 3) ⟨none,true⟩ (domainRequest "a.b") _
    (by decide)).mpr (.inr (.inl ⟨by decide,?_,by decide⟩))
  intro c hc
  obtain rfl := Option.some.inj hc
  rfl

/-- A domain name with a newline brings its own command: another host is connected to. -/
theorem domain_brings_command :
    sendingOf [] noHttp (some 3) (domainRequest "evil:22\n")=
      some ⟨.internet "evil:22\n".toList 80,3,ascii "CONNECT evil:22\n:80\n"⟩ ∧
    dispatch ⟨none,true⟩ (firstLine (ascii "CONNECT evil:22\n:80\n"))=.connect "evil".toList 22 ∧
    ¬Agrees ⟨none,true⟩
      ⟨.internet "evil:22\n".toList 80,3,ascii "CONNECT evil:22\n:80\n"⟩ := by
  have hdispatch : dispatch ⟨none,true⟩ (firstLine (ascii "CONNECT evil:22\n:80\n"))=
      .connect "evil".toList 22 := by decide
  refine ⟨by decide,hdispatch,?_⟩
  rintro ⟨first,rest,hread,hagrees⟩
  cases hread
  change (∃ text,dispatch ⟨none,true⟩ (firstLine (ascii "CONNECT evil:22\n:80\n"))=_) ∨
    (dispatch ⟨none,true⟩ (firstLine (ascii "CONNECT evil:22\n:80\n"))=_ ∧ _) at hagrees
  rw [hdispatch] at hagrees
  rcases hagrees with ⟨text,hreply⟩|⟨hmeant,_⟩
  · cases hreply
  · exact absurd hmeant (by decide)

end Agreement

end WispersConnect.DestinationAgreement
