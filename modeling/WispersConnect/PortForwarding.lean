import WispersConnect.DestinationAgreement

/-!
# Which ports are forwarded

The serving side is started with a list of ports, and forwards streams to those. An
empty list stands for all ports, and so does a list of commas and white space, which
names none.
-/

namespace WispersConnect.PortForwarding

open Messages Utf8Text StreamCommands DestinationAgreement

section Lists

/-- What the loop of `AllowedPorts::parse` does with a part of the list. -/
def insertPart (ports : List UInt16) (part : Text) : Except Text (List UInt16) :=
  let part := trim part
  if part=[] then .ok ports
  else
    match parseU16 part with
    | some port => .ok (ports.insert port)
    | none => .error ("invalid port number: ".toList++part)

/-- `AllowedPorts::parse`. -/
def AllowedPorts.parse (value : Text) : Except Text AllowedPorts :=
  if value=[] then .ok .all
  else
    match (value.splitOn ',').foldlM insertPart [] with
    | .error e => .error e
    | .ok ports => if ports=[] then .ok .all else .ok (.whitelist ports)

/-- A part is a port: its decimal number, perhaps after a plus, with white space around it. -/
def WritesPort (part : Text) (port : UInt16) : Prop :=
  ∃ left sign digits right,part=left++(sign++digits)++right ∧
    (∀ c∈left,isWhitespace c=true) ∧ (∀ c∈right,isWhitespace c=true) ∧
    (sign=[] ∨ sign=['+']) ∧ digits≠[] ∧ (∀ c∈digits,c.isDigit=true) ∧
    Nat.ofDigitChars 10 digits 0=port.toNat

/-- A list has a port between two commas, or between one and an end. -/
def Writes (value : Text) (port : UInt16) : Prop :=
  ∃ part,IsPart ',' value part ∧ WritesPort part port

/-- A list has more in it than commas and white space. -/
def NamesSomething (value : Text) : Prop := ∃ c∈value,c≠ ',' ∧ isWhitespace c=false

end Lists

section Forwarding

/-- What `handle_forward_stream` does to its surroundings. -/
inductive ForwardAction where
  /-- `write_all` to the stream. -/
  | writeStream (bytes : Bytes)
  /-- `finish` of the stream. -/
  | finishStream
  /-- `TcpStream::connect`. -/
  | connect (address : Text)
  /-- `write_all` to the TCP connection. -/
  | writeTcp (bytes : Bytes)
  /-- `shutdown` of the TCP connection. -/
  | shutdownTcp
  deriving DecidableEq

/-- One turn of a relay loop. -/
structure RelayTurn where
  /-- What its read returns, `none` for an error. -/
  read : Option Bytes
  /-- Whether what it passes on is taken. -/
  taken : Bool

/-- A relay loop: it passes on what it reads up to the end or an error, and closes. Where
there are no more turns it waits. -/
def relayLoop (write : Bytes→ForwardAction) (close : ForwardAction) :
    List RelayTurn→List ForwardAction
  | [] => []
  | ⟨none,_⟩::_ => [close]
  | ⟨some [],_⟩::_ => [close]
  | ⟨some (byte::bytes),taken⟩::rest =>
    write (byte::bytes)::if taken then relayLoop write close rest else [close]

/-- `quic_to_tcp`. -/
def quicToTcp (turns : List RelayTurn) : List ForwardAction :=
  relayLoop .writeTcp .shutdownTcp turns

/-- `tcp_to_quic`. -/
def tcpToQuic (turns : List RelayTurn) : List ForwardAction :=
  relayLoop .writeStream .finishStream turns

/-- `tokio::join!`: the schedule says which of the two goes on, as far as it can. -/
def join : List Bool→List ForwardAction→List ForwardAction→List ForwardAction
  | [],_,_ => []
  | true::schedule,s,t => s.take 1++join schedule s.tail t
  | false::schedule,s,t => t.take 1++join schedule s t.tail

/-- What decides how a forwarded stream goes. -/
structure ForwardSurroundings where
  /-- Whether a connection comes about, or what the error says. -/
  dial : Text→Except Text Unit
  /-- Whether the stream takes the answer. -/
  answerTaken : Bool
  /-- What arrives on the stream. -/
  fromStream : List RelayTurn
  /-- What arrives on the TCP connection. -/
  fromTcp : List RelayTurn
  /-- Which relay loop goes on. -/
  schedule : List Bool

/-- The address of a local port. -/
def localAddress (port : UInt16) : Text := "127.0.0.1:".toList++displayU16 port

/-- `handle_forward_stream`. -/
def handleForwardStream (allowedPorts : Option AllowedPorts) (port : UInt16)
    (s : ForwardSurroundings) : List ForwardAction :=
  let allowed := match allowedPorts with
    | none => false
    | some ports => ports.isAllowed port
  if allowed then
    .connect (localAddress port)::
      match s.dial (localAddress port) with
      | .ok () =>
        .writeStream (ascii "OK\n")::
          if s.answerTaken then join s.schedule (quicToTcp s.fromStream) (tcpToQuic s.fromTcp)
          else []
      | .error e => [.writeStream (ascii "ERROR "++encode e++ascii "\n"),.finishStream]
  else [.writeStream (ascii "ERROR port not allowed\n"),.finishStream]

/-- The list fails closed: exactly the ports it writes are allowed, none if it writes none,
and a stream is forwarded to an allowed port only. -/
structure FailsClosed (value : Text) (ports : AllowedPorts) : Prop where
  /-- The ports that are allowed. -/
  allows : ∀ port,ports.isAllowed port=true ↔ Writes value port
  /-- Nothing is allowed by a list without ports. -/
  closed : (∀ port,¬Writes value port) → ∀ port,ports.isAllowed port=false
  /-- A stream is connected to its port, if that is allowed. -/
  connects : ∀ port s address,.connect address∈handleForwardStream (some ports) port s →
    address=localAddress port ∧ ports.isAllowed port=true

end Forwarding

section Reading

/-- A port's digits, perhaps after a plus, have no white space around them. -/
theorem trim_port {sign digits : Text} (hsign : sign=[] ∨ sign=['+'])
    (hdigits : ∀ c∈digits,c.isDigit=true) : trim (sign++digits)=sign++digits := by
  have hordinary : ∀ c∈sign++digits,isWhitespace c=false := by
    intro c hc
    obtain hc|hc := List.mem_append.mp hc
    · obtain rfl|rfl := hsign
      · exact absurd hc List.not_mem_nil
      · rw [List.mem_singleton.mp hc]
        rfl
    · exact (digit_ordinary (hdigits c hc)).2.2.2
  exact trim_eq_self (fun c hc => hordinary c (List.mem_of_head? hc))
    (fun c hc => hordinary c (List.mem_of_getLast? hc))

/-- A part is a port exactly if the port is read from it. -/
theorem writesPort_iff {part : Text} {port : UInt16} :
    WritesPort part port ↔ parseU16 (trim part)=some port := by
  rw [parseU16_eq_some]
  constructor
  · rintro ⟨left,sign,digits,right,rfl,hleft,hright,hsign,hne,hdigits,hvalue⟩
    refine ⟨sign,digits,?_,hsign,hne,hdigits,hvalue⟩
    rw [trim_append_space hright,trim_space_append hleft,trim_port hsign hdigits]
  · rintro ⟨sign,digits,htrim,hrest⟩
    obtain ⟨left,right,hpart,hleft,hright⟩ := exists_trim part
    rw [htrim] at hpart
    exact ⟨left,sign,digits,right,hpart,hleft,hright,hrest⟩

/-- A blank part is no port. -/
theorem not_writesPort_of_blank {part : Text} (h : trim part=[]) (port : UInt16) :
    ¬WritesPort part port := by
  rw [writesPort_iff,h]
  exact fun hport => by cases hport

end Reading

section Parsing

/-- A part is skipped, or its port is taken in. -/
theorem insertPart_eq_ok {ports after : List UInt16} {part : Text}
    (h : insertPart ports part=.ok after) :
    trim part=[] ∧ after=ports ∨ ∃ port,WritesPort part port ∧ after=ports.insert port := by
  unfold insertPart at h
  dsimp only at h
  split_ifs at h with hblank
  · exact .inl ⟨hblank,(Except.ok.inj h).symm⟩
  · cases hport : parseU16 (trim part) with
    | none =>
      rw [hport] at h
      cases h
    | some port =>
      rw [hport] at h
      exact .inr ⟨port,writesPort_iff.mpr hport,(Except.ok.inj h).symm⟩

/-- Every part of a list that is accepted is blank or a port, and the ports are what is
taken in. -/
theorem foldlM_insertPart {parts : List Text} {acc ports : List UInt16}
    (h : parts.foldlM insertPart acc=.ok ports) :
    (∀ part∈parts,trim part=[] ∨ ∃ port,WritesPort part port) ∧
      ∀ port,port∈ports ↔ port∈acc ∨ ∃ part∈parts,WritesPort part port := by
  induction parts generalizing acc with
  | nil =>
    cases h
    simp
  | cons part parts ih =>
    rw [List.foldlM_cons] at h
    cases hpart : insertPart acc part with
    | error e =>
      rw [hpart] at h
      cases h
    | ok middle =>
      rw [hpart] at h
      obtain ⟨hall,hports⟩ := ih h
      obtain ⟨hblank,rfl⟩|⟨port,hport,rfl⟩ := insertPart_eq_ok hpart
      · refine ⟨List.forall_mem_cons.mpr ⟨.inl hblank,hall⟩,fun p => ?_⟩
        simp only [hports,List.mem_cons,exists_eq_or_imp,not_writesPort_of_blank hblank p,false_or]
      · refine ⟨List.forall_mem_cons.mpr ⟨.inr ⟨port,hport⟩,hall⟩,fun p => ?_⟩
        have hsame : p=port ↔ WritesPort part p := by
          rw [writesPort_iff,writesPort_iff.mp hport,Option.some.injEq,eq_comm]
        simp only [hports,List.mem_insert_iff,List.mem_cons,exists_eq_or_imp,hsame]
        tauto

/-- A port is written in one of the parts. -/
theorem writes_iff {value : Text} {port : UInt16} :
    Writes value port ↔ ∃ part∈value.splitOn ',',WritesPort part port := by
  simp only [Writes,mem_splitOn_iff]

/-- A list has more than commas and white space exactly if a part is not blank. -/
theorem namesSomething_iff {value : Text} :
    NamesSomething value ↔ ∃ part∈value.splitOn ',',trim part≠[] := by
  have hchar : ∀ c,c∈value ∧ c≠ ',' ↔ ∃ part∈value.splitOn ',',c∈part := fun c => by
    simp only [mem_splitOn_iff,exists_mem_part_iff]
  simp only [NamesSomething,←and_assoc,hchar,ne_eq,trim_eq_nil,not_forall,Bool.not_eq_true,
    exists_prop]
  constructor
  · rintro ⟨c,⟨part,hpart,hc⟩,hspace⟩
    exact ⟨part,hpart,c,hc,hspace⟩
  · rintro ⟨part,hpart,c,hc,hspace⟩
    exact ⟨c,⟨part,hpart,hc⟩,hspace⟩

/-- A list that is accepted has the ports that it writes; without any, it stands for all. -/
theorem parse_eq_ok {value : Text} {ports : AllowedPorts} (hvalue : value≠[])
    (h : AllowedPorts.parse value=.ok ports) :
    (NamesSomething value ∧ ∃ list,ports=.whitelist list ∧ ∀ port,port∈list ↔ Writes value port) ∨
      (¬NamesSomething value ∧ ports=.all ∧ ∀ port,¬Writes value port) := by
  unfold AllowedPorts.parse at h
  rw [if_neg hvalue] at h
  cases hloop : (value.splitOn ',').foldlM insertPart [] with
  | error e =>
    rw [hloop] at h
    cases h
  | ok list =>
    rw [hloop] at h
    obtain ⟨hall,hlist⟩ := foldlM_insertPart hloop
    have hwrites : ∀ port,port∈list ↔ Writes value port := fun port => by
      simp only [hlist,List.not_mem_nil,false_or,writes_iff]
    dsimp only at h
    by_cases hnames : NamesSomething value
    · obtain ⟨part,hpart,hsome⟩ := namesSomething_iff.mp hnames
      obtain ⟨port,hport⟩ := (hall part hpart).resolve_left hsome
      have hmem : port∈list := (hwrites port).mpr (writes_iff.mpr ⟨part,hpart,hport⟩)
      rw [if_neg (List.ne_nil_of_mem hmem)] at h
      exact .inl ⟨hnames,list,(Except.ok.inj h).symm,hwrites⟩
    · have hblank : ∀ port,¬Writes value port := fun port hport => by
        obtain ⟨part,hpart,hwritten⟩ := writes_iff.mp hport
        exact hnames (namesSomething_iff.mpr ⟨part,hpart,fun hspace =>
          not_writesPort_of_blank hspace port hwritten⟩)
      have hnil : list=[] := List.eq_nil_iff_forall_not_mem.mpr fun port hport =>
        hblank port ((hwrites port).mp hport)
      rw [if_pos hnil] at h
      exact .inr ⟨hnames,(Except.ok.inj h).symm,hblank⟩

end Parsing

section Connecting

/-- A relay loop passes on and closes, and does nothing else. -/
theorem mem_relayLoop {write : Bytes→ForwardAction} {close action : ForwardAction}
    {turns : List RelayTurn} (h : action∈relayLoop write close turns) :
    action=close ∨ ∃ bytes,action=write bytes := by
  induction turns with
  | nil => exact absurd h List.not_mem_nil
  | cons turn turns ih =>
    obtain ⟨read,taken⟩ := turn
    cases read with
    | none => exact .inl (List.mem_singleton.mp h)
    | some bytes =>
      cases bytes with
      | nil => exact .inl (List.mem_singleton.mp h)
      | cons byte bytes =>
        obtain hwrite|hrest := List.mem_cons.mp h
        · exact .inr ⟨byte::bytes,hwrite⟩
        · cases taken with
          | true => exact ih hrest
          | false => exact .inl (List.mem_singleton.mp hrest)

/-- Two loops that take turns do what either of them does. -/
theorem mem_join {action : ForwardAction} {schedule : List Bool} {s t : List ForwardAction}
    (h : action∈join schedule s t) : action∈s ∨ action∈t := by
  induction schedule generalizing s t with
  | nil => exact absurd h List.not_mem_nil
  | cons turn schedule ih =>
    cases turn with
    | true =>
      obtain hfirst|hrest := List.mem_append.mp h
      · exact .inl (List.mem_of_mem_take hfirst)
      · exact (ih hrest).imp_left List.mem_of_mem_tail
    | false =>
      obtain hfirst|hrest := List.mem_append.mp h
      · exact .inr (List.mem_of_mem_take hfirst)
      · exact (ih hrest).imp_right List.mem_of_mem_tail

/-- The relays connect to nothing. -/
theorem connect_not_mem_relays {address : Text} {schedule : List Bool} {s t : List RelayTurn} :
    .connect address∉join schedule (quicToTcp s) (tcpToQuic t) := by
  intro h
  obtain h|h := mem_join h
  · obtain hclose|⟨bytes,hwrite⟩ := mem_relayLoop h
    · cases hclose
    · cases hwrite
  · obtain hclose|⟨bytes,hwrite⟩ := mem_relayLoop h
    · cases hclose
    · cases hwrite

/-- A stream is connected to its own port, and only if that is allowed. -/
theorem connect_mem_iff {allowedPorts : Option AllowedPorts} {port : UInt16}
    {s : ForwardSurroundings} {address : Text} :
    .connect address∈handleForwardStream allowedPorts port s ↔
      address=localAddress port ∧ ∃ ports,allowedPorts=some ports ∧ ports.isAllowed port=true := by
  unfold handleForwardStream
  cases allowedPorts with
  | none => simp
  | some ports =>
    cases hallowed : ports.isAllowed port with
    | false => simp [hallowed]
    | true =>
      simp only [if_true,List.mem_cons,ForwardAction.connect.injEq,Option.some.injEq,
        exists_eq_left',hallowed,and_true,or_iff_left_iff_imp]
      intro h
      cases hdial : s.dial (localAddress port) with
      | error e => simp [hdial] at h
      | ok u =>
        simp only [hdial,List.mem_cons,reduceCtorEq,false_or] at h
        split_ifs at h
        · exact absurd h connect_not_mem_relays
        · exact absurd h List.not_mem_nil

/-- On a list that is accepted, the ports fail closed exactly if there is more in it than commas
and white space. -/
theorem fails_closed_iff {value : Text} (hvalue : value≠[]) {ports : AllowedPorts}
    (haccepted : AllowedPorts.parse value=.ok ports) :
    FailsClosed value ports ↔ NamesSomething value := by
  obtain ⟨hnames,list,rfl,hlist⟩|⟨hnames,rfl,hnone⟩ := parse_eq_ok hvalue haccepted
  · have hallows : ∀ port,(AllowedPorts.whitelist list).isAllowed port=true ↔ Writes value port :=
      fun port => List.contains_iff_mem.trans (hlist port)
    refine iff_of_true ⟨hallows,fun hnone port => ?_,fun port s address h => ?_⟩ hnames
    · exact Bool.eq_false_iff.mpr fun hport => hnone port ((hallows port).mp hport)
    · obtain ⟨haddress,_,hports,hallowed⟩ := connect_mem_iff.mp h
      cases hports
      exact ⟨haddress,hallowed⟩
  · exact iff_of_false (fun hclosed => hnone 0 ((hclosed.allows 0).mp rfl)) hnames

/-- Two ports. -/
theorem fails_closed_iff_two : FailsClosed "80, 443".toList (.whitelist [443,80]) := by
  have hnames : NamesSomething "80, 443".toList := ⟨'8',by decide,by decide,by decide⟩
  exact (fails_closed_iff (by decide) rfl).mpr hnames

/-- A comma is accepted, and stands for all ports. -/
theorem comma_allows_all : AllowedPorts.parse ",".toList=.ok .all ∧
    (∀ port,AllowedPorts.all.isAllowed port=true) ∧ (∀ port,¬Writes ",".toList port) ∧
    ¬FailsClosed ",".toList .all := by
  have hnone : ∀ port,¬Writes ",".toList port := by
    intro port hport
    obtain ⟨part,hpart,hwritten⟩ := writes_iff.mp hport
    have hblank : ∀ part∈(",".toList).splitOn ',',trim part=[] := by decide
    exact not_writesPort_of_blank (hblank part hpart) port hwritten
  refine ⟨rfl,fun _ => rfl,hnone,fun hclosed => ?_⟩
  exact hnone 22 ((hclosed.allows 22).mp rfl)

end Connecting

end WispersConnect.PortForwarding
