import WispersConnect.StreamCommands

/-!
# Where a command and its answer end

A command and the answer to it are lines, but each is read once, into a buffer, and
what the read returns is taken for the line. Whether it is the line depends on where
the stream is cut.
-/

namespace WispersConnect.CommandFraming

open Messages Utf8Text StreamCommands

/-- A stream that arrives in some pieces. -/
def sent (chunks : List Bytes) : List Chunk := chunks.map .data

/-- What the first read of a stream into a buffer returns. -/
def firstRead (size : ℕ) (chunks : List Bytes) : Bytes := (chunks.headD []).take size

section Reading

/-- All that arrives is relayed. -/
theorem relayed_sent {chunks : List Bytes} (h : ∀ chunk∈chunks,chunk≠[]) :
    relayed (sent chunks)=chunks.flatten := by
  induction chunks with
  | nil => rfl
  | cons chunk chunks ih =>
    have hrest := ih fun k hk => h k (List.mem_cons_of_mem _ hk)
    cases chunk with
    | nil => exact absurd rfl (h [] List.mem_cons_self)
    | cons byte bytes =>
      change byte::bytes++relayed (sent chunks)=byte::bytes++chunks.flatten
      rw [hrest]

/-- What the first read leaves is relayed after it. -/
theorem read_sent {size : ℕ} (hsize : 0<size) {chunks : List Bytes}
    (h : ∀ chunk∈chunks,chunk≠[]) (hne : chunks.flatten≠[]) :
    ∃ rest,read size (sent chunks)=(some (firstRead size chunks),rest) ∧
      firstRead size chunks≠[] ∧ firstRead size chunks++relayed rest=chunks.flatten := by
  cases chunks with
  | nil => exact absurd rfl hne
  | cons chunk chunks =>
    have hrest := relayed_sent fun k hk => h k (List.mem_cons_of_mem _ hk)
    have hchunk := h chunk List.mem_cons_self
    have hlength : 0<chunk.length := List.length_pos_iff.mpr hchunk
    have hfirst : chunk.take size≠[] := by
      intro hnil
      have hzero := congrArg List.length hnil
      rw [List.length_take,List.length_nil] at hzero
      omega
    refine ⟨_,rfl,hfirst,?_⟩
    change chunk.take size++relayed (if size<chunk.length then _ else _)=chunk++chunks.flatten
    split_ifs with hlong
    · cases hdrop : chunk.drop size with
      | nil =>
        have hshort := List.drop_eq_nil_iff.mp hdrop
        omega
      | cons byte bytes =>
        change chunk.take size++(byte::bytes++relayed (sent chunks))=_
        rw [hrest,←hdrop,←List.append_assoc,List.take_append_drop]
    · change chunk.take size++relayed (sent chunks)=_
      rw [hrest,List.take_of_length_le (by omega)]

/-- What starts with a line and its newline, and reaches beyond the line, has the line first. -/
theorem firstLine_eq_iff {c d data rest : Bytes} (hline : 10∉c) (hcut : data++rest=c++10::d) :
    firstLine data=c ↔ c.length≤data.length := by
  have hall : ∀ byte∈c,(decide (byte≠10))=true := by
    intro byte hbyte
    exact decide_eq_true fun he => hline (he ▸ hbyte)
  constructor
  · intro h
    rw [←h]
    exact (List.takeWhile_prefix _).length_le
  · intro h
    obtain ⟨tail,htail⟩ : c <+: data := by
      refine List.prefix_of_prefix_length_le (List.prefix_append c (10::d)) ?_ h
      rw [←hcut]
      exact List.prefix_append data rest
    unfold firstLine
    rw [←htail] at hcut ⊢
    rw [List.append_assoc] at hcut
    have hnext := List.append_cancel_left hcut
    rw [List.takeWhile_append_of_pos hall]
    cases tail with
    | nil => exact List.append_nil c
    | cons byte tail =>
      obtain ⟨rfl,_⟩ := List.cons.inj hnext
      exact List.append_nil c

end Reading

section Commands

/-- Whether the command on a line starts a relay: the serving side allows it, and the target
accepts the connection. -/
def startsRelay (serving : Serving) (dial : Dial) (line : Bytes) : Bool :=
  match dispatch serving line with
  | .reply _ => false
  | reaction => (dial reaction).toBool

/-- A command is acted on as if it came alone, and where it starts a relay, all that follows it
is relayed and nothing else. -/
structure ReadExactly (serving : Serving) (dial : Dial) (c d : Bytes) (chunks : List Bytes) :
    Prop where
  /-- It is acted on and answered as it is alone. -/
  acted : ∃ served,handleQuicStream serving dial (sent chunks)=some served ∧ served.line=c ∧
    served.answer=(carryOut dial c [] (dispatch serving c)).answer
  /-- What follows it reaches the relay. -/
  relayed : ∀ served,handleQuicStream serving dial (sent chunks)=some served →
    served.relayed=if startsRelay serving dial c then some d else none

/-- What is carried out does not depend on what follows. -/
theorem carryOut_rest (dial : Dial) (line : Bytes) (rest : List Chunk) (reaction : Reaction) :
    (carryOut dial line rest reaction).line=line ∧
      (carryOut dial line rest reaction).answer=(carryOut dial line [] reaction).answer := by
  cases reaction with
  | reply text => exact ⟨rfl,rfl⟩
  | forward port =>
    unfold carryOut
    dsimp only
    cases hdial : dial (.forward port) with
    | ok | error => exact ⟨rfl,rfl⟩
  | connect host port =>
    unfold carryOut
    dsimp only
    cases hdial : dial (.connect host port) with
    | ok | error => exact ⟨rfl,rfl⟩

/-- What follows a command is relayed where it starts a relay. -/
theorem carryOut_relayed (serving : Serving) (dial : Dial) (line : Bytes) (rest : List Chunk) :
    (carryOut dial line rest (dispatch serving line)).relayed=
      if startsRelay serving dial line then some (relayed rest) else none := by
  cases hdispatch : dispatch serving line with
  | reply text =>
    have hstarts : startsRelay serving dial line=false := by
      unfold startsRelay
      rw [hdispatch]
    rw [hstarts]
    rfl
  | forward port =>
    have hstarts : startsRelay serving dial line=(dial (.forward port)).toBool := by
      unfold startsRelay
      rw [hdispatch]
    rw [hstarts]
    unfold carryOut
    dsimp only
    cases hdial : dial (.forward port) with
    | ok | error => rfl
  | connect host port =>
    have hstarts : startsRelay serving dial line=(dial (.connect host port)).toBool := by
      unfold startsRelay
      rw [hdispatch]
    rw [hstarts]
    unfold carryOut
    dsimp only
    cases hdial : dial (.connect host port) with
    | ok | error => rfl

/-- A command is read exactly when the first read returns all of it and, where it starts a
relay, exactly the command and its newline. -/
theorem command_read_iff (serving : Serving) (dial : Dial) (c d : Bytes) (chunks : List Bytes)
    (hline : 10∉c) (hchunks : ∀ chunk∈chunks,chunk≠[]) (hcut : chunks.flatten=c++10::d) :
    ReadExactly serving dial c d chunks ↔ c.length≤(firstRead 1024 chunks).length ∧
      (startsRelay serving dial c=true → (firstRead 1024 chunks).length=c.length+1) := by
  have hne : chunks.flatten≠[] := by
    rw [hcut]
    exact List.append_ne_nil_of_right_ne_nil _ (List.cons_ne_nil _ _)
  obtain ⟨rest,hread,hfirst,hwhole⟩ := read_sent (by decide : 0<1024) hchunks hne
  have hsplit : firstRead 1024 chunks++relayed rest=c++10::d := hwhole.trans hcut
  have hlengths := congrArg List.length hsplit
  simp only [List.length_append,List.length_cons] at hlengths
  have hlineiff := firstLine_eq_iff hline hsplit
  have hserved : handleQuicStream serving dial (sent chunks)=
      some (carryOut dial (firstLine (firstRead 1024 chunks)) rest
        (dispatch serving (firstLine (firstRead 1024 chunks)))) := by
    unfold handleQuicStream
    rw [hread]
    cases hdata : firstRead 1024 chunks with
    | nil => exact absurd hdata hfirst
    | cons byte bytes => rfl
  constructor
  · rintro ⟨⟨served,hsome,hcommand,_⟩,hrelayed⟩
    rw [hserved] at hsome
    obtain rfl := Option.some.inj hsome
    have hacted : firstLine (firstRead 1024 chunks)=c :=
      (carryOut_rest _ _ _ _).1.symm.trans hcommand
    refine ⟨hlineiff.mp hacted,fun hstarts => ?_⟩
    have hd := hrelayed _ hserved
    rw [hacted,carryOut_relayed,hstarts,if_pos rfl,if_pos rfl] at hd
    rw [Option.some.inj hd] at hlengths
    omega
  · rintro ⟨hlong,hexact⟩
    have hacted := hlineiff.mpr hlong
    rw [hacted] at hserved
    obtain ⟨hcommand,hanswer⟩ := carryOut_rest dial c rest (dispatch serving c)
    refine ⟨⟨_,hserved,hcommand,hanswer⟩,fun served hsome => ?_⟩
    rw [hserved] at hsome
    obtain rfl := Option.some.inj hsome
    rw [carryOut_relayed]
    cases hstarts : startsRelay serving dial c with
    | false => rfl
    | true =>
      have hlength := hexact hstarts
      have hparts : firstRead 1024 chunks++relayed rest=(c++[10])++d := by
        rw [hsplit,List.append_assoc]
        rfl
      have hd : relayed rest=d := by
        refine (List.append_inj hparts ?_).2
        rw [List.length_append,List.length_singleton,hlength]
      rw [if_pos rfl,if_pos rfl,hd]

/-- An allowed command that comes with its newline in one read is carried out, and the data
that comes in the next read is relayed. -/
theorem command_read_iff_forward :
    (handleQuicStream ⟨some .all,false⟩ (fun _ => .ok ())
        (sent [ascii "FORWARD 80\n",ascii "hi"])).map Served.relayed=some (some (ascii "hi")) ∧
      ReadExactly ⟨some .all,false⟩ (fun _ => .ok ()) (ascii "FORWARD 80") (ascii "hi")
        [ascii "FORWARD 80\n",ascii "hi"] :=
  ⟨by decide,(command_read_iff ⟨some .all,false⟩ (fun _ => .ok ()) (ascii "FORWARD 80")
    (ascii "hi") [ascii "FORWARD 80\n",ascii "hi"] (by decide) (by decide) rfl).mpr
    ⟨by decide,by decide⟩⟩

/-- A port that is cut is another port, and the rest of it is relayed. -/
theorem forward_cut_short :
    handleQuicStream ⟨some .all,false⟩ (fun _ => .ok ()) (sent [ascii "FORWARD 80\n"])=
      some ⟨ascii "FORWARD 80",ascii "OK\n",some []⟩ ∧
    handleQuicStream ⟨some .all,false⟩ (fun _ => .ok ()) (sent [ascii "FORWARD 8",ascii "0\n"])=
      some ⟨ascii "FORWARD 8",ascii "OK\n",some (ascii "0\n")⟩ ∧
    dispatch ⟨some .all,false⟩ (ascii "FORWARD 8")=.forward 8 ∧
    ¬ReadExactly ⟨some .all,false⟩ (fun _ => .ok ()) (ascii "FORWARD 80") []
      [ascii "FORWARD 8",ascii "0\n"] := by
  refine ⟨by decide,by decide,by decide,?_⟩
  rintro ⟨⟨served,hserved,hline,_⟩,_⟩
  have hcut : handleQuicStream ⟨some .all,false⟩ (fun _ => .ok ())
      (sent [ascii "FORWARD 8",ascii "0\n"])=
      some ⟨ascii "FORWARD 8",ascii "OK\n",some (ascii "0\n")⟩ := by decide
  rw [hcut] at hserved
  obtain rfl := Option.some.inj hserved
  exact absurd hline (by decide)

end Commands

section Answers

/-- What the serving side writes once a command was carried out, or not. -/
inductive Answer where
  /-- The connection is there; what the target says follows. -/
  | ok (d : Bytes)
  /-- An error. -/
  | error (message : Text)

/-- Its bytes. -/
def Answer.bytes : Answer→Bytes
  | ok d => ascii "OK\n"++d
  | error message => ascii "ERROR "++encode message++ascii "\n"

/-- The answer is understood: what follows an acknowledgement is relayed whole, and an error
is reported with its message, up to surrounding white space. -/
def Answer.Heard (forwarding : Forwarding) : Answer→Prop
  | ok d => forwarding=.relays d
  | error message => ∃ reported,forwarding=.remoteError reported ∧ trim reported=trim message

/-- The first read is the answer: exactly the acknowledgement and its newline, or an error
with the whole of a message that is not blank. -/
def Answer.Whole (first : Bytes) : Answer→Prop
  | ok _ => first=ascii "OK\n"
  | error message => trim message≠[] ∧
      ∃ text,fromUtf8Lossy first="ERROR ".toList++text ∧ trim text=trim message

/-- Both clients understand an answer alike. -/
theorem commandForwarding_eq (stream : List Chunk) :
    commandForwarding stream=handleForwardConnection stream := by
  unfold commandForwarding sendCommand handleForwardConnection checkResponse hear
  cases hread : read 256 stream with
  | mk data rest =>
    cases data with
    | none => rfl
    | some data =>
      dsimp only
      by_cases hok : trim (fromUtf8Lossy data)="OK".toList
      · rw [hok]
        rfl
      · simp only [if_neg hok]
        cases stripPrefix "ERROR ".toList (trim (fromUtf8Lossy data)) with
        | none | some message => rfl

/-- An acknowledgement is heard exactly when the first read returns it and nothing else. -/
theorem ok_heard_iff {first d : Bytes} {rest : List Chunk} (hcut : first++relayed rest=ascii "OK\n"++d) :
    (Answer.ok d).Heard (hear first rest) ↔ (Answer.ok d).Whole first := by
  have hlengths := congrArg List.length hcut
  rw [List.length_append,List.length_append] at hlengths
  unfold Answer.Heard Answer.Whole hear
  dsimp only
  constructor
  · intro h
    split_ifs at h with hok
    · have hd := Forwarding.relays.inj h
      rw [hd] at hlengths
      exact (List.append_inj hcut (by omega)).1
    · split at h
      · cases h
      · cases h
  · rintro rfl
    have hd := List.append_cancel_left hcut
    have hok : trim (fromUtf8Lossy (ascii "OK\n"))="OK".toList := by decide
    rw [if_pos hok,hd]

/-- An error is heard exactly when the first read has the whole message. -/
theorem error_heard_iff {first : Bytes} {message : Text} (rest : List Chunk)
    (hstart : ∃ bytes,first=ascii "E"++bytes) :
    (Answer.error message).Heard (hear first rest) ↔ (Answer.error message).Whole first := by
  have htrim : trim (fromUtf8Lossy first)=trimEnd (fromUtf8Lossy first) := by
    obtain ⟨bytes,rfl⟩ := hstart
    rw [ascii,fromUtf8Lossy_append]
    exact trim_cons (by decide)
  unfold Answer.Heard Answer.Whole hear
  dsimp only
  constructor
  · rintro ⟨reported,hreported,hmessage⟩
    split_ifs at hreported with hok
    split at hreported
    next text hstrip =>
      obtain rfl := Forwarding.remoteError.inj hreported
      have hresponse := stripPrefix_eq hstrip
      rw [htrim] at hresponse
      obtain ⟨space,htext,hspace⟩ := trimEnd_append_self (fromUtf8Lossy first)
      rw [hresponse,List.append_assoc] at htext
      refine ⟨fun hblank => ?_,_,htext,(trim_append_space hspace).trans hmessage⟩
      rw [hblank] at hmessage
      have hidem : trimEnd ("ERROR ".toList++text)="ERROR ".toList++text := by
        rw [←hresponse]
        exact List.rdropWhile_idempotent isWhitespace (fromUtf8Lossy first)
      have hall := trim_eq_nil.mp hmessage
      have hshort : trimEnd ("ERROR ".toList++text)="ERROR".toList := by
        have hsplit : "ERROR ".toList++text="ERROR".toList++(' '::text) := rfl
        have hspaces : ∀ c∈ ' '::text,isWhitespace c=true := by
          intro c hc
          rcases List.mem_cons.mp hc with rfl|hc
          · rfl
          · exact hall c hc
        rw [hsplit,trimEnd_append_space hspaces]
        rfl
      have hlength := congrArg List.length (hidem.symm.trans hshort)
      simp only [List.length_append] at hlength
      change 6+text.length=5 at hlength
      omega
    next => cases hreported
  · rintro ⟨hblank,text,htext,hmessage⟩
    have hne : trim text≠[] := by
      rw [hmessage]
      exact hblank
    have hresponse : trim (fromUtf8Lossy first)="ERROR ".toList++trimEnd text := by
      rw [htrim,htext,trimEnd_append hne]
    have hok : trim (fromUtf8Lossy first)≠"OK".toList := by
      rw [hresponse]
      exact fun h => by cases h
    refine ⟨trimEnd text,?_,(trim_trimEnd text).trans hmessage⟩
    rw [if_neg hok,hresponse,stripPrefix_append]

/-- Both clients understand an answer exactly when their first read returns it whole. -/
theorem answer_heard_iff (answer : Answer) (chunks : List Bytes)
    (hchunks : ∀ chunk∈chunks,chunk≠[]) (hcut : chunks.flatten=answer.bytes) :
    (answer.Heard (commandForwarding (sent chunks)) ↔ answer.Whole (firstRead 256 chunks)) ∧
    (answer.Heard (handleForwardConnection (sent chunks)) ↔
      answer.Whole (firstRead 256 chunks)) := by
  rw [commandForwarding_eq,and_self]
  have hne : chunks.flatten≠[] := by
    rw [hcut]
    cases answer with
    | ok d | error message => exact List.cons_ne_nil _ _
  obtain ⟨rest,hread,hfirst,hwhole⟩ := read_sent (by decide : 0<256) hchunks hne
  have hsplit := hwhole.trans hcut
  have hforwarding : handleForwardConnection (sent chunks)=hear (firstRead 256 chunks) rest := by
    unfold handleForwardConnection
    rw [hread]
  rw [hforwarding]
  cases answer with
  | ok d => exact ok_heard_iff hsplit
  | error message =>
    refine error_heard_iff rest ?_
    cases hdata : firstRead 256 chunks with
    | nil => exact absurd hdata hfirst
    | cons byte bytes =>
      rw [hdata] at hsplit
      obtain ⟨hbyte,_⟩ := List.cons.inj hsplit
      exact ⟨bytes,congrArg (·::bytes) hbyte⟩

/-- An acknowledgement that comes alone is heard, and what follows is relayed. -/
theorem answer_heard_iff_ok :
    (Answer.ok (ascii "hi")).Heard (commandForwarding (sent [ascii "OK\n",ascii "hi"])) ∧
    (Answer.ok (ascii "hi")).Heard (handleForwardConnection (sent [ascii "OK\n",ascii "hi"])) := by
  obtain ⟨hcommand,hforward⟩ :=
    answer_heard_iff (.ok (ascii "hi")) [ascii "OK\n",ascii "hi"] (by decide) rfl
  exact ⟨hcommand.mpr rfl,hforward.mpr rfl⟩

/-- A target that speaks at once is not heard: its first bytes arrive with the
acknowledgement, and both clients take the two for an answer they do not know. An
acknowledgement without its newline is heard, but its newline is relayed before the data. -/
theorem ok_with_data_unheard :
    commandForwarding (sent [ascii "OK\nhi"])=.unexpected "OK\nhi".toList ∧
    handleForwardConnection (sent [ascii "OK\nhi"])=.unexpected "OK\nhi".toList ∧
    handleForwardConnection (sent [ascii "OK",ascii "\nhi"])=.relays (ascii "\nhi") ∧
    ¬(Answer.ok (ascii "hi")).Heard (commandForwarding (sent [ascii "OK\nhi"])) := by
  have hcommand : commandForwarding (sent [ascii "OK\nhi"])=.unexpected "OK\nhi".toList := by
    decide
  refine ⟨hcommand,by decide,by decide,fun hheard => ?_⟩
  rw [hcommand] at hheard
  cases hheard

end Answers

end WispersConnect.CommandFraming
