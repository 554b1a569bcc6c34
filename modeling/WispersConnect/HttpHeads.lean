import WispersConnect.Utf8Text

/-!
# Heads of HTTP requests

A head is a request line and header lines, each ended by a carriage return and a line
feed, and an empty line. Reading a head cuts it at these, then at spaces and colons,
and takes white space off the values. A head of tokens and visible characters is read
back as it was printed.
-/

namespace WispersConnect.HttpHeads

open Utf8Text

/-- The head of a request. -/
structure Head where
  /-- The method. -/
  method : Text
  /-- The request target. -/
  target : Text
  /-- The minor version. -/
  version : ℕ
  /-- Names and values of the headers. -/
  headers : List (Text×List UInt8)
  deriving DecidableEq

section Forms

/-- A character of a token. -/
def isTokenChar (c : Char) : Bool := c.isAlphanum || "!#$%&'*+-.^_`|~".toList.contains c

/-- A character of a request target: a visible one. -/
def isTargetChar (c : Char) : Bool := decide (0x20<c.toNat) && decide (c.toNat≠0x7F)

/-- A byte of a header's value. -/
def isValueByte (b : UInt8) : Bool := decide (b=9) || (decide (32≤b) && decide (b≠127))

/-- White space in a line. -/
def isSpaceByte (b : UInt8) : Bool := decide (b=32) || decide (b=9)

/-- A token. -/
def IsToken (text : Text) : Prop := text≠[] ∧ ∀ c∈text,isTokenChar c=true

instance (text : Text) : Decidable (IsToken text) :=
  decidable_of_iff (text≠[] ∧ text.all isTokenChar=true) (and_congr_right' List.all_eq_true)

/-- A value without white space at its ends. -/
def IsValue (value : List UInt8) : Prop :=
  (∀ b∈value,isValueByte b=true) ∧ (∀ b∈value.head?,isSpaceByte b=false) ∧
    ∀ b∈value.getLast?,isSpaceByte b=false

instance (value : List UInt8) : Decidable (IsValue value) :=
  decidable_of_iff (value.all isValueByte=true ∧ value.head?.all (fun b => !isSpaceByte b)=true ∧
    value.getLast?.all (fun b => !isSpaceByte b)=true) <| by
      simp [IsValue,List.all_eq_true,Option.all_eq_true]

/-- A head that can be printed and read back. -/
def WellFormed (head : Head) : Prop :=
  IsToken head.method ∧ (head.target≠[] ∧ ∀ c∈head.target,isTargetChar c=true) ∧
    head.version≤1 ∧ ∀ header∈head.headers,IsToken header.1 ∧ IsValue header.2

instance (head : Head) : Decidable (WellFormed head) :=
  decidable_of_iff (IsToken head.method ∧ (head.target≠[] ∧ head.target.all isTargetChar=true) ∧
    head.version≤1 ∧ head.headers.all (fun header => IsToken header.1 ∧ IsValue header.2)=true) <| by
      simp [WellFormed,List.all_eq_true]

end Forms

section Printing

/-- The end of a line. -/
def crlf : List UInt8 := [13,10]

/-- The request line. -/
def requestLine (head : Head) : List UInt8 :=
  encode head.method++32::(encode head.target++32::
    encode ("HTTP/1.".toList++displayDecimal head.version))

/-- A header line. -/
def headerLine (header : Text×List UInt8) : List UInt8 := encode header.1++58::32::header.2

/-- A head as it is sent. -/
def printHead (head : Head) : List UInt8 :=
  requestLine head++crlf++head.headers.flatMap (fun header => headerLine header++crlf)++crlf

end Printing

section Reading

/-- A byte at the start of the first line. -/
def startLine (b : UInt8) : List (List UInt8)→List (List UInt8)
  | [] => [[b]]
  | line::later => (b::line)::later

/-- The lines of some bytes. -/
def lines : List UInt8→List (List UInt8)
  | [] => [[]]
  | 13::10::rest => []::lines rest
  | b::rest => startLine b (lines rest)

/-- The bytes before and after the first occurrence of a byte. -/
def cut (byte : UInt8) (bytes : List UInt8) : Option (List UInt8×List UInt8) :=
  if byte∈bytes then some (bytes.takeWhile (·≠byte),(bytes.dropWhile (·≠byte)).tail) else none

/-- A value without the white space at its ends. -/
def trimSpace (value : List UInt8) : List UInt8 :=
  (value.dropWhile isSpaceByte).rdropWhile isSpaceByte

/-- A version that is read. -/
def readVersion (version : List UInt8) : Option ℕ :=
  if version=encode "HTTP/1.0".toList then some 0
  else if version=encode "HTTP/1.1".toList then some 1
  else none

/-- A request line that is read. -/
def readRequestLine (line : List UInt8) : Option (Text×Text×ℕ) := do
  let (method,rest) ← cut 32 line
  let (target,version) ← cut 32 rest
  let method ← fromUtf8 method
  let target ← fromUtf8 target
  let version ← readVersion version
  return (method,target,version)

/-- A header line that is read. -/
def readHeader (line : List UInt8) : Option (Text×List UInt8) := do
  let (name,value) ← cut 58 line
  let name ← fromUtf8 name
  return (name,trimSpace value)

/-- The header lines up to the empty line. -/
def readHeaders : List (List UInt8)→Option (List (Text×List UInt8))
  | [] => none
  | line::later =>
    if line=[] then some []
    else do
      let header ← readHeader line
      let headers ← readHeaders later
      return header::headers

/-- A head that is read, if it is well formed. -/
def parseHead (bytes : List UInt8) : Option Head :=
  match lines bytes with
  | [] => none
  | line::later => do
    let (method,target,version) ← readRequestLine line
    let headers ← readHeaders later
    let head : Head := ⟨method,target,version,headers⟩
    if WellFormed head then some head else none

end Reading

section RoundTrip

/-- A line is cut off at its end. -/
theorem lines_append {line : List UInt8} (h : 13∉line) (rest : List UInt8) :
    lines (line++crlf++rest)=line::lines rest := by
  induction line with
  | nil => rfl
  | cons b line ih =>
    have hb : b≠13 := fun heq => h (heq▸List.mem_cons_self)
    have hline := ih fun hmem => h (List.mem_cons_of_mem b hmem)
    rw [List.cons_append,List.cons_append,lines,hline]
    · rfl
    · exact fun _ heq => absurd heq hb

/-- Bytes are cut at the first occurrence. -/
theorem cut_append {byte : UInt8} {before : List UInt8} (h : byte∉before) (after : List UInt8) :
    cut byte (before++byte::after)=some (before,after) := by
  have hbefore : ∀ b∈before,decide (b≠byte)=true := by
    intro b hb
    refine decide_eq_true ?_
    rintro rfl
    exact h hb
  rw [cut,if_pos (List.mem_append_right _ List.mem_cons_self),
    List.takeWhile_append_of_pos hbefore,List.dropWhile_append_of_pos hbefore]
  simp

/-- A byte that is a whole character occurs where the character does. -/
theorem mem_encode {a : Char} {byte : UInt8} (ha : encodeChar a=[byte]) (text : Text) :
    byte∈encode text ↔ a∈text := by
  unfold encode
  rw [List.mem_flatMap]
  constructor
  · rintro ⟨c,hc,hbyte⟩
    exact (mem_encodeChar ha).mp hbyte▸hc
  · exact fun hmem => ⟨a,hmem,(mem_encodeChar ha).mpr rfl⟩

/-- A token has no byte of another character. -/
theorem IsToken.not_mem {text : Text} (h : IsToken text) {a : Char} {byte : UInt8}
    (ha : encodeChar a=[byte]) (hother : isTokenChar a=false) : byte∉encode text := by
  intro hmem
  have htoken := h.2 a ((mem_encode ha text).mp hmem)
  rw [hother] at htoken
  cases htoken

/-- Neither has a request target. -/
theorem target_not_mem {text : Text} (h : ∀ c∈text,isTargetChar c=true) {a : Char} {byte : UInt8}
    (ha : encodeChar a=[byte]) (hother : isTargetChar a=false) : byte∉encode text := by
  intro hmem
  have htarget := h a ((mem_encode ha text).mp hmem)
  rw [hother] at htarget
  cases htarget

/-- A version is read back. -/
theorem readVersion_display {version : ℕ} (h : version≤1) :
    readVersion (encode ("HTTP/1.".toList++displayDecimal version))=some version := by
  obtain rfl|rfl : version=0 ∨ version=1 := by omega
  · decide
  · decide

/-- A request line is read back. -/
theorem readRequestLine_requestLine {head : Head} (h : WellFormed head) :
    readRequestLine (requestLine head)=some (head.method,head.target,head.version) := by
  obtain ⟨hmethod,⟨_,htarget⟩,hversion,_⟩ := h
  have hmethodSpace : 32∉encode head.method := hmethod.not_mem (a := ' ') rfl (by decide)
  have htargetSpace : 32∉encode head.target := target_not_mem (a := ' ') htarget rfl (by decide)
  unfold readRequestLine requestLine
  rw [cut_append hmethodSpace]
  simp only [Option.bind_eq_bind,Option.bind_some]
  rw [cut_append htargetSpace]
  simp only [Option.bind_some,fromUtf8_encode,readVersion_display hversion]
  rfl

/-- A value has nothing to trim but the space before it. -/
theorem trimSpace_value {value : List UInt8} (h : IsValue value) :
    trimSpace (32::value)=value := by
  obtain ⟨_,hfirst,hlast⟩ := h
  have hstart : (32::value).dropWhile isSpaceByte=value := by
    rw [List.dropWhile_cons_of_pos (by decide)]
    cases value with
    | nil => rfl
    | cons b value => exact List.dropWhile_cons_of_neg (ne_true_of_eq_false (hfirst b rfl))
  rw [trimSpace,hstart]
  refine List.rdropWhile_eq_self_iff.mpr fun hne hspace => ?_
  have hend := hlast (value.getLast hne) (List.getLast?_eq_some_getLast hne)
  rw [hspace] at hend
  cases hend

/-- A header line is read back. -/
theorem readHeader_headerLine {header : Text×List UInt8} (hname : IsToken header.1)
    (hvalue : IsValue header.2) : readHeader (headerLine header)=some header := by
  have hcolon : 58∉encode header.1 := hname.not_mem (a := ':') rfl (by decide)
  unfold readHeader headerLine
  rw [cut_append hcolon]
  simp only [Option.bind_eq_bind,Option.bind_some,fromUtf8_encode,trimSpace_value hvalue]
  rfl

/-- A header line is one line, and not the empty one. -/
theorem headerLine_line {header : Text×List UInt8} (hname : IsToken header.1)
    (hvalue : IsValue header.2) : 13∉headerLine header ∧ headerLine header≠[] := by
  have hnameReturn : 13∉encode header.1 := hname.not_mem (a := '\r') rfl (by decide)
  have hvalueReturn : 13∉header.2 := by
    intro hmem
    have hbyte := hvalue.1 13 hmem
    revert hbyte
    decide
  unfold headerLine
  constructor
  · simp [hnameReturn,hvalueReturn]
  · simp

/-- The lines of headers, and what comes after the empty line. -/
theorem lines_headers {headers : List (Text×List UInt8)}
    (h : ∀ header∈headers,IsToken header.1 ∧ IsValue header.2) (rest : List UInt8) :
    lines (headers.flatMap (fun header => headerLine header++crlf)++crlf++rest)=
      headers.map headerLine++[]::lines rest := by
  induction headers with
  | nil => rfl
  | cons header headers ih =>
    obtain ⟨hname,hvalue⟩ := h header List.mem_cons_self
    have hrest := ih fun other hother => h other (List.mem_cons_of_mem _ hother)
    rw [List.flatMap_cons,List.append_assoc,List.append_assoc,
      lines_append (headerLine_line hname hvalue).1,←List.append_assoc,hrest]
    rfl

/-- Headers are read back up to the empty line. -/
theorem readHeaders_lines {headers : List (Text×List UInt8)}
    (h : ∀ header∈headers,IsToken header.1 ∧ IsValue header.2) (later : List (List UInt8)) :
    readHeaders (headers.map headerLine++[]::later)=some headers := by
  induction headers with
  | nil => rfl
  | cons header headers ih =>
    obtain ⟨hname,hvalue⟩ := h header List.mem_cons_self
    have hrest := ih fun other hother => h other (List.mem_cons_of_mem _ hother)
    rw [List.map_cons,List.cons_append,readHeaders,if_neg (headerLine_line hname hvalue).2,
      readHeader_headerLine hname hvalue,hrest]
    rfl

/-- What is well formed is read back as it was printed, whatever follows. -/
theorem parseHead_printHead {head : Head} (h : WellFormed head) (rest : List UInt8) :
    parseHead (printHead head++rest)=some head := by
  obtain ⟨hmethod,⟨_,htarget⟩,hversion,hheaders⟩ := id h
  have hline : 13∉requestLine head := by
    have hmethodReturn : 13∉encode head.method := hmethod.not_mem (a := '\r') rfl (by decide)
    have htargetReturn : 13∉encode head.target :=
      target_not_mem (a := '\r') htarget rfl (by decide)
    have hversionReturn : 13∉encode ("HTTP/1.".toList++displayDecimal head.version) := by
      obtain hzero|hone : head.version=0 ∨ head.version=1 := by omega
      · rw [hzero]
        decide
      · rw [hone]
        decide
    unfold requestLine
    rw [List.mem_append,List.mem_cons,List.mem_append,List.mem_cons]
    simp only [hmethodReturn,htargetReturn,hversionReturn]
    decide
  have hlines : lines (printHead head++rest)=
      requestLine head::(head.headers.map headerLine++[]::lines rest) := by
    unfold printHead
    rw [List.append_assoc,List.append_assoc,lines_append hline,←List.append_assoc,
      lines_headers hheaders]
  unfold parseHead
  rw [hlines]
  simp only [readRequestLine_requestLine h,readHeaders_lines hheaders,Option.bind_eq_bind,
    Option.bind_some]
  exact if_pos h

/-- A head that was printed and that nothing follows is read back. -/
theorem parseHead_print {head : Head} (h : WellFormed head) :
    parseHead (printHead head)=some head := by
  have hread := parseHead_printHead h []
  rw [List.append_nil] at hread
  exact hread

/-- What is read is well formed. -/
theorem parseHead_wellFormed {bytes : List UInt8} {head : Head} (h : parseHead bytes=some head) :
    WellFormed head := by
  unfold parseHead at h
  split at h
  · cases h
  · obtain ⟨⟨method,target,version⟩,_,h⟩ := Option.bind_eq_some_iff.mp h
    obtain ⟨headers,_,h⟩ := Option.bind_eq_some_iff.mp h
    dsimp only at h
    split_ifs at h with hwell
    obtain rfl := Option.some.inj h
    exact hwell

end RoundTrip

end WispersConnect.HttpHeads
