import Mathlib.Data.List.DropRight
import Mathlib.Data.List.Basic

/-!
# Texts and their UTF-8 encoding

A text is a list of characters. Its bytes are the encodings of its characters one
after another; decoding is strict, or replaces what is not UTF-8. A character that
was cut off is not decoded to another one.
-/

namespace WispersConnect.Utf8Text

/-- A text. -/
abbrev Text := List Char

/-- The UTF-8 encoding of a character. -/
def encodeChar (c : Char) : List UInt8 := String.utf8EncodeChar c

/-- The UTF-8 encoding of a text. -/
def encode (text : Text) : List UInt8 := text.flatMap encodeChar

/-- The character that some bytes start with, if they start with one. -/
def decodeChar (bytes : List UInt8) : Option Char := ByteArray.utf8DecodeChar? bytes.toByteArray 0

/-- The character that stands for bytes which are not UTF-8. -/
def replacement : Char := '\uFFFD'

/-- A byte that continues a character. -/
def continues (byte : Option UInt8) : Bool :=
  match byte with
  | some byte => 128≤byte && byte<192
  | none => false

/-- A second byte that can follow a first byte of a longer character. -/
def follows (first : UInt8) : Option UInt8→Bool
  | none => false
  | some second =>
    if first=0xE0 then 0xA0 ≤ second && second<0xC0
    else if first=0xED then 128 ≤ second && second<0xA0
    else if first=0xF0 then 0x90 ≤ second && second<0xC0
    else if first=0xF4 then 128 ≤ second && second<0x90
    else 128 ≤ second && second<0xC0

/-- How many bytes one replacement stands for, less one, where no character starts. -/
def invalidRest (first : UInt8) (rest : List UInt8) : ℕ :=
  if 0xE0≤first ∧ first<0xF0 then
    if follows first rest[0]? then 1 else 0
  else if 0xF0≤first ∧ first<0xF5 then
    if follows first rest[0]? then if continues rest[1]? then 2 else 1 else 0
  else 0

/-- Decoding after some bytes that belong to the character before. -/
def lossyFrom : ℕ→List UInt8→Text
  | _,[] => []
  | skip+1,_::rest => lossyFrom skip rest
  | 0,byte::rest =>
    match decodeChar (byte::rest) with
    | some c => c::lossyFrom (c.utf8Size-1) rest
    | none => replacement::lossyFrom (invalidRest byte rest) rest

/-- Decoding that replaces what is not UTF-8. -/
def fromUtf8Lossy (bytes : List UInt8) : Text := lossyFrom 0 bytes

/-- Strict decoding after some bytes that belong to the character before. -/
def strictFrom : ℕ→List UInt8→Option Text
  | _,[] => some []
  | skip+1,_::rest => strictFrom skip rest
  | 0,byte::rest =>
    match decodeChar (byte::rest) with
    | some c => (strictFrom (c.utf8Size-1) rest).map (c::·)
    | none => none

/-- Decoding that fails on what is not UTF-8. -/
def fromUtf8 (bytes : List UInt8) : Option Text := strictFrom 0 bytes

/-- The characters with the property `White_Space`. -/
def isWhitespace (c : Char) : Bool :=
  let n := c.toNat
  (9≤n && n≤13) || n=0x20 || n=0x85 || n=0xA0 || n=0x1680 || (0x2000≤n && n≤0x200A) ||
    n=0x2028 || n=0x2029 || n=0x202F || n=0x205F || n=0x3000

/-- A text without the white space at its end. -/
def trimEnd (text : Text) : Text := text.rdropWhile isWhitespace

/-- A text without the white space at its ends. -/
def trim (text : Text) : Text := trimEnd (text.dropWhile isWhitespace)

/-- The parts of a text before and after the last occurrence of a character. -/
def splitLast (c : Char) : Text→Option (Text×Text)
  | [] => none
  | a::rest =>
    match splitLast c rest with
    | some (before,after) => some (a::before,after)
    | none => if a=c then some ([],rest) else none

/-- What follows the given start of a text. -/
def stripPrefix : Text→Text→Option Text
  | [],text => some text
  | _::_,[] => none
  | a::start,b::text => if a=b then stripPrefix start text else none

/-- What precedes the given end of a text. -/
def stripSuffix (ending text : Text) : Option Text :=
  (stripPrefix ending.reverse text.reverse).map List.reverse

/-- The number that a text of decimal digits stands for. -/
def parseDecimal (text : Text) : Option ℕ :=
  if text≠[] ∧ text.all Char.isDigit then some (Nat.ofDigitChars 10 text 0) else none

/-- A number in decimal. -/
def displayDecimal (n : ℕ) : Text := Nat.toDigits 10 n

section Coding

/-- Characters one after another. -/
theorem encode_cons (c : Char) (text : Text) : encode (c::text)=encodeChar c++encode text := rfl

/-- Texts one after another. -/
theorem encode_append (s t : Text) : encode (s++t)=encode s++encode t := List.flatMap_append

/-- Every character has bytes. -/
theorem encodeChar_ne_nil (c : Char) : encodeChar c≠[] := String.utf8EncodeChar_ne_nil

/-- How many bytes a character has. -/
theorem length_encodeChar (c : Char) : (encodeChar c).length=c.utf8Size :=
  String.length_utf8EncodeChar c

/-- A character has a first byte, and others. -/
theorem encodeChar_eq_cons (c : Char) :
    ∃ byte tail,encodeChar c=byte::tail ∧ c.utf8Size-1=tail.length := by
  obtain ⟨byte,tail,hbytes⟩ := List.exists_cons_of_ne_nil (encodeChar_ne_nil c)
  have hlength := length_encodeChar c
  rw [hbytes,List.length_cons] at hlength
  exact ⟨byte,tail,hbytes,by omega⟩

/-- A character is decoded, whatever follows. -/
theorem decodeChar_encodeChar (c : Char) (rest : List UInt8) :
    decodeChar (encodeChar c++rest)=some c := by
  unfold decodeChar encodeChar
  rw [List.toByteArray_append]
  exact ByteArray.utf8DecodeChar?_utf8EncodeChar_append

/-- Two characters that the same bytes start with are the same. -/
theorem encodeChar_inj {c d : Char} {s t : List UInt8} (h : encodeChar c++s=encodeChar d++t) :
    c=d ∧ s=t := by
  have hc := decodeChar_encodeChar c s
  rw [h,decodeChar_encodeChar] at hc
  obtain rfl := Option.some.inj hc
  exact ⟨rfl,List.append_cancel_left h⟩

/-- Skipped bytes do not matter. -/
theorem lossyFrom_eq (skip : ℕ) (bytes : List UInt8) :
    lossyFrom skip bytes=fromUtf8Lossy (bytes.drop skip) := by
  induction skip generalizing bytes with
  | zero => rfl
  | succ skip ih =>
    cases bytes with
    | nil => rfl
    | cons byte rest => exact ih rest

/-- A character at the start is decoded, and the rest after it. -/
theorem fromUtf8Lossy_encodeChar (c : Char) (rest : List UInt8) :
    fromUtf8Lossy (encodeChar c++rest)=c::fromUtf8Lossy rest := by
  have hdecode := decodeChar_encodeChar c rest
  obtain ⟨byte,tail,hbytes,hskip⟩ := encodeChar_eq_cons c
  rw [hbytes] at hdecode ⊢
  change lossyFrom 0 (byte::(tail++rest))=_
  change decodeChar (byte::(tail++rest))=some c at hdecode
  rw [lossyFrom,hdecode]
  dsimp only
  rw [lossyFrom_eq,hskip,List.drop_left]

/-- A text at the start is decoded, and the rest after it. -/
theorem fromUtf8Lossy_append (text : Text) (rest : List UInt8) :
    fromUtf8Lossy (encode text++rest)=text++fromUtf8Lossy rest := by
  induction text with
  | nil => rfl
  | cons c text ih =>
    rw [encode_cons,List.append_assoc,fromUtf8Lossy_encodeChar,ih]
    rfl

/-- Decoding gives back every text. -/
theorem fromUtf8Lossy_encode (text : Text) : fromUtf8Lossy (encode text)=text := by
  have h := fromUtf8Lossy_append text []
  rw [List.append_nil] at h
  exact h.trans (List.append_nil text)

/-- A byte that is a whole character is the first one of that character only. -/
theorem mem_encodeChar {a c : Char} {byte : UInt8} (ha : encodeChar a=[byte]) :
    byte∈encodeChar c ↔ c=a := by
  constructor
  · intro hmem
    obtain ⟨i,hi,hget⟩ := List.getElem_of_mem hmem
    have hfirst : byte.IsUTF8FirstByte := by
      have h0 := @UInt8.isUTF8FirstByte_getElem_zero_utf8EncodeChar a
      have hbyte : ∀ h : 0<(String.utf8EncodeChar a).length,(String.utf8EncodeChar a)[0]=byte := by
        intro h
        change 0<(encodeChar a).length at h
        change (encodeChar a)[0]=byte
        simp only [ha,List.getElem_cons_zero]
      rw [hbyte] at h0
      exact h0
    have hzero : i=0 := by
      rw [←hget] at hfirst
      exact UInt8.isUTF8FirstByte_getElem_utf8EncodeChar.mp hfirst
    subst hzero
    cases hbytes : encodeChar c with
    | nil => exact absurd hbytes (encodeChar_ne_nil c)
    | cons first tail =>
      simp only [hbytes,List.getElem_cons_zero] at hget
      have hcons : encodeChar c++[]=encodeChar a++tail := by
        rw [hbytes,ha,hget,List.append_nil]
        rfl
      exact (encodeChar_inj hcons).1
  · rintro rfl
    rw [ha]
    exact List.mem_singleton_self byte

/-- A character that is decoded is what the bytes start with. -/
theorem decodeChar_eq {bytes : List UInt8} {c : Char} (h : decodeChar bytes=some c) :
    ∃ rest,bytes=encodeChar c++rest := by
  obtain ⟨rest,hrest⟩ := ByteArray.exists_of_utf8DecodeChar?_eq_some h
  refine ⟨rest.data.toList,?_⟩
  have hdata := congrArg (fun array => array.data.toList) hrest
  rw [ByteArray.data_append,Array.toList_append,List.data_toByteArray,List.data_toByteArray] at hdata
  exact hdata

/-- Skipped bytes do not matter for strict decoding either. -/
theorem strictFrom_eq (skip : ℕ) (bytes : List UInt8) :
    strictFrom skip bytes=fromUtf8 (bytes.drop skip) := by
  induction skip generalizing bytes with
  | zero => rfl
  | succ skip ih =>
    cases bytes with
    | nil => rfl
    | cons byte rest => exact ih rest

/-- Strict decoding gives back every text. -/
theorem fromUtf8_encode (text : Text) : fromUtf8 (encode text)=some text := by
  induction text with
  | nil => rfl
  | cons c text ih =>
    have hdecode := decodeChar_encodeChar c (encode text)
    obtain ⟨byte,tail,hbytes,hskip⟩ := encodeChar_eq_cons c
    rw [encode_cons]
    rw [hbytes] at hdecode ⊢
    change decodeChar (byte::(tail++encode text))=some c at hdecode
    change strictFrom 0 (byte::(tail++encode text))=_
    rw [strictFrom,hdecode]
    dsimp only
    rw [strictFrom_eq,hskip,List.drop_left,ih]
    rfl

/-- What replacing leaves of some bytes: nothing of none, and else a character that they start
with, or a replacement, and then the rest. -/
theorem fromUtf8Lossy_cons (byte : UInt8) (rest : List UInt8) :
    (∃ c later,byte::rest=encodeChar c++later ∧
      fromUtf8Lossy (byte::rest)=c::fromUtf8Lossy later) ∨
    ∃ later,later <:+ rest ∧ fromUtf8Lossy (byte::rest)=replacement::fromUtf8Lossy later := by
  change (∃ c later,_ ∧ lossyFrom 0 (byte::rest)=_) ∨ ∃ later,_ ∧ lossyFrom 0 (byte::rest)=_
  rw [lossyFrom]
  cases hdecode : decodeChar (byte::rest) with
  | some c =>
    obtain ⟨later,hlater⟩ := decodeChar_eq hdecode
    have hlossy := fromUtf8Lossy_encodeChar c later
    rw [←hlater] at hlossy
    change lossyFrom 0 (byte::rest)=_ at hlossy
    rw [lossyFrom,hdecode] at hlossy
    exact .inl ⟨c,later,hlater,hlossy⟩
  | none => exact .inr ⟨rest.drop (invalidRest byte rest),List.drop_suffix _ _,by
      dsimp only
      rw [lossyFrom_eq]⟩

/-- What is written where bytes were replaced are their own bytes and those of replacements. -/
theorem mem_encode_fromUtf8Lossy {bytes : List UInt8} {b : UInt8}
    (h : b∈encode (fromUtf8Lossy bytes)) : b∈bytes ∨ b∈encodeChar replacement := by
  induction hn : bytes.length using Nat.strong_induction_on generalizing bytes with
  | h n ih =>
    cases bytes with
    | nil => cases h
    | cons byte rest =>
      rcases fromUtf8Lossy_cons byte rest with ⟨c,later,hbytes,hlossy⟩|⟨later,hlater,hlossy⟩
      · rw [hlossy,encode_cons] at h
        rw [hbytes] at hn ⊢
        have hpositive := List.length_pos_iff.mpr (encodeChar_ne_nil c)
        rw [List.length_append] at hn
        rcases List.mem_append.mp h with hc|hrest
        · exact .inl (List.mem_append_left _ hc)
        · exact (ih later.length (by omega) hrest rfl).imp_left (List.mem_append_right _)
      · rw [hlossy,encode_cons] at h
        have hlength := hlater.length_le
        rw [List.length_cons] at hn
        rcases List.mem_append.mp h with hc|hrest
        · exact .inr hc
        · exact (ih later.length (by omega) hrest rfl).imp_left fun hmem =>
            List.mem_cons_of_mem _ (hlater.subset hmem)

/-- The first byte where bytes were replaced is the first one, or that of a replacement. -/
theorem head?_encode_fromUtf8Lossy (bytes : List UInt8) :
    (encode (fromUtf8Lossy bytes)).head?=bytes.head? ∨
      (encode (fromUtf8Lossy bytes)).head?=(encodeChar replacement).head? := by
  cases bytes with
  | nil => exact .inl rfl
  | cons byte rest =>
    rcases fromUtf8Lossy_cons byte rest with ⟨c,later,hbytes,hlossy⟩|⟨later,hlater,hlossy⟩
    · left
      rw [hlossy,encode_cons,hbytes,List.head?_append_of_ne_nil _ (encodeChar_ne_nil c),
        List.head?_append_of_ne_nil _ (encodeChar_ne_nil c)]
    · right
      rw [hlossy,encode_cons,List.head?_append_of_ne_nil _ (encodeChar_ne_nil replacement)]

/-- The last byte where bytes were replaced is the last one, or that of a replacement. -/
theorem getLast?_encode_fromUtf8Lossy (bytes : List UInt8) :
    (encode (fromUtf8Lossy bytes)).getLast?=bytes.getLast? ∨
      (encode (fromUtf8Lossy bytes)).getLast?=(encodeChar replacement).getLast? := by
  induction hn : bytes.length using Nat.strong_induction_on generalizing bytes with
  | h n ih =>
    cases bytes with
    | nil => exact .inl rfl
    | cons byte rest =>
      have hlast : ∀ (c : Char) (later : List UInt8),later≠[] → later.length<n →
          (encodeChar c++encode (fromUtf8Lossy later)).getLast?=later.getLast? ∨
          (encodeChar c++encode (fromUtf8Lossy later)).getLast?=
            (encodeChar replacement).getLast? := by
        intro c later hne hlt
        obtain ⟨last,hsome⟩ := List.getLast?_isSome.mpr hne |> Option.isSome_iff_exists.mp
        obtain ⟨other,hother⟩ : ∃ other,(encodeChar replacement).getLast?=some other := ⟨_,rfl⟩
        rw [List.getLast?_append]
        rcases ih later.length hlt later rfl with hsame|hreplaced
        · left
          rw [hsame,hsome]
          rfl
        · right
          rw [hreplaced,hother]
          rfl
      rcases fromUtf8Lossy_cons byte rest with ⟨c,later,hbytes,hlossy⟩|⟨later,hlater,hlossy⟩
      · rw [hlossy,encode_cons]
        rw [hbytes] at hn ⊢
        have hpositive := List.length_pos_iff.mpr (encodeChar_ne_nil c)
        rw [List.length_append] at hn
        by_cases hnil : later=[]
        · subst hnil
          exact .inl rfl
        · rw [List.getLast?_append_of_ne_nil _ hnil]
          exact hlast c later hnil (by omega)
      · rw [hlossy,encode_cons]
        have hlength := hlater.length_le
        rw [List.length_cons] at hn
        by_cases hnil : later=[]
        · subst hnil
          right
          rw [show encode (fromUtf8Lossy [])=[] from rfl,List.append_nil]
        · obtain ⟨skipped,hskipped⟩ := hlater
          rw [←hskipped,←List.cons_append,List.getLast?_append_of_ne_nil _ hnil]
          exact hlast replacement later hnil (by omega)

/-- Replacing leaves exactly the texts as they are. -/
theorem encode_fromUtf8Lossy_eq {bytes : List UInt8} :
    encode (fromUtf8Lossy bytes)=bytes ↔ ∃ text,encode text=bytes := by
  constructor
  · exact fun h => ⟨_,h⟩
  · rintro ⟨text,rfl⟩
    rw [fromUtf8Lossy_encode]

end Coding

section Trimming

/-- A text that neither starts nor ends with white space is trimmed. -/
theorem trim_eq_self {text : Text} (hhead : ∀ c,text.head?=some c → isWhitespace c=false)
    (hlast : ∀ c,text.getLast?=some c → isWhitespace c=false) : trim text=text := by
  have hstart : text.dropWhile isWhitespace=text := by
    cases text with
    | nil => rfl
    | cons c text => exact List.dropWhile_cons_of_neg (ne_true_of_eq_false (hhead c rfl))
  unfold trim trimEnd
  rw [hstart,List.rdropWhile_eq_self_iff]
  intro hne
  exact ne_true_of_eq_false (hlast _ (List.getLast?_eq_some_getLast hne))

/-- White space at the end of a text is trimmed. -/
theorem trimEnd_append_space {text space : Text} (hspace : ∀ c∈space,isWhitespace c=true) :
    trimEnd (text++space)=trimEnd text := by
  unfold trimEnd List.rdropWhile
  rw [List.reverse_append,List.dropWhile_append_of_pos]
  intro c hc
  exact hspace c (List.mem_reverse.mp hc)

/-- What is trimmed off the end of a text is white space. -/
theorem trimEnd_append_self (text : Text) :
    ∃ space,text=trimEnd text++space ∧ ∀ c∈space,isWhitespace c=true := by
  refine ⟨(text.reverse.takeWhile isWhitespace).reverse,?_,fun c hc => ?_⟩
  · unfold trimEnd List.rdropWhile
    rw [←List.reverse_append,List.takeWhile_append_dropWhile,List.reverse_reverse]
  · exact List.mem_takeWhile_imp (List.mem_reverse.mp hc)

/-- White space at the end of a text is trimmed. -/
theorem trim_append_space {text space : Text} (hspace : ∀ c∈space,isWhitespace c=true) :
    trim (text++space)=trim text := by
  have hnone : space.dropWhile isWhitespace=[] := List.dropWhile_eq_nil_iff.mpr hspace
  unfold trim
  rw [List.dropWhile_append]
  cases hstart : text.dropWhile isWhitespace with
  | nil =>
    change trimEnd (space.dropWhile isWhitespace)=trimEnd []
    rw [hnone]
  | cons c rest =>
    change trimEnd (c::rest++space)=trimEnd (c::rest)
    exact trimEnd_append_space hspace

/-- White space at the start of a text is trimmed. -/
theorem trim_space_append {space text : Text} (hspace : ∀ c∈space,isWhitespace c=true) :
    trim (space++text)=trim text := by
  unfold trim
  rw [List.dropWhile_append_of_pos hspace]

/-- What is trimmed off a text is white space. -/
theorem exists_trim (text : Text) : ∃ left right,text=left++trim text++right ∧
    (∀ c∈left,isWhitespace c=true) ∧ ∀ c∈right,isWhitespace c=true := by
  obtain ⟨right,htext,hright⟩ := trimEnd_append_self (text.dropWhile isWhitespace)
  refine ⟨text.takeWhile isWhitespace,right,?_,fun c hc => List.mem_takeWhile_imp hc,hright⟩
  unfold trim
  rw [List.append_assoc,←htext,List.takeWhile_append_dropWhile]

/-- Trimming the end first changes nothing. -/
theorem trim_trimEnd (text : Text) : trim (trimEnd text)=trim text := by
  obtain ⟨space,htext,hspace⟩ := trimEnd_append_self text
  have h := @trim_append_space (trimEnd text) _ hspace
  rw [←htext] at h
  exact h.symm

/-- A text that does not start with white space is trimmed at its end only. -/
theorem trim_cons {c : Char} {text : Text} (h : isWhitespace c=false) :
    trim (c::text)=trimEnd (c::text) := by
  unfold trim
  rw [List.dropWhile_cons_of_neg (ne_true_of_eq_false h)]

/-- A text without anything but white space. -/
theorem trim_eq_nil {text : Text} : trim text=[] ↔ ∀ c∈text,isWhitespace c=true := by
  constructor
  · intro h
    have hall : ∀ c∈text.dropWhile isWhitespace,isWhitespace c=true := List.rdropWhile_eq_nil_iff.mp h
    have hnone : text.dropWhile isWhitespace=[] := by
      cases hstart : text.dropWhile isWhitespace with
      | nil => rfl
      | cons c rest =>
        have hne : text.dropWhile isWhitespace≠[] := by
          rw [hstart]
          exact List.cons_ne_nil _ _
        have hhead := List.head_dropWhile_not isWhitespace hne
        have hmem := List.head_mem hne
        exact absurd (hall _ hmem) (ne_true_of_eq_false hhead)
    exact List.dropWhile_eq_nil_iff.mp hnone
  · intro h
    have happend := @trim_append_space [] _ h
    exact happend

/-- Of two texts one after another, only the second is trimmed, unless it is white space. -/
theorem trimEnd_append {s t : Text} (h : trim t≠[]) : trimEnd (s++t)=s++trimEnd t := by
  have hne : (t.reverse.dropWhile isWhitespace).isEmpty=false := by
    refine Bool.eq_false_iff.mpr fun hempty => h (trim_eq_nil.mpr fun c hc => ?_)
    exact List.dropWhile_eq_nil_iff.mp (List.isEmpty_iff.mp hempty) c (List.mem_reverse.mpr hc)
  unfold trimEnd List.rdropWhile
  rw [List.reverse_append,List.dropWhile_append,hne,if_neg Bool.false_ne_true,List.reverse_append,
    List.reverse_reverse]

/-- Trimming leaves out characters only. -/
theorem mem_of_mem_trim {text : Text} {c : Char} (h : c∈trim text) : c∈text := by
  have hstart : trim text <+: text.dropWhile isWhitespace := List.rdropWhile_prefix _ _
  exact (List.dropWhile_suffix _).subset (hstart.subset h)

end Trimming

section Splitting

/-- What is left of a text after a start that it has. -/
theorem stripPrefix_append (start text : Text) : stripPrefix start (start++text)=some text := by
  induction start with
  | nil => rfl
  | cons c start ih =>
    change (if c=c then stripPrefix start (start++text) else none)=some text
    rw [if_pos rfl,ih]

/-- A text that has a start is the start and what is left. -/
theorem stripPrefix_eq {start text rest : Text} (h : stripPrefix start text=some rest) :
    text=start++rest := by
  induction start generalizing text with
  | nil => exact Option.some.inj h
  | cons c start ih =>
    cases text with
    | nil => cases h
    | cons b text =>
      unfold stripPrefix at h
      split_ifs at h with hc
      rw [ih h,hc]
      rfl

/-- A text is split at the last of its characters of one kind. -/
theorem splitLast_append {c : Char} {before after : Text} (h : c∉after) :
    splitLast c (before++c::after)=some (before,after) := by
  have hnone : ∀ {text : Text},c∉text → splitLast c text=none := by
    intro text
    induction text with
    | nil => exact fun _ => rfl
    | cons a text ih =>
      intro hmem
      rw [List.mem_cons,not_or] at hmem
      rw [splitLast,ih hmem.2]
      exact if_neg (Ne.symm hmem.1)
  induction before with
  | nil =>
    change splitLast c (c::after)=_
    rw [splitLast,hnone h]
    exact if_pos rfl
  | cons a before ih =>
    change splitLast c (a::(before++c::after))=_
    rw [splitLast,ih]

/-- The parts of a text make up the text. -/
theorem splitLast_eq {c : Char} {text before after : Text}
    (h : splitLast c text=some (before,after)) : text=before++c::after := by
  induction text generalizing before with
  | nil => cases h
  | cons a text ih =>
    unfold splitLast at h
    split at h
    next before' after' hsplit =>
      cases h
      exact congrArg (a::·) (ih hsplit)
    next hsplit =>
      split_ifs at h with ha
      cases h
      rw [ha]
      rfl

variable {α : Type*} {a : α} {l part : List α}

/-- What stands between two separators of a list, or between one and an end. -/
structure IsPart (a : α) (l part : List α) : Prop where
  /-- There is no separator in it. -/
  unseparated : a∉part
  /-- There are separators or ends around it. -/
  surrounded : ∃ before after,l=before++part++after ∧ (before=[] ∨ ∃ s,before=s++[a]) ∧
    (after=[] ∨ ∃ t,after=a::t)

variable [DecidableEq α]

/-- A list is split at its first separator, and then what follows that. -/
theorem splitOn_induction (a : α) {motive : List α→List (List α)→Prop}
    (last : ∀ s,a∉s → motive s [s])
    (more : ∀ s t,a∉s → motive t (t.splitOn a) → motive (s++a::t) (s::t.splitOn a))
    (l : List α) : motive l (l.splitOn a) := by
  induction hn : l.length using Nat.strong_induction_on generalizing l with
  | _ n ih =>
    by_cases hmem : a∈l
    · obtain ⟨s,t,rfl,hs⟩ := List.eq_append_cons_of_mem hmem
      rw [List.splitOn_append_cons_self_of_not_mem hs]
      refine more s t hs (ih t.length ?_ t rfl)
      rw [←hn,List.length_append,List.length_cons]
      omega
    · rw [List.splitOn_eq_singleton hmem]
      exact last l hmem

/-- A list is split into its parts. -/
theorem mem_splitOn_iff : part∈l.splitOn a ↔ IsPart a l part := by
  constructor
  · refine splitOn_induction a (motive:=fun l parts => part∈parts → IsPart a l part)
      (fun s hs hpart => ?_) (fun s t hs ih hpart => ?_) l
    · rw [List.mem_singleton] at hpart
      subst hpart
      exact ⟨hs,[],[],(List.append_nil part).symm,.inl rfl,.inl rfl⟩
    · obtain rfl|hpart := List.mem_cons.mp hpart
      · exact ⟨hs,[],a::t,rfl,.inl rfl,.inr ⟨t,rfl⟩⟩
      · obtain ⟨hunseparated,before,after,rfl,hbefore,hafter⟩ := ih hpart
        refine ⟨hunseparated,s++a::before,after,?_,.inr ?_,hafter⟩
        · simp only [List.append_assoc,List.cons_append]
        · obtain rfl|⟨u,rfl⟩ := hbefore
          · exact ⟨s,rfl⟩
          · exact ⟨s++a::u,by simp only [List.append_assoc,List.cons_append]⟩
  · rintro ⟨hunseparated,before,after,rfl,hbefore,hafter⟩
    have hfirst : part∈(part++after).splitOn a := by
      obtain rfl|⟨t,rfl⟩ := hafter
      · rw [List.append_nil,List.splitOn_eq_singleton hunseparated]
        exact List.mem_cons_self
      · rw [List.splitOn_append_cons_self_of_not_mem hunseparated]
        exact List.mem_cons_self
    obtain rfl|⟨s,rfl⟩ := hbefore
    · exact hfirst
    · rw [List.append_assoc,List.append_assoc,List.singleton_append,List.splitOn_append_cons_self]
      exact List.mem_append_right _ hfirst

/-- What is in the parts of a list is in the list, and is no separator. -/
theorem exists_mem_part_iff {c : α} : (∃ part,IsPart a l part ∧ c∈part) ↔ c∈l ∧ c≠a := by
  simp only [←mem_splitOn_iff]
  refine splitOn_induction a (motive:=fun l parts => (∃ part∈parts,c∈part) ↔ c∈l ∧ c≠a)
    (fun s hs => ?_) (fun s t hs ih => ?_) l
  · simp only [List.mem_singleton,exists_eq_left]
    exact ⟨fun hc => ⟨hc,fun he => hs (he ▸ hc)⟩,fun h => h.1⟩
  · simp only [List.mem_cons,exists_eq_or_imp,ih,List.mem_append]
    constructor
    · rintro (hc|⟨hc,hne⟩)
      · exact ⟨.inl hc,fun he => hs (he ▸ hc)⟩
      · exact ⟨.inr (.inr hc),hne⟩
    · rintro ⟨hc|rfl|hc,hne⟩
      · exact .inl hc
      · exact absurd rfl hne
      · exact .inr ⟨hc,hne⟩

end Splitting

section Numbers

/-- A decimal number has digits only. -/
theorem displayDecimal_digits {n : ℕ} {c : Char} (h : c∈displayDecimal n) : c.isDigit=true :=
  Nat.isDigit_of_mem_toDigits (by decide) (by decide) h

/-- A decimal number has a digit. -/
theorem displayDecimal_ne_nil (n : ℕ) : displayDecimal n≠[] := Nat.toDigits_ne_nil

/-- A number is read back from its decimal digits. -/
theorem parseDecimal_displayDecimal (n : ℕ) : parseDecimal (displayDecimal n)=some n := by
  have hdigits : (displayDecimal n).all Char.isDigit=true :=
    List.all_eq_true.mpr fun _ => displayDecimal_digits
  unfold parseDecimal
  rw [if_pos ⟨displayDecimal_ne_nil n,hdigits⟩]
  exact congrArg some (Nat.ofDigitChars_toDigits (by decide) (by decide))

/-- What is read is a number's digits. -/
theorem parseDecimal_eq_some {text : Text} {n : ℕ} : parseDecimal text=some n ↔
    text≠[] ∧ (∀ c∈text,c.isDigit=true) ∧ Nat.ofDigitChars 10 text 0=n := by
  unfold parseDecimal
  split_ifs with h
  · rw [Option.some.injEq]
    exact ⟨fun hn => ⟨h.1,List.all_eq_true.mp h.2,hn⟩,fun hn => hn.2.2⟩
  · exact iff_of_false (fun hn => hn.elim) fun hn => h ⟨hn.1,List.all_eq_true.mpr hn.2.1⟩

/-- Digits have one byte each. -/
theorem length_encode_digits {text : Text} (h : ∀ c∈text,c.isDigit=true) :
    (encode text).length=text.length := by
  induction text with
  | nil => rfl
  | cons c text ih =>
    have hdigit := h c List.mem_cons_self
    simp only [Char.isDigit,Bool.and_eq_true,decide_eq_true_eq] at hdigit
    have hascii : (57 : UInt32)≤127 := by decide
    have hone : c.utf8Size=1 := Char.utf8Size_eq_one_iff.mpr (UInt32.le_trans hdigit.2 hascii)
    rw [encode_cons,List.length_append,length_encodeChar,hone,List.length_cons,
      ih fun d hd => h d (List.mem_cons_of_mem _ hd)]
    omega

end Numbers

end WispersConnect.Utf8Text
