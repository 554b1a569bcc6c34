import Mathlib.Algebra.Ring.Nat
import Mathlib.Data.List.Basic
import Mathlib.Logic.Function.Basic
import Mathlib.Tactic.Common

/-!
# Tagged fields on the wire

Base-128 varints, length-delimited byte strings, and messages as sequences of
tagged fields in which fields with their default value are left out. Every
encoding is self-delimiting, so a message determines its fields, and the values
under one tag can be read off a message whatever its other fields are.
-/

namespace WispersConnect.WireFormat

/-- Encodings that can be read off the front of any longer string. -/
def SelfDelimiting {α β : Type} (encode : α→List β) : Prop :=
  ∀ a b rest rest',encode a++rest=encode b++rest'→a=b ∧ rest=rest'

/-- Concatenating nonempty self-delimiting encodings loses nothing. -/
theorem SelfDelimiting.flatMap_injective {α β : Type} {encode : α→List β}
    (h : SelfDelimiting encode) (hne : ∀ a,encode a≠[]) :
    Function.Injective fun xs : List α => xs.flatMap encode := by
  intro xs ys he
  dsimp only at he
  induction xs generalizing ys with
  | nil =>
    cases ys with
    | nil => rfl
    | cons y ys =>
      rw [List.flatMap_nil,List.flatMap_cons] at he
      exact absurd (List.append_eq_nil_iff.mp he.symm).1 (hne y)
  | cons x xs ih =>
    cases ys with
    | nil =>
      rw [List.flatMap_nil,List.flatMap_cons] at he
      exact absurd (List.append_eq_nil_iff.mp he).1 (hne x)
    | cons y ys =>
      rw [List.flatMap_cons,List.flatMap_cons] at he
      obtain ⟨hxy,hrest⟩ := h x y _ _ he
      rw [hxy,ih hrest]

/-- Seven bits a byte, lowest first, for at most `fuel` bytes. -/
def varintDigits : ℕ→ℕ→List UInt8
  | 0,_ => []
  | fuel+1,n =>
    if n<128 then [UInt8.ofNat n] else UInt8.ofNat (n%128+128)::varintDigits fuel (n/128)

/-- The base-128 varint of a number. -/
def encodeVarint (n : ℕ) : List UInt8 := varintDigits (n.log2+1) n

/-- One byte for each binary digit is more than enough. -/
theorem lt_varint_capacity (n : ℕ) : n<128^(n.log2+1) := by
  have hlog : n<2^(n.log2+1) := Nat.lt_log2_self
  have hpow : 2^(n.log2+1)≤128^(n.log2+1) := Nat.pow_le_pow_left (by omega) _
  omega

/-- A byte below 256 keeps its value. -/
theorem byte_inj {a b : ℕ} (ha : a<256) (hb : b<256) (h : UInt8.ofNat a=UInt8.ofNat b) : a=b := by
  have ht := congrArg UInt8.toNat h
  rw [UInt8.toNat_ofNat_of_lt' ha,UInt8.toNat_ofNat_of_lt' hb] at ht
  exact ht

/-- A small number is its own last byte. -/
theorem varintDigits_of_lt {n : ℕ} (fuel : ℕ) (h : n<128) :
    varintDigits (fuel+1) n=[UInt8.ofNat n] := by
  rw [varintDigits,if_pos h]

/-- A large number puts out seven bits with the continuation flag. -/
theorem varintDigits_of_not_lt {n : ℕ} (fuel : ℕ) (h : ¬n<128) :
    varintDigits (fuel+1) n=UInt8.ofNat (n%128+128)::varintDigits fuel (n/128) := by
  rw [varintDigits,if_neg h]

/-- Digit sequences that do not run out of bytes are self-delimiting. -/
theorem varintDigits_delimited {f g m n : ℕ} (hm : m<128^(f+1)) (hn : n<128^(g+1))
    {rest rest' : List UInt8}
    (he : varintDigits (f+1) m++rest=varintDigits (g+1) n++rest') : m=n ∧ rest=rest' := by
  induction f generalizing g m n with
  | zero =>
    have hmlt : m<128 := by simpa using hm
    by_cases hnlt : n<128
    · rw [varintDigits_of_lt _ hmlt,varintDigits_of_lt _ hnlt] at he
      simp only [List.cons_append,List.nil_append,List.cons.injEq] at he
      exact ⟨byte_inj (by omega) (by omega) he.1,he.2⟩
    · rw [varintDigits_of_lt _ hmlt,varintDigits_of_not_lt _ hnlt] at he
      simp only [List.cons_append,List.cons.injEq] at he
      have hb := byte_inj (by omega) (by omega) he.1
      omega
  | succ f ih =>
    by_cases hmlt : m<128
    · by_cases hnlt : n<128
      · rw [varintDigits_of_lt _ hmlt,varintDigits_of_lt _ hnlt] at he
        simp only [List.cons_append,List.nil_append,List.cons.injEq] at he
        exact ⟨byte_inj (by omega) (by omega) he.1,he.2⟩
      · rw [varintDigits_of_lt _ hmlt,varintDigits_of_not_lt _ hnlt] at he
        simp only [List.cons_append,List.cons.injEq] at he
        have hb := byte_inj (by omega) (by omega) he.1
        omega
    · by_cases hnlt : n<128
      · rw [varintDigits_of_not_lt _ hmlt,varintDigits_of_lt _ hnlt] at he
        simp only [List.cons_append,List.cons.injEq] at he
        have hb := byte_inj (by omega) (by omega) he.1
        omega
      · cases g with
        | zero => exact absurd (by simpa using hn) hnlt
        | succ g =>
          rw [varintDigits_of_not_lt _ hmlt,varintDigits_of_not_lt _ hnlt] at he
          simp only [List.cons_append,List.cons.injEq] at he
          have hlow := byte_inj (by omega) (by omega) he.1
          have hmd : m/128<128^(f+1) := by
            rw [Nat.div_lt_iff_lt_mul (by omega),←Nat.pow_succ]
            exact hm
          have hnd : n/128<128^(g+1) := by
            rw [Nat.div_lt_iff_lt_mul (by omega),←Nat.pow_succ]
            exact hn
          obtain ⟨hhigh,hrest⟩ := ih hmd hnd he.2
          exact ⟨by omega,hrest⟩

/-- A varint can be read off the front of any string. -/
theorem encodeVarint_delimited : SelfDelimiting encodeVarint :=
  fun m n _ _ he => varintDigits_delimited (lt_varint_capacity m) (lt_varint_capacity n) he

/-- A varint takes at least one byte. -/
theorem encodeVarint_ne_nil (n : ℕ) : encodeVarint n≠[] := by
  rw [encodeVarint,varintDigits]
  split <;> exact List.cons_ne_nil _ _

/-- The content of a field. -/
inductive WireValue where
  /-- Wire type 0. -/
  | varint (value : ℕ)
  /-- Wire type 2: strings of bytes and nested messages. -/
  | bytes (value : List UInt8)
  deriving DecidableEq

/-- One tagged field. -/
structure Field where
  /-- The field number. -/
  tag : ℕ
  /-- The content. -/
  value : WireValue
  deriving DecidableEq

/-- A key made of the tag and the wire type, then the content. -/
def encodeField (field : Field) : List UInt8 :=
  match field.value with
  | .varint value => encodeVarint (field.tag*8)++encodeVarint value
  | .bytes value => encodeVarint (field.tag*8+2)++(encodeVarint value.length++value)

/-- A field can be read off the front of any string. -/
theorem encodeField_delimited : SelfDelimiting encodeField := by
  rintro ⟨tag,value⟩ ⟨tag',value'⟩ rest rest' he
  cases value with
  | varint n =>
    cases value' with
    | varint n' =>
      simp only [encodeField,List.append_assoc] at he
      obtain ⟨hkey,hbody⟩ := encodeVarint_delimited _ _ _ _ he
      obtain ⟨hn,hrest⟩ := encodeVarint_delimited _ _ _ _ hbody
      have ht : tag=tag' := by omega
      exact ⟨by rw [ht,hn],hrest⟩
    | bytes b' =>
      simp only [encodeField,List.append_assoc] at he
      have hkey := (encodeVarint_delimited _ _ _ _ he).1
      omega
  | bytes b =>
    cases value' with
    | varint n' =>
      simp only [encodeField,List.append_assoc] at he
      have hkey := (encodeVarint_delimited _ _ _ _ he).1
      omega
    | bytes b' =>
      simp only [encodeField,List.append_assoc] at he
      obtain ⟨hkey,hbody⟩ := encodeVarint_delimited _ _ _ _ he
      obtain ⟨hlen,hcontent⟩ := encodeVarint_delimited _ _ _ _ hbody
      obtain ⟨hb,hrest⟩ := List.append_inj hcontent hlen
      have ht : tag=tag' := by omega
      exact ⟨by rw [ht,hb],hrest⟩

/-- A field takes at least one byte. -/
theorem encodeField_ne_nil (field : Field) : encodeField field≠[] := by
  rcases field with ⟨tag,value|value⟩ <;>
    exact List.append_ne_nil_of_left_ne_nil (encodeVarint_ne_nil _) _

/-- A message is the sequence of its fields. -/
def encodeMessage (fields : List Field) : List UInt8 := fields.flatMap encodeField

/-- A message determines its fields. -/
theorem encodeMessage_injective : Function.Injective encodeMessage :=
  encodeField_delimited.flatMap_injective encodeField_ne_nil

/-- The contents under one tag, in order. -/
def valuesOf (tag : ℕ) (fields : List Field) : List WireValue :=
  (fields.filter fun field => field.tag=tag).map Field.value

/-- A number's content, left out when zero. -/
def varintValues (value : ℕ) : List WireValue := if value=0 then [] else [.varint value]

/-- A byte string's content, left out when empty. -/
def bytesValues (value : List UInt8) : List WireValue := if value=[] then [] else [.bytes value]

/-- The contents of nested messages. -/
def messageValues (messages : List (List Field)) : List WireValue :=
  messages.map fun fields => .bytes (encodeMessage fields)

/-- Contents under one tag. -/
def fieldsOf (tag : ℕ) (values : List WireValue) : List Field := values.map fun value => ⟨tag,value⟩

/-- Numbers are determined by what is not left out. -/
theorem varintValues_injective : Function.Injective varintValues := by
  intro m n h
  by_cases hm : m=0 <;> by_cases hn : n=0 <;> simp_all [varintValues]

/-- Byte strings are determined by what is not left out. -/
theorem bytesValues_injective : Function.Injective bytesValues := by
  intro a b h
  by_cases ha : a=[] <;> by_cases hb : b=[] <;> simp_all [bytesValues]

/-- Nested messages are determined by their contents. -/
theorem messageValues_injective : Function.Injective messageValues :=
  List.map_injective_iff.mpr fun _ _ h => encodeMessage_injective (WireValue.bytes.inj h)

@[simp] theorem valuesOf_nil (tag : ℕ) : valuesOf tag []=[] := rfl

@[simp] theorem valuesOf_append (tag : ℕ) (xs ys : List Field) :
    valuesOf tag (xs++ys)=valuesOf tag xs++valuesOf tag ys := by
  simp only [valuesOf,List.filter_append,List.map_append]

/-- The contents put under a tag are found there and nowhere else. -/
@[simp] theorem valuesOf_fieldsOf (tag tag' : ℕ) (values : List WireValue) :
    valuesOf tag (fieldsOf tag' values)=if tag'=tag then values else [] := by
  by_cases ht : tag'=tag
  · subst ht
    have hall : (fieldsOf tag' values).filter (fun field => field.tag=tag')=
        fieldsOf tag' values := by
      refine List.filter_eq_self.mpr fun field hm => ?_
      obtain ⟨value,_,rfl⟩ := List.mem_map.mp hm
      exact decide_eq_true rfl
    rw [valuesOf,hall,if_pos rfl,fieldsOf,List.map_map]
    exact List.map_id values
  · have hnone : (fieldsOf tag' values).filter (fun field => field.tag=tag)=[] := by
      refine List.filter_eq_nil_iff.mpr fun field hm => ?_
      obtain ⟨value,_,rfl⟩ := List.mem_map.mp hm
      rw [decide_eq_true_eq]
      exact ht
    rw [valuesOf,hnone,if_neg ht,List.map_nil]

end WispersConnect.WireFormat
