import Oxo.Core.HopFrame
import Oxo.Foundation.Text

/-!
Contract: every field of the frame codec is written and read exactly.

Owns: the byte image of each field, exactness of each cursor read for that
image, the appending law of each field encoder, and the tiling rule that turns
exact sections into an equivalence on whole envelopes.

Does not own: the order of the fields in a request or a response.
-/

namespace Oxo.Core.HopFrame

open Oxo.Foundation

/-! ## Byte images -/

def u16Image (value : UInt16) : List UInt8 := toLeBytes 2 value.toNat

def u32Image (value : UInt32) : List UInt8 := toLeBytes 4 value.toNat

def shortImage (text : String) : List UInt8 := toLeBytes 2 text.utf8ByteSize ++ utf8 text

def longImage (text : String) : List UInt8 := toLeBytes 4 text.utf8ByteSize ++ utf8 text

def bytesImage (bytes : List UInt8) : List UInt8 := toLeBytes 4 bytes.length ++ bytes

def headerImage (header : String × String) : List UInt8 :=
  shortImage header.1 ++ longImage header.2

def headerPairsImage (headers : List (String × String)) : List UInt8 :=
  headers.flatMap headerImage

def headersImage (headers : List (String × String)) : List UInt8 :=
  toLeBytes 2 headers.length ++ headerPairsImage headers

/-- The header's lengths fit their length prefixes. -/
def HeaderFits (header : String × String) : Prop :=
  header.1.utf8ByteSize < 2 ^ 16 ∧ header.2.utf8ByteSize < 2 ^ 32

def HeadersFit (headers : List (String × String)) : Prop :=
  headers.length < 2 ^ 16 ∧ ∀ header ∈ headers, HeaderFits header

/-- No byte of the text is one the decoder rejects. -/
def ControlFree (text : String) : Prop :=
  (utf8 text).any isControlByte = false

/-- A control byte of a text is one of its characters. -/
theorem controlFree_iff (text : String) :
    ControlFree text ↔ ∀ char ∈ text.toList, ¬ (char.toNat < 32 ∨ char.toNat = 127) := by
  have asByte : ∀ byte : UInt8, isControlByte byte = true ↔ byte.toNat < 32 ∨ byte.toNat = 127 := by
    intro byte
    simp only [isControlByte, Bool.or_eq_true, decide_eq_true_eq, beq_iff_eq, UInt8.lt_iff_toNat_lt,
      ← UInt8.toNat_inj]
    rfl
  unfold ControlFree
  rw [List.any_eq_false]
  constructor
  · intro free char member control
    have small : char.toNat < 128 := by omega
    have toNat := toNat_asciiByte small
    apply free (UInt8.ofNat char.toNat)
    · rw [ascii_mem_utf8 (by rw [UInt8.lt_iff_toNat_lt, toNat]; exact small)]
      exact ⟨char, member, toNat.symm⟩
    · rw [asByte, toNat]
      exact control
  · intro free byte member control
    rw [asByte] at control
    have ascii : byte < 0x80 := by
      rw [UInt8.lt_iff_toNat_lt]
      show byte.toNat < 128
      omega
    obtain ⟨char, charMember, code⟩ := (ascii_mem_utf8 ascii text).mp member
    apply free char charMember
    rw [code]
    exact control

theorem controlFree_trimMatches (inClass : Char → Bool) {text : String}
    (free : ControlFree text) : ControlFree (trimMatches inClass text) := by
  rw [controlFree_iff] at free ⊢
  intro char member
  exact free char (mem_of_mem_trimMatches member)

/-- Summed header bytes, names and values. -/
def headerBytes (headers : List (String × String)) : Nat :=
  (headers.map fun header => header.1.utf8ByteSize + header.2.utf8ByteSize).sum

/-- What `decode_headers` demands of a header block under its caps. -/
structure HeadersAccepted (maxHeaders : UInt16) (maxHeaderBytes : UInt32)
    (headers : List (String × String)) : Prop where
  fit : ∀ header ∈ headers, HeaderFits header
  controlFree : ∀ header ∈ headers, ControlFree header.1 ∧ ControlFree header.2
  count : headers.length ≤ maxHeaders.toNat
  bytes : headerBytes headers ≤ maxHeaderBytes.toNat

instance (text : String) : Decidable (ControlFree text) := by
  unfold ControlFree
  infer_instance

instance (header : String × String) : Decidable (HeaderFits header) := by
  unfold HeaderFits
  infer_instance

instance (headers : List (String × String)) : Decidable (HeadersFit headers) := by
  unfold HeadersFit
  infer_instance

/-! ## Fixed-width conversions -/

theorem u16_toNat_ofNat {value : Nat} (fits : value < 2 ^ 16) :
    (UInt16.ofNat value).toNat = value :=
  UInt16.toNat_ofNat_of_lt' fits

theorem u32_toNat_ofNat {value : Nat} (fits : value < 2 ^ 32) :
    (UInt32.ofNat value).toNat = value :=
  UInt32.toNat_ofNat_of_lt' fits

theorem u32TryFrom_eq_some {value : Nat} {result : UInt32} :
    u32TryFrom value = some result ↔ result.toNat = value := by
  unfold u32TryFrom
  split
  · rename_i fits
    rw [Option.some_inj, ← UInt32.toNat_inj, u32_toNat_ofNat fits]
    exact eq_comm
  · have := result.toNat_lt
    simp only [reduceCtorEq, false_iff]
    omega

/-! ## Cursor reads -/

theorem take_exact (count : Nat) :
    Exact ByteCursor.rest (take count) id (fun bytes => bytes.length = count) :=
  ByteCursor.take_exact FrameError.truncated count

theorem readU8_exact :
    Exact ByteCursor.rest readU8 (fun byte => [byte]) (fun _ => True) := by
  refine ((take_exact 1).bind (fun byte : UInt8 => [byte])
    (fun bytes => Exact.pure (bytes.getD 0 0)) ?_).restate ?_ ?_
  · intro bytes byte lengthEq valueEq
    obtain ⟨only, rfl⟩ := List.length_eq_one_iff.mp lengthEq
    simpa using valueEq
  · intro byte
    simp
  · intro byte _
    simp

theorem readU16_exact :
    Exact ByteCursor.rest readU16 u16Image (fun _ => True) := by
  refine ((take_exact 2).bind u16Image
    (fun bytes => Exact.pure (UInt16.ofNat (ofLeBytes bytes))) ?_).restate ?_ ?_
  · intro bytes value lengthEq valueEq
    have bound := ofLeBytes_lt bytes
    rw [lengthEq] at bound
    rw [u16Image, valueEq, u16_toNat_ofNat bound, ← lengthEq]
    exact toLeBytes_ofLeBytes bytes
  · intro value
    simp only [u16Image, toLeBytes_length, true_and, true_iff]
    rw [ofLeBytes_toLeBytes value.toNat_lt, UInt16.ofNat_toNat]
  · intro value _
    simp

theorem readU32_exact :
    Exact ByteCursor.rest readU32 u32Image (fun _ => True) := by
  refine ((take_exact 4).bind u32Image
    (fun bytes => Exact.pure (UInt32.ofNat (ofLeBytes bytes))) ?_).restate ?_ ?_
  · intro bytes value lengthEq valueEq
    have bound := ofLeBytes_lt bytes
    rw [lengthEq] at bound
    rw [u32Image, valueEq, u32_toNat_ofNat bound, ← lengthEq]
    exact toLeBytes_ofLeBytes bytes
  · intro value
    simp only [u32Image, toLeBytes_length, true_and, true_iff]
    rw [ofLeBytes_toLeBytes value.toNat_lt, UInt32.ofNat_toNat]
  · intro value _
    simp

/-- The tail of both string readers: bytes of the declared length that decode. -/
private theorem utf8Tail_exact (len : Nat) :
    Exact ByteCursor.rest (do let bytes ← take len; orFail (fromUtf8 bytes) FrameError.notUtf8)
      utf8 (fun text => text.utf8ByteSize = len) := by
  refine ((take_exact len).bind utf8
    (fun bytes => Exact.orFail (fromUtf8 bytes) FrameError.notUtf8) ?_).restate ?_ ?_
  · intro bytes text _ decoded
    exact utf8_of_fromUtf8 decoded
  · intro text
    simp
  · intro text _
    simp

theorem shortStr_exact :
    Exact ByteCursor.rest shortStr shortImage (fun text => text.utf8ByteSize < 2 ^ 16) := by
  refine (readU16_exact.bind (fun text : String => UInt16.ofNat text.utf8ByteSize)
    (fun len => utf8Tail_exact len.toNat) ?_).restate ?_ ?_
  · intro len text _ sizeEq
    rw [sizeEq, UInt16.ofNat_toNat]
  · intro text
    constructor
    · intro fits
      exact ⟨trivial, (u16_toNat_ofNat fits).symm⟩
    · rintro ⟨_, sizeEq⟩
      rw [sizeEq]
      exact UInt16.toNat_lt _
  · rintro text ⟨_, sizeEq⟩
    rw [shortImage, u16Image, ← sizeEq]

theorem longStr_exact :
    Exact ByteCursor.rest longStr longImage (fun text => text.utf8ByteSize < 2 ^ 32) := by
  refine (readU32_exact.bind (fun text : String => UInt32.ofNat text.utf8ByteSize)
    (fun len => utf8Tail_exact len.toNat) ?_).restate ?_ ?_
  · intro len text _ sizeEq
    rw [sizeEq, UInt32.ofNat_toNat]
  · intro text
    constructor
    · intro fits
      exact ⟨trivial, (u32_toNat_ofNat fits).symm⟩
    · rintro ⟨_, sizeEq⟩
      rw [sizeEq]
      exact UInt32.toNat_lt _
  · rintro text ⟨_, sizeEq⟩
    rw [longImage, u32Image, ← sizeEq]

theorem readBody_exact (maxBodyBytes : UInt32) :
    Exact ByteCursor.rest (readBody maxBodyBytes) bytesImage
      (fun bytes => bytes.length ≤ maxBodyBytes.toNat) := by
  refine (readU32_exact.bind (fun bytes : List UInt8 => UInt32.ofNat bytes.length)
    (fun len => (take_exact len.toNat).check _ _) ?_).restate ?_ ?_
  · rintro len bytes _ ⟨_, lengthEq⟩
    rw [lengthEq, UInt32.ofNat_toNat]
  · intro bytes
    constructor
    · intro within
      have fits : bytes.length < 2 ^ 32 := lt_of_le_of_lt within maxBodyBytes.toNat_lt
      have lengthEq := u32_toNat_ofNat fits
      refine ⟨trivial, ?_, lengthEq.symm⟩
      rw [gt_iff_lt, UInt32.lt_iff_toNat_lt, lengthEq]
      omega
    · rintro ⟨_, within, lengthEq⟩
      rw [gt_iff_lt, UInt32.lt_iff_toNat_lt] at within
      omega
  · rintro bytes ⟨_, _, lengthEq⟩
    simp only [bytesImage, u32Image, id_eq, ← lengthEq]

/-! ## Header blocks -/

@[simp] theorem headerBytes_nil : headerBytes [] = 0 := rfl

@[simp] theorem headerBytes_cons (header : String × String) (rest : List (String × String)) :
    headerBytes (header :: rest) =
      header.1.utf8ByteSize + header.2.utf8ByteSize + headerBytes rest := by
  simp [headerBytes]

/-- What the header loop demands of the pairs it still has to read, from a
running total of `total` bytes. -/
def PairsAccepted (maxHeaderBytes : UInt32) (count : Nat) (total : UInt32)
    (headers : List (String × String)) : Prop :=
  headers.length = count ∧
    (∀ header ∈ headers, HeaderFits header) ∧
    (∀ header ∈ headers, ControlFree header.1 ∧ ControlFree header.2) ∧
    (headers = [] ∨ total.toNat + headerBytes headers ≤ maxHeaderBytes.toNat)

/-- One pair in front of the loop: the running total must stay within the cap,
which the final total decides because totals only grow. -/
theorem pairsAccepted_cons {maxHeaderBytes total next : UInt32} {count : Nat}
    {name value : String} {rest : List (String × String)}
    (nextEq : next.toNat = total.toNat + name.utf8ByteSize + value.utf8ByteSize) :
    PairsAccepted maxHeaderBytes (count + 1) total ((name, value) :: rest) ↔
      HeaderFits (name, value) ∧ ControlFree name ∧ ControlFree value ∧
        ¬ next > maxHeaderBytes ∧ PairsAccepted maxHeaderBytes count next rest := by
  have nextLe : ¬ next > maxHeaderBytes ↔ next.toNat ≤ maxHeaderBytes.toNat := by
    rw [gt_iff_lt, UInt32.lt_iff_toNat_lt, Nat.not_lt]
  have totals : (next.toNat ≤ maxHeaderBytes.toNat ∧
      (rest = [] ∨ next.toNat + headerBytes rest ≤ maxHeaderBytes.toNat)) ↔
      total.toNat + headerBytes ((name, value) :: rest) ≤ maxHeaderBytes.toNat := by
    simp only [headerBytes_cons, nextEq]
    constructor
    · rintro ⟨within, rfl | allWithin⟩
      · simpa using (by omega)
      · omega
    · intro within
      exact ⟨by omega, Or.inr (by omega)⟩
  simp only [PairsAccepted, List.length_cons, Nat.add_right_cancel_iff, List.forall_mem_cons,
    List.cons_ne_nil, false_or, nextLe, ← totals]
  tauto

/-- The running total of `decode_headers` after one more pair. -/
private theorem runningTotal_eq_some {total nameLen next : UInt32} {name value : String}
    (nameEq : u32TryFrom name.utf8ByteSize = some nameLen) :
    ((checkedAdd total nameLen).bind fun sum =>
        (u32TryFrom value.utf8ByteSize).bind fun valueLen => checkedAdd sum valueLen) = some next ↔
      next.toNat = total.toNat + name.utf8ByteSize + value.utf8ByteSize := by
  rw [u32TryFrom_eq_some] at nameEq
  simp only [checkedAdd, Option.bind_eq_some_iff, u32TryFrom_eq_some]
  constructor
  · rintro ⟨sum, sumEq, valueLen, valueEq, nextEq⟩
    omega
  · intro nextEq
    have bound := next.toNat_lt
    refine ⟨UInt32.ofNat (total.toNat + nameLen.toNat), ?_,
      UInt32.ofNat value.utf8ByteSize, ?_, ?_⟩
    · exact u32_toNat_ofNat (by omega)
    · exact u32_toNat_ofNat (by omega)
    · rw [u32_toNat_ofNat (by omega), u32_toNat_ofNat (by omega)]
      omega

/-- One turn of the header loop after the pair's bytes: the checks read nothing
and `loop` reads the rest. -/
private theorem pairTail_exact {maxHeaderBytes total : UInt32} {count : Nat}
    {loop : UInt32 → Decode (List (String × String))}
    (loopExact : ∀ next, Exact ByteCursor.rest (loop next) headerPairsImage
      (PairsAccepted maxHeaderBytes count next))
    (name value : String) :
    Exact ByteCursor.rest
      (do
        rejectControlBytes name
        rejectControlBytes value
        let nameLen ← orFail (u32TryFrom name.utf8ByteSize) .lengthOverflow
        let headerBytes ← orFail
          ((checkedAdd total nameLen).bind fun sum =>
            (u32TryFrom value.utf8ByteSize).bind fun valueLen => checkedAdd sum valueLen)
          (.headerBytesExceeded maxHeaderBytes)
        failIf (headerBytes > maxHeaderBytes) (.headerBytesExceeded maxHeaderBytes)
        let rest ← loop headerBytes
        return (name, value) :: rest)
      (fun headers => headerPairsImage headers.tail)
      (fun headers => ControlFree name ∧ ControlFree value ∧
        ∃ next : UInt32,
          next.toNat = total.toNat + name.utf8ByteSize + value.utf8ByteSize ∧
          ¬ next > maxHeaderBytes ∧
          PairsAccepted maxHeaderBytes count next headers.tail ∧
          headers = (name, value) :: headers.tail) := by
  have loopTail (next : UInt32) :=
    (loopExact next).bind List.tail (fun rest => Exact.pure ((name, value) :: rest)) (by
      rintro rest headers _ rfl
      rfl)
  have counted (next : UInt32) := (loopTail next).check (next > maxHeaderBytes)
    (FrameError.headerBytesExceeded maxHeaderBytes)
  refine (((Exact.convert (fun nameLen nameEq => Exact.convert (fun next nextEq =>
    counted next))).check _ _).check _ _).restate ?_ ?_
  · intro headers
    simp only [ControlFree, Bool.not_eq_true]
    refine and_congr_right fun _ => and_congr_right fun _ => ?_
    constructor
    · rintro ⟨next, nextEq, within, accepted⟩
      have bound := next.toNat_lt
      have nameFits : name.utf8ByteSize < 2 ^ 32 := by omega
      have nameEq := u32TryFrom_eq_some.mpr (u32_toNat_ofNat nameFits)
      exact ⟨_, nameEq, next, (runningTotal_eq_some nameEq).mpr nextEq, within, accepted⟩
    · rintro ⟨nameLen, nameEq, next, nextEq, within, accepted⟩
      exact ⟨next, (runningTotal_eq_some nameEq).mp nextEq, within, accepted⟩
  · intro headers _
    simp

theorem decodeHeaderPairs_exact (maxHeaderBytes : UInt32) (count : Nat) (total : UInt32) :
    Exact ByteCursor.rest (decodeHeaderPairs maxHeaderBytes count total) headerPairsImage
      (PairsAccepted maxHeaderBytes count total) := by
  induction count generalizing total with
  | zero =>
      refine (Exact.pure []).restate ?_ ?_
      · intro headers
        simp only [PairsAccepted, List.length_eq_zero_iff]
        constructor
        · exact fun accepted => accepted.1
        · rintro rfl
          simp
      · rintro headers rfl
        rfl
  | succ count inductionHypothesis =>
      refine (shortStr_exact.bind (fun headers => (headers.headD ("", "")).1)
        (fun name => longStr_exact.bind (fun headers => (headers.headD ("", "")).2)
          (fun value => pairTail_exact inductionHypothesis name value) ?_) ?_).restate ?_ ?_
      · rintro value headers _ ⟨_, _, _, _, _, _, headersEq⟩
        rw [headersEq]
        rfl
      · rintro name headers _ ⟨_, _, _, _, _, _, _, headersEq⟩
        rw [headersEq]
        rfl
      · intro headers
        constructor
        · intro accepted
          obtain ⟨⟨name, value⟩, rest, rfl⟩ := List.exists_cons_of_length_eq_add_one accepted.1
          have within := accepted.2.2.2
          simp only [List.cons_ne_nil, false_or, headerBytes_cons] at within
          have capBound := maxHeaderBytes.toNat_lt
          have totalFits : total.toNat + name.utf8ByteSize + value.utf8ByteSize < 2 ^ 32 := by
            omega
          have nextEq := u32_toNat_ofNat totalFits
          rw [pairsAccepted_cons nextEq] at accepted
          obtain ⟨fits, nameFree, valueFree, nextWithin, restAccepted⟩ := accepted
          exact ⟨fits.1, fits.2, nameFree, valueFree, _, nextEq, nextWithin, restAccepted, rfl⟩
        · rintro ⟨nameFits, valueFits, nameFree, valueFree, next, nextEq, within, accepted,
            headersEq⟩
          rw [headersEq, pairsAccepted_cons nextEq]
          exact ⟨⟨nameFits, valueFits⟩, nameFree, valueFree, within, accepted⟩
      · rintro headers ⟨_, _, _, _, _, _, _, _, headersEq⟩
        rw [headersEq]
        simp [headerPairsImage, headerImage]

theorem decodeHeaders_exact (maxHeaders : UInt16) (maxHeaderBytes : UInt32) :
    Exact ByteCursor.rest (decodeHeaders maxHeaders maxHeaderBytes) headersImage
      (HeadersAccepted maxHeaders maxHeaderBytes) := by
  refine (readU16_exact.bind (fun headers => UInt16.ofNat headers.length)
    (fun count => (decodeHeaderPairs_exact maxHeaderBytes count.toNat 0).check _ _) ?_).restate ?_ ?_
  · rintro count headers _ ⟨_, lengthEq, _⟩
    rw [lengthEq, UInt16.ofNat_toNat]
  · intro headers
    constructor
    · intro accepted
      have lengthEq := u16_toNat_ofNat (lt_of_le_of_lt accepted.count maxHeaders.toNat_lt)
      refine ⟨trivial, ?_, lengthEq.symm, accepted.fit, accepted.controlFree, Or.inr ?_⟩
      · rw [gt_iff_lt, UInt16.lt_iff_toNat_lt, lengthEq]
        exact Nat.not_lt.mpr accepted.count
      · simpa using accepted.bytes
    · rintro ⟨_, within, lengthEq, fit, controlFree, bytes⟩
      rw [gt_iff_lt, UInt16.lt_iff_toNat_lt, ← lengthEq, Nat.not_lt] at within
      refine ⟨fit, controlFree, within, ?_⟩
      rcases bytes with rfl | bytes
      · simp
      · simpa using bytes
  · rintro headers ⟨_, _, lengthEq, _⟩
    rw [headersImage, u16Image, ← lengthEq]

/-! ## Tiling -/

/-- Exact sections decode an envelope exactly when it is the image of a valid
value, with nothing before, between or after the sections. -/
theorem decodeTiled_eq_ok {α : Type} {sections : Decode α} {write : α → List UInt8}
    {Valid : α → Prop} (exactness : Exact ByteCursor.rest sections write Valid)
    (envelope : List UInt8) (value : α) :
    decodeTiled sections envelope = .ok value ↔ Valid value ∧ envelope = write value := by
  unfold decodeTiled
  constructor
  · intro decoded
    cases run : sections (ByteCursor.new envelope) with
    | error failure =>
        rw [run] at decoded
        cases decoded
    | ok pair =>
        obtain ⟨result, cur⟩ := pair
        obtain ⟨valid, remaining⟩ := exactness.consumes run
        rw [run] at decoded
        change (if cur.remaining ≠ 0 then _ else _) = _ at decoded
        split at decoded
        · cases decoded
        · rename_i finished
          cases decoded
          rw [not_not, cur.remaining_eq_zero] at finished
          rw [finished, List.append_nil, ByteCursor.rest_new] at remaining
          exact ⟨valid, remaining⟩
  · rintro ⟨valid, rfl⟩
    have whole : (ByteCursor.new (write value)).rest = write value ++ [] := by
      rw [ByteCursor.rest_new, List.append_nil]
    obtain ⟨cur, run, finished⟩ := exactness.accepts valid whole
    rw [run]
    change (if cur.remaining ≠ 0 then _ else _) = _
    rw [if_neg (by rw [not_not, cur.remaining_eq_zero, finished])]

/-! ## Field encoders -/

theorem encodeShort_appends (text : String) :
    Appends (encodeShort text) (shortImage text) (text.utf8ByteSize < 2 ^ 16)
      FrameError.lengthOverflow where
  writes := by
    intro fits out
    simp only [encodeShort, shortImage, u16TryFrom, if_pos fits, u16_toNat_ofNat fits, List.append_assoc]
  refuses := by
    intro fails out
    simp only [encodeShort, u16TryFrom, if_neg fails]

theorem encodeLongStr_appends (text : String) :
    Appends (encodeLongStr text) (longImage text) (text.utf8ByteSize < 2 ^ 32)
      FrameError.lengthOverflow where
  writes := by
    intro fits out
    simp only [encodeLongStr, longImage, u32TryFrom, if_pos fits, u32_toNat_ofNat fits, List.append_assoc]
  refuses := by
    intro fails out
    simp only [encodeLongStr, u32TryFrom, if_neg fails]

theorem encodeLongBytes_appends (bytes : List UInt8) :
    Appends (encodeLongBytes bytes) (bytesImage bytes) (bytes.length < 2 ^ 32)
      FrameError.lengthOverflow where
  writes := by
    intro fits out
    simp only [encodeLongBytes, bytesImage, u32TryFrom, if_pos fits, u32_toNat_ofNat fits, List.append_assoc]
  refuses := by
    intro fails out
    simp only [encodeLongBytes, u32TryFrom, if_neg fails]

theorem encodeHeaderPairs_appends (headers : List (String × String)) :
    Appends (encodeHeaderPairs headers) (headerPairsImage headers)
      (∀ header ∈ headers, HeaderFits header) FrameError.lengthOverflow := by
  induction headers with
  | nil =>
      constructor
      · intro _ out
        simp [encodeHeaderPairs, headerPairsImage]
      · intro fails
        simp at fails
  | cons header rest inductionHypothesis =>
      obtain ⟨name, value⟩ := header
      have appends := (encodeShort_appends name).andThen
        ((encodeLongStr_appends value).andThen inductionHypothesis)
      have sameFits : (∀ header ∈ (name, value) :: rest, HeaderFits header) ↔
          name.utf8ByteSize < 2 ^ 16 ∧ value.utf8ByteSize < 2 ^ 32 ∧
            ∀ header ∈ rest, HeaderFits header := by
        simp only [List.forall_mem_cons, HeaderFits, and_assoc]
      rw [sameFits]
      have sameImage : headerPairsImage ((name, value) :: rest) =
          shortImage name ++ (longImage value ++ headerPairsImage rest) := by
        simp [headerPairsImage, headerImage]
      rw [sameImage]
      exact appends

theorem encodeHeaders_appends (headers : List (String × String)) :
    Appends (encodeHeaders headers) (headersImage headers) (HeadersFit headers)
      FrameError.lengthOverflow where
  writes := by
    intro fits out
    have count := u16_toNat_ofNat fits.1
    simp only [encodeHeaders, u16TryFrom, if_pos fits.1, count, headersImage]
    rw [(encodeHeaderPairs_appends headers).writes fits.2, List.append_assoc]
  refuses := by
    intro fails out
    unfold encodeHeaders u16TryFrom
    by_cases count : headers.length < 2 ^ 16
    · simp only [if_pos count]
      exact (encodeHeaderPairs_appends headers).refuses (fun fits => fails ⟨count, fits⟩) _
    · simp only [if_neg count]

/-! ## One image, one header block -/

/-- A counted run of header pairs is read in one way. -/
theorem headerPairsImage_injective {left right : List (String × String)}
    {leftTail rightTail : List UInt8} (sameLength : left.length = right.length)
    (leftFits : ∀ header ∈ left, HeaderFits header)
    (rightFits : ∀ header ∈ right, HeaderFits header)
    (same : headerPairsImage left ++ leftTail = headerPairsImage right ++ rightTail) :
    left = right ∧ leftTail = rightTail := by
  induction left generalizing right with
  | nil =>
      rw [List.length_nil, eq_comm, List.length_eq_zero_iff] at sameLength
      subst sameLength
      exact ⟨rfl, same⟩
  | cons header rest inductionHypothesis =>
      obtain ⟨other, others, rightEq⟩ := List.exists_cons_of_length_eq_add_one sameLength.symm
      subst rightEq
      obtain ⟨headerFits, restFits⟩ := List.forall_mem_cons.mp leftFits
      obtain ⟨otherFits, othersFit⟩ := List.forall_mem_cons.mp rightFits
      simp only [headerPairsImage, List.flatMap_cons, headerImage, List.append_assoc] at same
      obtain ⟨sameName, same⟩ :=
        ByteCursor.split_unique shortStr_exact headerFits.1 otherFits.1 same
      obtain ⟨sameValue, same⟩ :=
        ByteCursor.split_unique longStr_exact headerFits.2 otherFits.2 same
      obtain ⟨sameRest, sameTail⟩ :=
        inductionHypothesis (Nat.succ.inj sameLength) restFits othersFit same
      exact ⟨by rw [sameRest, Prod.ext sameName sameValue], sameTail⟩

theorem headersImage_split {left right : List (String × String)}
    {leftTail rightTail : List UInt8} (leftFits : HeadersFit left) (rightFits : HeadersFit right)
    (same : headersImage left ++ leftTail = headersImage right ++ rightTail) :
    left = right ∧ leftTail = rightTail := by
  have word := ByteCursor.number_exact FrameError.truncated 2
  simp only [headersImage, List.append_assoc] at same
  obtain ⟨count, behindCount⟩ := ByteCursor.split_unique word leftFits.1 rightFits.1 same
  exact headerPairsImage_injective count leftFits.2 rightFits.2 behindCount

theorem bytesImage_injective {left right : List UInt8} (leftFits : left.length < 2 ^ 32)
    (rightFits : right.length < 2 ^ 32) (same : bytesImage left = bytesImage right) :
    left = right := by
  have block := ByteCursor.block_exact FrameError.truncated 4
  have padded : ByteCursor.blockImage 4 left ++ [] = ByteCursor.blockImage 4 right ++ [] := by
    rw [List.append_nil, List.append_nil]
    exact same
  exact (ByteCursor.split_unique block leftFits rightFits padded).1

/-! ## Prefix -/

/-- The prefix of an envelope of this length. -/
def prefixImage (length : Nat) : List UInt8 :=
  [frameMagic, frameVersion] ++ toLeBytes 4 length

theorem prefixImage_length (length : Nat) : (prefixImage length).length = framePrefixLen := by
  simp [prefixImage]

/-- A buffer opened by `startFrame` becomes prefix and envelope, or overflows. -/
theorem finishFrame_startFrame (envelope : List UInt8) :
    finishFrame (startFrame ++ envelope) =
      if envelope.length < 2 ^ 32 then .ok (prefixImage envelope.length ++ envelope)
      else .error .lengthOverflow := by
  have envelopeLength : (startFrame ++ envelope).length - framePrefixLen = envelope.length := by
    simp only [startFrame, List.length_append, List.length_cons, List.length_nil,
      toLeBytes_length, framePrefixLen]
    omega
  unfold finishFrame u32TryFrom
  rw [envelopeLength]
  by_cases fits : envelope.length < 2 ^ 32
  · simp only [if_pos fits, u32_toNat_ofNat fits]
    simp [startFrame, prefixImage, toLeBytes]
  · simp only [if_neg fits]

section Framing

variable {fields : List UInt8 → Except FrameError (List UInt8)} {envelope : List UInt8}
  {Fits : Prop} (appends : Appends fields envelope Fits FrameError.lengthOverflow)

include appends

/-- Field encoders between `startFrame` and `finishFrame` emit prefix and
envelope when everything fits. -/
theorem framed_of_fits (fits : Fits) (small : envelope.length < 2 ^ 32) :
    (fields startFrame >>= finishFrame) = .ok (prefixImage envelope.length ++ envelope) := by
  rw [appends.writes fits]
  change finishFrame (startFrame ++ envelope) = _
  rw [finishFrame_startFrame, if_pos small]

/-- They refuse, with one error, when a field or the envelope does not. -/
theorem framed_of_not_fits (fails : ¬ (Fits ∧ envelope.length < 2 ^ 32)) :
    (fields startFrame >>= finishFrame) = .error .lengthOverflow := by
  by_cases fits : Fits
  · rw [appends.writes fits]
    change finishFrame (startFrame ++ envelope) = _
    rw [finishFrame_startFrame, if_neg (fun small => fails ⟨fits, small⟩)]
  · rw [appends.refuses fits]
    rfl

end Framing

/-- The prefix of a framed envelope parses to its length, or is over the cap. -/
theorem parse_prefixImage (caps : FrameCaps) {length : Nat} (small : length < 2 ^ 32)
    (envelope : List UInt8) :
    FramePrefix.parse (prefixBytes (prefixImage length ++ envelope)) caps =
      if length > caps.maxRemainingLength then
        .error (.envelopeTooLarge length caps.maxRemainingLength)
      else .ok ⟨UInt32.ofNat length⟩ := by
  have value : ofLeBytes (toLeBytes 4 length) = length :=
    ofLeBytes_toLeBytes (by simpa using small)
  change (if frameMagic ≠ frameMagic then _ else if frameVersion ≠ frameVersion then _ else
    if ofLeBytes (toLeBytes 4 length) > caps.maxRemainingLength then
      Except.error (FrameError.envelopeTooLarge (ofLeBytes (toLeBytes 4 length)) _)
    else Except.ok (FramePrefix.mk (UInt32.ofNat (ofLeBytes (toLeBytes 4 length))))) = _
  rw [if_neg (not_not.mpr rfl), if_neg (not_not.mpr rfl), value]

end Oxo.Core.HopFrame
