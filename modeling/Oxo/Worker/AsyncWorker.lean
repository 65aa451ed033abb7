import Oxo.Foundation.ByteCursor
import Oxo.Core.HopFrame.Fields

/-!
Contract: the request decoder of the async Ruby worker
(`ruby/oxo_async_worker.rb`).

Owns: the decoder as Ruby runs it, over byte strings whose encoding label is
never checked, and the layout it accepts: a request image with any bytes behind
it.

Does not own: the Rack environment, the prefix check or the response encoder.
-/

namespace Oxo.Worker.AsyncWorker

open Oxo.Foundation

def maxHeaders : Nat := 128

/-- The `RuntimeError` texts of the decoder. -/
inductive DecodeError where
  | truncated
  | badScheme (schemeByte : Nat)
  | tooManyHeaders
  | bodyOverCap
deriving DecidableEq, Repr

def DecodeError.message : DecodeError → String
  | .truncated => "truncated"
  | .badScheme schemeByte => "bad scheme " ++ toString schemeByte
  | .tooManyHeaders => "too many headers"
  | .bodyOverCap => "body over cap"

/-- The hash of request fields. Texts are bytes labelled UTF-8, the body is
binary. -/
structure RequestHash where
  method : List UInt8
  path : List UInt8
  query : List UInt8
  serverName : List UInt8
  serverPort : Nat
  scheme : String
  remoteAddr : List UInt8
  headers : List (List UInt8 × List UInt8)
  body : List UInt8
deriving DecidableEq

/-! ## Cursor -/

abbrev Cur (α : Type) := Reader ByteCursor DecodeError α

def u8 : Cur Nat := ByteCursor.number .truncated 1

def u16 : Cur Nat := ByteCursor.number .truncated 2

def u32 : Cur Nat := ByteCursor.number .truncated 4

/-- `force_encoding` relabels the bytes without looking at them. -/
def shortStr : Cur (List UInt8) := ByteCursor.block .truncated 2

def longStr : Cur (List UInt8) := ByteCursor.block .truncated 4

/-! ## Decoder -/

/-- `Array.new(hcount) { [c.short_str, c.long_str] }`. -/
def headerArray : Nat → Cur (List (List UInt8 × List UInt8))
  | 0 => return []
  | count + 1 => do
      let name ← shortStr
      let value ← longStr
      let rest ← headerArray count
      return (name, value) :: rest

def schemeText (schemeByte : Nat) : String :=
  if schemeByte = 1 then "https" else "http"

/-- The capped body length, then that many bytes. -/
def bodySection (maxBodyBytes : Int) : Cur (List UInt8) := do
  let blen ← u32
  failIf ((blen : Int) > maxBodyBytes) .bodyOverCap
  ByteCursor.take .truncated blen

def envelopeSections (maxBodyBytes : Int) : Cur RequestHash := do
  let method ← shortStr
  let path ← longStr
  let query ← longStr
  let serverName ← shortStr
  let port ← u16
  let schemeByte ← u8
  failIf (¬ schemeByte ≤ 1) (.badScheme schemeByte)
  let remoteAddr ← shortStr
  let hcount ← u16
  failIf (hcount > maxHeaders) .tooManyHeaders
  let headers ← headerArray hcount
  let body ← bodySection maxBodyBytes
  return ⟨method, path, query, serverName, port, schemeText schemeByte, remoteAddr, headers, body⟩

/-- `maxBodyBytes` is the configured integer; bytes left behind the body are not
looked at. -/
def decodeRequestEnvelope (maxBodyBytes : Int) (envelope : List UInt8) :
    Except DecodeError RequestHash := do
  let (hash, _) ← envelopeSections maxBodyBytes (ByteCursor.new envelope)
  return hash

/-! ## Layout -/

def headerPairsLayout (headers : List (List UInt8 × List UInt8)) : List UInt8 :=
  headers.flatMap fun header =>
    ByteCursor.blockImage 2 header.1 ++ ByteCursor.blockImage 4 header.2

namespace RequestHash

def schemeByte (hash : RequestHash) : Nat :=
  if hash.scheme = "https" then 1 else 0

/-- The bytes of a request: its sections in wire order. -/
def layout (hash : RequestHash) : List UInt8 :=
  ByteCursor.blockImage 2 hash.method ++ (ByteCursor.blockImage 4 hash.path ++
    (ByteCursor.blockImage 4 hash.query ++ (ByteCursor.blockImage 2 hash.serverName ++
      (toLeBytes 2 hash.serverPort ++ (toLeBytes 1 hash.schemeByte ++
        (ByteCursor.blockImage 2 hash.remoteAddr ++ (toLeBytes 2 hash.headers.length ++
          (headerPairsLayout hash.headers ++ ByteCursor.blockImage 4 hash.body))))))))

/-- Every length and number fits its width, and the scheme is one of the two. -/
structure FitsWire (hash : RequestHash) : Prop where
  method : hash.method.length < 2 ^ 16
  path : hash.path.length < 2 ^ 32
  query : hash.query.length < 2 ^ 32
  serverName : hash.serverName.length < 2 ^ 16
  serverPort : hash.serverPort < 2 ^ 16
  scheme : hash.scheme = "http" ∨ hash.scheme = "https"
  remoteAddr : hash.remoteAddr.length < 2 ^ 16
  headerCount : hash.headers.length < 2 ^ 16
  headers : ∀ header ∈ hash.headers, header.1.length < 2 ^ 16 ∧ header.2.length < 2 ^ 32
  body : hash.body.length < 2 ^ 32

/-- The two caps the Ruby decoder applies. -/
structure WithinCaps (maxBodyBytes : Int) (hash : RequestHash) : Prop where
  headerCount : hash.headers.length ≤ maxHeaders
  body : (hash.body.length : Int) ≤ maxBodyBytes

end RequestHash

private theorem headerArray_exact (count : Nat) :
    Exact ByteCursor.rest (headerArray count) headerPairsLayout
      (fun headers => headers.length = count ∧
        ∀ header ∈ headers, header.1.length < 2 ^ 16 ∧ header.2.length < 2 ^ 32) := by
  induction count with
  | zero =>
      refine (Exact.pure []).restate ?_ ?_
      · intro headers
        constructor
        · intro valid
          exact List.length_eq_zero_iff.mp valid.1
        · intro empty
          rw [empty]
          simp
      · intro headers empty
        rw [empty]
        rfl
  | succ count inductionHypothesis =>
      have tail name value :=
        inductionHypothesis.bind List.tail
          (fun rest => Exact.pure ((name, value) :: rest))
          (fun _ _ _ built => by rw [built]; rfl)
      have pair name :=
        (ByteCursor.block_exact DecodeError.truncated 4).bind
          (fun headers : List (List UInt8 × List UInt8) => (headers.headD ([], [])).2)
          (tail name)
          (fun _ _ _ built => by rw [built.2]; rfl)
      refine ((ByteCursor.block_exact DecodeError.truncated 2).bind
        (fun headers : List (List UInt8 × List UInt8) => (headers.headD ([], [])).1)
        pair (fun _ _ _ built => by rw [built.2.2]; rfl)).restate ?_ ?_
      · intro headers
        constructor
        · intro valid
          obtain ⟨header, rest, headersEq⟩ := List.exists_cons_of_length_eq_add_one valid.1
          subst headersEq
          have all := List.forall_mem_cons.mp valid.2
          exact ⟨all.1.1, all.1.2, ⟨by simpa using valid.1, all.2⟩, rfl⟩
        · intro valid
          obtain ⟨nameFits, valueFits, ⟨lengthEq, restFits⟩, headersEq⟩ := valid
          rw [headersEq]
          refine ⟨by simp [lengthEq], ?_⟩
          rw [List.forall_mem_cons]
          exact ⟨⟨nameFits, valueFits⟩, restFits⟩
      · intro headers valid
        rw [valid.2.2.2]
        simp [headerPairsLayout]

private theorem bodySection_exact (maxBodyBytes : Int) :
    Exact ByteCursor.rest (bodySection maxBodyBytes) (ByteCursor.blockImage 4)
      (fun bytes => bytes.length < 2 ^ 32 ∧ (bytes.length : Int) ≤ maxBodyBytes) := by
  have capped (blen : Nat) :
      Exact ByteCursor.rest
        (failIf ((blen : Int) > maxBodyBytes) DecodeError.bodyOverCap >>= fun _ =>
          ByteCursor.take DecodeError.truncated blen)
        id (fun bytes => ¬ (blen : Int) > maxBodyBytes ∧ bytes.length = blen) :=
    (ByteCursor.take_exact DecodeError.truncated blen).check _ _
  refine ((ByteCursor.number_exact DecodeError.truncated 4).bind List.length capped
    (fun _ _ _ taken => taken.2)).restate ?_ ?_
  · intro bytes
    rw [Int.not_lt, and_iff_left rfl]
    exact Iff.rfl
  · intro bytes _
    rfl

private theorem schemeByte_of_text {schemeByte : Nat} {hash : RequestHash}
    (small : ¬ ¬ schemeByte ≤ 1) (scheme : hash.scheme = schemeText schemeByte) :
    hash.schemeByte = schemeByte := by
  have cases : schemeByte = 0 ∨ schemeByte = 1 := by omega
  unfold RequestHash.schemeByte
  rw [scheme]
  rcases cases with zero | one
  · rw [zero]
    decide
  · rw [one]
    decide

/-- The Ruby sections accept exactly the layouts within the Ruby caps. -/
theorem envelopeSections_exact (maxBodyBytes : Int) :
    Exact ByteCursor.rest (envelopeSections maxBodyBytes) RequestHash.layout
      (fun hash => hash.FitsWire ∧ hash.WithinCaps maxBodyBytes) := by
  have short := ByteCursor.block_exact DecodeError.truncated 2
  have long := ByteCursor.block_exact DecodeError.truncated 4
  have word := ByteCursor.number_exact DecodeError.truncated 2
  have byte := ByteCursor.number_exact DecodeError.truncated 1
  have body method path query serverName port schemeByte remoteAddr headers :=
    (bodySection_exact maxBodyBytes).bind RequestHash.body
      (fun body => Exact.pure (⟨method, path, query, serverName, port, schemeText schemeByte,
        remoteAddr, headers, body⟩ : RequestHash))
      (fun _ _ _ built => congrArg RequestHash.body built)
  have headers method path query serverName port schemeByte remoteAddr hcount :=
    (headerArray_exact hcount).bind RequestHash.headers
      (body method path query serverName port schemeByte remoteAddr)
      (fun _ _ _ built => congrArg RequestHash.headers built.2)
  have hcount method path query serverName port schemeByte remoteAddr :=
    word.bind (fun hash : RequestHash => hash.headers.length)
      (fun hcount => (headers method path query serverName port schemeByte remoteAddr hcount).check
        (hcount > maxHeaders) DecodeError.tooManyHeaders)
      (fun _ _ _ built => built.2.1.1)
  have remoteAddr method path query serverName port schemeByte :=
    short.bind RequestHash.remoteAddr
      (hcount method path query serverName port schemeByte)
      (fun _ _ _ built => congrArg RequestHash.remoteAddr built.2.2.2.2)
  have schemeByte method path query serverName port :=
    byte.bind RequestHash.schemeByte
      (fun schemeByte => (remoteAddr method path query serverName port schemeByte).check
        (¬ schemeByte ≤ 1) (DecodeError.badScheme schemeByte))
      (fun _ _ _ built =>
        schemeByte_of_text built.1 (congrArg RequestHash.scheme built.2.2.2.2.2.2))
  have port method path query serverName :=
    word.bind RequestHash.serverPort
      (schemeByte method path query serverName)
      (fun _ _ _ built => congrArg RequestHash.serverPort built.2.2.2.2.2.2.2)
  have serverName method path query :=
    short.bind RequestHash.serverName (port method path query)
      (fun _ _ _ built => congrArg RequestHash.serverName built.2.2.2.2.2.2.2.2)
  have query method path :=
    long.bind RequestHash.query (serverName method path)
      (fun _ _ _ built => congrArg RequestHash.query built.2.2.2.2.2.2.2.2.2)
  have path method :=
    long.bind RequestHash.path (query method)
      (fun _ _ _ built => congrArg RequestHash.path built.2.2.2.2.2.2.2.2.2.2)
  have method :=
    short.bind RequestHash.method path
      (fun _ _ _ built => congrArg RequestHash.method built.2.2.2.2.2.2.2.2.2.2.2)
  refine method.restate ?_ ?_
  · intro hash
    constructor
    · intro valid
      obtain ⟨fits, within⟩ := valid
      have schemeText_eq : schemeText hash.schemeByte = hash.scheme := by
        unfold RequestHash.schemeByte
        rcases fits.scheme with http | https
        · rw [http]
          decide
        · rw [https]
          decide
      have schemeSmall : hash.schemeByte ≤ 1 := by
        unfold RequestHash.schemeByte
        split <;> omega
      refine ⟨fits.method, fits.path, fits.query, fits.serverName, fits.serverPort, ?_,
        not_not.mpr schemeSmall, fits.remoteAddr, fits.headerCount,
        Nat.not_lt.mpr within.headerCount, ⟨rfl, fits.headers⟩, ⟨fits.body, within.body⟩, ?_⟩
      · omega
      · rw [schemeText_eq]
    · intro valid
      obtain ⟨method, path, query, serverName, port, _, _, remoteAddr, headerCount, count,
        ⟨_, headersFit⟩, ⟨body, bodyWithin⟩, built⟩ := valid
      refine ⟨⟨method, path, query, serverName, port, ?_, remoteAddr, headerCount, headersFit,
        body⟩, ⟨Nat.not_lt.mp count, bodyWithin⟩⟩
      have scheme := congrArg RequestHash.scheme built
      rw [scheme]
      unfold schemeText
      split <;> simp
  · intro hash _
    simp only [RequestHash.layout, List.append_nil]

/-- An envelope decodes to a hash exactly when it opens with that hash's layout,
whatever follows. -/
theorem decodeRequestEnvelope_eq_ok (maxBodyBytes : Int) (envelope : List UInt8)
    (hash : RequestHash) :
    decodeRequestEnvelope maxBodyBytes envelope = .ok hash ↔
      (hash.FitsWire ∧ hash.WithinCaps maxBodyBytes) ∧ ∃ tail, envelope = hash.layout ++ tail := by
  have accepts := (envelopeSections_exact maxBodyBytes).accepts_iff (ByteCursor.new envelope) hash
  rw [ByteCursor.rest_new] at accepts
  rw [← accepts]
  unfold decodeRequestEnvelope
  cases envelopeSections maxBodyBytes (ByteCursor.new envelope) with
  | error failure =>
      constructor
      · intro decoded
        cases decoded
      · intro decoded
        obtain ⟨_, impossible⟩ := decoded
        cases impossible
  | ok result =>
      constructor
      · intro decoded
        cases decoded
        exact ⟨result.2, rfl⟩
      · intro decoded
        obtain ⟨_, same⟩ := decoded
        cases same
        rfl

end Oxo.Worker.AsyncWorker
