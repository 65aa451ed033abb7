import Oxo.HyperEdge.Request
import Oxo.HyperEdge.ShimEnv
import Oxo.HyperEdge.ShimHead

/-!
Contract: the Hyper edge and its TCP Rack worker (`oxo-edge/src/lib.rs`,
`oxo-edge/src/supervised.rs`, `oxo-edge/ruby/oxo_worker.rb`).

Owns: the bytes that the HTTP library puts on the connection for a request, the secret that
opens the worker, and what the worker makes of a request of the edge.

Does not own: connections that break off.
-/

namespace Oxo.HyperEdge

open Oxo.Foundation

/-! ## What is sent -/

/-- `generate_secret`, of the bytes of the random generator. -/
def generateSecret (random : List UInt8) : String :=
  String.ofList (random.flatMap fun byte =>
    [Nat.digitChar (byte.toNat / 16), Nat.digitChar (byte.toNat % 16)])

/-- The HTTP library takes no empty target, and writes the header lines in any order: one for each
value, and the length of the body, which it may leave out where there is none. -/
structure Written (req : WorkerRequest) (lines : List (String × String)) : Prop where
  target : req.target ≠ ""
  lines : lines.Perm (("content-length", numeral 10 req.body.length) :: req.headers) ∨
    (req.body = [] ∧ lines.Perm req.headers)

def headerBytes (header : String × String) : Shim.Bytes × Shim.Bytes :=
  (utf8 header.1, utf8 header.2)

def headerLine (header : String × String) : Shim.Bytes :=
  utf8 (header.1 ++ ": " ++ header.2 ++ "\r\n")

/-- All the bytes of a request. -/
def requestBytes (req : WorkerRequest) (lines : List (String × String)) : Shim.Bytes :=
  utf8 (req.method ++ " " ++ req.target ++ " HTTP/1.1\r\n") ++ lines.flatMap headerLine ++
    utf8 "\r\n" ++ req.body

/-- The head is no larger than the worker reads. -/
def HeadFits (lines : List (String × String)) : Prop :=
  lines.length ≤ Shim.maxHeaders ∧
    (lines.map fun header => (headerLine header).length).sum ≤ Shim.maxHeaderBytes

/-- The environment carries the request: method, path, query and body, and each forwarded
header under its key. -/
structure Carries (env : Shim.Env) (req : RackRequest) : Prop where
  method : env.lookup (utf8 "REQUEST_METHOD") = some (.text (utf8 req.method))
  path : env.lookup (utf8 "PATH_INFO") = some (.text (utf8 req.path))
  query : env.lookup (utf8 "QUERY_STRING") = some (.text (utf8 req.queryString))
  body : env.lookup (utf8 "rack.input") = some (.input req.body)
  header : ∀ header ∈ forwardedHeaders req,
    env.lookup (Shim.envKey (utf8 header.1)) = some (.text (utf8 header.2))

/-! ## Lines of the edge -/

/-- A header that the worker reads back. -/
structure Readable (header : String × String) : Prop where
  field : Shim.Field (headerBytes header)
  key : Shim.KeyName (utf8 header.1)

private theorem headerLine_eq (header : String × String) :
    headerLine header = Shim.fieldLine (headerBytes header) := by
  have parts : utf8 ": " = [58, 32] ∧ utf8 "\r\n" = Shim.crlf := by decide
  rw [headerLine, Shim.fieldLine, headerBytes, utf8_append, utf8_append, utf8_append, parts.1,
    parts.2, List.append_assoc (utf8 header.1)]
  rfl

theorem utf8_of_visibleText {bytes : List UInt8} {value : String}
    (visible : Edge.visibleText bytes = some value) :
    utf8 value = bytes ∧ ∀ byte ∈ bytes, ((32 ≤ byte && byte < 127) || byte == 9) = true := by
  unfold Edge.visibleText at visible
  split at visible
  · rename_i inClass
    have each := List.all_eq_true.mp inClass
    have code : ∀ byte ∈ bytes, (Char.ofNat byte.toNat).toNat = byte.toNat := by
      intro byte _
      have small := byte.toNat_lt
      exact toNat_ofNat_of_scalar (by omega)
    have ascii : ∀ byte ∈ bytes, byte.toNat < 128 := by
      have all : ∀ byte : UInt8, ((32 ≤ byte && byte < 127) || byte == 9) = true →
          byte.toNat < 128 := by
        decide +kernel
      exact fun byte member => all byte (each byte member)
    refine ⟨?_, each⟩
    cases visible
    rw [utf8_of_ascii, String.toList_ofList, List.map_map]
    · refine (List.map_congr_left fun byte member => ?_).trans (List.map_id _)
      rw [Function.comp_apply, code byte member, UInt8.ofNat_toNat, id]
    · intro char member
      rw [String.toList_ofList] at member
      obtain ⟨byte, byteMember, rfl⟩ := List.mem_map.mp member
      rw [code byte byteMember]
      exact ascii byte byteMember
  · cases visible

/-! ### Headers of the client -/

/-- A lowercase token is a name that reads back. -/
private theorem name_readable {name : String} (token : (utf8 name).all isTokenByte = true)
    (lower : toAsciiLowercase name = name) {byte : UInt8} (member : byte ∈ utf8 name) :
    byte ≠ 58 ∧ Shim.isStripped byte = false ∧ byteToAsciiLowercase byte = byte := by
  have all : ∀ byte : UInt8, isTokenByte byte = true →
      byte ≠ 58 ∧ Shim.isStripped byte = false := by
    decide +kernel
  have plain := all byte (List.all_eq_true.mp token byte member)
  have fixed : (utf8 name).map byteToAsciiLowercase = (utf8 name).map id := by
    rw [List.map_id, ← utf8_toAsciiLowercase, lower]
  exact ⟨plain.1, plain.2, List.map_inj_left.mp fixed byte member⟩

/-- A visible value is stripped of nothing but the blanks around it. -/
private theorem value_readable {bytes : List UInt8}
    (visible : ∀ byte ∈ bytes, ((32 ≤ byte && byte < 127) || byte == 9) = true)
    (trimmed : ∀ blank ∈ ([9, 32] : List UInt8),
      bytes.head? ≠ some blank ∧ bytes.getLast? ≠ some blank) :
    (13 : UInt8) ∉ bytes ∧ Shim.strip bytes = bytes := by
  have all : ∀ byte : UInt8, ((32 ≤ byte && byte < 127) || byte == 9) = true →
      Shim.isStripped byte = true → byte ∈ ([9, 32] : List UInt8) := by
    decide +kernel
  have front : bytes.dropWhile Shim.isStripped = bytes := by
    rw [List.dropWhile_eq_self_iff]
    intro nonempty blank
    have first := (trimmed _ (all _ (visible _ (List.getElem_mem nonempty)) blank)).1
    rw [List.head?_eq_getElem?, List.getElem?_eq_getElem nonempty] at first
    exact first rfl
  have back : bytes.rdropWhile Shim.isStripped = bytes := by
    rw [List.rdropWhile_eq_self_iff]
    intro nonempty blank
    have last := (trimmed _ (all _ (visible _ (List.getLast_mem nonempty)) blank)).2
    rw [List.getLast?_eq_some_getLast nonempty] at last
    exact last rfl
  refine ⟨fun member => ?_, by rw [Shim.strip, front, back]⟩
  have notVisible := visible 13 member
  exact absurd notVisible (by decide)

/-- What the edge keeps of an incoming request. -/
structure Kept (incoming : Incoming) (maxBody : Nat) (req : RackRequest) : Prop where
  method : req.method = incoming.method
  path : req.path = incoming.path
  query : req.queryString = incoming.query.getD ""
  headers : req.headers = rackHeaders incoming.headers
  body : req.body.length ≤ maxBody

theorem kept_of_toRackRequest {incoming : Incoming} {maxBody : Nat} {listener : Local}
    {req : RackRequest} (parsed : toRackRequest incoming maxBody listener = .ok req) :
    Kept incoming maxBody req := by
  unfold toRackRequest at parsed
  simp only at parsed
  split at parsed
  · cases parsed
  · rename_i body found
    cases parsed
    have short := (Option.filter_eq_some_iff.mp found).2
    exact ⟨rfl, rfl, rfl, rfl, of_decide_eq_true short⟩

section

variable {incoming : Incoming} {maxBody : Nat} {req : RackRequest}

private theorem readable_of_token {name value : String} (nonempty : name ≠ "")
    (token : (utf8 name).all isTokenByte = true) (lower : toAsciiLowercase name = name)
    (noBar : '_' ∉ name.toList) (allowed : name ≠ "transfer-encoding")
    (valueReads : (13 : UInt8) ∉ utf8 value ∧ Shim.strip (utf8 value) = utf8 value) :
    Readable (name, value) where
  field :=
    { nonempty := fun empty => nonempty (utf8_injective (empty.trans utf8_empty.symm))
      name := fun _ => name_readable token lower
      allowed := fun isTransfer => allowed (utf8_injective isTransfer)
      value := valueReads.1
      stripped := valueReads.2 }
  key := by
    intro byte member
    refine ⟨(name_readable token lower member).2.2, ?_⟩
    rintro rfl
    obtain ⟨char, charMember, code⟩ := (ascii_mem_utf8 (by decide) name).mp member
    have isBar : char = '_' := Char.toNat_inj.mp code
    exact noBar (isBar ▸ charMember)

/-- Every header that the edge forwards is read back by the worker. -/
private theorem readable_of_forwarded (kept : Kept incoming maxBody req)
    {header : String × String} (forwarded : header ∈ forwardedHeaders req) : Readable header := by
  obtain ⟨inRequest, notHop⟩ := List.mem_filter.mp forwarded
  rw [kept.headers] at inRequest
  obtain ⟨sent, isSent, keeps⟩ := List.mem_filterMap.mp inRequest
  obtain ⟨name, normalized, keepsValue⟩ := Option.bind_eq_some_iff.mp keeps
  obtain ⟨value, visible, rfl⟩ := Option.map_eq_some_iff.mp keepsValue
  obtain ⟨nonempty, token, lower⟩ := incoming.nameTokens sent isSent
  obtain ⟨encoded, visibleBytes⟩ := utf8_of_visibleText visible
  have valueReads := value_readable visibleBytes (incoming.trimmed sent isSent)
  rw [← encoded] at valueReads
  unfold Core.normalizeHeaderName at normalized
  split at normalized
  · cases normalized
  · rename_i noBar
    rw [lower] at normalized
    cases normalized
    rw [List.contains_iff_mem] at noBar
    refine readable_of_token nonempty token lower noBar ?_ valueReads
    intro isTransfer
    simp only [isTransfer] at notHop
    exact absurd notHop (by decide)

/-! ### Headers of the edge -/

/-- The names of the headers that the edge itself adds. -/
private def edgeNames : { names : List String // ∀ name ∈ names, name ≠ "" ∧
    (utf8 name).all isTokenByte = true ∧ toAsciiLowercase name = name ∧ '_' ∉ name.toList ∧
      name ≠ "transfer-encoding" } :=
  ⟨["host", secretHeader, "content-length"], by decide +kernel⟩

/-- A header of the edge itself has a name of its own and a value without blanks. -/
private theorem readable_of_plain {name value : String} (known : name ∈ edgeNames.val)
    (plain : ∀ byte ∈ utf8 value, Shim.isStripped byte = false) : Readable (name, value) := by
  obtain ⟨nonempty, token, lower, noBar, allowed⟩ := edgeNames.property name known
  refine readable_of_token nonempty token lower noBar allowed ⟨fun member => ?_, ?_⟩
  · have notPlain := plain 13 member
    cases notPlain
  · exact Shim.stripped_of_plain plain

private theorem numeral_plain {value : Nat} {byte : UInt8} (member : byte ∈ utf8 (numeral 10 value)) :
    Shim.isStripped byte = false := by
  have all : ∀ byte : UInt8, (48 ≤ byte && byte ≤ 57) = true → Shim.isStripped byte = false := by
    decide +kernel
  exact all byte (Shim.numeral_bytes member)

private theorem address_plain {port : Nat} {byte : UInt8}
    (member : byte ∈ utf8 ("127.0.0.1:" ++ numeral 10 port)) : Shim.isStripped byte = false := by
  have all : ∀ byte ∈ utf8 "127.0.0.1:", Shim.isStripped byte = false := by decide +kernel
  rw [utf8_append, List.mem_append] at member
  rcases member with inAddress | inPort
  · exact all byte inAddress
  · exact numeral_plain inPort

private theorem generateSecret_plain {random : List UInt8} {byte : UInt8}
    (member : byte ∈ utf8 (generateSecret random)) : Shim.isStripped byte = false := by
  have digit : ∀ value < 16, (Nat.digitChar value).toNat < 128 ∧
      Shim.isStripped (UInt8.ofNat (Nat.digitChar value).toNat) = false := by
    decide +kernel
  have digits : ∀ char ∈ (generateSecret random).toList, char.toNat < 128 ∧
      Shim.isStripped (UInt8.ofNat char.toNat) = false := by
    intro char charMember
    rw [generateSecret, String.toList_ofList] at charMember
    obtain ⟨drawn, _, isDigit⟩ := List.mem_flatMap.mp charMember
    have small := drawn.toNat_lt
    simp only [List.mem_cons, List.not_mem_nil, or_false] at isDigit
    rcases isDigit with rfl | rfl
    · exact digit _ (by omega)
    · exact digit _ (by omega)
  rw [utf8_of_ascii fun char charMember => (digits char charMember).1] at member
  obtain ⟨char, charMember, rfl⟩ := List.mem_map.mp member
  exact (digits char charMember).2

/-! ## The head -/

variable {port : UInt16} {random : List UInt8} {lines : List (String × String)}

private theorem mem_of_written {request : WorkerRequest} (written : Written request lines)
    {line : String × String} (member : line ∈ lines) :
    line ∈ ("content-length", numeral 10 request.body.length) :: request.headers := by
  rcases written.lines with withLength | ⟨_, without⟩
  · exact withLength.mem_iff.mp member
  · exact List.mem_cons_of_mem _ (without.mem_iff.mp member)

private theorem mem_lines {request : WorkerRequest} (written : Written request lines)
    {line : String × String} (member : line ∈ request.headers) : line ∈ lines := by
  rcases written.lines with withLength | ⟨_, without⟩
  · exact withLength.mem_iff.mpr (List.mem_cons_of_mem _ member)
  · exact without.mem_iff.mpr member

private theorem readable_of_line (kept : Kept incoming maxBody req)
    (written : Written (workerRequest req port (generateSecret random)) lines)
    {line : String × String} (member : line ∈ lines) : Readable line := by
  have own := mem_of_written written member
  rw [workerRequest, List.mem_cons, List.mem_cons, List.mem_cons] at own
  rcases own with rfl | rfl | rfl | forwarded
  · exact readable_of_plain (by decide) fun _ => numeral_plain
  · exact readable_of_plain (by decide) fun _ => address_plain
  · exact readable_of_plain (by decide) fun _ => generateSecret_plain
  · exact readable_of_forwarded kept forwarded

private theorem hop_not_forwarded {name : String} (isHop : name ∈ hopHeaders) :
    name ∉ (forwardedHeaders req).map Prod.fst := by
  intro member
  obtain ⟨header, forwarded, rfl⟩ := List.mem_map.mp member
  have notHop := (List.mem_filter.mp forwarded).2
  rw [List.contains_iff_mem.mpr isHop] at notHop
  cases notHop

/-- The lines repeat a name just where the forwarded headers do. -/
private theorem lines_nodup {secret : String} (written : Written (workerRequest req port secret) lines) :
    ((lines.map headerBytes).map Prod.fst).Nodup ↔
      ((forwardedHeaders req).map Prod.fst).Nodup := by
  have names : (lines.map headerBytes).map Prod.fst = (lines.map Prod.fst).map utf8 := by
    rw [List.map_map, List.map_map]
    rfl
  have hops : "content-length" ∈ hopHeaders ∧ "host" ∈ hopHeaders ∧ secretHeader ∈ hopHeaders := by
    decide
  have differ : "host" ≠ secretHeader ∧ "content-length" ≠ "host" ∧
      "content-length" ≠ secretHeader := by
    decide
  have own : ((workerRequest req port secret).headers.map Prod.fst).Nodup ↔
      ((forwardedHeaders req).map Prod.fst).Nodup := by
    rw [workerRequest, List.map_cons, List.map_cons, List.nodup_cons, List.nodup_cons,
      List.mem_cons, not_or]
    exact ⟨fun nodup => nodup.2.2, fun nodup => ⟨⟨differ.1, hop_not_forwarded hops.2.1⟩,
      hop_not_forwarded hops.2.2, nodup⟩⟩
  rw [names, List.nodup_map_iff fun _ _ => utf8_injective]
  rcases written.lines with withLength | ⟨_, without⟩
  · rw [(withLength.map Prod.fst).nodup_iff, List.map_cons, List.nodup_cons, own]
    refine and_iff_right ?_
    rw [workerRequest, List.map_cons, List.map_cons, List.mem_cons, List.mem_cons, not_or, not_or]
    exact ⟨differ.2.1, differ.2.2, hop_not_forwarded hops.1⟩
  · rw [(without.map Prod.fst).nodup_iff, own]

/-! ### The request line -/

private theorem space_free {text : String} (plain : ∀ char ∈ text.toList, ' ' < char) {byte : UInt8}
    (member : byte ∈ utf8 text) : Shim.isSpace byte = false := by
  have all : ∀ byte : UInt8, Shim.isSpace byte = true → byte < 0x80 ∧ byte.toNat ≤ 32 := by
    decide +kernel
  by_contra space
  obtain ⟨ascii, low⟩ := all byte (eq_true_of_ne_false space)
  obtain ⟨char, charMember, code⟩ := (ascii_mem_utf8 ascii text).mp member
  have high : 32 < char.toNat := plain char charMember
  omega

private theorem target_plain (kept : Kept incoming maxBody req) :
    ∀ char ∈ (targetOf req).toList, ' ' < char := by
  have path : ∀ char ∈ req.path.toList, ' ' < char := by
    rw [kept.path]
    exact fun char member => (incoming.plainPath char member).1
  have query : ∀ char ∈ req.queryString.toList, ' ' < char := by
    rw [kept.query]
    cases given : incoming.query with
    | none =>
        intro char member
        cases member
    | some text => exact incoming.plainQuery text given
  unfold targetOf
  split
  · exact path
  · intro char member
    rw [String.toList_append, String.toList_append, List.mem_append, List.mem_append] at member
    rcases member with (inPath | isMark) | inQuery
    · exact path char inPath
    · have mark : char = '?' := List.mem_singleton.mp isMark
      rw [mark]
      decide
    · exact query char inQuery

/-- The target is taken apart where the path ends. -/
private theorem target_parts (kept : Kept incoming maxBody req) :
    (Shim.splitFirst 63 (utf8 (targetOf req))).getD (utf8 (targetOf req), []) =
      (utf8 req.path, utf8 req.queryString) := by
  have noMark : (63 : UInt8) ∉ utf8 req.path := by
    rw [ascii_mem_utf8 (by decide), kept.path]
    rintro ⟨char, member, code⟩
    have isMark : char = '?' := Char.toNat_inj.mp code
    exact (incoming.plainPath char member).2 isMark
  unfold targetOf
  split
  · rename_i empty
    rw [Shim.splitFirst_eq_none noMark, empty]
    rfl
  · have mark : utf8 "?" = [63] := by decide
    rw [utf8_append, utf8_append, mark, List.append_assoc, List.singleton_append,
      Shim.splitFirst_append noMark]
    rfl

/-- The words of the request line. -/
private theorem words_plain (kept : Kept incoming maxBody req) :
    ∀ byte ∈ utf8 req.method ++ utf8 (targetOf req) ++ utf8 "HTTP/1.1",
      Shim.isSpace byte = false := by
  have token : ∀ byte : UInt8, isTokenByte byte = true → Shim.isSpace byte = false := by
    decide +kernel
  have version : ∀ byte ∈ utf8 "HTTP/1.1", Shim.isSpace byte = false := by decide +kernel
  intro byte member
  rcases List.mem_append.mp member with inWords | inVersion
  · rcases List.mem_append.mp inWords with inMethod | inTarget
    · rw [kept.method] at inMethod
      exact token byte (List.all_eq_true.mp incoming.methodToken.2 byte inMethod)
    · exact space_free (target_plain kept) inTarget
  · exact version byte inVersion

private theorem words_nonempty {secret : String} (kept : Kept incoming maxBody req)
    (written : Written (workerRequest req port secret) lines) :
    utf8 req.method ≠ [] ∧ utf8 (targetOf req) ≠ [] ∧ utf8 "HTTP/1.1" ≠ [] := by
  refine ⟨fun empty => ?_, fun empty => ?_, by decide⟩
  · rw [kept.method] at empty
    exact incoming.methodToken.1 (utf8_injective (empty.trans utf8_empty.symm))
  · exact written.target (utf8_injective (empty.trans utf8_empty.symm))

private theorem requestLine_plain (kept : Kept incoming maxBody req) :
    (13 : UInt8) ∉ utf8 req.method ++ 32 :: (utf8 (targetOf req) ++ 32 :: utf8 "HTTP/1.1") := by
  intro member
  have inWords : (13 : UInt8) ∈ utf8 req.method ++ utf8 (targetOf req) ++ utf8 "HTTP/1.1" := by
    simpa using member
  have notSpace := words_plain kept 13 inWords
  exact absurd notSpace (by decide)

/-! ## The exchange -/

private theorem requestBytes_eq (request : WorkerRequest) :
    requestBytes request lines =
      (utf8 request.method ++ 32 :: (utf8 request.target ++ 32 :: utf8 "HTTP/1.1")) ++
        (Shim.crlf ++ ((lines.map headerBytes).flatMap Shim.fieldLine ++
          (Shim.crlf ++ request.body))) := by
  have parts : utf8 " " = [32] ∧ utf8 " HTTP/1.1\r\n" = 32 :: (utf8 "HTTP/1.1" ++ Shim.crlf) ∧
      utf8 "\r\n" = Shim.crlf := by
    decide
  have lineBytes : lines.flatMap headerLine = (lines.map headerBytes).flatMap Shim.fieldLine := by
    rw [List.flatMap_map]
    exact List.flatMap_congr fun header _ => headerLine_eq header
  rw [requestBytes, utf8_append, utf8_append, utf8_append, parts.1, parts.2.1, parts.2.2, lineBytes]
  simp only [List.append_assoc, List.cons_append, List.nil_append]

private theorem lines_short
    (short : (lines.map fun header => (headerLine header).length).sum ≤ Shim.maxHeaderBytes) :
    0 + ((lines.map headerBytes).map fun field => (Shim.fieldLine field).length).sum ≤
      Shim.maxHeaderBytes := by
  have same : (lines.map headerBytes).map (fun field => (Shim.fieldLine field).length) =
      lines.map fun header => (headerLine header).length := by
    rw [List.map_map]
    exact List.map_congr_left fun header _ => congrArg List.length (headerLine_eq header).symm
  rwa [Nat.zero_add, same]

private theorem value_of_line (distinct : ((lines.map headerBytes).map Prod.fst).Nodup)
    {name value : String} (member : (name, value) ∈ lines) :
    Shim.Headers.value (lines.map headerBytes) name = some (utf8 value) :=
  Shim.lookup_of_mem distinct (List.mem_map_of_mem (f := headerBytes) member)

/-- The body is read to the length that was written, if any. -/
private theorem readBody_written (kept : Kept incoming maxBody req) {secret : String}
    (written : Written (workerRequest req port secret) lines)
    (distinct : ((lines.map headerBytes).map Prod.fst).Nodup) :
    Shim.readBody maxBody (lines.map headerBytes) req.body = .ok req.body := by
  rcases written.lines with withLength | ⟨empty, without⟩
  · have announced := value_of_line distinct (withLength.mem_iff.mpr List.mem_cons_self)
    have short := kept.body
    have notLarge : ¬ (maxBody : Int) < (req.body.length : Int) := by omega
    rw [Shim.readBody, announced]
    simp only [workerRequest, Shim.parseInteger_numeral, if_neg notLarge, Int.toNat_natCast,
      List.take_length, lt_irrefl, ↓reduceIte]
    split
    · rfl
    · rename_i nonpositive
      have noBytes : req.body.length = 0 := by omega
      rw [List.length_eq_zero_iff.mp noBytes]
  · have silent : Shim.Headers.value (lines.map headerBytes) "content-length" = none := by
      rw [Shim.Headers.value, List.lookup_eq_none_iff]
      intro field member
      obtain ⟨line, isLine, rfl⟩ := List.mem_map.mp member
      rw [bne_iff_ne]
      intro same
      have name : line.1 = "content-length" := (utf8_injective same).symm
      have own := without.mem_iff.mp isLine
      rw [workerRequest, List.mem_cons, List.mem_cons] at own
      rcases own with rfl | rfl | forwarded
      · exact absurd name (by decide : "host" ≠ "content-length")
      · exact absurd name (by decide : secretHeader ≠ "content-length")
      · have member := List.mem_map_of_mem (f := Prod.fst) forwarded
        rw [name] at member
        exact hop_not_forwarded (by decide) member
    have bodyEmpty : req.body = [] := empty
    rw [Shim.readBody, silent, bodyEmpty]

private theorem fields_of_lines (kept : Kept incoming maxBody req)
    (written : Written (workerRequest req port (generateSecret random)) lines) :
    ∀ field ∈ lines.map headerBytes, Shim.Field field := by
  intro field member
  obtain ⟨line, isLine, rfl⟩ := List.mem_map.mp member
  exact (readable_of_line kept written isLine).field

/-- The request line is read, and the header lines are what comes next. -/
private theorem handleConnection_head {secret : String} (kept : Kept incoming maxBody req)
    (written : Written (workerRequest req port secret) lines) :
    Shim.handleConnection (utf8 secret) maxBody
        (requestBytes (workerRequest req port secret) lines) =
      (do
        let (headers, rest) ← Shim.readHeaders Shim.maxHeaders 0 []
          ((lines.map headerBytes).flatMap Shim.fieldLine ++ (Shim.crlf ++ req.body))
        if headers.value "x-oxo-secret" ≠ some (utf8 secret) then .error ⟨403, "forbidden"⟩
        else do
          let body ← Shim.readBody maxBody headers rest
          .ok (Shim.buildEnv (utf8 req.method) (utf8 (targetOf req)) (some (utf8 "HTTP/1.1"))
            headers body)) := by
  rw [requestBytes_eq, Shim.handleConnection, workerRequest, Shim.gets_line (requestLine_plain kept)]
  simp only [Shim.chomp_line, Shim.splitBlank_requestLine (words_nonempty kept written)
    (words_plain kept)]
  rfl

/-- Within the caps the worker reads all of a request, unless a forwarded header repeats. -/
theorem handleConnection_requestBytes (kept : Kept incoming maxBody req)
    (written : Written (workerRequest req port (generateSecret random)) lines)
    (fits : HeadFits lines) :
    Shim.handleConnection (utf8 (generateSecret random)) maxBody
        (requestBytes (workerRequest req port (generateSecret random)) lines) =
      if ((forwardedHeaders req).map Prod.fst).Nodup then
        .ok (Shim.buildEnv (utf8 req.method) (utf8 (targetOf req)) (some (utf8 "HTTP/1.1"))
          (lines.map headerBytes) req.body)
      else .error ⟨400, "duplicate header"⟩ := by
  have none : (([] : Shim.Headers).map Prod.fst).Nodup := List.nodup_nil
  have few : (lines.map headerBytes).length ≤ Shim.maxHeaders := by
    rw [List.length_map]
    exact fits.1
  rw [handleConnection_head kept written,
    Shim.readHeaders_fields (fields_of_lines kept written) none few (lines_short fits.2)]
  simp only [List.nil_append, lines_nodup written]
  split
  · rename_i distinct
    have distinctLines := (lines_nodup written).mpr distinct
    have opens : Shim.Headers.value (lines.map headerBytes) "x-oxo-secret" =
        some (utf8 (generateSecret random)) :=
      value_of_line distinctLines (mem_lines written (List.mem_cons_of_mem _ List.mem_cons_self))
    have body := readBody_written kept written distinctLines
    simp only [Bind.bind, Except.bind, opens, ne_eq, not_true_eq_false, ↓reduceIte, body]
  · rfl

/-- The lines of the edge count towards the cap as well. -/
theorem handleConnection_too_many (kept : Kept incoming maxBody req)
    (written : Written (workerRequest req port (generateSecret random)) lines)
    (many : Shim.maxHeaders < lines.length)
    (distinct : ((forwardedHeaders req).map Prod.fst).Nodup)
    (short : (lines.map fun header => (headerLine header).length).sum ≤ Shim.maxHeaderBytes) :
    Shim.handleConnection (utf8 (generateSecret random)) maxBody
      (requestBytes (workerRequest req port (generateSecret random)) lines) =
        .error ⟨431, "too many headers"⟩ := by
  rw [← List.length_map (f := headerBytes)] at many
  rw [handleConnection_head kept written,
    Shim.readHeaders_too_many (fields_of_lines kept written) many
      ((lines_nodup written).mpr distinct) (lines_short short)]
  rfl

/-- The environment of the read lines carries the request. -/
private theorem carries_buildEnv (kept : Kept incoming maxBody req)
    (written : Written (workerRequest req port (generateSecret random)) lines)
    (distinct : ((forwardedHeaders req).map Prod.fst).Nodup) :
    Carries (Shim.buildEnv (utf8 req.method) (utf8 (targetOf req)) (some (utf8 "HTTP/1.1"))
      (lines.map headerBytes) req.body) req := by
  have parts := target_parts kept
  refine ⟨?_, ?_, ?_, ?_, fun header forwarded => ?_⟩
  · exact Shim.buildEnv_request parts List.mem_cons_self
  · exact Shim.buildEnv_request parts (List.mem_cons_of_mem _ List.mem_cons_self)
  · exact Shim.buildEnv_request parts (by simp)
  · exact Shim.buildEnv_request parts (by simp)
  · have names : ∀ field ∈ lines.map headerBytes, Shim.KeyName field.1 := by
      intro field member
      obtain ⟨line, isLine, rfl⟩ := List.mem_map.mp member
      exact (readable_of_line kept written isLine).key
    have isLine : header ∈ lines :=
      mem_lines written (List.mem_cons_of_mem _ (List.mem_cons_of_mem _ forwarded))
    refine Shim.buildEnv_header names ((lines_nodup written).mpr distinct)
      (List.mem_map_of_mem (f := headerBytes) isLine) ?_
    cases isUnprefixed : Shim.unprefixedNames.contains (headerBytes header).1 with
    | false => exact .inl rfl
    | true =>
        right
        obtain ⟨name, known, same⟩ := List.mem_map.mp (List.contains_iff_mem.mp isUnprefixed)
        have own : header.1 = name := (utf8_injective same).symm
        have classes : ∀ name ∈ (["content-length", "content-type", "host", "connection",
            "x-oxo-secret"] : List String), name = "content-type" ∨ name ∈ hopHeaders := by
          decide
        rcases classes name known with isType | isHop
        · exact congrArg utf8 (own.trans isType)
        · exact absurd (List.mem_map_of_mem forwarded) (hop_not_forwarded (own ▸ isHop))

end

/-- A request whose head is within the worker's caps reaches the application with its method,
path, query, body and forwarded headers, unless a forwarded header comes in more than one line:
that request is refused. -/
theorem worker_carries_request {incoming : Incoming} {maxBody : Nat} {listener : Local}
    {req : RackRequest} (parsed : toRackRequest incoming maxBody listener = .ok req)
    (port : UInt16) (random : List UInt8) {lines : List (String × String)}
    (written : Written (workerRequest req port (generateSecret random)) lines)
    (fits : HeadFits lines) :
    if ((forwardedHeaders req).map Prod.fst).Nodup then
      ∃ env, Shim.handleConnection (utf8 (generateSecret random)) maxBody
        (requestBytes (workerRequest req port (generateSecret random)) lines) = .ok env ∧
          Carries env req
    else
      Shim.handleConnection (utf8 (generateSecret random)) maxBody
        (requestBytes (workerRequest req port (generateSecret random)) lines) =
          .error ⟨400, "duplicate header"⟩ := by
  have kept := kept_of_toRackRequest parsed
  rw [handleConnection_requestBytes kept written fits]
  split
  · rename_i distinct
    exact ⟨_, rfl, carries_buildEnv kept written distinct⟩
  · rfl

/-! ## Requests on a loopback listener -/

def loopback : Local where
  ip := "127.0.0.1"
  port := 9292

/-- `GET /` with headers whose values are one letter. -/
def getWith (names : List String)
    (tokens : ∀ name ∈ names, name ≠ "" ∧ (utf8 name).all isTokenByte = true ∧
      toAsciiLowercase name = name) : Incoming where
  method := "GET"
  path := "/"
  query := none
  headers := names.map fun name => (name, [97])
  body := some []
  methodToken := getToken
  plainPath := by decide
  plainQuery := by
    intro text none
    cases none
  nameTokens := by
    intro header member
    obtain ⟨name, isName, rfl⟩ := List.mem_map.mp member
    exact tokens name isName
  trimmed := by
    intro header member
    obtain ⟨name, isName, rfl⟩ := List.mem_map.mp member
    show ∀ blank ∈ ([9, 32] : List UInt8), ([97] : List UInt8).head? ≠ some blank ∧
      ([97] : List UInt8).getLast? ≠ some blank
    intro blank isBlank
    obtain rfl | rfl := List.mem_pair.mp isBlank
    · decide
    · decide

/-- The request that is kept of it. -/
def keptGet (names : List String) : RackRequest where
  method := "GET"
  path := "/"
  queryString := ""
  serverName := "127.0.0.1"
  serverPort := 9292
  urlScheme := "http"
  headers := names.map fun name => (name, "a")
  body := []

private theorem written_keptGet (names : List String) (secret : String) :
    Written (workerRequest (keptGet names) 4000 secret)
      (workerRequest (keptGet names) 4000 secret).headers := by
  have target : targetOf (keptGet names) = "/" := rfl
  refine ⟨?_, .inr ⟨rfl, .refl _⟩⟩
  rw [workerRequest, target]
  exact (by decide : "/" ≠ "")

theorem worker_carries_accept :
    ∃ env, Shim.handleConnection (utf8 (generateSecret [0])) 16
      (requestBytes (workerRequest (keptGet ["accept"]) 4000 (generateSecret [0]))
        (workerRequest (keptGet ["accept"]) 4000 (generateSecret [0])).headers) = .ok env ∧
          Carries env (keptGet ["accept"]) := by
  have parsed : toRackRequest (getWith ["accept"] (by decide)) 16 loopback =
      .ok (keptGet ["accept"]) := by
    decide +kernel
  have fits : HeadFits
      (workerRequest (keptGet ["accept"]) 4000 (generateSecret [0])).headers := by
    unfold HeadFits
    decide +kernel
  have carried := worker_carries_request parsed 4000 [0] (written_keptGet _ _) fits
  rwa [if_pos (by decide +kernel)] at carried

/-- As many headers as the edge takes by default. -/
def hundredNames : List String :=
  (List.range 100).map fun index => "a" ++ numeral 10 index

private theorem hundredNames_tokens : ∀ name ∈ hundredNames, name ≠ "" ∧
    (utf8 name).all isTokenByte = true ∧ toAsciiLowercase name = name := by
  decide +kernel

/-- The edge sends the worker two values of `accept`, and a head of a hundred headers and its own
two; the worker refuses both. -/
theorem repeated_and_hundred_headers_refused :
    (toRackRequest (getWith ["accept", "accept"] (by decide)) (1024 * 1024) loopback =
        .ok (keptGet ["accept", "accept"]) ∧
      Shim.handleConnection (utf8 (generateSecret [0])) (1024 * 1024)
        (requestBytes (workerRequest (keptGet ["accept", "accept"]) 4000 (generateSecret [0]))
          (workerRequest (keptGet ["accept", "accept"]) 4000 (generateSecret [0])).headers) =
        .error ⟨400, "duplicate header"⟩) ∧
    (toRackRequest (getWith hundredNames hundredNames_tokens) (1024 * 1024) loopback =
        .ok (keptGet hundredNames) ∧
      Shim.handleConnection (utf8 (generateSecret [0])) (1024 * 1024)
        (requestBytes (workerRequest (keptGet hundredNames) 4000 (generateSecret [0]))
          (workerRequest (keptGet hundredNames) 4000 (generateSecret [0])).headers) =
        .error ⟨431, "too many headers"⟩) := by
  have twice : toRackRequest (getWith ["accept", "accept"] (by decide)) (1024 * 1024) loopback =
      .ok (keptGet ["accept", "accept"]) := by
    decide +kernel
  have hundred : toRackRequest (getWith hundredNames hundredNames_tokens) (1024 * 1024) loopback =
      .ok (keptGet hundredNames) := by
    decide +kernel
  have fits : HeadFits
      (workerRequest (keptGet ["accept", "accept"]) 4000 (generateSecret [0])).headers := by
    unfold HeadFits
    decide +kernel
  refine ⟨⟨twice, ?_⟩, hundred, ?_⟩
  · rw [handleConnection_requestBytes (kept_of_toRackRequest twice) (written_keptGet _ _) fits,
      if_neg (by decide +kernel)]
  · exact handleConnection_too_many (kept_of_toRackRequest hundred) (written_keptGet _ _)
      (by decide +kernel) (by decide) (by decide)

end Oxo.HyperEdge
