import Oxo.Foundation.Upcase
import Oxo.Worker.Frame

/-!
Contract: the Rack environment the native worker builds from a request
(`oxo-worker/src/native/ruby.rs`).

Owns: `build_env` over any full Unicode upper-casing, the CGI keys of reserved names, and
the exact frames whose headers cannot reach such a key.

Does not own: the Rack application, the lint wrapper or the response path.
-/

namespace Oxo.Worker

open Oxo.Foundation Oxo.Core Oxo.Core.HopFrame

inductive EnvValue where
  | null
  | text (value : String)
  | flag (value : Bool)
  | input (body : List UInt8)
  | errors
deriving DecidableEq

/-- A Ruby hash: its entries in insertion order. -/
abbrev Env := List (String × EnvValue)

/-- Assignment to a key keeps the entry's place when the key is there already. -/
def Env.store (env : Env) (key : String) (value : EnvValue) : Env :=
  match env with
  | [] => [(key, value)]
  | entry :: rest =>
    if entry.1 = key then (key, value) :: rest else entry :: Env.store rest key value

def Env.keys (env : Env) : List String :=
  env.map Prod.fst

structure WorkerOptions where
  multithread : Bool
  multiprocess : Bool

/-- `'HTTP_' + k.upcase.tr('-', '_')`. -/
def httpKey (mapping : FullUpcase) (name : String) : String :=
  "HTTP_" ++ String.ofList (mapping.cgi name.toList)

def httpKeyNames : List String :=
  ["accept", "accept-encoding", "accept-language", "accept-charset", "authorization",
    "cache-control", "cookie", "host", "if-modified-since", "if-none-match", "if-match",
    "if-unmodified-since", "origin", "pragma", "range", "referer", "user-agent", "via", "date",
    "upgrade-insecure-requests", "x-request-id", "x-requested-with",
    "sec-fetch-dest", "sec-fetch-mode", "sec-fetch-site", "sec-fetch-user"]

def httpKeyTable (mapping : FullUpcase) : List (String × String) :=
  httpKeyNames.map fun name => (name, httpKey mapping name)

/-- The environment key a header is stored under. -/
def envKey (mapping : FullUpcase) (name : String) : String :=
  if name = "content-length" then "CONTENT_LENGTH"
  else if name = "content-type" then "CONTENT_TYPE"
  else ((httpKeyTable mapping).lookup name).getD (httpKey mapping name)

/-- The loop over the flat list of names and values, two at a time. -/
def storeHeaders (mapping : FullUpcase) (env : Env) : List String → Env
  | name :: value :: rest =>
    storeHeaders mapping (env.store (envKey mapping name) (.text value)) rest
  | [name] => env.store (envKey mapping name) .null
  | [] => env

def flatHeaders (headers : List (String × String)) : List String :=
  headers.flatMap fun header => [header.1, header.2]

def buildEnv (mapping : FullUpcase) (options : WorkerOptions) (req : WorkerRequest) : Env :=
  let env : Env :=
    [("REQUEST_METHOD", .text req.method),
      ("SCRIPT_NAME", .text ""),
      ("PATH_INFO", .text req.path),
      ("QUERY_STRING", .text req.query),
      ("SERVER_NAME", .text req.serverName),
      ("SERVER_PORT", .text (toString req.serverPort)),
      ("SERVER_PROTOCOL", .text "HTTP/1.1"),
      ("REMOTE_ADDR", .text req.remoteAddr),
      ("rack.url_scheme", .text req.urlScheme),
      ("rack.input", .input req.body),
      ("rack.errors", .errors),
      ("rack.multithread", .flag options.multithread),
      ("rack.multiprocess", .flag options.multiprocess),
      ("rack.run_once", .flag false)]
  storeHeaders mapping env (flatHeaders req.headers)

/-! ## Keys of the environment -/

theorem Env.mem_keys_store (env : Env) (key : String) (value : EnvValue) (candidate : String) :
    candidate ∈ (env.store key value).keys ↔ candidate ∈ env.keys ∨ candidate = key := by
  induction env with
  | nil => simp [Env.store, Env.keys]
  | cons entry rest inductionHypothesis =>
      unfold Env.store
      split
      · rename_i same
        simp only [Env.keys, List.map_cons, List.mem_cons, same]
        tauto
      · simp only [Env.keys, List.map_cons, List.mem_cons] at inductionHypothesis ⊢
        rw [inductionHypothesis]
        tauto

theorem mem_keys_storeHeaders (mapping : FullUpcase) (env : Env)
    (headers : List (String × String)) (candidate : String) :
    candidate ∈ (storeHeaders mapping env (flatHeaders headers)).keys ↔
      candidate ∈ env.keys ∨ ∃ header ∈ headers, candidate = envKey mapping header.1 := by
  induction headers generalizing env with
  | nil => simp [flatHeaders, storeHeaders]
  | cons header rest inductionHypothesis =>
      have unrolled : storeHeaders mapping env (flatHeaders (header :: rest)) =
          storeHeaders mapping (env.store (envKey mapping header.1) (.text header.2))
            (flatHeaders rest) := rfl
      rw [unrolled, inductionHypothesis, Env.mem_keys_store]
      simp only [List.mem_cons, exists_eq_or_imp, or_assoc]

/-- The table holds what the fallback computes. -/
theorem lookup_httpKeyTable (mapping : FullUpcase) (name : String) :
    ((httpKeyTable mapping).lookup name).getD (httpKey mapping name) = httpKey mapping name := by
  unfold httpKeyTable
  induction httpKeyNames with
  | nil => rfl
  | cons head rest inductionHypothesis =>
      rw [List.map_cons, List.lookup_cons]
      split
      · rename_i same
        rw [beq_iff_eq] at same
        rw [same]
        rfl
      · exact inductionHypothesis

/-- Names of the header alphabet, in lower case and without underscores, keep their keys apart. -/
theorem envKey_injective (mapping : FullUpcase) {first second : String}
    (firstPlain : ∀ char ∈ first.toList, char.toNat < 128 ∧ IsFolded char)
    (secondPlain : ∀ char ∈ second.toList, char.toNat < 128 ∧ IsFolded char)
    (same : envKey mapping first = envKey mapping second) : first = second := by
  have httpHead : ∀ name, (httpKey mapping name).toList.take 5 = "HTTP_".toList := by
    intro name
    simp [httpKey]
  have contentLength : ∀ name, httpKey mapping name ≠ "CONTENT_LENGTH" := by
    intro name isContent
    exact absurd (isContent ▸ httpHead name) (by decide)
  have contentType : ∀ name, httpKey mapping name ≠ "CONTENT_TYPE" := by
    intro name isContent
    exact absurd (isContent ▸ httpHead name) (by decide)
  simp only [envKey, lookup_httpKeyTable] at same
  split at same
  · rename_i firstLength
    split at same
    · rename_i secondLength
      rw [firstLength, secondLength]
    · split at same
      · exact absurd same (by decide)
      · exact absurd same.symm (contentLength second)
  · split at same
    · rename_i firstType
      split at same
      · exact absurd same (by decide)
      · split at same
        · rename_i secondType
          rw [firstType, secondType]
        · exact absurd same.symm (contentType second)
    · split at same
      · exact absurd same (contentLength first)
      · split at same
        · exact absurd same (contentType first)
        · have spelled := congrArg String.toList same
          simp only [httpKey, String.toList_append, String.toList_ofList,
            List.append_cancel_left_eq] at spelled
          rw [mapping.cgi_of_ascii fun char member => (firstPlain char member).1,
            mapping.cgi_of_ascii fun char member => (secondPlain char member).1] at spelled
          exact String.toList_injective (map_cgiChar_injective
            (fun char member => (firstPlain char member).2)
            (fun char member => (secondPlain char member).2) spelled)

/-! ## Reserved keys -/

/-- The CGI key of a header: ASCII upper case, `_` for `-`. -/
def cgiKey (name : String) : String :=
  "HTTP_" ++ String.ofList (name.toList.map cgiChar)

/-- No key of the environment built from the frame is the key of a reserved header. -/
def KeepsReservedKeysOut (mapping : FullUpcase) (options : WorkerOptions) (frame : RequestFrame) :
    Prop :=
  ∀ key ∈ (buildEnv mapping options (requestFrameToWorkerRequest frame)).keys,
    ∀ name, isReservedName (toAsciiLowercase name) = true → key ≠ cgiKey name

/-- The name with every character that upper-cases to ASCII text spelled in ASCII. -/
def asciiName (name : String) : String :=
  String.ofList (spellAscii name.toList)

/-! ## Which names reach a reserved key -/

/-- The classes of reserved names that are given by how a name starts. -/
private def reservedHeads : List String :=
  ["x-forwarded-", "x-oxo-"]

private theorem isReservedName_iff (name : String) :
    isReservedName name = true ↔
      name ∈ clientForwardingNames ∨ ∃ head ∈ reservedHeads, head.toList <+: name.toList := by
  simp [isReservedName, isClientForwardingHeader, reservedHeads, startsWith, or_assoc]

private theorem clientForwardingNames_chars : ∀ name ∈ clientForwardingNames,
    ∀ char ∈ name.toList, char.toNat < 128 ∧ IsFolded char := by
  decide +kernel

private theorem reservedHeads_chars : ∀ head ∈ reservedHeads,
    (head.toList.map cgiChar).getLast? = some '_' ∧
      ∀ char ∈ head.toList, char.toNat < 128 ∧ IsFolded char := by
  decide +kernel

private theorem map_cgiChar_ascii {word : List Char}
    (chars : ∀ char ∈ word, char.toNat < 128 ∧ IsFolded char) :
    ∀ char ∈ word.map cgiChar, char.toNat < 128 := by
  intro upper member
  obtain ⟨char, inWord, rfl⟩ := List.mem_map.mp member
  exact cgiChar_ascii (chars char inWord).1

/-- A listed name is what the key of a folded name spells exactly when the name is spelled so. -/
private theorem cgi_eq_listed_iff (mapping : FullUpcase) {text word : List Char}
    (folded : ∀ char ∈ text, IsFolded char)
    (chars : ∀ char ∈ word, char.toNat < 128 ∧ IsFolded char) :
    mapping.cgi text = word.map cgiChar ↔ spellAscii text = word := by
  rw [mapping.cgi_eq_iff (map_cgiChar_ascii chars)]
  constructor
  · intro same
    exact map_cgiChar_injective (spellAscii_folded folded)
      (fun char member => (chars char member).2) same
  · rintro rfl
    rfl

private theorem prefix_cgi_iff_of_head (mapping : FullUpcase) {text : List Char}
    (folded : ∀ char ∈ text, IsFolded char) {head : String} (listed : head ∈ reservedHeads) :
    head.toList.map cgiChar <+: mapping.cgi text ↔ head.toList <+: spellAscii text := by
  obtain ⟨closed, chars⟩ := reservedHeads_chars head listed
  rw [mapping.prefix_cgi_iff (map_cgiChar_ascii chars) (Or.inr closed)]
  exact map_cgiChar_prefix_iff (fun char member => (chars char member).2)
    (spellAscii_folded folded)

private theorem toAsciiLowercase_of_folded {text : List Char}
    (folded : ∀ char ∈ text, IsFolded char) (tail : List Char) :
    (toAsciiLowercase (String.ofList (text ++ tail))).toList = text ++ tail.map Char.toLower := by
  have unchanged : text.map Char.toLower = text := by
    conv_rhs => rw [← List.map_id text]
    apply List.map_congr_left
    intro char member
    have notUpper := (folded char member).toNat.1
    apply Char.toNat_inj.mp
    rw [toLower_toNat, if_neg notUpper, id_eq]
  simp only [toAsciiLowercase, String.toList_ofList, List.map_append, unchanged]

private theorem httpKey_eq_cgiKey_iff (mapping : FullUpcase) (name reserved : String) :
    httpKey mapping name = cgiKey reserved ↔
      mapping.cgi name.toList = (toAsciiLowercase reserved).toList.map cgiChar := by
  have lowered : (toAsciiLowercase reserved).toList.map cgiChar = reserved.toList.map cgiChar := by
    simp [toAsciiLowercase, Function.comp_def]
  rw [lowered]
  unfold httpKey cgiKey
  constructor
  · intro same
    have lists := congrArg String.toList same
    simpa using lists
  · intro same
    rw [same]

/-- The key of a folded name is the key of some reserved header exactly when the name's ASCII
spelling is reserved. -/
theorem httpKey_reserved_iff (mapping : FullUpcase) {name : String}
    (folded : ∀ char ∈ name.toList, IsFolded char) :
    (∃ reserved, isReservedName (toAsciiLowercase reserved) = true ∧
        httpKey mapping name = cgiKey reserved) ↔
      isReservedName (asciiName name) = true := by
  simp only [httpKey_eq_cgiKey_iff]
  constructor
  · rintro ⟨reserved, isReserved, same⟩
    rw [isReservedName_iff] at isReserved ⊢
    rcases isReserved with listed | ⟨head, isHead, opens⟩
    · left
      have spelled := (cgi_eq_listed_iff mapping folded
        (clientForwardingNames_chars _ listed)).mp same
      rwa [asciiName, spelled, String.ofList_toList]
    · right
      refine ⟨head, isHead, ?_⟩
      rw [asciiName, String.toList_ofList, ← prefix_cgi_iff_of_head mapping folded isHead, same]
      exact opens.map cgiChar
  · intro isReserved
    rw [isReservedName_iff] at isReserved
    rcases isReserved with listed | ⟨head, isHead, opens⟩
    · have lowered : toAsciiLowercase (asciiName name) = asciiName name := by
        apply String.toList_injective
        have plain := toAsciiLowercase_of_folded (spellAscii_folded folded) []
        simpa [asciiName] using plain
      refine ⟨asciiName name, ?_, ?_⟩
      · rw [lowered, isReservedName_iff]
        exact Or.inl listed
      · rw [lowered, cgi_eq_listed_iff mapping folded (clientForwardingNames_chars _ listed),
          asciiName, String.toList_ofList]
    · rw [asciiName, String.toList_ofList, ← prefix_cgi_iff_of_head mapping folded isHead] at opens
      obtain ⟨rest, split⟩ := opens
      have headFolded : ∀ char ∈ head.toList, IsFolded char :=
        fun char member => ((reservedHeads_chars head isHead).2 char member).2
      have lowered := toAsciiLowercase_of_folded headFolded rest
      -- The rest of the key is a CGI text already, so it can serve as the rest of the name.
      have restFixed : rest.map cgiChar = rest := by
        conv_rhs => rw [← List.map_id rest]
        apply List.map_congr_left
        intro char member
        apply mapping.cgiChar_cgi
        rw [← split]
        exact List.mem_append_right _ member
      refine ⟨String.ofList (head.toList ++ rest), ?_, ?_⟩
      · rw [isReservedName_iff, lowered]
        exact Or.inr ⟨head, isHead, List.prefix_append _ _⟩
      · have caseFolded : cgiChar ∘ Char.toLower = cgiChar := funext cgiChar_toLower
        rw [lowered, List.map_append, List.map_map, caseFolded, restFixed, split]

/-! ## Which headers the application sees -/

private theorem cgiKey_ne {text : String} (other : text.toList.take 5 ≠ "HTTP_".toList)
    (name : String) : cgiKey name ≠ text := by
  rintro rfl
  apply other
  simp [cgiKey]

/-- The headers whose values have keys of their own in the CGI interface. -/
private def contentNames : List String :=
  ["content-length", "content-type"]

private theorem cgiKey_mem_buildEnv_iff (mapping : FullUpcase) (options : WorkerOptions)
    (req : WorkerRequest) (name : String) :
    cgiKey name ∈ (buildEnv mapping options req).keys ↔
      ∃ header ∈ req.headers, header.1 ∉ contentNames ∧
        cgiKey name = httpKey mapping header.1 := by
  have fixedKeys : ∀ key ∈ ["REQUEST_METHOD", "SCRIPT_NAME", "PATH_INFO", "QUERY_STRING",
      "SERVER_NAME", "SERVER_PORT", "SERVER_PROTOCOL", "REMOTE_ADDR", "rack.url_scheme",
      "rack.input", "rack.errors", "rack.multithread", "rack.multiprocess", "rack.run_once"],
      key.toList.take 5 ≠ "HTTP_".toList := by
    decide +kernel
  have headerKey : ∀ header : String × String, cgiKey name = envKey mapping header.1 ↔
      header.1 ∉ contentNames ∧ cgiKey name = httpKey mapping header.1 := by
    intro header
    unfold envKey
    split
    · rename_i isLength
      simp only [isLength, contentNames, List.mem_cons, true_or, not_true_eq_false, false_and,
        iff_false]
      exact cgiKey_ne (by decide) name
    · split
      · rename_i isType
        simp only [isType, contentNames, List.mem_cons, true_or, or_true, not_true_eq_false,
          false_and, iff_false]
        exact cgiKey_ne (by decide) name
      · rename_i notLength notType
        rw [lookup_httpKeyTable]
        simp [contentNames, notLength, notType]
  unfold buildEnv
  rw [mem_keys_storeHeaders]
  simp only [headerKey]
  constructor
  · rintro (fixed | fromHeader)
    · exact absurd rfl (cgiKey_ne (fixedKeys _ fixed) name)
    · exact fromHeader
  · exact Or.inr

theorem underscore_mem_toAsciiLowercase (name : String) :
    '_' ∈ (toAsciiLowercase name).toList ↔ '_' ∈ name.toList := by
  have lowered : ∀ char : Char, char.toLower = '_' ↔ char = '_' := by
    intro char
    have code : '_'.toNat = 95 := rfl
    rw [← Char.toNat_inj, ← Char.toNat_inj, toLower_toNat, code]
    split_ifs <;> omega
  simp [toAsciiLowercase, lowered]

theorem appHeader_eq_some {header kept : String × String}
    (passes : appHeader header = some kept) :
    kept.1 = toAsciiLowercase header.1 ∧ '_' ∉ header.1.toList ∧
      isReservedName (toAsciiLowercase header.1) = false := by
  rw [← underscore_mem_toAsciiLowercase]
  unfold appHeader at passes
  simp only at passes
  split at passes
  · rename_i isHost
    obtain rfl := Option.some.inj passes
    rw [isHost]
    exact ⟨rfl, by decide, by decide +kernel⟩
  · split_ifs at passes with isConnection isForwarding isOxo
    unfold normalizeHeaderName at passes
    split at passes
    · cases passes
    · rename_i plain
      obtain rfl := Option.some.inj passes
      refine ⟨by simp, by simpa using plain, ?_⟩
      simp [isReservedName, isForwarding, isOxo]

private theorem appHeader_of_unreserved {header : String × String}
    (plain : '_' ∉ header.1.toList) (allowed : toAsciiLowercase header.1 ≠ "connection")
    (unreserved : isReservedName (toAsciiLowercase header.1) = false) :
    appHeader header = some (toAsciiLowercase header.1, header.2) := by
  rw [← underscore_mem_toAsciiLowercase] at plain
  simp only [isReservedName, Bool.or_eq_false_iff] at unreserved
  unfold appHeader
  simp only
  split
  · rename_i isHost
    rw [isHost]
  · simp [unreserved.1, unreserved.2, normalizeHeaderName, plain]

theorem lowercase_folded {name : String} (plain : '_' ∉ name.toList) :
    ∀ char ∈ (toAsciiLowercase name).toList, IsFolded char := by
  intro char member
  constructor
  · rw [← Bool.not_eq_true, isUpper_iff]
    simp only [toAsciiLowercase, String.toList_ofList, List.mem_map] at member
    obtain ⟨source, -, rfl⟩ := member
    rw [toLower_toNat]
    split_ifs <;> omega
  · rintro rfl
    exact plain ((underscore_mem_toAsciiLowercase name).mp member)

/-- The environment keeps every key of a reserved header out exactly when each frame header that
is reserved once its characters are spelled in ASCII is reserved as it stands (or is dropped for
an underscore). -/
theorem reserved_keys_kept_out_iff (mapping : FullUpcase) (options : WorkerOptions)
    (frame : RequestFrame) :
    KeepsReservedKeysOut mapping options frame ↔
      ∀ header ∈ frame.headers, '_' ∉ header.1.toList →
        isReservedName (asciiName (toAsciiLowercase header.1)) = true →
          isReservedName (toAsciiLowercase header.1) = true := by
  have ordinary : ∀ name ∈ "connection" :: contentNames,
      isReservedName (asciiName name) = false := by
    decide +kernel
  constructor
  · intro keptOut header member plain spelledReserved
    by_contra unreserved
    rw [Bool.not_eq_true] at unreserved
    have notOrdinary : toAsciiLowercase header.1 ∉ "connection" :: contentNames := by
      intro isOrdinary
      rw [ordinary _ isOrdinary] at spelledReserved
      cases spelledReserved
    rw [List.mem_cons, not_or] at notOrdinary
    have passes := appHeader_of_unreserved plain notOrdinary.1 unreserved
    obtain ⟨reserved, isReserved, sameKey⟩ :=
      (httpKey_reserved_iff mapping (lowercase_folded plain)).mpr spelledReserved
    refine keptOut (cgiKey reserved) ?_ reserved isReserved rfl
    rw [cgiKey_mem_buildEnv_iff]
    exact ⟨_, List.mem_filterMap.mpr ⟨header, member, passes⟩, notOrdinary.2, sameKey.symm⟩
  · intro spellings key inEnv reserved isReserved sameKey
    subst sameKey
    obtain ⟨kept, inRequest, -, fromHeader⟩ :=
      (cgiKey_mem_buildEnv_iff mapping options _ reserved).mp inEnv
    obtain ⟨header, member, passes⟩ := List.mem_filterMap.mp inRequest
    obtain ⟨keptName, plain, unreserved⟩ := appHeader_eq_some passes
    rw [keptName] at fromHeader
    have spelledReserved := (httpKey_reserved_iff mapping (lowercase_folded plain)).mp
      ⟨reserved, isReserved, fromHeader.symm⟩
    rw [spellings header member plain spelledReserved] at unreserved
    cases unreserved

/-- A frame whose one header is spelled with a dotless i. -/
def dotlessFrame : RequestFrame :=
  { method := "GET"
    path := "/"
    query := ""
    serverName := "a"
    serverPort := 80
    scheme := .http
    remoteAddr := "203.0.113.9"
    headers := [("cl\u0131ent-ip", "127.0.0.1")]
    body := [] }

/-- The worker decodes the frame and the application reads the client's header as `Client-IP`. -/
theorem dotless_client_ip_reaches_env :
    ((encodeRequest dotlessFrame).bind fun bytes =>
        decodeRequest (bytes.drop framePrefixLen) (frameCaps 1048576)) = .ok dotlessFrame ∧
      (buildEnv unicodeUpcase ⟨false, false⟩ (requestFrameToWorkerRequest dotlessFrame)).lookup
        "HTTP_CLIENT_IP" = some (.text "127.0.0.1") ∧
      ¬ KeepsReservedKeysOut unicodeUpcase ⟨false, false⟩ dotlessFrame := by
  refine ⟨by decide +kernel, by decide +kernel, ?_⟩
  intro keptOut
  exact keptOut "HTTP_CLIENT_IP" (by decide +kernel) "client-ip" (by decide +kernel)
    (by decide +kernel)

end Oxo.Worker
