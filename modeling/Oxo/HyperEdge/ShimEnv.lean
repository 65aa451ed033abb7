import Oxo.HyperEdge.Shim

/-!
Contract: what stands in the environment of the TCP Rack worker.

Owns: the values of its keys, for headers whose names are distinct.

Does not own: how the headers are read.
-/

namespace Oxo.HyperEdge.Shim

open Oxo.Foundation

section

variable {α : Type} {keyOf : α → Bytes} {valueOf : α → EnvValue} {entries : List α}

private theorem lookup_foldl_absent {key : Bytes} (env : Env) (absent : key ∉ entries.map keyOf) :
    (entries.foldl (fun env entry => env.insert (keyOf entry) (valueOf entry)) env).lookup key =
      env.lookup key := by
  induction entries generalizing env with
  | nil => rfl
  | cons entry rest inductionHypothesis =>
      rw [List.map_cons, List.mem_cons, not_or] at absent
      rw [List.foldl_cons, inductionHypothesis _ absent.2, AList.lookup_insert_ne absent.1]

/-- Entries under distinct keys are found. -/
private theorem lookup_foldl_mem {entry : α} (env : Env) (distinct : (entries.map keyOf).Nodup)
    (member : entry ∈ entries) :
    (entries.foldl (fun env entry => env.insert (keyOf entry) (valueOf entry)) env).lookup
      (keyOf entry) = some (valueOf entry) := by
  induction entries generalizing env with
  | nil => cases member
  | cons first rest inductionHypothesis =>
      rw [List.map_cons, List.nodup_cons] at distinct
      rw [List.foldl_cons]
      rcases List.mem_cons.mp member with rfl | later
      · rw [lookup_foldl_absent _ distinct.1, AList.lookup_insert]
      · exact inductionHypothesis _ distinct.2 later

end

/-- Distinct names are looked up. -/
theorem lookup_of_mem {headers : Headers} {header : Bytes × Bytes}
    (distinct : (headers.map Prod.fst).Nodup) (member : header ∈ headers) :
    headers.lookup header.1 = some header.2 := by
  induction headers with
  | nil => cases member
  | cons first rest inductionHypothesis =>
      rw [List.map_cons, List.nodup_cons] at distinct
      rw [List.lookup_cons]
      rcases List.mem_cons.mp member with rfl | later
      · rw [beq_self_eq_true]
      · have differs : (header.1 == first.1) = false := by
          rw [beq_eq_false_iff_ne]
          intro same
          exact distinct.1 (same ▸ List.mem_map_of_mem later)
        rw [differs]
        exact inductionHypothesis distinct.2 later

/-! ## Header keys -/

/-- A name that its key can be told from. -/
def KeyName (name : Bytes) : Prop :=
  ∀ byte ∈ name, byteToAsciiLowercase byte = byte ∧ byte ≠ 95

theorem headerKey_injective {left right : Bytes} (leftName : KeyName left)
    (rightName : KeyName right) (same : headerKey left = headerKey right) : left = right := by
  -- Back from a byte of the key to the byte of the name.
  have inverse : ∀ byte : UInt8, byteToAsciiLowercase byte = byte ∧ byte ≠ 95 →
      byteToAsciiLowercase (if (if byteToAsciiUppercase byte == 45 then 95
        else byteToAsciiUppercase byte) == 95 then 45
          else if byteToAsciiUppercase byte == 45 then 95 else byteToAsciiUppercase byte) =
        byte := by
    decide +kernel
  have restored : ∀ {name : Bytes}, KeyName name →
      (dashToUnderscore (upcase name)).map (fun byte =>
        byteToAsciiLowercase (if byte == 95 then 45 else byte)) = name := by
    intro name isName
    rw [dashToUnderscore, upcase, List.map_map, List.map_map]
    exact (List.map_congr_left fun byte member => inverse byte (isName byte member)).trans
      (List.map_id _)
  have keys := List.append_cancel_left same
  rw [← restored leftName, keys, restored rightName]

/-! ## The environment of a request -/

section

variable {method target body : Bytes} {version : Option Bytes} {headers : Headers}

private theorem headers_foldl (env : Env) :
    headers.foldl setHeader env =
      (headers.filter fun header => !unprefixedNames.contains header.1).foldl
        (fun env header => env.insert (headerKey header.1) (.text header.2)) env := by
  rw [List.foldl_filter]
  congr 1
  funext env header
  rw [setHeader]
  cases unprefixedNames.contains header.1 <;> rfl

/-- The keys of the environment that no header can have. -/
private theorem headerKey_ne {key : String}
    (unlike : (utf8 "HTTP_").isPrefixOf (utf8 key) = false) (name : Bytes) :
    utf8 key ≠ headerKey name := by
  intro same
  have opens : utf8 "HTTP_" <+: utf8 key := same ▸ List.prefix_append ..
  rw [List.isPrefixOf_iff_prefix.mpr opens] at unlike
  cases unlike

private theorem buildEnv_lookup_unprefixed {key : String}
    (unlike : (utf8 "HTTP_").isPrefixOf (utf8 key) = false) :
    (buildEnv method target version headers body).lookup (utf8 key) =
      (setOptional (setOptional (baseEnv method target version headers body) "CONTENT_LENGTH"
        (headers.value "content-length")) "CONTENT_TYPE" (headers.value "content-type")).lookup
          (utf8 key) := by
  rw [buildEnv, headers_foldl, lookup_foldl_absent]
  intro member
  obtain ⟨header, _, same⟩ := List.mem_map.mp member
  exact headerKey_ne unlike header.1 same.symm

private theorem lookup_setOptional_ne {env : Env} {key other : String} {value : Option Bytes}
    (differs : key ≠ other) :
    (setOptional env other value).lookup (utf8 key) = env.lookup (utf8 key) := by
  cases value with
  | none => rfl
  | some bytes => exact AList.lookup_insert_ne fun same => differs (utf8_injective same)

private theorem lookup_entries {entries : List (String × EnvValue)} {key : String}
    {value : EnvValue} (distinct : (entries.map Prod.fst).Nodup) (member : (key, value) ∈ entries) :
    (entries.foldl (fun env entry => env.insert (utf8 entry.1) entry.2) (∅ : Env)).lookup
      (utf8 key) = some value := by
  have distinctBytes : (entries.map fun entry => utf8 entry.1).Nodup := by
    have mapped := List.Nodup.map (fun _ _ => utf8_injective) distinct
    rwa [List.map_map] at mapped
  exact lookup_foldl_mem ∅ distinctBytes member

/-- What the application is told of the request itself. -/
theorem buildEnv_request {path query : Bytes}
    (parts : (splitFirst 63 target).getD (target, []) = (path, query)) {key : String}
    {value : EnvValue}
    (member : (key, value) ∈ ([("REQUEST_METHOD", .text method), ("PATH_INFO", .text path),
      ("QUERY_STRING", .text query), ("rack.input", .input body)] : List (String × EnvValue))) :
    (buildEnv method target version headers body).lookup (utf8 key) = some value := by
  have keys : (utf8 "HTTP_").isPrefixOf (utf8 key) = false ∧ key ≠ "CONTENT_LENGTH" ∧
      key ≠ "CONTENT_TYPE" := by
    have all : ∀ known ∈ ["REQUEST_METHOD", "PATH_INFO", "QUERY_STRING", "rack.input"],
        (utf8 "HTTP_").isPrefixOf (utf8 known) = false ∧ known ≠ "CONTENT_LENGTH" ∧
          known ≠ "CONTENT_TYPE" := by
      decide
    exact all key (List.mem_map_of_mem (f := Prod.fst) member)
  rw [buildEnv_lookup_unprefixed keys.1, lookup_setOptional_ne keys.2.2,
    lookup_setOptional_ne keys.2.1, baseEnv, parts]
  refine lookup_entries ?_ ?_
  · simp only [List.map_cons, List.map_nil]
    decide
  · simp only [List.mem_cons, List.not_mem_nil, or_false] at member ⊢
    rcases member with same | same | same | same <;> simp only [same, true_or, or_true]

/-- The key of a header. -/
def envKey (name : Bytes) : Bytes :=
  if name = utf8 "content-type" then utf8 "CONTENT_TYPE" else headerKey name

theorem buildEnv_header {header : Bytes × Bytes} (names : ∀ header ∈ headers, KeyName header.1)
    (distinct : (headers.map Prod.fst).Nodup) (member : header ∈ headers)
    (prefixed : unprefixedNames.contains header.1 = false ∨ header.1 = utf8 "content-type") :
    (buildEnv method target version headers body).lookup (envKey header.1) =
      some (.text header.2) := by
  by_cases isType : header.1 = utf8 "content-type"
  · have found : headers.value "content-type" = some header.2 := by
      rw [Headers.value, ← isType]
      exact lookup_of_mem distinct member
    have unlike : (utf8 "HTTP_").isPrefixOf (utf8 "CONTENT_TYPE") = false := by decide
    rw [envKey, if_pos isType, buildEnv_lookup_unprefixed unlike, found, setOptional,
      AList.lookup_insert]
  · have kept : header ∈ headers.filter fun header => !unprefixedNames.contains header.1 := by
      rw [List.mem_filter, prefixed.resolve_right isType]
      exact ⟨member, rfl⟩
    have distinctKept : ((headers.filter fun header => !unprefixedNames.contains header.1).map
        fun header => headerKey header.1).Nodup := by
      have distinctNames := distinct.sublist ((List.filter_sublist
        (p := fun header => !unprefixedNames.contains header.1)).map Prod.fst)
      have mapped := List.Nodup.map_on (f := headerKey) (fun left leftMem right rightMem same => by
        obtain ⟨first, firstMem, rfl⟩ := List.mem_map.mp leftMem
        obtain ⟨second, secondMem, rfl⟩ := List.mem_map.mp rightMem
        exact headerKey_injective (names first (List.mem_of_mem_filter firstMem))
          (names second (List.mem_of_mem_filter secondMem)) same) distinctNames
      rwa [List.map_map] at mapped
    rw [envKey, if_neg isType, buildEnv, headers_foldl]
    exact lookup_foldl_mem _ distinctKept kept

end

end Oxo.HyperEdge.Shim
