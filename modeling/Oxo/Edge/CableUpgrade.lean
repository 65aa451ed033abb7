import Oxo.Edge.Sidecar

/-!
Contract: what an accepted Action Cable upgrade can still mean
(`validate_action_cable_request` in `oxo-pingora-edge/src/platform/worker_wire.rs`,
`upstream_request_filter` in `proxy.rs`).

Owns: the ways to read a header that occurs several times, the upgrades on which all of them
agree with what was checked, and the equivalence between these and the upgrades in which no
overwritten name occurs twice.

Does not own: the validator, the filter, or which origins match the edge.
-/

namespace Oxo.Edge

open Oxo.Foundation Oxo.Core

/-! ## Reading a repeated header -/

/-- How a reader takes a header that occurs several times. -/
inductive Occurrence where
  | first
  | last
  | joined

def Occurrence.read : Occurrence → List String → Option String
  | .first, values => values.head?
  | .last, values => values.getLast?
  | .joined, values => if values = [] then none else some (", ".intercalate values)

def valuesOf (headers : List LoweredHeader) (name : String) : List String :=
  (headers.filter fun header => header.lower == name).map LoweredHeader.value

def upstreamValuesOf (headers : List UpstreamHeader) (name : String) : List (List UInt8) :=
  (headers.filter fun header => header.lower == name).map UpstreamHeader.value

/-- The header occurs once, the check passes on its value, and every reader sees that value. -/
def SeenAsChecked (headers : List LoweredHeader) (name : String) (check : String → Bool) : Prop :=
  ∃ value, valuesOf headers name = [value] ∧ check value = true ∧
    ∀ occurrence : Occurrence, occurrence.read (valuesOf headers name) = some value

/-- The names of which a later value overwrites what was noted of an earlier one, with the check
each value is put to. -/
def overwrittenChecks (settings : ProxySettings) : List (String × (String → Bool)) :=
  [("origin", fun value =>
      originMatchesEdge value settings.urlScheme settings.serverName settings.serverPort),
    ("upgrade", fun value => eqIgnoreAsciiCase (trim value) "websocket"),
    ("sec-websocket-key", isValidWebsocketKey),
    ("sec-websocket-version", fun value => trim value == "13")]

/-- An upgrade that every reader takes as it was checked, at the edge and behind it. -/
structure UpgradeUnambiguous (settings : ProxySettings) (headers : List LoweredHeader) : Prop where
  host : SeenAsChecked headers "host" fun value => hostMatchesServerName value settings.serverName
  checked : ∀ entry ∈ overwrittenChecks settings, SeenAsChecked headers entry.1 entry.2
  unframed : ∀ header ∈ headers, header.lower ∉ cableRefusedNames
  forwarded : ∀ (toStr : List UInt8 → Option String) (session : Session) (bind : SocketAddr)
    (requestId : Option String), collectRequestHeaders toStr session = .ok headers →
      let upstream :=
        upstreamRequestFilter settings (.actionCable bind) requestId session.upstreamRequest
      upstreamValuesOf upstream "host" = [utf8 settings.publicUpstreamHost] ∧
        ∀ entry ∈ overwrittenChecks settings,
          (upstreamValuesOf upstream entry.1).map toStr = (valuesOf headers entry.1).map some

section

variable {headers : List LoweredHeader} {settings : ProxySettings}

/-! ## The scan -/

/-- What the scan notes, as a fold over the values of each name. -/
structure CableFacts (headers : List LoweredHeader) (before after : CableScan) : Prop where
  hostCount : after.hostCount = before.hostCount + (valuesOf headers "host").length
  hostValue : after.hostValue =
    (valuesOf headers "host").foldl (fun _ value => some value) before.hostValue
  upgradeWebsocket : after.upgradeWebsocket = (valuesOf headers "upgrade").foldl
    (fun _ value => eqIgnoreAsciiCase (trim value) "websocket") before.upgradeWebsocket
  websocketKey : after.websocketKey = (valuesOf headers "sec-websocket-key").foldl
    (fun _ value => isValidWebsocketKey value) before.websocketKey
  websocketVersion13 : after.websocketVersion13 = (valuesOf headers "sec-websocket-version").foldl
    (fun _ value => trim value == "13") before.websocketVersion13
  originValue : after.originValue =
    (valuesOf headers "origin").foldl (fun _ value => some value) before.originValue
  unframed : ∀ header ∈ headers, header.lower ∉ cableRefusedNames

private theorem valuesOf_cons (header : LoweredHeader) (headers : List LoweredHeader)
    {name : String} :
    valuesOf (header :: headers) name = valuesOf [header] name ++ valuesOf headers name := by
  unfold valuesOf
  rw [← List.map_append, ← List.filter_append, List.singleton_append]

/-- One header is noted under its own name only. -/
private theorem facts_of_note {scan noted : CableScan} {header : LoweredHeader}
    (note : scan.note header = .ok noted) : CableFacts [header] scan noted := by
  have single : ∀ name, valuesOf [header] name =
      if header.lower == name then [header.value] else [] := by
    intro name
    unfold valuesOf
    rw [List.filter_singleton]
    cases header.lower == name <;> rfl
  unfold CableScan.note at note
  simp only [beq_iff_eq] at note single
  by_cases refused : cableRefusedNames.contains header.lower = true
  · have listed : ∀ name ∈ cableRefusedNames, name ∉ ["host", "connection", "upgrade",
        "sec-websocket-key", "sec-websocket-version", "sec-websocket-protocol", "origin"] := by
      decide
    have other := listed header.lower (List.contains_iff_mem.mp refused)
    simp only [List.mem_cons, List.not_mem_nil, or_false, not_or] at other
    simp only [other, if_false, refused, if_true] at note
    cases note
  · have kept : ∀ member ∈ [header], member.lower ∉ cableRefusedNames := by
      intro member same
      rw [List.mem_singleton.mp same, ← List.contains_iff_mem]
      exact refused
    rw [if_neg refused] at note
    -- in each arm the name is known, and the other fields fold over no value
    repeat' split at note
    all_goals
      cases note
      refine ⟨?_, ?_, ?_, ?_, ?_, ?_, kept⟩
      all_goals rw [single]; simp only [*]; rfl

private theorem CableFacts.cons {header : LoweredHeader} {before between after : CableScan}
    (first : CableFacts [header] before between) (later : CableFacts headers between after) :
    CableFacts (header :: headers) before after := by
  refine ⟨?_, ?_, ?_, ?_, ?_, ?_, List.forall_mem_cons.mpr
    ⟨first.unframed header List.mem_cons_self, later.unframed⟩⟩
  · rw [later.hostCount, first.hostCount, valuesOf_cons header headers, List.length_append, Nat.add_assoc]
  · rw [later.hostValue, first.hostValue, valuesOf_cons header headers, List.foldl_append]
  · rw [later.upgradeWebsocket, first.upgradeWebsocket, valuesOf_cons header headers, List.foldl_append]
  · rw [later.websocketKey, first.websocketKey, valuesOf_cons header headers, List.foldl_append]
  · rw [later.websocketVersion13, first.websocketVersion13, valuesOf_cons header headers, List.foldl_append]
  · rw [later.originValue, first.originValue, valuesOf_cons header headers, List.foldl_append]

private theorem scanCableHeaders_facts {before after : CableScan}
    (scanned : scanCableHeaders headers before = .ok after) :
    CableFacts headers before after := by
  induction headers generalizing before with
  | nil =>
      cases scanned
      exact ⟨rfl, rfl, rfl, rfl, rfl, rfl, fun _ member => nomatch member⟩
  | cons header rest inductionHypothesis =>
      unfold scanCableHeaders at scanned
      rw [bind_eq_ok] at scanned
      obtain ⟨headerBytes, -, scanned⟩ := scanned
      rw [bind_eq_ok] at scanned
      obtain ⟨noted, note, scanned⟩ := scanned
      have first := facts_of_note note
      have sameStart : CableFacts [header] before noted :=
        ⟨first.hostCount, first.hostValue, first.upgradeWebsocket, first.websocketKey,
          first.websocketVersion13, first.originValue, first.unframed⟩
      exact sameStart.cons (inductionHypothesis scanned)

/-! ## Accepted upgrades -/

/-- The scan of an accepted upgrade. -/
private theorem scan_of_accepted {session : Session}
    (accepted : validateActionCableRequest session headers settings.publicServerName
      settings.urlScheme settings.serverName settings.serverPort = .ok ()) :
    ∃ scan host origin, CableFacts headers {} scan ∧ scan.hostCount = 1 ∧
      scan.hostValue = some host ∧ hostMatchesServerName host settings.serverName = true ∧
      scan.upgradeWebsocket = true ∧ scan.websocketKey = true ∧ scan.websocketVersion13 = true ∧
      scan.originValue = some origin ∧ originMatchesEdge origin settings.urlScheme
        settings.serverName settings.serverPort = true := by
  unfold validateActionCableRequest at accepted
  simp only [refuseIf_bind_eq_ok] at accepted
  obtain ⟨-, -, -, -, accepted⟩ := accepted
  rw [bind_eq_ok] at accepted
  obtain ⟨scan, scanned, accepted⟩ := accepted
  rw [refuseIf_bind_eq_ok] at accepted
  obtain ⟨oneHost, accepted⟩ := accepted
  split at accepted
  · cases accepted
  · rename_i host hosted
    simp only [refuseIf_bind_eq_ok] at accepted
    obtain ⟨-, named, flags, accepted⟩ := accepted
    split at accepted
    · cases accepted
    · rename_i origin originated
      rw [refuseIf_eq_ok] at accepted
      simp only [Bool.or_eq_false_iff, Bool.not_eq_false'] at flags named accepted
      obtain ⟨⟨⟨⟨-, upgrade⟩, key⟩, version⟩, -⟩ := flags
      exact ⟨scan, host, origin, scanCableHeaders_facts scanned, by simpa using oneHost, hosted,
        named, upgrade, key, version, originated, accepted⟩

/-! ## Forwarding -/

private theorem upstreamValuesOf_removeHeader (upstream : List UpstreamHeader)
    (name removed : String) :
    upstreamValuesOf (removeHeader upstream removed) name =
      if name = removed then [] else upstreamValuesOf upstream name := by
  unfold upstreamValuesOf removeHeader
  rw [List.filter_filter]
  split
  · rename_i same
    rw [List.filter_eq_nil_iff.mpr fun header _ => by simp [same], List.map_nil]
  · rename_i different
    congr 1
    refine List.filter_congr fun header _ => ?_
    by_cases named : header.lower = name
    · simp [named, different]
    · simp [named]

private theorem upstreamValuesOf_insertHeader (upstream : List UpstreamHeader)
    {name inserted value : String} (lower : toAsciiLowercase inserted = inserted) :
    upstreamValuesOf (insertHeader upstream inserted value) name =
      if name = inserted then [utf8 value] else upstreamValuesOf upstream name := by
  have added : upstreamValuesOf [⟨inserted, utf8 value, .edge⟩] name =
      if name = inserted then [utf8 value] else [] := by
    have named : (⟨inserted, utf8 value, .edge⟩ : UpstreamHeader).lower = inserted := lower
    unfold upstreamValuesOf
    rw [List.filter_singleton, named]
    by_cases same : name = inserted
    · rw [same, beq_self_eq_true, if_pos rfl]
      rfl
    · rw [beq_false_of_ne (Ne.symm same), if_neg same]
      rfl
  have joined : upstreamValuesOf (insertHeader upstream inserted value) name =
      upstreamValuesOf (removeHeader upstream inserted) name ++
        upstreamValuesOf [⟨inserted, utf8 value, .edge⟩] name := by
    unfold insertHeader upstreamValuesOf
    rw [List.filter_append, List.map_append]
  rw [joined, added, upstreamValuesOf_removeHeader]
  split
  · rfl
  · rw [List.append_nil]

private theorem upstreamValuesOf_removed {names : List String} {name : String}
    (absent : name ∉ names) (upstream : List UpstreamHeader) :
    upstreamValuesOf (names.foldl removeHeader upstream) name = upstreamValuesOf upstream name := by
  induction names generalizing upstream with
  | nil => rfl
  | cons other rest inductionHypothesis =>
      rw [List.mem_cons, not_or] at absent
      rw [List.foldl_cons, inductionHypothesis absent.2, upstreamValuesOf_removeHeader,
        if_neg absent.1]

private theorem upstreamValuesOf_inserted {entries : List (String × String)} {name : String}
    (lower : ∀ inserted ∈ entries.map Prod.fst, toAsciiLowercase inserted = inserted)
    (absent : name ∉ entries.map Prod.fst) (upstream : List UpstreamHeader) :
    upstreamValuesOf (entries.foldl
      (fun headers inserted => insertHeader headers inserted.1 inserted.2) upstream) name =
        upstreamValuesOf upstream name := by
  induction entries generalizing upstream with
  | nil => rfl
  | cons entry rest inductionHypothesis =>
      rw [List.map_cons, List.forall_mem_cons] at lower
      rw [List.map_cons, List.mem_cons, not_or] at absent
      rw [List.foldl_cons, inductionHypothesis lower.2 absent.2,
        upstreamValuesOf_insertHeader _ lower.1, if_neg absent.1]

/-- The names the filter sets, whether or not there is a request id. -/
private theorem inserted_names_listed (settings : ProxySettings) (requestId : Option String) :
    ∀ name ∈ (insertedUpstreamHeaders settings requestId).map Prod.fst,
      name ∈ ["host", "x-oxo-url-scheme", "x-oxo-server-name", "x-oxo-server-port",
        "x-oxo-request-id"] := by
  intro name member
  cases requestId with
  | none =>
      simp only [insertedUpstreamHeaders, Option.map_none, Option.toList_none, List.append_nil,
        List.map_cons, List.map_nil] at member
      exact List.mem_append_left ["x-oxo-request-id"] member
  | some value => exact member

private theorem inserted_names_lower (settings : ProxySettings) (requestId : Option String) :
    ∀ name ∈ (insertedUpstreamHeaders settings requestId).map Prod.fst,
      toAsciiLowercase name = name := by
  have listed : ∀ name ∈ ["host", "x-oxo-url-scheme", "x-oxo-server-name", "x-oxo-server-port",
      "x-oxo-request-id"], toAsciiLowercase name = name := by
    decide +kernel
  exact fun name member => listed name (inserted_names_listed settings requestId name member)

/-- The filter leaves a name alone that it neither removes nor sets. -/
private theorem upstreamValuesOf_filter {bind : SocketAddr} {requestId : Option String}
    {upstream : List UpstreamHeader} {name : String} (notStripped : name ∉ strippedUpstreamNames)
    (notInserted : name ∉ (insertedUpstreamHeaders settings requestId).map Prod.fst) :
    upstreamValuesOf (upstreamRequestFilter settings (.actionCable bind) requestId upstream) name =
      upstreamValuesOf upstream name := by
  have proxied : (EdgeRoute.actionCable bind).isSidecar = true := rfl
  unfold upstreamRequestFilter
  rw [if_pos proxied, upstreamValuesOf_inserted (inserted_names_lower settings requestId) notInserted,
    upstreamValuesOf_removed notStripped]

/-- The host it sets stands alone. -/
private theorem upstreamValuesOf_host {bind : SocketAddr} {requestId : Option String}
    {upstream : List UpstreamHeader} :
    upstreamValuesOf (upstreamRequestFilter settings (.actionCable bind) requestId upstream)
      "host" = [utf8 settings.publicUpstreamHost] := by
  have lower := inserted_names_lower settings requestId
  have rest : ∃ later, insertedUpstreamHeaders settings requestId =
      ("host", settings.publicUpstreamHost) :: later ∧ "host" ∉ later.map Prod.fst := by
    refine ⟨_, rfl, ?_⟩
    cases requestId <;> simp
  obtain ⟨later, entries, absent⟩ := rest
  rw [entries, List.map_cons, List.forall_mem_cons] at lower
  have proxied : (EdgeRoute.actionCable bind).isSidecar = true := rfl
  unfold upstreamRequestFilter
  rw [if_pos proxied, entries, List.foldl_cons, upstreamValuesOf_inserted lower.2 absent,
    upstreamValuesOf_insertHeader _ lower.1, if_pos rfl]

/-- The collected values of a name are the texts of the values the session has. -/
private theorem values_collected {toStr : List UInt8 → Option String} {session : Session}
    (collected : collectRequestHeaders toStr session = .ok headers) (name : String) :
    (upstreamValuesOf session.upstreamRequest name).map toStr =
      (valuesOf headers name).map some := by
  unfold collectRequestHeaders at collected
  unfold Session.upstreamRequest
  generalize session.headers = sent at collected
  induction sent generalizing headers with
  | nil =>
      cases collected
      rfl
  | cons header rest inductionHypothesis =>
      rw [List.mapM_cons, bind_eq_ok] at collected
      obtain ⟨first, converted, collected⟩ := collected
      rw [bind_eq_ok] at collected
      obtain ⟨later, restCollected, built⟩ := collected
      cases built
      split at converted
      · rename_i value read
        cases converted
        have tail := inductionHypothesis restCollected
        unfold upstreamValuesOf valuesOf at tail ⊢
        have sameName : (⟨header.1, header.2, .client⟩ : UpstreamHeader).lower =
            (LoweredHeader.new header.1 value).lower :=
          (LoweredHeader.lower_eq (LoweredHeader.new header.1 value)).symm
        rw [List.map_cons, List.filter_cons, List.filter_cons, sameName]
        split
        · rw [List.map_cons, List.map_cons, List.map_cons, List.map_cons, tail, read,
            LoweredHeader.new_value]
        · exact tail
      · cases converted

private theorem forwarded_checks {toStr : List UInt8 → Option String} {session : Session}
    (collected : collectRequestHeaders toStr session = .ok headers) (bind : SocketAddr)
    (requestId : Option String) :
    ∀ entry ∈ overwrittenChecks settings,
      (upstreamValuesOf (upstreamRequestFilter settings (.actionCable bind) requestId
        session.upstreamRequest) entry.1).map toStr = (valuesOf headers entry.1).map some := by
  have names : ∀ name ∈ ["origin", "upgrade", "sec-websocket-key", "sec-websocket-version"],
      name ∉ strippedUpstreamNames ∧ name ∉ ["host", "x-oxo-url-scheme", "x-oxo-server-name",
        "x-oxo-server-port", "x-oxo-request-id"] := by
    decide
  intro entry member
  have listed : entry.1 ∈ (overwrittenChecks settings).map Prod.fst :=
    List.mem_map.mpr ⟨entry, member, rfl⟩
  obtain ⟨notStripped, notListed⟩ := names entry.1 listed
  have notInserted := fun inserted =>
    notListed (inserted_names_listed settings requestId entry.1 inserted)
  rw [upstreamValuesOf_filter notStripped notInserted, values_collected collected]

/-! ## The repeated names -/

private theorem seen_of_single {name value : String} {check : String → Bool}
    (single : valuesOf headers name = [value]) (checked : check value = true) :
    SeenAsChecked headers name check := by
  refine ⟨value, single, checked, fun occurrence => ?_⟩
  rw [single]
  cases occurrence <;> rfl

/-- A flag that was overwritten by no second value was set by the only one. -/
private theorem seen_of_flag {name : String} {check : String → Bool}
    (few : (valuesOf headers name).length ≤ 1)
    (flag : (valuesOf headers name).foldl (fun _ value => check value) false = true) :
    SeenAsChecked headers name check := by
  cases values : valuesOf headers name with
  | nil =>
      rw [values] at flag
      cases flag
  | cons value rest =>
      rw [values, List.length_cons] at few
      have alone : rest = [] := List.eq_nil_of_length_eq_zero (by omega)
      rw [values, alone] at flag
      exact seen_of_single (by rw [values, alone]) flag

/-- So with the value noted last. -/
private theorem seen_of_noted {name noted : String} {check : String → Bool}
    (few : (valuesOf headers name).length ≤ 1)
    (last : (valuesOf headers name).foldl (fun _ value => some value) none = some noted)
    (checked : check noted = true) : SeenAsChecked headers name check := by
  refine seen_of_flag few ?_
  cases values : valuesOf headers name with
  | nil =>
      rw [values] at last
      cases last
  | cons value rest =>
      rw [values, List.length_cons] at few
      have alone : rest = [] := List.eq_nil_of_length_eq_zero (by omega)
      rw [values, alone] at last
      cases last
      rw [alone]
      exact checked

/-- Every reader takes an accepted upgrade as it was checked exactly when none of the overwritten
names occurs twice. -/
theorem accepted_upgrade_unambiguous_iff {session : Session}
    (accepted : validateActionCableRequest session headers settings.publicServerName
      settings.urlScheme settings.serverName settings.serverPort = .ok ()) :
    UpgradeUnambiguous settings headers ↔
      ∀ name ∈ ["origin", "upgrade", "sec-websocket-key", "sec-websocket-version"],
        (valuesOf headers name).length ≤ 1 := by
  obtain ⟨scan, host, origin, facts, oneHost, hosted, named, upgrade, key, version, originated,
    matched⟩ := scan_of_accepted accepted
  constructor
  · intro unambiguous name listed
    obtain ⟨entry, member, rfl⟩ := List.mem_map.mp
      (show name ∈ (overwrittenChecks settings).map Prod.fst from listed)
    obtain ⟨value, single, -⟩ := unambiguous.checked entry member
    rw [single]
    exact Nat.le_refl 1
  · intro few
    have hostCount := facts.hostCount
    rw [oneHost] at hostCount
    rw [facts.hostValue] at hosted
    rw [facts.upgradeWebsocket] at upgrade
    rw [facts.websocketKey] at key
    rw [facts.websocketVersion13] at version
    rw [facts.originValue] at originated
    simp only [List.forall_mem_cons] at few
    obtain ⟨fewOrigins, fewUpgrades, fewKeys, fewVersions, -⟩ := few
    have originSeen : SeenAsChecked headers "origin" fun value =>
        originMatchesEdge value settings.urlScheme settings.serverName settings.serverPort :=
      seen_of_noted fewOrigins originated matched
    have upgradeSeen : SeenAsChecked headers "upgrade" fun value =>
        eqIgnoreAsciiCase (trim value) "websocket" :=
      seen_of_flag fewUpgrades upgrade
    have keySeen : SeenAsChecked headers "sec-websocket-key" isValidWebsocketKey :=
      seen_of_flag fewKeys key
    have versionSeen : SeenAsChecked headers "sec-websocket-version" fun value =>
        trim value == "13" :=
      seen_of_flag fewVersions version
    have hostSeen : SeenAsChecked headers "host" fun value =>
        hostMatchesServerName value settings.serverName := by
      refine seen_of_noted ?_ hosted named
      change 1 = 0 + _ at hostCount
      omega
    refine ⟨hostSeen, ?_, facts.unframed,
      fun toStr session bind requestId collected =>
        ⟨upstreamValuesOf_host, forwarded_checks collected bind requestId⟩⟩
    simp only [overwrittenChecks, List.forall_mem_cons]
    exact ⟨originSeen, upgradeSeen, keySeen, versionSeen, fun _ member => nomatch member⟩

end

/-- An Action Cable upgrade with the given headers in front. -/
private def upgradeSession (extra : List (String × String)) : Session :=
  { cableSession [] with
    headers := (extra.map fun header => (header.1, utf8 header.2)) ++ (cableSession []).headers }

private def upgradeHeaders (extra : List (String × String)) : List LoweredHeader :=
  (extra ++ [("host", "app"), ("connection", "Upgrade"), ("upgrade", "websocket"),
    ("sec-websocket-key", "dGhlIHNhbXBsZSBub25jZQ=="), ("sec-websocket-version", "13"),
    ("sec-websocket-protocol", "actioncable-v1-json"), ("origin", "https://app")]).map
      fun header => LoweredHeader.new header.1 header.2

theorem plain_upgrade_unambiguous : UpgradeUnambiguous cableSettings (upgradeHeaders []) :=
  (@accepted_upgrade_unambiguous_iff _ cableSettings (upgradeSession [])
    (by decide +kernel)).mpr (by decide +kernel)

/-- Behind a foreign origin the edge's own passes the check, and the upstream finds the foreign
one first. -/
theorem foreign_origin_in_front_accepted :
    let session := upgradeSession [("origin", "https://evil")]
    let headers := upgradeHeaders [("origin", "https://evil")]
    collectRequestHeaders visibleText session = .ok headers ∧
      validateActionCableRequest session headers cableSettings.publicServerName
        cableSettings.urlScheme cableSettings.serverName cableSettings.serverPort = .ok () ∧
      originMatchesEdge "https://evil" "https" "app" 443 = false ∧
      (upstreamValuesOf (upstreamRequestFilter cableSettings (.actionCable ⟨[127, 0, 0, 1], 3001⟩)
        none session.upstreamRequest) "origin").head? = some (utf8 "https://evil") ∧
      ¬ UpgradeUnambiguous cableSettings headers := by
  intro session headers
  refine ⟨by decide +kernel, by decide +kernel, by decide +kernel, by decide +kernel,
    fun unambiguous => ?_⟩
  obtain ⟨value, single, -⟩ := unambiguous.checked _ List.mem_cons_self
  have two : (valuesOf headers "origin").length = 2 := by
    decide +kernel
  rw [single] at two
  exact absurd two (by simp)

end Oxo.Edge
