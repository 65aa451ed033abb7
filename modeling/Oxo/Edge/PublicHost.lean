import Oxo.Edge.ClientRequest
import Oxo.Edge.ServerName

/-!
Contract: what the host gate lets through (`host_matches_server_name` in
`oxo-pingora-edge/src/platform/worker_wire.rs`).

Owns: the strings that name a server with an optional port, the spellings the gate looks at,
and when the two agree.

Does not own: where the presented string comes from.
-/

namespace Oxo.Edge

open Oxo.Foundation

/-! ## Naming a server -/

/-- A decimal port. -/
structure IsPort (text : String) : Prop where
  nonempty : text ≠ ""
  digits : ∀ char ∈ text.toList, char.isDigit = true
  bound : digitsValue 10 text.toList ≤ 65535

/-- Nothing, or a colon and a port. -/
def IsPortTail (tail : String) : Prop :=
  tail = "" ∨ ∃ port, tail = ":" ++ port ∧ IsPort port

/-- The server name, in brackets when it is an IPv6 literal, and a port if any. -/
def NamesServer (presented expected : String) : Prop :=
  ∃ name tail, eqIgnoreAsciiCase name expected = true ∧ IsPortTail tail ∧
    presented = (if IpAddr.isIpv6Literal expected then "[" ++ name ++ "]" else name) ++ tail

/-! ## The spellings the gate looks at -/

/-- The name alone or in front of a colon. -/
structure SpellsBare (host expected name tail : String) : Prop where
  named : eqIgnoreAsciiCase name expected = true
  noColon : ':' ∉ name.toList
  follows : tail = "" ∨ ∃ rest, tail = ":" ++ rest
  host : host = name ++ tail

/-- The name in brackets in front of anything. -/
structure SpellsBracketed (host expected name tail : String) : Prop where
  named : eqIgnoreAsciiCase name expected = true
  host : host = "[" ++ name ++ "]" ++ tail

/-- A bare spelling as the gate reads it: no bracket in front closes later. -/
structure NamedBare (text expected name tail : String) : Prop
    extends SpellsBare text expected name tail where
  opens : ∀ rest, text.toList = '[' :: rest → ']' ∉ rest

/-- A bracketed spelling as the gate reads it: up to the first closing bracket. -/
structure NamedBracketed (text expected name tail : String) : Prop
    extends SpellsBracketed text expected name tail where
  closes : ']' ∉ name.toList

/-- Where the presented string, its blanks trimmed, spells the name, a port or nothing follows,
there were no blanks, and brackets are around an IPv6 literal. -/
structure ProperlySpelled (presented expected : String) : Prop where
  bare : ∀ name tail, SpellsBare (trim presented) expected name tail →
    IsPortTail tail ∧ trim presented = presented
  bracketed : ∀ name tail, SpellsBracketed (trim presented) expected name tail →
    IpAddr.isIpv6Literal expected = true ∧ IsPortTail tail ∧ trim presented = presented

/-- A character of a host name: no colon, no bracket and no blank. -/
structure HostChar (char : Char) : Prop where
  notColon : char ≠ ':'
  notOpen : char ≠ '['
  notClose : char ≠ ']'
  notBlank : isWhitespace char = false

/-- An IPv6 literal or a host name. -/
def PlainName (expected : String) : Prop :=
  IpAddr.isIpv6Literal expected = true ∨ ∀ char ∈ expected.toList, HostChar char

/-- Public mode takes an FQDN for a server name, and an FQDN is plain. -/
theorem plainName_of_fqdn {expected : String} (fqdn : isSingleAsciiFqdn expected = true) :
    PlainName expected := by
  refine .inr fun char member => ?_
  by_cases dot : char = '.'
  · rw [dot]
    exact ⟨by decide, by decide, by decide, by decide⟩
  · obtain ⟨label, isLabel, inLabel⟩ := isSingleAsciiFqdn_label fqdn member dot
    have token := token_of_isDnsLabel isLabel
    have outside : ∀ other : Char, isTokenByte (UInt8.ofNat other.toNat) = false →
        char ≠ other := by
      intro other notToken same
      rw [same] at inLabel
      exact not_mem_token token (fun _ => notToken) inLabel
    exact ⟨outside ':' (by decide), outside '[' (by decide), outside ']' (by decide),
      isWhitespace_of_token token inLabel⟩

section

variable {presented expected name tail host : String}

/-- White space is no letter. -/
theorem not_letter_of_isWhitespace {char : Char} (blank : isWhitespace char = true) :
    ¬ (65 ≤ char.toNat ∧ char.toNat ≤ 90) ∧ ¬ (97 ≤ char.toNat ∧ char.toNat ≤ 122) := by
  simp only [isWhitespace, Bool.or_eq_true, Bool.and_eq_true, decide_eq_true_eq,
    beq_iff_eq] at blank
  omega

private theorem hostChar_of_ipv6 {char : Char} (isChar : IpAddr.Ipv6Char char)
    (notColon : char ≠ ':') : HostChar char := by
  have notDigit : ∀ other : Char, toDigit 16 other = none → other ≠ ':' → other ≠ '.' →
      char ≠ other := by
    intro other none notColon notDot same
    rw [same] at isChar
    rcases isChar with digit | colon | dot
    · rw [none] at digit
      cases digit
    · exact notColon colon
    · exact notDot dot
  refine ⟨notColon, notDigit '[' (by decide) (by decide) (by decide),
    notDigit ']' (by decide) (by decide) (by decide), ?_⟩
  by_contra blank
  rw [Bool.not_eq_false] at blank
  refine notDigit char ?_ notColon (fun dot => ?_) rfl
  · have letter := not_letter_of_isWhitespace blank
    have digit : ¬ (48 ≤ char.toNat ∧ char.toNat ≤ 57) := by
      simp only [isWhitespace, Bool.or_eq_true, Bool.and_eq_true, decide_eq_true_eq,
        beq_iff_eq] at blank
      omega
    simp only [toDigit, if_neg digit, if_neg letter.1, if_neg letter.2, Option.filter_none]
  · rw [dot] at blank
    exact absurd blank (by decide)

/-- A plain name, in any case, has no bracket and no blank. -/
theorem plain_chars (plain : PlainName expected)
    (named : eqIgnoreAsciiCase name expected = true) :
    '[' ∉ name.toList ∧ ']' ∉ name.toList ∧ ∀ char ∈ name.toList, isWhitespace char = false := by
  have hostChar : ∀ char ∈ expected.toList, char = ':' ∨ HostChar char := by
    intro char member
    rcases plain with literal | hostName
    · by_cases colon : char = ':'
      · exact .inl colon
      · exact .inr (hostChar_of_ipv6 ((IpAddr.isIpv6Literal_chars literal).2 char member) colon)
    · exact .inr (hostName char member)
  refine ⟨fun member => ?_, fun member => ?_, fun char member => ?_⟩
  · rcases hostChar _ (mem_of_eqIgnoreAsciiCase named (by decide) (by decide) member) with
      colon | isHost
    · exact absurd colon (by decide)
    · exact isHost.notOpen rfl
  · rcases hostChar _ (mem_of_eqIgnoreAsciiCase named (by decide) (by decide) member) with
      colon | isHost
    · exact absurd colon (by decide)
    · exact isHost.notClose rfl
  · by_contra blank
    rw [Bool.not_eq_false] at blank
    have letter := not_letter_of_isWhitespace blank
    rcases hostChar _ (mem_of_eqIgnoreAsciiCase named letter.1 letter.2 member) with
      colon | isHost
    · rw [colon] at blank
      exact absurd blank (by decide)
    · rw [isHost.notBlank] at blank
      cases blank

/-- Only an IPv6 literal has a colon in its name. -/
theorem colon_mem_iff (plain : PlainName expected)
    (named : eqIgnoreAsciiCase name expected = true) :
    ':' ∈ name.toList ↔ IpAddr.isIpv6Literal expected = true := by
  constructor
  · intro colon
    rcases plain with literal | hostName
    · exact literal
    · have inExpected := mem_of_eqIgnoreAsciiCase named (by decide) (by decide) colon
      exact absurd rfl (hostName ':' inExpected).notColon
  · intro literal
    have colon := (IpAddr.isIpv6Literal_chars literal).1
    have named' : eqIgnoreAsciiCase expected name = true := by
      rw [eqIgnoreAsciiCase, beq_iff_eq] at named ⊢
      exact named.symm
    exact mem_of_eqIgnoreAsciiCase named' (by decide) (by decide) colon

/-! ## What the gate accepts -/

/-- Without a bracket in front, the name ends at the first colon. -/
private theorem gate_unbracketed
    (unbracketed : ∀ rest, (trim presented).toList = '[' :: rest → ']' ∉ rest) :
    hostMatchesServerName presented expected =
      eqIgnoreAsciiCase (((splitOnce (trim presented) ':').map Prod.fst).getD (trim presented))
        expected := by
  simp only [hostMatchesServerName]
  split
  · rename_i inside after found
    split at found
    · rename_i rest opens
      have closed := (splitOnce_eq_some.mp found).1
      rw [String.toList_ofList] at closed
      exact absurd (by simp [closed]) (unbracketed rest opens)
    · cases found
  · rfl

private theorem gate_bracketed (absent : ']' ∉ name.toList)
    (bracketed : trim presented = "[" ++ name ++ "]" ++ tail) :
    hostMatchesServerName presented expected = eqIgnoreAsciiCase name expected := by
  have chars : (trim presented).toList = '[' :: (name.toList ++ ']' :: tail.toList) := by
    simp [bracketed]
  have inside : splitOnce (String.ofList (name.toList ++ ']' :: tail.toList)) ']' =
      some (name, tail) :=
    splitOnce_eq_some.mpr ⟨String.toList_ofList .., absent⟩
  simp only [hostMatchesServerName, chars, inside]

/-- The gate accepts the two spellings of the name, and nothing else. -/
theorem hostMatchesServerName_iff :
    hostMatchesServerName presented expected = true ↔
      (∃ name tail, NamedBare (trim presented) expected name tail) ∨
        ∃ name tail, NamedBracketed (trim presented) expected name tail := by
  constructor
  · intro accepted
    by_cases bracketed : ∃ rest, (trim presented).toList = '[' :: rest ∧ ']' ∈ rest
    · obtain ⟨rest, opens, closes⟩ := bracketed
      obtain ⟨⟨inside, after⟩, found⟩ :
          ∃ parts, splitOnce (String.ofList rest) ']' = some parts := by
        rw [← Option.ne_none_iff_exists']
        intro none
        rw [splitOnce_eq_none, String.toList_ofList] at none
        exact none closes
      obtain ⟨parts, absent⟩ := splitOnce_eq_some.mp found
      rw [String.toList_ofList] at parts
      have whole : trim presented = "[" ++ inside ++ "]" ++ after := by
        apply String.toList_inj.mp
        simp [opens, parts]
      rw [gate_bracketed absent whole] at accepted
      exact .inr ⟨inside, after, ⟨accepted, whole⟩, absent⟩
    · have unbracketed : ∀ rest, (trim presented).toList = '[' :: rest → ']' ∉ rest :=
        fun rest opens closes => bracketed ⟨rest, opens, closes⟩
      rw [gate_unbracketed unbracketed] at accepted
      cases found : splitOnce (trim presented) ':' with
      | none =>
          rw [found] at accepted
          exact .inl ⟨trim presented, "", ⟨accepted, splitOnce_eq_none.mp found, .inl rfl,
            String.append_empty.symm⟩, unbracketed⟩
      | some parts =>
          rw [found] at accepted
          obtain ⟨same, absent⟩ := splitOnce_eq_some.mp found
          refine .inl ⟨parts.1, ":" ++ parts.2, ⟨accepted, absent, .inr ⟨parts.2, rfl⟩, ?_⟩,
            unbracketed⟩
          apply String.toList_inj.mp
          simp [same]
  · rintro (⟨name, tail, named⟩ | ⟨name, tail, named⟩)
    · rw [gate_unbracketed named.opens]
      rcases named.follows with empty | ⟨port, colon⟩
      · have whole : trim presented = name := by rw [named.host, empty, String.append_empty]
        rw [whole, splitOnce_eq_none.mpr named.noColon]
        exact named.named
      · have found : splitOnce (trim presented) ':' = some (name, port) := by
          refine splitOnce_eq_some.mpr ⟨?_, named.noColon⟩
          rw [named.host, colon]
          simp
        rw [found]
        exact named.named
    · rw [gate_bracketed named.closes named.host]
      exact named.named

/-- What spells the name is accepted, whatever follows. -/
private theorem accepts_of_bare (plain : PlainName expected)
    (spells : SpellsBare (trim presented) expected name tail) :
    hostMatchesServerName presented expected = true := by
  obtain ⟨noOpen, _, _⟩ := plain_chars plain spells.named
  have chars : (trim presented).toList = name.toList ++ tail.toList := by simp [spells.host]
  have unbracketed : ∀ rest, (trim presented).toList ≠ '[' :: rest := by
    intro rest opens
    rw [chars] at opens
    cases named : name.toList with
    | cons first others =>
        rw [named, List.cons_append] at opens
        rw [named, (List.cons.inj opens).1] at noOpen
        exact noOpen List.mem_cons_self
    | nil =>
        rw [named, List.nil_append] at opens
        rcases spells.follows with empty | ⟨port, colon⟩
        · rw [empty] at opens
          cases opens
        · rw [colon] at opens
          simp at opens
  exact hostMatchesServerName_iff.mpr (.inl ⟨name, tail, spells, fun rest opens =>
    absurd opens (unbracketed rest)⟩)

private theorem accepts_of_bracketed (plain : PlainName expected)
    (spells : SpellsBracketed (trim presented) expected name tail) :
    hostMatchesServerName presented expected = true := by
  exact hostMatchesServerName_iff.mpr (.inr ⟨name, tail, spells, (plain_chars plain spells.named).2.1⟩)

/-- The gate accepts nothing else. -/
private theorem spells_of_accepts (accepted : hostMatchesServerName presented expected = true) :
    (∃ name tail, SpellsBare (trim presented) expected name tail) ∨
      ∃ name tail, SpellsBracketed (trim presented) expected name tail := by
  exact (hostMatchesServerName_iff.mp accepted).imp
    (fun ⟨name, tail, named⟩ => ⟨name, tail, named.toSpellsBare⟩)
    fun ⟨name, tail, named⟩ => ⟨name, tail, named.toSpellsBracketed⟩

/-! ## What names the server -/

/-- A port tail has no blank and no bracket. -/
theorem isPortTail_chars (port : IsPortTail tail) {char : Char}
    (member : char ∈ tail.toList) : isWhitespace char = false ∧ char ≠ '[' := by
  rcases port with empty | ⟨digits, colon, isPort⟩
  · rw [empty] at member
    cases member
  · rw [colon, String.toList_append, List.mem_append] at member
    rcases member with isColon | isDigit
    · rw [show char = ':' from List.mem_singleton.mp isColon]
      exact ⟨by decide, by decide⟩
    · have digit := isPort.digits char isDigit
      refine ⟨isWhitespace_of_isDigit digit, fun isOpen => ?_⟩
      rw [isOpen] at digit
      exact absurd digit (by decide)

/-- A string that names a plain server has no blank. -/
private theorem trim_of_names (plain : PlainName expected)
    (names : NamesServer presented expected) : trim presented = presented := by
  obtain ⟨name, tail, named, port, rfl⟩ := names
  have nameChars := (plain_chars plain named).2.2
  refine trimMatches_eq_self fun char member => ?_
  rw [String.toList_append, List.mem_append] at member
  rcases member with front | back
  · split at front
    · simp only [String.toList_append, List.mem_append] at front
      rcases front with (isOpen | inName) | isClose
      · rw [show char = '[' from List.mem_singleton.mp isOpen]
        decide
      · exact nameChars char inName
      · rw [show char = ']' from List.mem_singleton.mp isClose]
        decide
    · exact nameChars char front
  · exact (isPortTail_chars port back).1

/-- The same string has the same tail behind names of one length. -/
private theorem tail_unique {front other : String} {otherTail : String}
    (same : front ++ tail = other ++ otherTail)
    (lengths : front.toList.length = other.toList.length) : tail = otherTail := by
  have chars : front.toList ++ tail.toList = other.toList ++ otherTail.toList := by
    rw [← String.toList_append, ← String.toList_append, same]
  exact String.toList_inj.mp (List.append_inj chars lengths).2

private theorem proper_of_bare (plain : PlainName expected)
    (spells : SpellsBare (trim presented) expected name tail)
    (names : NamesServer presented expected) : IsPortTail tail ∧ trim presented = presented := by
  have trimmed := trim_of_names plain names
  obtain ⟨other, otherTail, named, port, whole⟩ := names
  have notLiteral : IpAddr.isIpv6Literal expected ≠ true :=
    fun literal => spells.noColon ((colon_mem_iff plain spells.named).mpr literal)
  rw [if_neg notLiteral] at whole
  have lengths : name.toList.length = other.toList.length := by
    rw [length_of_eqIgnoreAsciiCase spells.named, length_of_eqIgnoreAsciiCase named]
  have sameTail := tail_unique (spells.host.symm.trans (trimmed.trans whole)) lengths
  exact ⟨sameTail ▸ port, trimmed⟩

private theorem proper_of_bracketed (plain : PlainName expected)
    (spells : SpellsBracketed (trim presented) expected name tail)
    (names : NamesServer presented expected) :
    IpAddr.isIpv6Literal expected = true ∧ IsPortTail tail ∧ trim presented = presented := by
  have trimmed := trim_of_names plain names
  obtain ⟨other, otherTail, named, port, whole⟩ := names
  have same := spells.host.symm.trans (trimmed.trans whole)
  have lengths : name.toList.length = other.toList.length := by
    rw [length_of_eqIgnoreAsciiCase spells.named, length_of_eqIgnoreAsciiCase named]
  split at same
  · rename_i literal
    have sameTail := tail_unique same (by
      simp only [String.toList_append, List.length_append, lengths])
    exact ⟨literal, sameTail ▸ port, trimmed⟩
  · -- a plain name does not begin with a bracket, and neither does what follows it
    have opens : '[' ∈ (other ++ otherTail).toList := by
      rw [← same]
      simp
    rw [String.toList_append, List.mem_append] at opens
    rcases opens with inName | inTail
    · exact absurd inName (plain_chars plain named).1
    · exact absurd rfl (isPortTail_chars port inTail).2

private theorem names_of_bare (plain : PlainName expected)
    (spells : SpellsBare (trim presented) expected name tail) (port : IsPortTail tail)
    (trimmed : trim presented = presented) : NamesServer presented expected := by
  have notLiteral : IpAddr.isIpv6Literal expected ≠ true :=
    fun literal => spells.noColon ((colon_mem_iff plain spells.named).mpr literal)
  refine ⟨name, tail, spells.named, port, ?_⟩
  rw [if_neg notLiteral, ← spells.host, trimmed]

private theorem names_of_bracketed
    (spells : SpellsBracketed (trim presented) expected name tail)
    (literal : IpAddr.isIpv6Literal expected = true) (port : IsPortTail tail)
    (trimmed : trim presented = presented) : NamesServer presented expected := by
  refine ⟨name, tail, spells.named, port, ?_⟩
  rw [if_pos literal, ← spells.host, trimmed]

private theorem accepts_of_names (plain : PlainName expected)
    (names : NamesServer presented expected) :
    hostMatchesServerName presented expected = true := by
  have trimmed := trim_of_names plain names
  obtain ⟨name, tail, named, port, whole⟩ := names
  rw [← trimmed] at whole
  split at whole
  · exact accepts_of_bracketed plain ⟨named, whole⟩
  · rename_i notLiteral
    refine accepts_of_bare plain ⟨named, fun colon => ?_, ?_, whole⟩
    · exact notLiteral ((colon_mem_iff plain named).mp colon)
    · exact port.imp id fun ⟨digits, colon, _⟩ => ⟨digits, colon⟩

/-- The gate accepts what names the server, and nothing else, exactly for the strings that spell
the name properly wherever they spell it. -/
theorem host_gate_iff_properly_spelled (plain : PlainName expected) :
    (hostMatchesServerName presented expected = true ↔ NamesServer presented expected) ↔
      ProperlySpelled presented expected := by
  constructor
  · intro agrees
    exact
      { bare := fun name tail spells =>
          proper_of_bare plain spells (agrees.mp (accepts_of_bare plain spells))
        bracketed := fun name tail spells =>
          proper_of_bracketed plain spells (agrees.mp (accepts_of_bracketed plain spells)) }
  · intro proper
    refine ⟨fun accepted => ?_, accepts_of_names plain⟩
    rcases spells_of_accepts accepted with ⟨name, tail, spells⟩ | ⟨name, tail, spells⟩
    · obtain ⟨port, trimmed⟩ := proper.bare name tail spells
      exact names_of_bare plain spells port trimmed
    · obtain ⟨literal, port, trimmed⟩ := proper.bracketed name tail spells
      exact names_of_bracketed spells literal port trimmed

private theorem plainName_example : PlainName "app.example" :=
  plainName_of_fqdn (by decide +kernel)

/-- A name with a port is spelled properly. -/
theorem host_gate_iff_properly_spelled_port : ProperlySpelled "app.example:8443" "app.example" := by
  have port : IsPort "8443" := ⟨by decide, by decide, by decide⟩
  have named : eqIgnoreAsciiCase "app.example" "app.example" = true := by decide +kernel
  have names : NamesServer "app.example:8443" "app.example" := by
    refine ⟨"app.example", ":8443", named, .inr ⟨"8443", by decide, port⟩, ?_⟩
    decide +kernel
  have accepted : hostMatchesServerName "app.example:8443" "app.example" = true := by
    decide +kernel
  exact (host_gate_iff_properly_spelled plainName_example).mp (iff_of_true accepted names)

/-- Anything behind the colon passes the gate for the host and for the authority. -/
theorem host_with_a_word_for_a_port_accepted :
    hostMatchesServerName "app.example:evil" "app.example" = true ∧
      checkPublicHost "app.example" "app.example:evil" (some "app.example:evil") = .ok () ∧
      ¬ NamesServer "app.example:evil" "app.example" := by
  refine ⟨by decide +kernel, by decide +kernel, fun names => ?_⟩
  have spells : SpellsBare (trim "app.example:evil") "app.example" "app.example" ":evil" :=
    ⟨by decide +kernel, by decide, .inr ⟨"evil", by decide⟩, by decide +kernel⟩
  obtain ⟨port, _⟩ := proper_of_bare plainName_example spells names
  have letter : 'e' ∈ ":evil".toList := by decide
  rcases port with empty | ⟨digits, colon, isPort⟩
  · exact absurd empty (by decide)
  · have inDigits : 'e' ∈ digits.toList := by
      rw [colon, String.toList_append, List.mem_append] at letter
      exact letter.resolve_left (by decide)
    exact absurd (isPort.digits 'e' inDigits) (by decide)

end

end Oxo.Edge
