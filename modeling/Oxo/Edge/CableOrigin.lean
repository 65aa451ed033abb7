import Oxo.Edge.PublicHost
import Oxo.Edge.Sidecar
import Oxo.Foundation.Splitting

/-!
Contract: which origins the Action Cable check lets through (`origin_matches_edge` in
`oxo-pingora-edge/src/platform/worker_wire.rs`).

Owns: the edge's own origin, how the check reads the port of an origin, and when what it lets
through is the edge's own origin.

Does not own: which of several `Origin` headers is checked.
-/

namespace Oxo.Edge

open Oxo.Foundation

/-! ## The edge's own origin -/

/-- The two listener modes of the source, and the schemes they serve. -/
inductive ListenerMode where
  | plain
  | tls
deriving DecidableEq

def ListenerMode.urlScheme : ListenerMode → String
  | .plain => "http"
  | .tls => "https"

def ListenerMode.defaultPort : ListenerMode → UInt16
  | .plain => 80
  | .tls => 443

/-- The port a tail states is the server's: its digits, or nothing for the scheme's default. -/
def StatesPort (listener : ListenerMode) (serverPort : UInt16) (tail : String) : Prop :=
  (tail = "" ∧ serverPort = listener.defaultPort) ∨
    ∃ port, tail = ":" ++ port ∧ IsPort port ∧ digitsValue 10 port.toList = serverPort.toNat

/-- A name as it stands in a URL: an IPv6 literal is in brackets. -/
def urlHost (serverName name : String) : String :=
  if IpAddr.isIpv6Literal serverName then "[" ++ name ++ "]" else name

/-- The edge's scheme and server name, in any case, and its port. -/
structure OwnParts (listener : ListenerMode) (serverName : String) (serverPort : UInt16)
    (origin scheme name tail : String) : Prop where
  sameScheme : eqIgnoreAsciiCase scheme listener.urlScheme = true
  sameName : eqIgnoreAsciiCase name serverName = true
  port : StatesPort listener serverPort tail
  whole : origin = scheme ++ "://" ++ urlHost serverName name ++ tail

def IsOwnOrigin (listener : ListenerMode) (serverName : String) (serverPort : UInt16)
    (origin : String) : Prop :=
  ∃ scheme name tail, OwnParts listener serverName serverPort origin scheme name tail

/-! ## What the check reads -/

/-- The port behind the last colon is the server's. With no colon, or with a closing bracket in
front of the last one, the scheme's default stands for it. -/
def LastPort (listener : ListenerMode) (serverPort : UInt16) (written : String) : Prop :=
  (':' ∉ written.toList ∧ serverPort = listener.defaultPort) ∨
    ∃ before port, written = before ++ ":" ++ port ∧ ':' ∉ port.toList ∧
      if before.toList.getLast? = some ']' then serverPort = listener.defaultPort
      else WritesNumber port serverPort.toNat

/-- The origin without its outer blanks is the scheme and what is written behind it, with the
server's port and no slash. -/
structure Offers (listener : ListenerMode) (serverPort : UInt16) (origin scheme written : String) :
    Prop where
  whole : trim origin = scheme ++ "://" ++ written
  sameScheme : eqIgnoreAsciiCase scheme listener.urlScheme = true
  noSlash : '/' ∉ written.toList
  port : LastPort listener serverPort written

/-- The check can read an own origin. An IPv6 literal must state the scheme's default port; any
other name must have no slash, no colon, no outer blanks and no brackets around its front, and
with a bracket at its end it must not state another port than the default. -/
structure Readable (listener : ListenerMode) (serverName : String) (serverPort : UInt16)
    (name tail : String) : Prop where
  literal : IpAddr.isIpv6Literal serverName = true → tail ≠ "" ∧ serverPort = listener.defaultPort
  plain : IpAddr.isIpv6Literal serverName = false → '/' ∉ name.toList ∧ ':' ∉ name.toList ∧
    trim (name ++ tail) = name ++ tail ∧ (∀ rest, name.toList = '[' :: rest → ']' ∉ rest) ∧
    (name.toList.getLast? = some ']' → tail = "" ∨ serverPort = listener.defaultPort)

/-- Where the check finds the scheme and the name of the edge, brackets are around an IPv6 literal
and around nothing else, what follows the name states the port of the edge, and there are no
blanks; and where the origin is the edge's own, the check can read it. -/
structure WellRead (listener : ListenerMode) (serverName : String) (serverPort : UInt16)
    (origin : String) : Prop where
  bare : ∀ scheme written name tail, Offers listener serverPort origin scheme written →
    NamedBare (trim written) serverName name tail →
      IpAddr.isIpv6Literal serverName = false ∧ StatesPort listener serverPort tail ∧
        trim written = written ∧ trim origin = origin
  bracketed : ∀ scheme written name tail, Offers listener serverPort origin scheme written →
    NamedBracketed (trim written) serverName name tail →
      IpAddr.isIpv6Literal serverName = true ∧ StatesPort listener serverPort tail ∧
        trim written = written ∧ trim origin = origin
  own : ∀ scheme name tail, OwnParts listener serverName serverPort origin scheme name tail →
    Readable listener serverName serverPort name tail

section

variable {listener : ListenerMode} {serverName origin scheme written name tail : String}
  {serverPort : UInt16}

/-! ## The check -/

private theorem defaultPort_eq :
    ((listener.urlScheme == "http" && serverPort == 80) ||
      (listener.urlScheme == "https" && serverPort == 443)) =
        decide (serverPort = listener.defaultPort) := by
  rw [Bool.eq_iff_iff, decide_eq_true_eq]
  cases listener <;> simp [ListenerMode.urlScheme, ListenerMode.defaultPort]

/-- A scheme of the edge in any case: letters. -/
private theorem scheme_chars (same : eqIgnoreAsciiCase scheme listener.urlScheme = true) :
    ∀ char ∈ scheme.toList, isWhitespace char = false ∧ char ≠ ':' := by
  have letters : ∀ char ∈ listener.urlScheme.toList, isWhitespace char = false ∧ char ≠ ':' := by
    cases listener <;> decide
  intro char member
  refine ⟨?_, fun colon => ?_⟩
  · by_contra blank
    rw [Bool.not_eq_false] at blank
    have letter := not_letter_of_isWhitespace blank
    rw [(letters char (mem_of_eqIgnoreAsciiCase same letter.1 letter.2 member)).1] at blank
    cases blank
  · rw [colon] at member
    exact (letters ':' (mem_of_eqIgnoreAsciiCase same (by decide) (by decide) member)).2 rfl

private theorem scheme_nonempty (same : eqIgnoreAsciiCase scheme listener.urlScheme = true) :
    ∃ first rest, scheme.toList = first :: rest := by
  have length := length_of_eqIgnoreAsciiCase same
  cases chars : scheme.toList with
  | nil =>
      rw [chars] at length
      cases listener <;> exact absurd length (by decide)
  | cons first rest => exact ⟨first, rest, rfl⟩

/-- The text in front of the last colon, where what follows has none. -/
private theorem lastPort_of_parts {before port : String} (same : written = before ++ ":" ++ port)
    (noColon : ':' ∉ port.toList) :
    LastPort listener serverPort written ↔
      if before.toList.getLast? = some ']' then serverPort = listener.defaultPort
      else WritesNumber port serverPort.toNat := by
  have spelled : written.toList = before.toList ++ ':' :: port.toList := by
    rw [same]
    simp
  constructor
  · rintro (⟨absent, -⟩ | ⟨other, otherPort, otherSame, otherAbsent, holds⟩)
    · exact absurd (by rw [spelled]; simp) absent
    · have first := rsplitOnce_eq_some.mpr ⟨spelled, noColon⟩
      have second : rsplitOnce written ':' = some (other, otherPort) :=
        rsplitOnce_eq_some.mpr ⟨by rw [otherSame]; simp, otherAbsent⟩
      rw [first] at second
      cases second
      exact holds
  · intro holds
    exact .inr ⟨before, port, same, noColon, holds⟩

/-- The port arm of the check. -/
private theorem lastPort_iff :
    (match rsplitOnce written ':' with
      | some (host, port) =>
          if host.toList.getLast? != some ']' then
            parseUnsigned (2 ^ 16) port == some serverPort.toNat
          else decide (serverPort = listener.defaultPort)
      | none => decide (serverPort = listener.defaultPort)) = true ↔
      LastPort listener serverPort written := by
  cases found : rsplitOnce written ':' with
  | none =>
      have noColon := rsplitOnce_eq_none.mp found
      simp only [decide_eq_true_eq]
      constructor
      · intro default
        exact .inl ⟨noColon, default⟩
      · rintro (⟨-, default⟩ | ⟨before, port, same, -⟩)
        · exact default
        · exact absurd (by rw [same]; simp) noColon
  | some parts =>
      obtain ⟨before, port⟩ := parts
      obtain ⟨same, absent⟩ := rsplitOnce_eq_some.mp found
      have below : serverPort.toNat < 2 ^ 16 := serverPort.toNat_lt
      have spelled : written = before ++ ":" ++ port := by
        apply String.toList_inj.mp
        rw [same]
        simp
      have read : (if before.toList.getLast? != some ']' then
            parseUnsigned (2 ^ 16) port == some serverPort.toNat
          else decide (serverPort = listener.defaultPort)) = true ↔
          if before.toList.getLast? = some ']' then serverPort = listener.defaultPort
          else WritesNumber port serverPort.toNat := by
        by_cases closed : before.toList.getLast? = some ']'
        · simp [closed]
        · simp only [bne_iff_ne, ne_eq, closed, not_false_eq_true, if_true, if_false, beq_iff_eq,
            parseUnsigned_eq_some, below, and_true]
      simp only
      rw [read, lastPort_of_parts spelled absent]

theorem originMatchesEdge_iff :
    originMatchesEdge origin listener.urlScheme serverName serverPort = true ↔
      ∃ scheme written, Offers listener serverPort origin scheme written ∧
        hostMatchesServerName written serverName = true := by
  unfold originMatchesEdge
  simp only [defaultPort_eq]
  constructor
  · intro accepted
    split at accepted
    · cases accepted
    · rename_i scheme written found
      split at accepted
      · cases accepted
      · rename_i spelled
        rw [Bool.or_eq_true, not_or, Bool.not_eq_true', Bool.not_eq_false,
          List.contains_iff_mem] at spelled
        split at accepted
        · cases accepted
        · rename_i named
          refine ⟨scheme, written, ⟨eq_of_splitOnceText found, spelled.1, spelled.2,
            lastPort_iff.mp accepted⟩, by simpa using named⟩
  · rintro ⟨scheme, written, offers, named⟩
    have noColon : ':' ∉ scheme.toList :=
      fun member => (scheme_chars offers.sameScheme ':' member).2 rfl
    have found : splitOnceText (trim origin) "://" = some (scheme, written) := by
      have split := @splitOnceAt_first ':' ['/', '/'] scheme.toList written.toList noColon
      unfold splitOnceText
      rw [offers.whole, String.toList_append, String.toList_append,
        show "://".toList = ':' :: ['/', '/'] from by decide, split]
      simp
    rw [found]
    simp only [offers.sameScheme, named, Bool.not_true, Bool.false_or, if_false,
      Bool.false_eq_true]
    rw [if_neg (by simpa using offers.noSlash)]
    exact lastPort_iff.mpr offers.port

/-! ## One way to read an origin -/

private theorem isPortTail_of_statesPort (port : StatesPort listener serverPort tail) :
    IsPortTail tail := by
  rcases port with ⟨empty, -⟩ | ⟨digits, colon, isPort, -⟩
  · exact .inl empty
  · exact .inr ⟨digits, colon, isPort⟩

/-- Blanks in front of a list that begins with none are none. -/
private theorem no_blanks {front rest kept : List Char} {inClass : Char → Bool}
    (same : rest = front ++ kept) (blank : ∀ char ∈ front, inClass char = true)
    (opens : ∀ char ∈ rest.head?, inClass char = false) : front = [] := by
  cases front with
  | nil => rfl
  | cons first others =>
      have notBlank := opens first (by rw [same]; rfl)
      rw [blank first List.mem_cons_self] at notBlank
      cases notBlank

/-- Of an own origin the check reads the own scheme, and behind it the own name and tail up to
blanks. -/
private theorem offered_of_own (offers : Offers listener serverPort origin scheme written)
    {ownScheme : String}
    (own : OwnParts listener serverName serverPort origin ownScheme name tail) :
    ownScheme = scheme ∧ ∃ front back,
      (urlHost serverName name ++ tail).toList = front ++ (trim written).toList ++ back ∧
      (∀ char ∈ front, isWhitespace char = true) ∧ ∀ char ∈ back, isWhitespace char = true := by
  obtain ⟨front, back, parts, frontBlank, backBlank, -⟩ := trimMatches_parts isWhitespace origin
  obtain ⟨lead, trail, inner, leadBlank, trailBlank, -⟩ := trimMatches_parts isWhitespace written
  obtain ⟨first, rest, opens⟩ := scheme_nonempty own.sameScheme
  have letters := scheme_chars own.sameScheme
  have whole : origin.toList = ownScheme.toList ++ ("://".toList ++
      (urlHost serverName name ++ tail).toList) := by
    rw [own.whole]
    simp
  have noFront : front = [] := by
    rw [List.append_assoc] at parts
    refine no_blanks parts frontBlank fun char head => ?_
    rw [whole, opens] at head
    cases head
    exact (letters first (by rw [opens]; exact List.mem_cons_self)).1
  have lengths : ownScheme.toList.length = scheme.toList.length := by
    rw [length_of_eqIgnoreAsciiCase own.sameScheme, length_of_eqIgnoreAsciiCase offers.sameScheme]
  have chars : ownScheme.toList ++ ("://".toList ++ (urlHost serverName name ++ tail).toList) =
      scheme.toList ++ ("://".toList ++ (written.toList ++ back)) := by
    have trimmed : (trimMatches isWhitespace origin).toList =
        scheme.toList ++ "://".toList ++ written.toList := by
      rw [show trimMatches isWhitespace origin = trim origin from rfl, offers.whole]
      simp
    rw [← whole, parts, noFront, trimmed]
    simp
  obtain ⟨sameScheme, behind⟩ := List.append_inj chars lengths
  refine ⟨String.toList_inj.mp sameScheme, lead, trail ++ back, ?_, leadBlank, ?_⟩
  · rw [List.append_cancel_left behind, inner]
    simp [trim]
  · intro char member
    exact (List.mem_append.mp member).elim (trailBlank char) (backBlank char)

/-- The head of what the check reads is no blank. -/
private theorem trimmed_opens (written : String) :
    ∀ char ∈ (trim written).toList.head?, isWhitespace char = false := by
  obtain ⟨-, -, -, -, -, opens⟩ := trimMatches_parts isWhitespace written
  exact opens

/-- The blanks behind a port tail are none. -/
private theorem no_trailing {ownTail : String} {back : List Char}
    (port : StatesPort listener serverPort ownTail)
    (same : ownTail.toList = tail.toList ++ back)
    (blank : ∀ char ∈ back, isWhitespace char = true) : ownTail = tail := by
  have none : back = [] := by
    refine List.eq_nil_iff_forall_not_mem.mpr fun char member => ?_
    have inTail : char ∈ ownTail.toList := by
      rw [same]
      exact List.mem_append_right _ member
    have notBlank := (isPortTail_chars (isPortTail_of_statesPort port) inTail).1
    rw [blank char member] at notBlank
    cases notBlank
  rw [none, List.append_nil] at same
  exact String.toList_inj.mp same

private theorem own_of_bare (offers : Offers listener serverPort origin scheme written)
    (named : NamedBare (trim written) serverName name tail) {ownScheme ownName ownTail : String}
    (own : OwnParts listener serverName serverPort origin ownScheme ownName ownTail) :
    IpAddr.isIpv6Literal serverName = false ∧ ownScheme = scheme ∧ ownName = name ∧
      ownTail = tail := by
  have bothNames : eqIgnoreAsciiCase ownName name = true :=
    eqIgnoreAsciiCase_trans own.sameName (eqIgnoreAsciiCase_symm named.named)
  have notLiteral : IpAddr.isIpv6Literal serverName = false := by
    by_contra literal
    rw [Bool.not_eq_false] at literal
    exact named.noColon (mem_of_eqIgnoreAsciiCase (eqIgnoreAsciiCase_symm named.named) (by decide)
      (by decide) (IpAddr.isIpv6Literal_chars literal).1)
  obtain ⟨sameScheme, front, back, chars, frontBlank, backBlank⟩ := offered_of_own offers own
  rw [urlHost, if_neg (Bool.eq_false_iff.mp notLiteral), named.host, String.toList_append,
    String.toList_append] at chars
  have noFront : front = [] := by
    rw [List.append_assoc] at chars
    refine no_blanks chars frontBlank fun char head => ?_
    by_contra blank
    rw [Bool.not_eq_false] at blank
    cases first : ownName.toList with
    | nil =>
        rw [first] at head
        have inTail := (isPortTail_chars (isPortTail_of_statesPort own.port)
          (List.mem_of_mem_head? head)).1
        rw [blank] at inTail
        cases inTail
    | cons other others =>
        rw [first] at head
        have opensOwn : char ∈ ownName.toList.head? := by
          rw [first]
          exact head
        have letter := not_letter_of_isWhitespace blank
        have opensName := head_of_eqIgnoreAsciiCase bothNames letter.1 letter.2 opensOwn
        have opensWritten := trimmed_opens written char (by
          rw [named.host, String.toList_append, List.head?_append, Option.mem_def.mp opensName]
          rfl)
        rw [blank] at opensWritten
        cases opensWritten
  rw [noFront, List.nil_append, List.append_assoc] at chars
  obtain ⟨sameName, behind⟩ := List.append_inj chars (length_of_eqIgnoreAsciiCase bothNames)
  exact ⟨notLiteral, sameScheme, String.toList_inj.mp sameName,
    no_trailing own.port behind backBlank⟩

private theorem own_of_bracketed (offers : Offers listener serverPort origin scheme written)
    (named : NamedBracketed (trim written) serverName name tail)
    {ownScheme ownName ownTail : String}
    (own : OwnParts listener serverName serverPort origin ownScheme ownName ownTail) :
    IpAddr.isIpv6Literal serverName = true ∧ ownScheme = scheme ∧ ownName = name ∧
      ownTail = tail := by
  have bothNames : eqIgnoreAsciiCase ownName name = true :=
    eqIgnoreAsciiCase_trans own.sameName (eqIgnoreAsciiCase_symm named.named)
  obtain ⟨sameScheme, front, back, chars, frontBlank, backBlank⟩ := offered_of_own offers own
  rw [named.host] at chars
  have literal : IpAddr.isIpv6Literal serverName = true := by
    -- an own origin without brackets has no bracket but those of the name
    by_contra notLiteral
    rw [urlHost, if_neg notLiteral] at chars
    have noBracket : ownTail.toList.count '[' = 0 := by
      rw [List.count_eq_zero]
      intro member
      exact (isPortTail_chars (isPortTail_of_statesPort own.port) member).2 rfl
    have counts := congrArg (List.count '[') chars
    have sameCount := @count_of_eqIgnoreAsciiCase _ _ '[' bothNames (by decide) (by decide)
    simp only [String.toList_append, List.count_append, noBracket, sameCount] at counts
    have opening : "[".toList.count '[' = 1 := by decide
    omega
  rw [urlHost, if_pos literal] at chars
  have noFront : front = [] := by
    rw [List.append_assoc] at chars
    refine no_blanks chars frontBlank fun char head => ?_
    have isOpen : char = '[' := by
      simpa [eq_comm] using head
    rw [isOpen]
    decide
  have regrouped : ("[" ++ ownName ++ "]").toList ++ ownTail.toList =
      ("[" ++ name ++ "]").toList ++ (tail.toList ++ back) := by
    rw [noFront] at chars
    simpa using chars
  have lengths : ("[" ++ ownName ++ "]").toList.length = ("[" ++ name ++ "]").toList.length := by
    simp only [String.toList_append, List.length_append, length_of_eqIgnoreAsciiCase bothNames]
  obtain ⟨sameHost, behind⟩ := List.append_inj regrouped lengths
  refine ⟨literal, sameScheme, ?_, no_trailing own.port behind backBlank⟩
  apply String.toList_inj.mp
  simpa using sameHost

/-- An own origin that the check reads whole has no blanks. -/
private theorem no_blanks_of_own (offers : Offers listener serverPort origin scheme written)
    (own : OwnParts listener serverName serverPort origin scheme name tail)
    (whole : trim written = urlHost serverName name ++ tail) :
    trim written = written ∧ trim origin = origin := by
  obtain ⟨front, back, parts, -, -, -⟩ := trimMatches_parts isWhitespace origin
  obtain ⟨lead, trail, inner, -, -, -⟩ := trimMatches_parts isWhitespace written
  have originLength := congrArg List.length parts
  have writtenLength := congrArg List.length inner
  have ownLength := congrArg (fun text => text.toList.length) own.whole
  have offeredLength := congrArg (fun text => text.toList.length) offers.whole
  have wholeLength := congrArg (fun text => text.toList.length) whole
  simp only [String.toList_append, List.length_append] at *
  change _ = front.length + (trim origin).toList.length + back.length at originLength
  change _ = lead.length + (trim written).toList.length + trail.length at writtenLength
  have noLead : lead = [] := List.eq_nil_of_length_eq_zero (by omega)
  have noTrail : trail = [] := List.eq_nil_of_length_eq_zero (by omega)
  have noFront : front = [] := List.eq_nil_of_length_eq_zero (by omega)
  have noBack : back = [] := List.eq_nil_of_length_eq_zero (by omega)
  rw [noLead, noTrail, List.nil_append, List.append_nil] at inner
  rw [noFront, noBack, List.nil_append, List.append_nil] at parts
  exact ⟨(String.toList_inj.mp inner).symm, (String.toList_inj.mp parts).symm⟩

/-! ## What the check accepts and what is its own -/

private theorem bare_of_agrees (offers : Offers listener serverPort origin scheme written)
    (named : NamedBare (trim written) serverName name tail)
    (isOwn : IsOwnOrigin listener serverName serverPort origin) :
    IpAddr.isIpv6Literal serverName = false ∧ StatesPort listener serverPort tail ∧
      trim written = written ∧ trim origin = origin := by
  obtain ⟨ownScheme, ownName, ownTail, own⟩ := isOwn
  obtain ⟨notLiteral, rfl, rfl, rfl⟩ := own_of_bare offers named own
  have whole : trim written = urlHost serverName ownName ++ ownTail := by
    rw [urlHost, if_neg (Bool.eq_false_iff.mp notLiteral), named.host]
  exact ⟨notLiteral, own.port, no_blanks_of_own offers own whole⟩

private theorem bracketed_of_agrees (offers : Offers listener serverPort origin scheme written)
    (named : NamedBracketed (trim written) serverName name tail)
    (isOwn : IsOwnOrigin listener serverName serverPort origin) :
    IpAddr.isIpv6Literal serverName = true ∧ StatesPort listener serverPort tail ∧
      trim written = written ∧ trim origin = origin := by
  obtain ⟨ownScheme, ownName, ownTail, own⟩ := isOwn
  obtain ⟨literal, rfl, rfl, rfl⟩ := own_of_bracketed offers named own
  have whole : trim written = urlHost serverName ownName ++ ownTail := by
    rw [urlHost, if_pos literal, named.host]
  exact ⟨literal, own.port, no_blanks_of_own offers own whole⟩

private theorem own_of_wellRead (wellRead : WellRead listener serverName serverPort origin)
    (offers : Offers listener serverPort origin scheme written)
    (named : hostMatchesServerName written serverName = true) :
    IsOwnOrigin listener serverName serverPort origin := by
  rcases hostMatchesServerName_iff.mp named with ⟨name, tail, bare⟩ | ⟨name, tail, bracketed⟩
  · obtain ⟨notLiteral, port, trimmed, whole⟩ := wellRead.bare _ _ _ _ offers bare
    refine ⟨scheme, name, tail, offers.sameScheme, bare.named, port, ?_⟩
    rw [← whole, offers.whole, ← trimmed, bare.host, urlHost,
      if_neg (Bool.eq_false_iff.mp notLiteral), String.append_assoc, String.append_assoc,
      String.append_assoc]
  · obtain ⟨literal, port, trimmed, whole⟩ := wellRead.bracketed _ _ _ _ offers bracketed
    refine ⟨scheme, name, tail, offers.sameScheme, bracketed.named, port, ?_⟩
    rw [← whole, offers.whole, ← trimmed, bracketed.host, urlHost, if_pos literal]
    simp only [String.append_assoc]

private theorem colon_not_mem_of_isPort {port : String} (isPort : IsPort port) :
    ':' ∉ port.toList := by
  intro member
  exact absurd (isPort.digits ':' member) (by decide)

/-- The end of a list that is no separator stands behind each separator. -/
private theorem end_behind {front before after : List Char} {last separator : Char}
    (same : front ++ [last] = before ++ separator :: after) (different : last ≠ separator) :
    ∃ rest, after = rest ++ [last] ∧ front = before ++ separator :: rest := by
  rcases List.eq_nil_or_concat after with empty | ⟨rest, other, ends⟩
  · rw [empty] at same
    exact absurd (List.cons.inj (List.append_inj' same rfl).2).1 different
  · rw [ends, List.concat_eq_append, ← List.cons_append, ← List.append_assoc] at same
    obtain ⟨sameFront, sameLast⟩ := List.append_inj' same rfl
    exact ⟨rest, by rw [ends, List.concat_eq_append, sameLast], sameFront⟩

/-- A literal in brackets with no port behind it: the check takes what follows its last colon,
the bracket included, for the port. -/
private theorem not_lastPort_of_closed (colon : ':' ∈ name.toList) (closes : ']' ∉ name.toList)
    (same : written = "[" ++ name ++ "]") : ¬ LastPort listener serverPort written := by
  have spelled : written.toList = '[' :: name.toList ++ [']'] := by
    rw [same]
    simp
  rintro (⟨absent, -⟩ | ⟨before, port, parts, absent, holds⟩)
  · exact absent (by rw [spelled]; simp [colon])
  · have splitHere : '[' :: name.toList ++ [']'] = before.toList ++ ':' :: port.toList := by
      rw [← spelled, parts]
      simp
    obtain ⟨portFront, portSame, frontSame⟩ := end_behind splitHere (by decide)
    have notClosed : before.toList.getLast? ≠ some ']' := by
      intro closed
      have inName : ']' ∈ '[' :: name.toList := by
        rw [frontSame]
        exact List.mem_append_left _ (List.mem_of_mem_getLast? closed)
      exact closes ((List.mem_cons.mp inName).resolve_left (by decide))
    have portLast : ']' ∈ port.toList := by
      rw [portSame]
      exact List.mem_append_right _ List.mem_cons_self
    rw [if_neg notClosed] at holds
    obtain ⟨digits, plain | plus, -, digit, -⟩ := holds
    · rw [plain] at portLast
      exact absurd (digit ']' portLast) (by decide)
    · rw [plus, String.toList_append, List.mem_append] at portLast
      exact absurd (digit ']' (portLast.resolve_left (by decide))) (by decide)

private theorem readable_of_accepted (own : OwnParts listener serverName serverPort origin scheme
    name tail) (accepted : originMatchesEdge origin listener.urlScheme serverName serverPort = true) :
    Readable listener serverName serverPort name tail := by
  obtain ⟨offered, written, offers, named⟩ := originMatchesEdge_iff.mp accepted
  rcases hostMatchesServerName_iff.mp named with ⟨other, behind, bare⟩ | ⟨other, behind, bracketed⟩
  · obtain ⟨notLiteral, rfl, rfl, rfl⟩ := own_of_bare offers bare own
    obtain ⟨-, -, trimmed, -⟩ := bare_of_agrees offers bare ⟨_, _, _, own⟩
    have same : written = name ++ tail := by
      rw [← trimmed, bare.host]
    refine ⟨fun literal => absurd literal (by rw [notLiteral]; exact Bool.false_ne_true),
      fun _ => ⟨?_, bare.noColon, ?_, ?_, ?_⟩⟩
    · intro slash
      refine offers.noSlash ?_
      rw [same, String.toList_append]
      exact List.mem_append_left _ slash
    · rw [← same, trimmed]
    · intro rest opens closes
      refine bare.opens (rest ++ tail.toList) ?_ (List.mem_append_left _ closes)
      rw [bare.host, String.toList_append, opens]
      rfl
    · intro closed
      rcases own.port with ⟨empty, -⟩ | ⟨port, colon, isPort, -⟩
      · exact .inl empty
      · have read := offers.port
        rw [lastPort_of_parts (same.trans (by rw [colon, String.append_assoc]))
          (colon_not_mem_of_isPort isPort), if_pos closed] at read
        exact .inr read
  · obtain ⟨literal, rfl, rfl, rfl⟩ := own_of_bracketed offers bracketed own
    obtain ⟨-, -, trimmed, -⟩ := bracketed_of_agrees offers bracketed ⟨_, _, _, own⟩
    have same : written = "[" ++ name ++ "]" ++ tail := by
      rw [← trimmed, bracketed.host]
    refine ⟨fun _ => ?_, fun notLiteral => absurd literal (by
      rw [notLiteral]; exact Bool.false_ne_true)⟩
    rcases own.port with ⟨empty, -⟩ | ⟨port, colon, isPort, -⟩
    · rw [empty, String.append_empty] at same
      have colon : ':' ∈ name.toList := mem_of_eqIgnoreAsciiCase
        (eqIgnoreAsciiCase_symm own.sameName) (by decide) (by decide)
        (IpAddr.isIpv6Literal_chars literal).1
      exact absurd offers.port (not_lastPort_of_closed colon bracketed.closes same)
    · have read := offers.port
      have closed : ("[" ++ name ++ "]").toList.getLast? = some ']' := by
        rw [String.toList_append]
        exact List.getLast?_concat
      rw [lastPort_of_parts (same.trans (by rw [colon, ← String.append_assoc]))
        (colon_not_mem_of_isPort isPort), if_pos closed] at read
      refine ⟨fun empty => ?_, read⟩
      rw [empty] at colon
      exact absurd (congrArg String.toList colon) (by simp)

private theorem not_mem_of_statesPort (port : StatesPort listener serverPort tail) {char : Char}
    (notColon : char ≠ ':') (notDigit : char.isDigit = false) : char ∉ tail.toList := by
  intro member
  rcases port with ⟨empty, -⟩ | ⟨digits, colon, isPort, -⟩
  · rw [empty] at member
    cases member
  · rw [colon, String.toList_append, List.mem_append] at member
    have digit := isPort.digits char
      (member.resolve_left fun isColon => notColon (List.mem_singleton.mp isColon))
    rw [notDigit] at digit
    cases digit

/-- A port in front of which no literal closes is read as it is stated. -/
private theorem lastPort_of_stated (stated : StatesPort listener serverPort tail)
    (noColon : tail = "" → ':' ∉ name.toList)
    (closed : name.toList.getLast? = some ']' → tail = "" ∨ serverPort = listener.defaultPort) :
    LastPort listener serverPort (name ++ tail) := by
  rcases stated with ⟨empty, default⟩ | ⟨port, colon, isPort, value⟩
  · rw [empty, String.append_empty]
    exact .inl ⟨noColon empty, default⟩
  · rw [lastPort_of_parts (by rw [colon, String.append_assoc]) (colon_not_mem_of_isPort isPort)]
    split
    · rename_i ends
      refine (closed ends).resolve_left fun empty => ?_
      rw [empty] at colon
      exact absurd (congrArg String.toList colon) (by simp)
    · exact ⟨port, .inl rfl, isPort.nonempty, isPort.digits, value⟩

/-- A scheme in front of a text with no blank at its end makes an origin with no outer blanks. -/
private theorem trim_of_scheme (same : eqIgnoreAsciiCase scheme listener.urlScheme = true)
    (trimmed : trim written = written) :
    trim (scheme ++ "://" ++ written) = scheme ++ "://" ++ written := by
  obtain ⟨first, rest, opens⟩ := scheme_nonempty same
  refine trimMatches_of_ends (fun char head => ?_) fun char last => ?_
  · rw [String.toList_append, String.toList_append, opens] at head
    cases head
    exact (scheme_chars same first (by rw [opens]; exact List.mem_cons_self)).1
  · rw [String.toList_append] at last
    cases ends : written.toList.getLast? with
    | none =>
        rw [List.getLast?_eq_none_iff.mp ends, List.append_nil, String.toList_append,
          show "://".toList = [':', '/'] ++ ['/'] from by decide, ← List.append_assoc,
          List.getLast?_concat] at last
        cases last
        decide
    | some other =>
        rw [List.getLast?_append, ends] at last
        cases last
        refine trimMatches_last isWhitespace written char ?_
        rw [show trimMatches isWhitespace written = trim written from rfl, trimmed]
        exact ends

private theorem literal_chars (literal : IpAddr.isIpv6Literal serverName = true)
    (named : eqIgnoreAsciiCase name serverName = true) :
    '/' ∉ name.toList ∧ ']' ∉ name.toList ∧ ∀ char ∈ name.toList, isWhitespace char = false := by
  obtain ⟨-, noClose, noBlank⟩ := plain_chars (.inl literal) named
  refine ⟨fun slash => ?_, noClose, noBlank⟩
  have isChar := (IpAddr.isIpv6Literal_chars literal).2 '/'
    (mem_of_eqIgnoreAsciiCase named (by decide) (by decide) slash)
  exact absurd isChar (by rw [IpAddr.Ipv6Char]; decide)

private theorem accepted_of_readable
    (own : OwnParts listener serverName serverPort origin scheme name tail)
    (readable : Readable listener serverName serverPort name tail) :
    originMatchesEdge origin listener.urlScheme serverName serverPort = true := by
  have noSlashTail := @not_mem_of_statesPort _ _ _ own.port '/' (by decide) (by decide)
  rw [originMatchesEdge_iff]
  refine ⟨scheme, urlHost serverName name ++ tail, ?_⟩
  cases literal : IpAddr.isIpv6Literal serverName with
  | true =>
      obtain ⟨nonempty, default⟩ := readable.literal literal
      obtain ⟨noSlash, noClose, noBlank⟩ := literal_chars literal own.sameName
      have host : urlHost serverName name = "[" ++ name ++ "]" := by rw [urlHost, if_pos literal]
      have trimmed : trim (urlHost serverName name ++ tail) = urlHost serverName name ++ tail := by
        refine trimMatches_eq_self fun char member => ?_
        rw [host] at member
        simp only [String.toList_append, List.mem_append] at member
        rcases member with ((isOpen | inName) | isClose) | inTail
        · rw [show char = '[' from List.mem_singleton.mp isOpen]
          decide
        · exact noBlank char inName
        · rw [show char = ']' from List.mem_singleton.mp isClose]
          decide
        · exact (isPortTail_chars (isPortTail_of_statesPort own.port) inTail).1
      refine ⟨⟨?_, own.sameScheme, ?_, ?_⟩, hostMatchesServerName_iff.mpr
        (.inr ⟨name, tail, ⟨own.sameName, by rw [trimmed, host]⟩, noClose⟩)⟩
      · rw [own.whole, String.append_assoc, trim_of_scheme own.sameScheme trimmed]
      · rw [host]
        simp only [String.toList_append, List.mem_append, not_or]
        exact ⟨⟨⟨by decide, noSlash⟩, by decide⟩, noSlashTail⟩
      · exact lastPort_of_stated own.port (fun empty => absurd empty nonempty)
          fun _ => .inr default
  | false =>
      obtain ⟨noSlash, noColon, trimmed, unbracketed, closed⟩ := readable.plain literal
      have host : urlHost serverName name = name := by
        rw [urlHost, if_neg (Bool.eq_false_iff.mp literal)]
      rw [host]
      refine ⟨⟨?_, own.sameScheme, ?_, lastPort_of_stated own.port (fun _ => noColon) closed⟩,
        hostMatchesServerName_iff.mpr (.inl ⟨name, tail,
          ⟨own.sameName, noColon, ?_, trimmed⟩, ?_⟩)⟩
      · rw [own.whole, host, String.append_assoc, trim_of_scheme own.sameScheme trimmed]
      · rw [String.toList_append, List.mem_append, not_or]
        exact ⟨noSlash, noSlashTail⟩
      · exact (isPortTail_of_statesPort own.port).imp id fun ⟨port, colon, _⟩ => ⟨port, colon⟩
      · intro rest opens closes
        rw [trimmed, String.toList_append] at opens
        cases front : name.toList with
        | nil =>
            rw [front, List.nil_append] at opens
            have inTail : '[' ∈ tail.toList := by
              rw [opens]
              exact List.mem_cons_self
            exact not_mem_of_statesPort own.port (by decide) (by decide) inTail
        | cons first others =>
            rw [front, List.cons_append] at opens
            obtain ⟨rfl, rfl⟩ := List.cons.inj opens
            exact (List.mem_append.mp closes).elim (unbracketed others front)
              (not_mem_of_statesPort own.port (by decide) (by decide))

/-- The check accepts the edge's own origin and nothing else, exactly for the origins it reads
well. -/
theorem originMatchesEdge_own_iff_wellRead :
    (originMatchesEdge origin listener.urlScheme serverName serverPort = true ↔
      IsOwnOrigin listener serverName serverPort origin) ↔
        WellRead listener serverName serverPort origin := by
  constructor
  · intro agrees
    have accepted : ∀ {scheme written : String}, Offers listener serverPort origin scheme written →
        hostMatchesServerName written serverName = true →
          IsOwnOrigin listener serverName serverPort origin :=
      fun offers named => agrees.mp (originMatchesEdge_iff.mpr ⟨_, _, offers, named⟩)
    exact
      { bare := fun scheme written name tail offers named =>
          bare_of_agrees offers named (accepted offers
            (hostMatchesServerName_iff.mpr (.inl ⟨name, tail, named⟩)))
        bracketed := fun scheme written name tail offers named =>
          bracketed_of_agrees offers named (accepted offers
            (hostMatchesServerName_iff.mpr (.inr ⟨name, tail, named⟩)))
        own := fun scheme name tail own =>
          readable_of_accepted own (agrees.mpr ⟨scheme, name, tail, own⟩) }
  · intro wellRead
    constructor
    · intro accepted
      obtain ⟨scheme, written, offers, named⟩ := originMatchesEdge_iff.mp accepted
      exact own_of_wellRead wellRead offers named
    · rintro ⟨scheme, name, tail, own⟩
      exact accepted_of_readable own (wellRead.own scheme name tail own)

end

/-- The port behind a literal is not looked at. -/
theorem other_port_of_a_literal_accepted :
    originMatchesEdge "https://[::1]:8443" (ListenerMode.urlScheme .tls) "::1" 443 = true ∧
      ¬ IsOwnOrigin .tls "::1" 443 "https://[::1]:8443" := by
  refine ⟨by decide +kernel, ?_⟩
  intro isOwn
  have closed : "[::1]".toList.getLast? = some ']' := by decide
  have offers : Offers .tls 443 "https://[::1]:8443" "https" "[::1]:8443" := by
    refine ⟨by decide +kernel, by decide +kernel, by decide, .inr ⟨"[::1]", "8443", ?_, ?_, ?_⟩⟩
    · decide
    · decide
    · rw [if_pos closed]
      rfl
  have named : NamedBracketed (trim "[::1]:8443") "::1" "::1" ":8443" :=
    ⟨⟨by decide +kernel, by decide +kernel⟩, by decide⟩
  obtain ⟨-, ⟨empty, -⟩ | ⟨port, colon, -, value⟩, -⟩ := bracketed_of_agrees offers named isOwn
  · exact absurd empty (by decide)
  · have digits : port.toList = "8443".toList := by
      have chars := congrArg String.toList colon
      rw [String.toList_append] at chars
      exact (List.cons.inj chars).2.symm
    rw [digits] at value
    exact absurd value (by decide)

end Oxo.Edge
