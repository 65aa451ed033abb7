import Oxo.Worker.Streaming

/-!
Contract: the application's response headers on the two hops
(`sanitize_response_headers` in `oxo-worker/src/native/frame.rs`, `write_response_head` in
`serve.rs`).

Owns: what a clean header list is, and the exact condition under which both hops keep the same
one.

Does not own: the filters, or the lines that the HTTP hop adds for its own framing.
-/

namespace Oxo.Worker

open Oxo.Foundation

/-- A name that the frame hop takes: some visible ASCII. -/
def isVisibleName (name : String) : Bool :=
  name != "" && (utf8 name).all fun byte => byte > 0x20 && byte < 0x7f

/-- A value that cannot end its line. -/
def LineFree (value : String) : Prop :=
  13 ∉ utf8 value ∧ 10 ∉ utf8 value ∧ 0 ∉ utf8 value

/-- Both hops keep the same headers, with tokens for names and values that stay on their
line. -/
def HygieneAgrees (headers : List (String × String)) : Prop :=
  sanitizeResponseHeaders headers = emittedHeaders headers ∧
    ∀ header ∈ sanitizeResponseHeaders headers,
      validToken header.1 = true ∧ LineFree header.2

/-! ## Names and values -/

private theorem visible_of_token {name : String} (token : validToken name = true) :
    isVisibleName name = true := by
  have visible : ∀ byte : UInt8, isTokenByte byte = true → (byte > 0x20 && byte < 0x7f) = true := by
    decide +kernel
  unfold validToken at token
  rw [Bool.and_eq_true, List.all_eq_true] at token
  unfold isVisibleName
  rw [Bool.and_eq_true, List.all_eq_true]
  exact ⟨token.1, fun byte member => visible byte (token.2 byte member)⟩

private theorem lineFree_of_valid {value : String}
    (valid : validResponseHeaderValue value = true) : LineFree value := by
  unfold validResponseHeaderValue at valid
  rw [List.all_eq_true] at valid
  have absent : ∀ byte : UInt8, (byte ≥ 0x20 && byte != 0x7f) = false → byte ∉ utf8 value := by
    intro byte refused member
    rw [valid byte member] at refused
    nomatch refused
  exact ⟨absent 13 rfl, absent 10 rfl, absent 0 rfl⟩

/-! ## The two filters -/

private theorem mem_sanitize {headers : List (String × String)} {header : String × String} :
    header ∈ sanitizeResponseHeaders headers ↔ header ∈ headers ∧ isHostFraming header.1 = false ∧
      isVisibleName header.1 = true ∧ validResponseHeaderValue header.2 = true := by
  rw [sanitizeResponseHeaders, List.mem_filter, Bool.and_eq_true, Bool.not_eq_true',
    Bool.and_eq_true]
  rfl

/-- The HTTP hop's filter is the frame hop's with tokens for names. -/
private theorem emitted_eq_filter (headers : List (String × String)) :
    emittedHeaders headers =
      (sanitizeResponseHeaders headers).filter fun header => validToken header.1 := by
  rw [emittedHeaders, sanitizeResponseHeaders, List.filter_filter]
  refine List.filter_congr fun header _ => ?_
  cases token : validToken header.1 with
  | false => rw [Bool.false_and, Bool.false_and, Bool.and_false]
  | true =>
      have visible := visible_of_token token
      unfold isVisibleName at visible
      rw [visible, Bool.true_and, Bool.true_and]

/-- The hops agree on a list exactly if each header in it that is not the host's framing, with
a visible name and a valid value, has a token for its name. -/
theorem hygieneAgrees_iff (headers : List (String × String)) :
    HygieneAgrees headers ↔
      ∀ header ∈ headers, isHostFraming header.1 = false → isVisibleName header.1 = true →
        validResponseHeaderValue header.2 = true → validToken header.1 = true := by
  constructor
  · intro agrees header member notFraming visible valid
    exact (agrees.2 header (mem_sanitize.mpr ⟨member, notFraming, visible, valid⟩)).1
  · intro tokens
    have keptTokens : ∀ header ∈ sanitizeResponseHeaders headers,
        validToken header.1 = true := by
      intro header kept
      obtain ⟨member, notFraming, visible, valid⟩ := mem_sanitize.mp kept
      exact tokens header member notFraming visible valid
    refine ⟨?_, fun header kept => ⟨keptTokens header kept, ?_⟩⟩
    · rw [emitted_eq_filter, List.filter_eq_self.mpr keptTokens]
    · exact lineFree_of_valid (mem_sanitize.mp kept).2.2.2

/-- The frame hop keeps a name with parentheses, which the HTTP hop drops. -/
theorem parenthesised_name_kept : ¬ ∀ headers, HygieneAgrees headers := by
  intro agrees
  have kept := (agrees [("x(a)", "b")]).2 ("x(a)", "b") (by decide +kernel)
  exact absurd kept.1 (by decide +kernel)

end Oxo.Worker
