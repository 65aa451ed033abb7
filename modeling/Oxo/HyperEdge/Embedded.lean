import Oxo.HyperEdge.Respond

/-!
Contract: the embedded handler (`EmbeddedRubyHandler`, `call_ruby` and the Ruby helper in
`oxo-embedded/src/imp.rs`).

Owns: what an application returns, how it is copied out of Ruby, and when what is sent for it is
its own.

Does not own: the call of the application, or how Ruby strings are encoded.
-/

namespace Oxo.HyperEdge

open Oxo.Foundation

/-! ## The application -/

/-- A Ruby string, with the text it is converted to, if it can be. -/
structure RString where
  bytes : List UInt8
  text : Option String
deriving DecidableEq

/-- What the application returns: a value for each header, or several, and the parts of the
body. -/
structure AppResponse where
  status : Int
  headers : List (RString × List RString)
  parts : List (List UInt8)

def AppResponse.body (app : AppResponse) : List UInt8 :=
  app.parts.flatten

/-- Every value with its name. -/
def AppResponse.pairs (app : AppResponse) : List (RString × RString) :=
  app.headers.flatMap fun header => header.2.map fun value => (header.1, value)

/-- What is sent is the application's own, or a server error. -/
def Honest (app : AppResponse) (sent : HyperResponse) : Prop :=
  ((sent.status.toNat : Int) = app.status ∧ sent.body = app.body) ∨ sent.serverError = true

instance (app : AppResponse) (sent : HyperResponse) : Decidable (Honest app sent) :=
  inferInstanceAs (Decidable (_ ∨ _))

/-! ## The handler -/

/-- The array that the helper's `handle` returns. -/
structure HelperResult where
  status : Int
  flat : List RString
  body : List UInt8

def helperHandle (app : AppResponse) : HelperResult where
  status := app.status
  flat := app.pairs.flatMap fun pair => [pair.1, pair.2]
  body := app.body

/-- The texts of conversion errors. -/
structure Magnus where
  rangeError : Int → String
  encodingError : RString → String

section Handler

variable (magnus : Magnus)

/-- A status as `i64`. -/
def entryStatus (value : Int) : Except HandlerError Int :=
  if -2 ^ 63 ≤ value ∧ value < 2 ^ 63 then .ok value
  else .error (.rubyError (magnus.rangeError value))

def entryString (value : RString) : Except HandlerError String :=
  match value.text with
  | some text => .ok text
  | none => .error (.rubyError (magnus.encodingError value))

/-- The loop over the flat headers. -/
def headerPairs : List RString → Except HandlerError (List (String × String))
  | name :: value :: rest => do
      let k ← entryString magnus name
      let v ← entryString magnus value
      let headers ← headerPairs rest
      return (toAsciiLowercase k, v) :: headers
  | _ => return []

/-- `called` is what the application comes to, or the exception it raises. -/
def callRuby (called : Except String AppResponse) : Except HandlerError RackResponse :=
  match called with
  | .error detail => .error (.rubyError detail)
  | .ok app => do
      let result := helperHandle app
      let status ← entryStatus magnus result.status
      let headers ← headerPairs magnus result.flat
      -- `status as u16`
      return ⟨UInt16.ofInt status, headers, result.body⟩

/-- How the reply comes back from the Ruby thread. -/
inductive Reply where
  | fulfilled
  | guardDropped
  | threadGone
  | replyDropped
deriving DecidableEq

def embeddedHandle (reply : Reply) (called : Except String AppResponse) :
    Except HandlerError RackResponse :=
  match reply with
  | .fulfilled =>
      match callRuby magnus called with
      | .ok resp => .ok resp
      | .error _ => .ok .internalError
  | .guardDropped => .ok .internalError
  | .threadGone => .error (.rubyError "ruby thread is gone")
  | .replyDropped => .error (.rubyError "ruby thread dropped the reply")

end Handler

/-! ## When it is honest -/

/-- The headers as they are copied out of Ruby, if all of them can be. -/
def headerTexts (pairs : List (RString × RString)) : Option (List (String × String)) :=
  pairs.mapM fun pair => pair.1.text.bind fun name =>
    pair.2.text.map fun value => (toAsciiLowercase name, value)

/-- The response can be copied out of Ruby as it is sent on. -/
def CopiedOut (app : AppResponse) (headers : List (String × String)) : Prop :=
  -2 ^ 63 ≤ app.status ∧ app.status < 2 ^ 63 ∧ headerTexts app.pairs = some headers

/-- What can be copied out is taken by the builder, with a status that is the application's own
or a server error in 16 bits. The other response that is its own is the fallback itself. -/
def EmbeddedHonest (builder : ResponseBuilder) (app : AppResponse) : Prop :=
  ∀ headers, CopiedOut app headers →
    if builder.accepts (UInt16.ofInt app.status) (sentHeaders headers) then
      (0 ≤ app.status ∧ app.status < 2 ^ 16) ∨
        (500 ≤ app.status % 2 ^ 16 ∧ app.status % 2 ^ 16 ≤ 599)
    else app.status = 200 ∧ app.body = utf8 "Internal Server Error"

section

variable {builder : ResponseBuilder} {magnus : Magnus} {app : AppResponse}
  {pairs : List (RString × RString)}

private theorem headerPairs_flat (magnus : Magnus) (pairs : List (RString × RString)) :
    (∃ headers, headerTexts pairs = some headers ∧
      headerPairs magnus (pairs.flatMap fun pair => [pair.1, pair.2]) = .ok headers) ∨
    (headerTexts pairs = none ∧ ∃ detail,
      headerPairs magnus (pairs.flatMap fun pair => [pair.1, pair.2]) =
        .error (.rubyError detail)) := by
  induction pairs with
  | nil => exact .inl ⟨[], rfl, rfl⟩
  | cons pair rest inductionHypothesis =>
      obtain ⟨name, value⟩ := pair
      simp only [headerTexts, List.flatMap_cons, List.cons_append, List.nil_append, headerPairs,
        entryString, List.mapM_cons] at inductionHypothesis ⊢
      cases name.text with
      | none => exact .inr ⟨rfl, _, rfl⟩
      | some k =>
          cases value.text with
          | none => exact .inr ⟨rfl, _, rfl⟩
          | some v =>
              rcases inductionHypothesis with ⟨headers, texts, copied⟩ | ⟨texts, detail, fails⟩
              · refine .inl ⟨(toAsciiLowercase k, v) :: headers, ?_, ?_⟩
                · rw [texts]
                  rfl
                · rw [copied]
                  rfl
              · refine .inr ⟨?_, detail, ?_⟩
                · rw [texts]
                  rfl
                · rw [fails]
                  rfl

/-- A response is copied out or refused with an exception. -/
theorem callRuby_cases (magnus : Magnus) (app : AppResponse) :
    (∃ headers, CopiedOut app headers ∧
      callRuby magnus (.ok app) = .ok ⟨UInt16.ofInt app.status, headers, app.body⟩) ∨
    ((∀ headers, ¬ CopiedOut app headers) ∧
      ∃ detail, callRuby magnus (.ok app) = .error (.rubyError detail)) := by
  have ran : callRuby magnus (.ok app) = (entryStatus magnus app.status).bind fun status =>
      (headerPairs magnus (app.pairs.flatMap fun pair => [pair.1, pair.2])).bind fun headers =>
        .ok ⟨UInt16.ofInt status, headers, app.body⟩ := rfl
  rw [ran]
  by_cases inRange : -2 ^ 63 ≤ app.status ∧ app.status < 2 ^ 63
  · have converted : entryStatus magnus app.status = .ok app.status := if_pos inRange
    rw [converted]
    rcases headerPairs_flat magnus app.pairs with
      ⟨headers, texts, copied⟩ | ⟨texts, detail, fails⟩
    · refine .inl ⟨headers, ⟨inRange.1, inRange.2, texts⟩, ?_⟩
      rw [copied]
      rfl
    · refine .inr ⟨fun headers copiedOut => ?_, detail, ?_⟩
      · rw [copiedOut.2.2] at texts
        cases texts
      · rw [fails]
        rfl
  · have raises : entryStatus magnus app.status =
        .error (.rubyError (magnus.rangeError app.status)) := if_neg inRange
    rw [raises]
    exact .inr ⟨fun headers copiedOut => inRange ⟨copiedOut.1, copiedOut.2.1⟩, _, rfl⟩

private theorem toNat_ofInt (value : Int) : ((UInt16.ofInt value).toNat : Int) = value % 2 ^ 16 := by
  rw [UInt16.ofInt, UInt16.toNat_ofNat']
  omega

private theorem honest_copied (headers : List (String × String)) :
    Honest app (toHyper builder ⟨UInt16.ofInt app.status, headers, app.body⟩) ↔
      if builder.accepts (UInt16.ofInt app.status) (sentHeaders headers) then
        (0 ≤ app.status ∧ app.status < 2 ^ 16) ∨
          (500 ≤ app.status % 2 ^ 16 ∧ app.status % 2 ^ 16 ≤ 599)
      else app.status = 200 ∧ app.body = utf8 "Internal Server Error" := by
  have code := toNat_ofInt app.status
  cases accepted : builder.accepts (UInt16.ofInt app.status) (sentHeaders headers) with
  | true =>
      obtain ⟨status, body⟩ :
          (toHyper builder ⟨UInt16.ofInt app.status, headers, app.body⟩).status =
            UInt16.ofInt app.status ∧
          (toHyper builder ⟨UInt16.ofInt app.status, headers, app.body⟩).body = app.body :=
        toHyper_accepted accepted
      rw [if_pos rfl, Honest, HyperResponse.serverError, status, body, Bool.and_eq_true_iff,
        decide_eq_true_iff, decide_eq_true_iff, UInt16.le_iff_toNat_le, UInt16.le_iff_toNat_le]
      change (((UInt16.ofInt app.status).toNat : Int) = app.status ∧ app.body = app.body) ∨
        (500 ≤ (UInt16.ofInt app.status).toNat ∧ (UInt16.ofInt app.status).toNat ≤ 599) ↔ _
      rw [eq_self_iff_true app.body, and_true]
      omega
  | false =>
      rw [toHyper_refused accepted, if_neg Bool.false_ne_true, Honest]
      change ((200 : Int) = app.status ∧ utf8 "Internal Server Error" = app.body) ∨ false = true ↔ _
      rw [or_iff_left Bool.false_ne_true, eq_comm, eq_comm (a := app.body)]

variable (magnus) in
/-- What is sent for the embedded application is its own or a server error exactly then. -/
theorem embedded_honest_iff :
    (∀ reply, Honest app (answer builder (embeddedHandle magnus reply (.ok app)))) ↔
      EmbeddedHonest builder app := by
  rcases callRuby_cases magnus app with ⟨headers, copiedOut, copied⟩ | ⟨notCopied, detail, fails⟩
  · have fulfilled : answer builder (embeddedHandle magnus .fulfilled (.ok app)) =
        toHyper builder ⟨UInt16.ofInt app.status, headers, app.body⟩ := by
      rw [embeddedHandle, copied]
      rfl
    constructor
    · intro honest others othersCopied
      have same := copiedOut.2.2.symm.trans othersCopied.2.2
      cases same
      have isHonest := honest .fulfilled
      rw [fulfilled, honest_copied] at isHonest
      exact isHonest
    · intro honest reply
      cases reply with
      | fulfilled =>
          rw [fulfilled, honest_copied]
          exact honest headers copiedOut
      | guardDropped => exact .inr toHyper_internalError
      | threadGone | replyDropped => exact .inr (answer_error (by decide))
  · refine iff_of_true (fun reply => .inr ?_) fun headers copiedOut => ?_
    · cases reply with
      | fulfilled =>
          rw [embeddedHandle, fails]
          exact toHyper_internalError
      | guardDropped => exact toHyper_internalError
      | threadGone | replyDropped => exact answer_error (by decide)
    · exact absurd copiedOut (notCopied headers)

end

end Oxo.HyperEdge
