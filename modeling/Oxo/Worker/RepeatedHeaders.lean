import Oxo.Core.HopFrame.Request
import Oxo.Worker.RackEnv

/-!
Contract: what becomes of a header that occurs several times in a frame (`build_env` in
`oxo-worker/src/native/ruby.rs`, `request_frame_to_worker_request` in `frame.rs`).

Owns: the frames none of whose kept header values is lost, and the equivalence between them and
the frames whose last value under each environment key carries all the others.

Does not own: the header filter, the spelling of the keys, or who sends a header twice.
-/

namespace Oxo.Worker

open Oxo.Foundation Oxo.Core Oxo.Core.HopFrame

/-! ## Lost values -/

/-- What stands between the values of a combined header. -/
def isListSeparator (char : Char) : Bool :=
  char == ',' || char == ';' || char == ' ' || char == '\t' || char == '\n'

/-- The value is the whole text or stands in it between separators. -/
def StandsIn (value text : String) : Prop :=
  ∃ before after, text.toList = before ++ value.toList ++ after ∧
    (∀ char ∈ before.getLast?, isListSeparator char = true) ∧
    ∀ char ∈ after.head?, isListSeparator char = true

/-- Every value of a name that reaches the request appears in the entry of that name. -/
def NoValueLost (mapping : FullUpcase) (options : WorkerOptions) (frame : RequestFrame) : Prop :=
  ∀ header ∈ frame.headers, ∀ kept, appHeader header = some kept →
    ∃ text, (buildEnv mapping options (requestFrameToWorkerRequest frame)).lookup
        (envKey mapping kept.1) = some (.text text) ∧ StandsIn header.2 text

/-- The headers of a frame that are stored under a key. -/
def storedUnder (mapping : FullUpcase) (frame : RequestFrame) (key : String) :
    List (String × String) :=
  (frame.headers.filterMap appHeader).filter fun kept => envKey mapping kept.1 == key

/-- Under each key, the last value carries those in front of it. -/
def LastCarriesAll (mapping : FullUpcase) (frame : RequestFrame) : Prop :=
  ∀ key, ∀ last ∈ (storedUnder mapping frame key).getLast?,
    ∀ kept ∈ storedUnder mapping frame key, StandsIn kept.2 last.2

/-! ## Assignment -/

private theorem lookup_cons_ite {env : Env} {entry : String × EnvValue} {candidate : String} :
    List.lookup candidate (entry :: env) =
      if candidate = entry.1 then some entry.2 else env.lookup candidate := by
  rw [List.lookup_cons]
  by_cases same : candidate = entry.1
  · rw [beq_iff_eq.mpr same, if_pos same]
  · rw [beq_eq_false_iff_ne.mpr same, if_neg same]

theorem Env.lookup_store (env : Env) (key : String) (value : EnvValue) (candidate : String) :
    (env.store key value).lookup candidate =
      if candidate = key then some value else env.lookup candidate := by
  induction env with
  | nil => exact lookup_cons_ite
  | cons entry rest inductionHypothesis =>
      unfold Env.store
      split
      · rename_i same
        rw [lookup_cons_ite, lookup_cons_ite, same]
        split <;> rfl
      · rename_i different
        rw [lookup_cons_ite, lookup_cons_ite, inductionHypothesis]
        split
        · rename_i isEntry
          rw [if_neg (isEntry ▸ different)]
        · rfl

/-- The entry of a key is the last value stored under it. -/
theorem lookup_storeHeaders (mapping : FullUpcase) (env : Env) (headers : List (String × String))
    (key : String) :
    (storeHeaders mapping env (flatHeaders headers)).lookup key =
      ((headers.filter fun header => envKey mapping header.1 == key).getLast?.map fun header =>
        EnvValue.text header.2).or (env.lookup key) := by
  induction headers generalizing env with
  | nil => rfl
  | cons header rest inductionHypothesis =>
      have unrolled : storeHeaders mapping env (flatHeaders (header :: rest)) =
          storeHeaders mapping (env.store (envKey mapping header.1) (.text header.2))
            (flatHeaders rest) := rfl
      rw [unrolled, inductionHypothesis, Env.lookup_store, List.filter_cons]
      by_cases here : envKey mapping header.1 = key
      · rw [if_pos here.symm, if_pos (beq_iff_eq.mpr here), List.getLast?_cons]
        cases (rest.filter fun header => envKey mapping header.1 == key).getLast? <;> rfl
      · rw [if_neg (Ne.symm here), if_neg (by simpa using here)]

/-! ## Kept values -/

private theorem appHeader_value {header kept : String × String}
    (passes : appHeader header = some kept) : kept.2 = header.2 := by
  unfold appHeader at passes
  simp only at passes
  split_ifs at passes
  · cases passes
    rfl
  · obtain ⟨name, -, rfl⟩ := Option.map_eq_some_iff.mp passes
    rfl

private theorem lookup_buildEnv {mapping : FullUpcase} {options : WorkerOptions}
    {frame : RequestFrame} {key : String} {last : String × String}
    (stored : (storedUnder mapping frame key).getLast? = some last) :
    (buildEnv mapping options (requestFrameToWorkerRequest frame)).lookup key =
      some (.text last.2) := by
  unfold buildEnv
  rw [lookup_storeHeaders, show (requestFrameToWorkerRequest frame).headers =
    frame.headers.filterMap appHeader from rfl, show ((frame.headers.filterMap appHeader).filter
      fun header => envKey mapping header.1 == key).getLast? = some last from stored]
  rfl

/-- No value is lost exactly when under each key the last value carries all of them. -/
theorem no_value_lost_iff (mapping : FullUpcase) (options : WorkerOptions)
    (frame : RequestFrame) :
    NoValueLost mapping options frame ↔ LastCarriesAll mapping frame := by
  constructor
  · intro complete key last isLast kept stored
    obtain ⟨inRequest, underKey⟩ := List.mem_filter.mp stored
    obtain ⟨header, member, passes⟩ := List.mem_filterMap.mp inRequest
    obtain ⟨text, found, stands⟩ := complete header member kept passes
    rw [beq_iff_eq.mp underKey, lookup_buildEnv isLast] at found
    cases found
    rw [appHeader_value passes]
    exact stands
  · intro carries header member kept passes
    have stored : kept ∈ storedUnder mapping frame (envKey mapping kept.1) :=
      List.mem_filter.mpr ⟨List.mem_filterMap.mpr ⟨header, member, passes⟩, beq_self_eq_true _⟩
    cases isLast : (storedUnder mapping frame (envKey mapping kept.1)).getLast? with
    | none =>
        rw [List.getLast?_eq_none_iff.mp isLast] at stored
        cases stored
    | some last =>
        refine ⟨last.2, lookup_buildEnv isLast, ?_⟩
        rw [← appHeader_value passes]
        exact carries _ last isLast kept stored

/-- A request with its cookies in two fields. -/
private def twoCookies : RequestFrame where
  method := "GET"
  path := "/"
  query := ""
  serverName := "app"
  serverPort := 443
  scheme := .https
  remoteAddr := "192.0.2.1"
  headers := [("cookie", "session=1"), ("cookie", "theme=dark")]
  body := []

/-- Of two cookie fields the application sees the second only. -/
theorem first_cookie_field_lost :
    decodeRequest twoCookies.envelope (frameCaps 1024) = .ok twoCookies ∧
      (buildEnv unicodeUpcase ⟨false, false⟩ (requestFrameToWorkerRequest twoCookies)).lookup
        "HTTP_COOKIE" = some (.text "theme=dark") ∧
      ¬ NoValueLost unicodeUpcase ⟨false, false⟩ twoCookies := by
  have decoded : decodeRequest twoCookies.envelope (frameCaps 1024) = .ok twoCookies := by
    decide +kernel
  have found : (buildEnv unicodeUpcase ⟨false, false⟩
      (requestFrameToWorkerRequest twoCookies)).lookup "HTTP_COOKIE" =
        some (.text "theme=dark") := by
    decide +kernel
  refine ⟨decoded, found, fun complete => ?_⟩
  obtain ⟨text, entry, before, after, same, -⟩ := complete ("cookie", "session=1")
    List.mem_cons_self ("cookie", "session=1") (by decide +kernel)
  have key : envKey unicodeUpcase "cookie" = "HTTP_COOKIE" := by decide +kernel
  rw [key, found] at entry
  cases entry
  have letter : 'o' ∈ "theme=dark".toList := by
    rw [same]
    simp
  exact absurd letter (by decide)

end Oxo.Worker
