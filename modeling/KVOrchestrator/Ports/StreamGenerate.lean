import KVOrchestrator.Ports.InFlight
import Mathlib.Data.List.Chain
import Mathlib.Data.List.Induction

/-!
# The text of a stream (`src/serving/vllm_engine.py`)

The engine's outputs carry the whole text generated so far; `stream_generate`
yields of each output what goes beyond the text before it.  It keeps the length
of that text only, so the yields add up to the last text as long as every text
extends the one before it (`streaming_loses_no_text`).

The loop is stated on its own, over the outputs that reach it.  The engine of
`InFlight` runs many calls at once, and a stream is suspended between its outputs
and at each yield; whatever the others do in between, the stream hands out what
the loop yields of the outputs it has received (`yielded_of_run`), so it loses no
text either (`text_of_run`).
-/

namespace KVOrchestrator.Ports

open KVOrchestrator.Verified

/-! ## The loop -/

/-- `prev_len`, and the strings yielded so far. -/
structure StreamState where
  prevLen : Nat := 0
  yielded : List String := []
  deriving DecidableEq, Repr

/-- One pass of the loop of `stream_generate`. -/
def StreamState.pass (st : StreamState) (output : RequestOutput) : StreamState :=
  match output.outputs with
  | [] => st
  | best :: _ =>
      let delta := sliceFrom best.text.toList st.prevLen
      { prevLen := best.text.length
        yielded := if delta.isEmpty then st.yielded else st.yielded ++ [String.ofList delta] }

/-- The loop, over the outputs of the engine. -/
def streamGenerate (outputs : List RequestOutput) : StreamState :=
  run StreamState.pass {} outputs

/-- What the stream has handed out, in one piece. -/
def StreamState.text (st : StreamState) : String := String.join st.yielded

theorem streamGenerate_append (outputs : List RequestOutput) (output : RequestOutput) :
    streamGenerate (outputs ++ [output]) = (streamGenerate outputs).pass output := by
  simp [streamGenerate, run]

/-! ## The texts of the outputs -/

/-- The text of the first candidate, if there is one. -/
def RequestOutput.text? (output : RequestOutput) : Option String :=
  output.outputs.head?.map (·.text)

/-- The candidate texts, in the order of the outputs. -/
def candidateTexts (outputs : List RequestOutput) : List String :=
  outputs.filterMap RequestOutput.text?

/-- The text seen so far. -/
def lastText (outputs : List RequestOutput) : String :=
  (candidateTexts outputs).getLast?.getD ""

/-- Each text extends the one before it. -/
def Extending (texts : List String) : Prop :=
  texts.IsChain (fun a b => a.toList <+: b.toList)

theorem candidateTexts_append (outputs : List RequestOutput) (output : RequestOutput) :
    candidateTexts (outputs ++ [output]) = candidateTexts outputs ++ output.text?.toList := by
  rw [candidateTexts, List.filterMap_append]
  cases h : output.text? <;> simp [candidateTexts, h]

theorem Extending.of_prefix {outputs outputs' : List RequestOutput} (hpre : outputs' <+: outputs)
    (h : Extending (candidateTexts outputs)) : Extending (candidateTexts outputs') :=
  List.IsChain.prefix h (hpre.filterMap _)

/-- A text that goes last extends the text seen before it. -/
theorem Extending.lastText_extended {outputs : List RequestOutput} {text : String}
    (h : Extending (candidateTexts outputs ++ [text])) :
    (lastText outputs).toList <+: text.toList := by
  rw [lastText]
  cases hlast : (candidateTexts outputs).getLast? with
  | none => exact List.nil_prefix
  | some last => exact (List.isChain_append.mp h).2.2 last hlast text rfl

/-! ## What the loop keeps -/

/-- The yields are the text seen so far, cut into nonempty pieces. -/
structure StreamState.Holds (st : StreamState) (seen : String) : Prop where
  prevLen : st.prevLen = seen.length
  text : st.text = seen
  nonempty : ∀ piece ∈ st.yielded, piece ≠ ""

theorem StreamState.Holds.pass {st : StreamState} {seen : String} (h : st.Holds seen)
    {output : RequestOutput} {best : CompletionOutput} {rest : List CompletionOutput}
    (houtput : output.outputs = best :: rest) (hextends : seen.toList <+: best.text.toList) :
    (st.pass output).Holds best.text := by
  -- the slice is what the text adds to the one before it
  have hdelta : seen.toList ++ sliceFrom best.text.toList st.prevLen = best.text.toList := by
    rw [h.prevLen, ← String.length_toList, sliceFrom, if_pos (Int.natCast_nonneg _),
      Int.toNat_natCast]
    exact List.prefix_iff_eq_append.mp hextends
  rw [StreamState.pass, houtput]
  dsimp only
  cases hnil : (sliceFrom best.text.toList st.prevLen).isEmpty with
  | true =>
      rw [List.isEmpty_iff.mp hnil, List.append_nil, String.toList_inj] at hdelta
      exact ⟨rfl, h.text.trans hdelta, h.nonempty⟩
  | false =>
      refine ⟨rfl, ?_, ?_⟩
      · show String.join (st.yielded ++ [_]) = best.text
        have htext : String.join st.yielded = seen := h.text
        rw [String.join_append, htext, ← String.toList_inj, String.toList_append]
        simpa using hdelta
      · intro piece hpiece
        rcases List.mem_append.mp hpiece with hold | hnew
        · exact h.nonempty piece hold
        · rw [List.mem_singleton.mp hnew]
          intro hempty
          rw [← String.toList_inj, String.toList_ofList] at hempty
          rw [hempty] at hnil
          cases hnil

/-- The loop holds the text seen so far after every output. -/
theorem holds_streamGenerate {outputs : List RequestOutput}
    (h : Extending (candidateTexts outputs)) :
    (streamGenerate outputs).Holds (lastText outputs) := by
  induction outputs using List.reverseRecOn with
  | nil => exact ⟨rfl, rfl, fun _ hmem => absurd hmem List.not_mem_nil⟩
  | append_singleton outputs output ih =>
      have hinit := ih (h.of_prefix (List.prefix_append _ _))
      rw [candidateTexts_append] at h
      rw [streamGenerate_append]
      cases houtput : output.outputs with
      | nil =>
          have hnone : output.text? = none := by simp [RequestOutput.text?, houtput]
          have hlast : lastText (outputs ++ [output]) = lastText outputs := by
            rw [lastText, candidateTexts_append, hnone, lastText]
            simp
          rw [StreamState.pass, houtput, hlast]
          exact hinit
      | cons best rest =>
          have hsome : output.text? = some best.text := by simp [RequestOutput.text?, houtput]
          have hlast : lastText (outputs ++ [output]) = best.text := by
            rw [lastText, candidateTexts_append, hsome]
            simp
          rw [hsome] at h
          rw [hlast]
          exact hinit.pass houtput h.lastText_extended

/-- Streaming loses no text: the yields add up to the last text, none of them is
empty, and after every output they add up to the text seen so far. -/
theorem streaming_loses_no_text (outputs : List RequestOutput)
    (h : Extending (candidateTexts outputs)) :
    (streamGenerate outputs).text = lastText outputs ∧
      (∀ piece ∈ (streamGenerate outputs).yielded, piece ≠ "") ∧
      ∀ done, done <+: outputs → (streamGenerate done).text = lastText done := by
  have hall := holds_streamGenerate h
  refine ⟨hall.text, hall.nonempty, ?_⟩
  intro done hdone
  exact (holds_streamGenerate (h.of_prefix hdone)).text

/-- A repeated text, and an output without a candidate. -/
def helloOutputs : List RequestOutput :=
  [{ outputs := [{ text := "Hel" }] }, { outputs := [] }, { outputs := [{ text := "Hel" }] },
    { outputs := [{ text := "Hello" }, { text := "Halt" }] }]

theorem streaming_loses_no_text_hello :
    (streamGenerate helloOutputs).yielded = ["Hel", "lo"] ∧
      (streamGenerate helloOutputs).text = "Hello" :=
  ⟨by decide, (streaming_loses_no_text helloOutputs (by unfold Extending; decide)).1⟩

/-! ## Streams among other calls -/

/-- The length up to which a stream has handed out its text, as long as it goes
on. -/
def CallPoint.prevLen? : CallPoint → Option Nat
  | .mockSleep _ _ => none
  | .mockYield _ _ => none
  | .mockPause _ => none
  | .generating _ => none
  | .streaming prevLen => some prevLen
  | .yielding _ textLen => some textLen
  | .policyCheck _ => none

/-- What reaches the consumer when a call is suspended at a point. -/
def CallPoint.handedOut : CallPoint → List String
  | .yielding delta _ => [delta]
  | _ => []

/-- The outputs a stream has received and the strings it has yielded. -/
structure StreamLog where
  received : List RequestOutput := []
  yielded : List String := []

namespace InstrumentedVLLMEngine

/-- The length kept by the stream of a request. -/
def prevLen? (s : InstrumentedVLLMEngine) (rid : String) : Option Nat :=
  (s.calls.get? rid).bind CallPoint.prevLen?

/-- The log after a step: an output is received by a stream that waits for it. -/
def logStep (rid : String) (s : InstrumentedVLLMEngine) (log : StreamLog) (a : EngineStep) :
    StreamLog :=
  match a, s.calls.get? rid with
  | .output rid' output _, some (.streaming _) =>
      if rid' = rid then
        { received := log.received ++ [output]
          yielded := log.yielded ++ ((s.step a).calls.get? rid).elim [] CallPoint.handedOut }
      else log
  | _, _ => log

/-- A step of the engine, logged. -/
def loggedStep (rid : String) (st : InstrumentedVLLMEngine × StreamLog) (a : EngineStep) :
    InstrumentedVLLMEngine × StreamLog :=
  (st.1.step a, logStep rid st.1 st.2 a)

/-- The log is what the loop makes of the received outputs, and a stream that
goes on has the loop's `prev_len`. -/
structure Follows (rid : String) (st : InstrumentedVLLMEngine × StreamLog) : Prop where
  yielded : st.2.yielded = (streamGenerate st.2.received).yielded
  prevLen : ∀ n, st.1.prevLen? rid = some n → n = (streamGenerate st.2.received).prevLen

section Steps

variable {s s' : InstrumentedVLLMEngine} {rid : String} {log : StreamLog}

@[simp] theorem prevLen?_suspend_self (s : InstrumentedVLLMEngine) (rid : String)
    (point : CallPoint) : (s.suspend rid point).prevLen? rid = point.prevLen? := by
  simp [prevLen?]

@[simp] theorem prevLen?_finish_self (s : InstrumentedVLLMEngine) (rid : String)
    (ending : EngineCallEnd) : (s.finish rid ending).prevLen? rid = none := by
  simp [prevLen?]

theorem prevLen?_of_get? {point : CallPoint} (h : s.calls.get? rid = some point) :
    s.prevLen? rid = point.prevLen? := by
  rw [prevLen?, h, Option.bind_some]

theorem prevLen?_maybeTriggerPolicy (s : InstrumentedVLLMEngine) (rid : String)
    (ending : EngineCallEnd) (now : ℚ) :
    (s.maybeTriggerPolicy rid ending now).prevLen? rid = none := by
  rw [maybeTriggerPolicy]
  split
  · dsimp only
    split
    · exact prevLen?_suspend_self _ rid _
    · exact prevLen?_finish_self _ rid _
  · exact prevLen?_finish_self _ rid _

/-- Apart from the outputs a stream receives, a step leaves its length or ends its
loop. -/
theorem prevLen?_stepAt {point : CallPoint} {a : EngineStep}
    (hpoint : s.calls.get? a.rid = some point)
    (hother : ∀ output now n, a = .output a.rid output now → point ≠ .streaming n) :
    (s.stepAt point a).prevLen? a.rid = none ∨
      (s.stepAt point a).prevLen? a.rid = s.prevLen? a.rid := by
  have hform := stepForm_stepAt s point a
  generalize s.stepAt point a = s' at hform
  cases hform with
  | stays => exact .inr rfl
  | goesOn h =>
      cases h with
      | generate rid output now vars vars' => exact .inl (prevLen?_suspend_self s rid _)
      | streamPast rid output now n textLen => exact absurd rfl (hother output now n rfl)
      | streamText rid output now n delta textLen => exact absurd rfl (hother output now n rfl)
      | mockPause rid now token rest => exact .inl (prevLen?_suspend_self s rid _)
      | mockYield rid now token rest => exact .inl (prevLen?_suspend_self s rid _)
      | streamOn rid now delta textLen =>
          right
          rw [prevLen?_of_get? hpoint]
          exact prevLen?_suspend_self s rid _
  | ends ending => exact .inl (prevLen?_finish_self s a.rid ending)
  | releases ending => exact .inl (prevLen?_finish_self _ a.rid ending)
  | checks ending now => exact .inl (prevLen?_maybeTriggerPolicy _ a.rid ending now)

theorem prevLen?_step {a : EngineStep} (hstarts : a.starts? ≠ some rid)
    (hother : ∀ output now n, a = .output rid output now →
      s.calls.get? rid ≠ some (.streaming n)) :
    (s.step a).prevLen? rid = none ∨ (s.step a).prevLen? rid = s.prevLen? rid := by
  by_cases hrid : a.rid = rid
  · subst hrid
    have hnone : a.starts? = none := by
      cases a with
      | start kind requestId uuid now initError paramsError => exact absurd rfl hstarts
      | _ => rfl
    rw [step_eq hnone]
    cases hpoint : s.calls.get? a.rid with
    | none => exact .inr rfl
    | some point =>
        refine prevLen?_stepAt hpoint (fun output now n ha hstreaming => ?_)
        exact hother output now n ha (hstreaming ▸ hpoint)
  · right
    rw [prevLen?, prevLen?, (SameElsewhere.step a).calls rid (Ne.symm hrid)]

/-- Only a received output is logged. -/
theorem logStep_of_not_received {a : EngineStep}
    (hother : ∀ output now n, a = .output rid output now →
      s.calls.get? rid ≠ some (.streaming n)) : logStep rid s log a = log := by
  unfold logStep
  split
  · rename_i rid' output now n hpoint
    refine if_neg (fun hrid => ?_)
    subst hrid
    exact hother output now n rfl hpoint
  · rfl

/-- A step that hands nothing out keeps the log. -/
theorem Follows.of_prevLen? (h : Follows rid (s, log))
    (hlen : s'.prevLen? rid = none ∨ s'.prevLen? rid = s.prevLen? rid) :
    Follows rid (s', log) where
  yielded := h.yielded
  prevLen n hn := by
    rcases hlen with hnone | hsame
    · rw [hnone] at hn
      cases hn
    · exact h.prevLen n (hsame ▸ hn)

/-- Receiving an output is one pass of the loop: the stream keeps its length and
hands out its text. -/
theorem receive_eq_pass {st : StreamState}
    (hpoint : s.calls.get? rid = some (.streaming st.prevLen)) (output : RequestOutput) (now : ℚ) :
    st.yielded ++ ((s.receive rid output now (.streaming st.prevLen)).calls.get? rid).elim []
        CallPoint.handedOut = (st.pass output).yielded ∧
      (s.receive rid output now (.streaming st.prevLen)).prevLen? rid =
        some (st.pass output).prevLen := by
  rw [StreamState.pass, InstrumentedVLLMEngine.receive]
  cases output.outputs with
  | nil =>
      refine ⟨?_, prevLen?_of_get? hpoint⟩
      simp [hpoint, CallPoint.handedOut]
  | cons best rest =>
      dsimp only
      split
      · refine ⟨?_, prevLen?_suspend_self s rid _⟩
        simp [CallPoint.handedOut]
      · refine ⟨?_, prevLen?_suspend_self s rid _⟩
        simp [CallPoint.handedOut]

/-- An output that a stream receives is followed. -/
theorem Follows.receive (h : Follows rid (s, log)) {n : Nat}
    (hpoint : s.calls.get? rid = some (.streaming n)) (output : RequestOutput) (now : ℚ) :
    Follows rid (loggedStep rid (s, log) (.output rid output now)) := by
  have hn : n = (streamGenerate log.received).prevLen :=
    h.prevLen n (prevLen?_of_get? hpoint)
  subst hn
  have hstep : s.step (.output rid output now) =
      s.receive rid output now (.streaming (streamGenerate log.received).prevLen) := by
    have hcall : s.calls.get? (EngineStep.output rid output now).rid = _ := hpoint
    rw [step_eq rfl, hcall]
    rfl
  have hlog : logStep rid s log (.output rid output now) =
      { received := log.received ++ [output]
        yielded := log.yielded ++
          ((s.step (.output rid output now)).calls.get? rid).elim [] CallPoint.handedOut } := by
    simp only [logStep, hpoint, if_true]
  obtain ⟨hyielded, hprevLen⟩ := receive_eq_pass hpoint output now
  rw [loggedStep, hlog, hstep]
  constructor
  · show log.yielded ++ _ = (streamGenerate (log.received ++ [output])).yielded
    rw [streamGenerate_append, ← hyielded]
    exact congrArg (· ++ _) h.yielded
  · intro m hm
    show m = (streamGenerate (log.received ++ [output])).prevLen
    rw [streamGenerate_append]
    rw [hprevLen, Option.some_inj] at hm
    exact hm.symm

/-- Every step is followed, unless it starts the request again. -/
theorem Follows.step (h : Follows rid (s, log)) {a : EngineStep} (hstarts : a.starts? ≠ some rid) :
    Follows rid (loggedStep rid (s, log) a) := by
  by_cases hreceived : ∃ output now n,
      a = .output rid output now ∧ s.calls.get? rid = some (.streaming n)
  · obtain ⟨output, now, n, rfl, hpoint⟩ := hreceived
    exact h.receive hpoint output now
  · have hother : ∀ output now n, a = .output rid output now →
        s.calls.get? rid ≠ some (.streaming n) :=
      fun output now n ha hpoint => hreceived ⟨output, now, n, ha, hpoint⟩
    rw [loggedStep, logStep_of_not_received hother]
    exact h.of_prevLen? (prevLen?_step hstarts hother)

/-- A stream of the real engine starts at the beginning of the text. -/
theorem get?_calls_start_stream {s s' : InstrumentedVLLMEngine} {requestId : Option String}
    {uuid : String} {now : ℚ} {initError : Option String}
    (hinit : s.initializeEngine initError = .ok s') (hmock : s'.mock = false) :
    (s.step (.start .stream requestId uuid now initError none)).calls.get?
      (RequestHandler.chooseId requestId uuid) = some (.streaming 0) := by
  have hmock' : (s'.register (RequestHandler.chooseId requestId uuid) now).mock = false := hmock
  simp [InstrumentedVLLMEngine.step, hinit, begin, EngineStep.rid, hmock']

end Steps

/-- In a run of the engine that does not start the request again, whatever other
calls do in it, a stream hands out what its loop yields of the outputs it has
received. -/
theorem yielded_of_run {rid : String} {s : InstrumentedVLLMEngine}
    (hpoint : s.calls.get? rid = some (.streaming 0)) (steps : List EngineStep)
    (hstarts : ∀ a ∈ steps, a.starts? ≠ some rid) :
    (run (loggedStep rid) (s, {}) steps).2.yielded =
      (streamGenerate (run (loggedStep rid) (s, {}) steps).2.received).yielded := by
  have hinit : Follows rid (s, {}) := by
    refine ⟨rfl, fun n hn => ?_⟩
    rw [prevLen?_of_get? hpoint] at hn
    exact (Option.some_inj.mp hn).symm
  exact (run_invariant_of_forall (P := fun a => a.starts? ≠ some rid)
    (fun _ _ hop hst => hst.step hop) steps _ hstarts hinit).yielded

/-- A stream of the real engine that is started, and not started again, loses no
text in any run after it: if the texts that it has received extend each other,
what it has handed out is the last of them. -/
theorem text_of_run {s s' : InstrumentedVLLMEngine} {requestId : Option String} {uuid : String}
    {now : ℚ} {initError : Option String} (hinit : s.initializeEngine initError = .ok s')
    (hmock : s'.mock = false) (steps : List EngineStep)
    (hstarts : ∀ a ∈ steps, a.starts? ≠ some (RequestHandler.chooseId requestId uuid)) :
    let st := run (loggedStep (RequestHandler.chooseId requestId uuid))
      (s.step (.start .stream requestId uuid now initError none), {}) steps
    Extending (candidateTexts st.2.received) →
      String.join st.2.yielded = lastText st.2.received := by
  intro st hextending
  have hyielded : st.2.yielded = (streamGenerate st.2.received).yielded :=
    yielded_of_run (get?_calls_start_stream hinit hmock) steps hstarts
  rw [hyielded]
  exact (holds_streamGenerate hextending).text

end InstrumentedVLLMEngine

end KVOrchestrator.Ports
