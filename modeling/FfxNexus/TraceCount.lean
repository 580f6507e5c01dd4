/-
**One trace for each translated request.** The four dispatchers of `/v1/responses` and
`/v1/messages` record traces in different places.
-/
import FfxNexus.TranslatedFailover
import FfxNexus.ResponsesStream

namespace FfxNexus.TraceCount
open Interaction Schema Providers Gateway Translated Effects TranslatedFailover List ResponsesStream
open Interaction.Prog hiding perform
open Dispatch (caller noKeys plainRequest)

def isFailure : ResponsesEvent → Bool
  | .failed .. => true
  | _ => false

def isError : MessagesEvent → Bool
  | .error _ => true
  | _ => false

def responsesError : Reply ResponsesBody → Bool
  | .error .. => true
  | .ok (.completion ..) => false
  | .ok (.stream events _) => events.any isFailure

def messagesError : Reply MessagesBody → Bool
  | .error .. => true
  | .ok (.completion ..) => false
  | .ok (.stream events) => events.any isError

def TracedOnce (log : List GEvent) (answeredError : Bool) : Prop :=
  ∃ t, records log = [t] ∧ (400 ≤ t.statusCode ↔ answeredError = true)

lemma not_tracedOnce_nil {log : List GEvent} {b : Bool} (hnone : records log = []) :
    ¬ TracedOnce log b := by
  rintro ⟨t, hone, -⟩
  rw [hnone] at hone
  cases hone

lemma tracedOnce_singleton {log : List GEvent} {b : Bool} {t : Trace} (hone : records log = [t]) :
    TracedOnce log b ↔ (400 ≤ t.statusCode ↔ b = true) := by
  constructor
  · rintro ⟨t', hone', hstatus⟩
    rw [hone] at hone'
    obtain ⟨rfl, -⟩ := cons.inj hone'
    exact hstatus
  · intro hstatus
    exact ⟨t, hone, hstatus⟩

lemma records_recordTrace {t : Trace} {log : List GEvent} {u : Unit}
    (hrun : (recordTrace t).Runs log u) : records log = [t] := by
  obtain ⟨x, rest, rfl, hret⟩ := runs_op.mp hrun
  obtain ⟨rfl, -⟩ := hret.done
  rfl

variable {F : Fates} {h : Handler} {ctx : Ctx} {req : ChatCompletionRequest} {log : List GEvent}

lemma translatedAttempt_status {chainLen : ℕ} {t : Trace} {start : Int} {cand : Candidate}
    {ref : ProviderRef} {r : Option ChatCompletionResponse × Trace}
    (hrun : (translatedAttempt h ctx req chainLen t start cand ref).Runs log r)
    (hsome : r.1.isSome = true) : r.2.statusCode = 200 := by
  obtain ⟨_, a, _, -, -, hrun1⟩ := hrun.split
  split at hrun1
  · obtain ⟨ms, -, rfl⟩ := hrun1.map
    cases hsome
  obtain ⟨y, _, -, hrun2⟩ := hrun1.first
  cases y with
  | error err =>
    obtain ⟨ms, -, rfl⟩ := hrun2.map
    cases hsome
  | ok resp =>
    obtain ⟨ms, -, rfl⟩ := hrun2.map
    rfl

lemma translatedAttempt_within (chainLen : ℕ) (t : Trace) (start : Int) (cand : Candidate)
    (ref : ProviderRef) : Within [.clock, .credential, .call]
      (translatedAttempt h ctx req chainLen t start cand ref) := by
  have hclock : ∀ {β : Type} (k : Int → GProg β),
      (∀ ms, Within [.clock, .credential, .call] (k ms)) →
      Within [.clock, .credential, .call] (sinceMs start >>= k) := fun k hk =>
    ((sinceMs_within start).mono (by decide)).bind hk
  refine ((lookupCredential_within ..).mono (by decide)).bind fun answer => ?_
  split
  · exact hclock _ fun _ => trivial
  refine Within.bind (within_perform (by simp [effect])) fun r => ?_
  cases r with
  | error err => exact hclock _ fun _ => trivial
  | ok resp => exact hclock _ fun _ => trivial

lemma executeTranslated_records {r : Option ChatCompletionResponse × Option Trace}
    (hrun : (executeTranslated h ctx req).Runs log r) :
    records log = [] ∧ (r.1.isSome = true → ∃ t, r.2 = some t ∧ t.statusCode = 200) := by
  unfold executeTranslated at hrun
  cases hrefs : pickResponsesChain h req.model with
  | none =>
    rw [hrefs] at hrun
    obtain ⟨rfl, rfl⟩ := hrun.done
    exact ⟨rfl, fun hsome => by cases hsome⟩
  | some refs =>
    rw [hrefs] at hrun
    obtain ⟨ref, rest, rfl⟩ := exists_cons_of_ne_nil (pickResponsesChain_ne_nil hrefs)
    obtain ⟨l1, t, _, rfl, htrace, hrun1⟩ := hrun.split
    obtain ⟨l2, start, _, rfl, hstart, hrun2⟩ := hrun1.split
    obtain ⟨x, hattempt, rfl⟩ := hrun2.map
    refine ⟨?_, fun hsome => ⟨x.2, rfl, translatedAttempt_status hattempt hsome⟩⟩
    rw [records_append, records_append, (newTrace_within ..).records_eq_nil htrace rfl,
      now_within.records_eq_nil hstart rfl,
      (translatedAttempt_within ..).records_eq_nil hattempt rfl]
    rfl

lemma unary_traced_iff {β : Type} (s : Surface) {body : ℚ → ChatCompletionResponse → β}
    {answeredError : Reply β → Bool}
    (hbody : ∀ cost resp, answeredError (.ok (body cost resp)) = false) {reply : Reply β}
    (hrun : (do
      let r ← s.execute h ctx req
      answerTranslated h ctx req body r).Runs log reply) (hF : Follows F log) :
    TracedOnce log (answeredError reply) ↔
      (∃ refs, pickResponsesChain h req.model = some refs) ∧ ¬ firstRefused F h ∧
        ∃ resp, F.unary 0 = .ok resp := by
  obtain ⟨l1, r, l2, rfl, hexecute, hanswer⟩ := hrun.split
  have hexecute' : (executeTranslated h ctx req).Runs l1 r := by cases s <;> exact hexecute
  obtain ⟨hrecords, htrace⟩ := executeTranslated_records hexecute'
  have hresult : r.1.isSome = true ↔ (∃ refs, pickResponsesChain h req.model = some refs) ∧
      ¬ firstRefused F h ∧ ∃ resp, F.unary 0 = .ok resp := by
    cases hrefs : pickResponsesChain h req.model with
    | none =>
      unfold executeTranslated at hexecute'
      rw [hrefs] at hexecute'
      obtain ⟨-, rfl⟩ := hexecute'.done
      simp
    | some refs =>
      rcases execute_first s hrefs hexecute (follows_append.mp hF).1 with
        ⟨hrefused, hnone, -⟩ | ⟨hcalled, hfirst, -⟩
      · rw [hnone]
        exact iff_of_false (by simp) fun hcond => hcond.2.1 hrefused
      · rw [hfirst]
        cases F.unary 0 <;> simp [hcalled, Except.toOption]
  rw [← hresult]
  obtain ⟨result, trace⟩ := r
  cases result with
  | none =>
    obtain ⟨rfl, rfl⟩ := hanswer.done
    refine iff_of_false (not_tracedOnce_nil ?_) (by simp)
    rw [append_nil, hrecords]
  | some resp =>
    obtain ⟨t, rfl, hstatus⟩ := htrace rfl
    obtain ⟨l3, _, _, rfl, hrecord, hrun1⟩ := hanswer.split
    obtain ⟨l4, _, _, rfl, hspend, hret⟩ := hrun1.split
    obtain ⟨rfl, rfl⟩ := hret.done
    have hone : records (l1 ++ (l3 ++ (l4 ++ []))) = records l3 := by
      rw [records_append, records_append, hrecords, append_nil,
        (recordSpend_within ..).records_eq_nil hspend rfl, append_nil, nil_append]
    rw [records_recordTrace hrecord] at hone
    rw [tracedOnce_singleton hone, hbody]
    rw [hstatus]
    simp

variable (events : List StreamEvent) (st : MessagesState)

def errsAfterChunk : Bool :=
  Spend.failed events && (events.takeWhile fun e => e.err.isNone).any fun e => e.chunk.isSome

section
variable {respID model suffix : String} {start : Int}

lemma any_isFailure (st : ResponsesState) :
    st.out.any isFailure = (envelope st).any isFailure := by
  unfold envelope
  rw [any_filter]
  refine congrArg st.out.any (funext fun e => ?_)
  cases e <;> rfl

variable {r : ResponsesRelay}

lemma responsesChunk_status {r' : ResponsesRelay} {c : ChatCompletionChunk}
    (hrun : (responsesChunk suffix start r c).Runs log r') :
    r'.st.out.any isFailure = r.st.out.any isFailure ∧
      r'.trace.statusCode = r.trace.statusCode ∧ r'.firstChunk = true := by
  obtain ⟨_, ms, _, -, -, hrun1⟩ := hrun.split
  obtain ⟨st, hchoices, rfl⟩ := hrun1.map
  have hkept := Spend.foldProg_keeps (g := envelope)
    responsesChoice_envelope hchoices
  refine ⟨?_, rfl, rfl⟩
  rw [any_isFailure, hkept, any_isFailure]
  rfl

variable {x : ResponsesRelay × Bool}

lemma responsesEvents_status {events : List StreamEvent}
    (hrun : (responsesEvents respID model suffix start events r).Runs log x)
    (hquiet : r.st.out.any isFailure = false) : x.1.st.out.any isFailure = x.2 ∧
      (x.2 = true → x.1.trace.statusCode =
        if r.firstChunk || (events.takeWhile fun e => e.err.isNone).any fun e => e.chunk.isSome
        then r.trace.statusCode else 502) := by
  induction events generalizing r log with
  | nil =>
    obtain ⟨-, rfl⟩ := hrun.done
    exact ⟨hquiet, fun htrue => by cases htrue⟩
  | cons e events ih =>
    unfold responsesEvents at hrun
    cases herr : e.err with
    | some err =>
      rw [herr] at hrun
      obtain ⟨ms, -, rfl⟩ := hrun.map
      refine ⟨?_, fun _ => ?_⟩
      · rw [any_append, hquiet]
        rfl
      have hstops : (e :: events).takeWhile (fun e => e.err.isNone) = [] := by
        rw [takeWhile_cons, herr]
        rfl
      rw [hstops, any_nil, Bool.or_false]
    | none =>
      have hgoes : (e :: events).takeWhile (fun e => e.err.isNone) =
          e :: events.takeWhile fun e => e.err.isNone := by
        rw [takeWhile_cons, herr]
        rfl
      rw [herr] at hrun
      rw [hgoes, any_cons]
      dsimp only at hrun
      split_ifs at hrun with hdone
      · obtain ⟨-, rfl⟩ := hrun.done
        exact ⟨hquiet, fun htrue => by cases htrue⟩
      cases hc : e.chunk with
      | none =>
        rw [hc] at hrun
        exact ih hrun hquiet
      | some c =>
        rw [hc] at hrun
        obtain ⟨_, r1, _, -, hchunk, hrest⟩ := hrun.split
        obtain ⟨hfailures, hstatus, hfirst⟩ := responsesChunk_status hchunk
        obtain ⟨hflag, hrelayed⟩ := ih hrest (hfailures.trans hquiet)
        refine ⟨hflag, fun htrue => ?_⟩
        rw [hrelayed htrue, hfirst, hstatus]
        simp

variable {refs : List ProviderRef}

lemma responsesProviders_step {i : ℕ} {ref : ProviderRef}
    (hrun : (responsesProviders h ctx req respID suffix start i (ref :: refs) r).Runs log x)
    (hF : Follows F log) :
    (∃ s t l, F.stream i = .ok s ∧ records log = [] ∧ t.statusCode = r.trace.statusCode ∧
      (responsesEvents respID req.model suffix start s.events ⟨r.st, t, false⟩).Runs l x) ∨
    ∃ err t l, F.stream i = .error err ∧ records log = records l ∧ t.statusCode = 502 ∧
      Follows F l ∧ (responsesProviders h ctx req respID suffix start (i + 1) refs
        ⟨r.st, t, r.firstChunk⟩).Runs l x := by
  obtain ⟨l1, answer, _, rfl, hlookup, hrun1⟩ := hrun.split
  obtain ⟨y, l2, rfl, hrun2⟩ := hrun1.first
  obtain ⟨-, hF1⟩ := follows_append.mp hF
  obtain ⟨hy, hF2⟩ := follows_cons.mp hF1
  have hfront := (lookupCredential_within ..).records_eq_nil hlookup rfl
  have hrecords : ∀ {o : Op} {z : Ans o} {l : List GEvent}, trace? o = none →
      records (l1 ++ ⟨o, z⟩ :: l) = records l := by
    intro o z l ho
    rw [records_append, hfront, nil_append, records, records, filterMap_cons, ho]
  cases y with
  | ok s =>
    refine .inl ⟨s, _, l2, hy.symm, ?_, ?_, hrun2⟩
    · rw [hrecords rfl, (responsesEvents_within ..).records_eq_nil hrun2 rfl]
    · rfl
  | error err =>
    obtain ⟨l3, ms, l4, rfl, hms, hrest⟩ := hrun2.split
    refine .inr ⟨err, _, l4, hy.symm, ?_, ?_, (follows_append.mp hF2).2, hrest⟩
    · rw [hrecords rfl, records_append, (sinceMs_within _).records_eq_nil hms rfl, nil_append]
    · rfl

lemma responsesProviders_status {i : ℕ}
    (hrun : (responsesProviders h ctx req respID suffix start i refs r).Runs log x)
    (hF : Follows F log) (hquiet : r.st.out.any isFailure = false) :
    records log = [] ∧ x.1.st.out.any isFailure = x.2 ∧
      (r.trace.statusCode = 502 → x.2 = true → x.1.trace.statusCode = 502) := by
  induction refs generalizing i r log with
  | nil =>
    obtain ⟨rfl, rfl⟩ := hrun.done
    exact ⟨rfl, hquiet, fun _ htrue => by cases htrue⟩
  | cons ref refs ih =>
    rcases responsesProviders_step hrun hF with
      ⟨s, t, l, -, hrecords, hstatus, hrelay⟩ | ⟨err, t, l, -, hrecords, hstatus, hF', hrest⟩
    · obtain ⟨hflag, hrelayed⟩ := responsesEvents_status hrelay hquiet
      refine ⟨hrecords, hflag, fun hr htrue => ?_⟩
      rw [hrelayed htrue, hstatus, hr, ite_self]
    · obtain ⟨hnone, hflag, hfailed⟩ := ih hrest hF' hquiet
      exact ⟨hrecords.trans hnone, hflag, fun _ => hfailed hstatus⟩

lemma newTrace_status {name : String} {t : Trace} (hrun : (newTrace h ctx req name).Runs log t) :
    t.statusCode = 0 := by
  obtain ⟨_, _, _, -, -, hrun1⟩ := hrun.split
  obtain ⟨_, _, _, -, -, hrun2⟩ := hrun1.split
  obtain ⟨_, -, rfl⟩ := hrun2.map
  rfl

variable {reply : Reply ResponsesBody}

lemma finishResponses_traced (hquiet : r.st.out.any isFailure = false)
    (hrun : (finishResponses h ctx req respID suffix start r).Runs log reply) :
    TracedOnce log (responsesError reply) := by
  obtain ⟨l1, ms, _, rfl, hms, hrun1⟩ := hrun.split
  obtain ⟨l2, _, _, rfl, hrecord, hrun2⟩ := hrun1.split
  obtain ⟨l3, _, _, rfl, hspend, hret⟩ := hrun2.split
  obtain ⟨rfl, rfl⟩ := hret.done
  have hone : records (l1 ++ (l2 ++ (l3 ++ []))) = records l2 := by
    rw [records_append, records_append, (sinceMs_within _).records_eq_nil hms rfl,
      append_nil, (recordSpend_within ..).records_eq_nil hspend rfl, append_nil, nil_append]
  rw [records_recordTrace hrecord] at hone
  have hclosing : ∀ cost status, (closingEvents respID req.model suffix r.st cost status).any
      isFailure = false := by
    intro cost status
    simp only [closingEvents]
    cases r.st.text.filter (· ≠ "") <;> simp [isFailure]
  rw [tracedOnce_singleton hone, responsesError, any_append, hquiet, hclosing]
  simp

lemma relayed_traced_iff (hflag : x.1.st.out.any isFailure = x.2) (hrun : (if x.2 then do
        recordTrace x.1.trace return .ok (.stream x.1.st.out none)
      else finishResponses h ctx req respID suffix start x.1).Runs log reply) :
    TracedOnce log (responsesError reply) ↔ (x.2 = true → 400 ≤ x.1.trace.statusCode) := by
  cases hfailed : x.2 with
  | false =>
    rw [hfailed] at hrun
    rw [hfailed] at hflag
    exact iff_of_true (finishResponses_traced hflag hrun) (by simp)
  | true =>
    rw [hfailed] at hrun
    obtain ⟨l1, _, _, rfl, hrecord, hret⟩ := hrun.split
    obtain ⟨rfl, rfl⟩ := hret.done
    have hone : records (l1 ++ []) = [x.1.trace] := by
      rw [append_nil, records_recordTrace hrecord]
    rw [tracedOnce_singleton hone, responsesError, hflag, hfailed]
    simp

lemma responsesStream_traced_iff (hrefs : pickResponsesChain h req.model = some refs)
    (hrun : (handleResponsesStream h ctx true req).Runs log reply) (hF : Follows F log) :
    TracedOnce log (responsesError reply) ↔
      ∀ s, F.stream 0 = .ok s → errsAfterChunk s.events = false := by
  unfold handleResponsesStream at hrun
  rw [hrefs] at hrun
  obtain ⟨ref, rest, rfl⟩ := exists_cons_of_ne_nil (pickResponsesChain_ne_nil hrefs)
  obtain ⟨l1, suffix, _, rfl, hid, hrun1⟩ := hrun.split
  obtain ⟨l2, created, _, rfl, hcreated, hrun2⟩ := hrun1.split
  obtain ⟨l3, start, _, rfl, hstart, hrun3⟩ := hrun2.split
  obtain ⟨l4, t, _, rfl, htrace, hrun4⟩ := hrun3.split
  obtain ⟨l5, x, l6, rfl, hproviders, hfinish⟩ := hrun4.split
  simp only [follows_append] at hF
  obtain ⟨-, -, -, -, hF', -⟩ := hF
  obtain ⟨hnone, hflag, -⟩ := responsesProviders_status hproviders hF' rfl
  have hrecords : records (l1 ++ (l2 ++ (l3 ++ (l4 ++ (l5 ++ l6))))) = records l6 := by
    simp only [records_append, newUUID_within.records_eq_nil hid rfl,
      now_within.records_eq_nil hcreated rfl, now_within.records_eq_nil hstart rfl,
      (newTrace_within ..).records_eq_nil htrace rfl, hnone, nil_append]
  have hlast : TracedOnce (l1 ++ (l2 ++ (l3 ++ (l4 ++ (l5 ++ l6))))) (responsesError reply) ↔
      TracedOnce l6 (responsesError reply) := by
    rw [TracedOnce, TracedOnce, hrecords]
  rw [hlast, relayed_traced_iff hflag hfinish]
  rcases responsesProviders_step hproviders hF' with
    ⟨s, t', l, hopen, -, hstatus, hrelay⟩ | ⟨err, t', l, hfails, -, hstatus, hF'', hrest⟩
  · -- the first stream opens: a status of 0 stays if a chunk came before the error
    obtain ⟨-, hrelayed⟩ := responsesEvents_status hrelay rfl
    obtain ⟨hfailed, -, -⟩ := Spend.responsesEvents_relayed s.protocol hrelay
    have hzero : t'.statusCode = 0 := by
      have hfresh : t.statusCode = 0 := newTrace_status htrace
      exact hstatus.trans hfresh
    rw [hzero] at hrelayed
    have honly : (∀ s', F.stream 0 = .ok s' → errsAfterChunk s'.events = false) ↔
        errsAfterChunk s.events = false := by
      rw [hopen]
      simp
    rw [honly, errsAfterChunk, ← hfailed]
    cases hx : x.2 with
    | false => simp
    | true =>
      rw [hrelayed hx]
      cases (s.events.takeWhile fun e => e.err.isNone).any fun e => e.chunk.isSome <;> simp
  · -- it does not, and every later failure has the status of that one
    obtain ⟨-, -, hfailed⟩ := responsesProviders_status hrest hF'' rfl
    refine iff_of_true (fun hx => ?_) ?_
    · rw [hfailed hstatus hx]
      decide
    · intro s hopen
      rw [hfails] at hopen
      cases hopen

end

def relays (e : StreamEvent) : Bool := e.err.isNone && !e.done && e.chunk.isSome

def errsInRelay : Bool :=
  (events.find? fun e => !relays e).any fun e => e.err.isSome

lemma any_isError : st.out.any isError = (MessagesStream.frame st).any isError := by
  unfold MessagesStream.frame
  rw [any_filter]
  refine congrArg st.out.any (funext fun e => ?_)
  cases e <;> rfl

lemma messagesEvents_error {events : List StreamEvent} {st st' : MessagesState}
    (hrun : (messagesEvents events st).Runs log st') (hquiet : st.out.any isError = false) :
    st'.out.any isError = errsInRelay events := by
  induction events generalizing st log with
  | nil =>
    obtain ⟨-, rfl⟩ := hrun.done
    exact hquiet
  | cons e events ih =>
    unfold messagesEvents at hrun
    rw [errsInRelay, find?_cons]
    cases herr : e.err with
    | some err =>
      rw [herr] at hrun
      obtain ⟨-, rfl⟩ := hrun.done
      simp [relays, herr, isError]
    | none =>
      rw [herr] at hrun
      cases hdone : e.done with
      | true =>
        rw [hdone] at hrun
        obtain ⟨-, rfl⟩ := hrun.done
        simp [relays, hdone, herr, hquiet]
      | false =>
        cases hc : e.chunk with
        | none =>
          rw [hdone, hc] at hrun
          obtain ⟨-, rfl⟩ := hrun.done
          simp [relays, hc, herr, hquiet]
        | some c =>
          rw [hdone, hc] at hrun
          obtain ⟨_, st1, _, -, hchoices, hrest⟩ := hrun.split
          have hkept := Spend.foldProg_keeps (g := MessagesStream.frame)
            MessagesStream.messagesChoice_frame hchoices
          have hquiet1 : st1.out.any isError = false := by
            rw [any_isError, hkept, ← any_isError]
            exact hquiet
          rw [ih hrest hquiet1, errsInRelay]
          simp [relays, herr, hdone, hc]

lemma messagesProviders_step {chainLen i : ℕ} {start : Int} {ref : ProviderRef}
    {refs : List ProviderRef} {st st' : MessagesState}
    (hrun : (messagesProviders h ctx req chainLen start i (ref :: refs) st).Runs log st')
    (hF : Follows F log) :
    (∃ s l, F.stream i = .ok s ∧ records log = [] ∧ (messagesEvents s.events st).Runs l st') ∨
    ∃ err t l, F.stream i = .error err ∧ records log = t :: records l ∧ t.statusCode = 502 ∧
      Follows F l ∧ (messagesProviders h ctx req chainLen start (i + 1) refs st).Runs l st' := by
  obtain ⟨l1, answer, _, rfl, hlookup, hrun1⟩ := hrun.split
  obtain ⟨l2, t, _, rfl, htrace, hrun2⟩ := hrun1.split
  obtain ⟨y, l3, rfl, hrun3⟩ := hrun2.first
  simp only [follows_append, follows_cons] at hF
  obtain ⟨-, -, hy, hF3⟩ := hF
  have hfront := (lookupCredential_within ..).records_eq_nil hlookup rfl
  have htraced := (newTrace_within ..).records_eq_nil htrace rfl
  have hrecords : ∀ {o : Op} {z : Ans o} {l : List GEvent}, trace? o = none →
      records (l1 ++ (l2 ++ ⟨o, z⟩ :: l)) = records l := by
    intro o z l ho
    rw [records_append, hfront, records_append, htraced, nil_append, nil_append, records,
      records, filterMap_cons, ho]
  cases y with
  | ok s =>
    refine .inl ⟨s, l3, hy.symm, ?_, hrun3⟩
    rw [hrecords rfl, (messagesEvents_within ..).records_eq_nil hrun3 rfl]
  | error err =>
    obtain ⟨l4, ms, _, rfl, hms, hrun4⟩ := hrun3.split
    obtain ⟨l5, _, l6, rfl, hrecord, hrest⟩ := hrun4.split
    simp only [follows_append] at hF3
    obtain ⟨failed, hone, hstatus⟩ : ∃ t', records l5 = [t'] ∧ t'.statusCode = 502 :=
      ⟨_, records_recordTrace hrecord, rfl⟩
    refine .inr ⟨err, failed, l6, hy.symm, ?_, hstatus, hF3.2.2, hrest⟩
    rw [hrecords rfl, records_append, (sinceMs_within _).records_eq_nil hms rfl,
      records_append, hone]
    rfl

lemma closing_error : st.closing.any isError = false := by
  unfold MessagesState.closing
  cases st.textOpened <;> simp [isError]

lemma messagesStream_traced_iff {refs : List ProviderRef} {reply : Reply MessagesBody}
    (hrefs : pickResponsesChain h req.model = some refs)
    (hrun : (handleMessagesStream h ctx true req).Runs log reply) (hF : Follows F log) :
    TracedOnce log (messagesError reply) ↔ 2 ≤ refs.length ∧ (∃ err, F.stream 0 = .error err) ∧
        ∃ s, F.stream 1 = .ok s ∧ errsInRelay s.events = true := by
  unfold handleMessagesStream at hrun
  rw [hrefs] at hrun
  obtain ⟨ref, rest, rfl⟩ := exists_cons_of_ne_nil (pickResponsesChain_ne_nil hrefs)
  obtain ⟨l1, id, _, rfl, hid, hrun1⟩ := hrun.split
  obtain ⟨l2, start, l3, rfl, hstart, hrun2⟩ := hrun1.split
  obtain ⟨st, hproviders, rfl⟩ := hrun2.map
  simp only [follows_append] at hF
  obtain ⟨-, -, hF'⟩ := hF
  have hrecords : records (l1 ++ (l2 ++ l3)) = records l3 := by
    rw [records_append, newUUID_within.records_eq_nil hid rfl, records_append,
      now_within.records_eq_nil hstart rfl, nil_append, nil_append]
  have herror : messagesError (.ok (.stream (st.out ++ st.closing))) = st.out.any isError := by
    rw [messagesError, any_append, closing_error, Bool.or_false]
  rw [herror]
  rcases messagesProviders_step hproviders hF' with
    ⟨s, l, hopen, hnone, -⟩ | ⟨err, t, l, hfails, hone, hstatus, hF1, hrest⟩
  · -- the first stream opens, and nothing is recorded
    refine iff_of_false (not_tracedOnce_nil (hrecords.trans hnone)) ?_
    rintro ⟨-, ⟨err, herr⟩, -⟩
    rw [hopen] at herr
    cases herr
  · rw [← hrecords] at hone
    cases rest with
    | nil =>
      obtain ⟨rfl, rfl⟩ := hrest.done
      rw [tracedOnce_singleton hone, hstatus]
      simp [isError]
    | cons ref' rest =>
      rcases messagesProviders_step hrest hF1 with
        ⟨s, l', hopen, hnone, hrelay⟩ | ⟨err', t', l', hfails', hmore, -, -, -⟩
      · rw [hnone] at hone
        rw [tracedOnce_singleton hone, hstatus, messagesEvents_error hrelay rfl, hfails, hopen]
        simp
      · refine iff_of_false ?_ ?_
        · rintro ⟨t'', htwo, -⟩
          rw [hone, hmore] at htwo
          simp at htwo
        · rintro ⟨-, -, s, hopen, -⟩
          rw [hfails'] at hopen
          cases hopen

def OneTrace (s : Surface) (F : Fates) (h : Handler) (flusher stream : Bool) (model : String) :
    Prop :=
  ∃ refs, pickResponsesChain h model = some refs ∧
    if stream = true then
      flusher = true ∧
        match s with
        | .responses => ∀ u, F.stream 0 = .ok u → errsAfterChunk u.events = false
        | .messages => 2 ≤ refs.length ∧ (∃ err, F.stream 0 = .error err) ∧
            ∃ u, F.stream 1 = .ok u ∧ errsInRelay u.events = true
    else ¬ firstRefused F h ∧ ∃ resp, F.unary 0 = .ok resp

section
variable {flusher : Bool} {chat : ChatCompletionRequest}

lemma responsesStream_oneTrace {reply : Reply ResponsesBody}
    (hrun : (handleResponsesStream h ctx flusher chat).Runs log reply) (hF : Follows F log) :
    TracedOnce log (responsesError reply) ↔ OneTrace .responses F h flusher true chat.model := by
  cases hrefs : pickResponsesChain h chat.model with
  | none =>
    unfold handleResponsesStream at hrun
    rw [hrefs] at hrun
    obtain ⟨rfl, -⟩ := hrun.done
    exact iff_of_false (not_tracedOnce_nil rfl) (by simp [OneTrace, hrefs])
  | some refs =>
    cases flusher with
    | false =>
      unfold handleResponsesStream at hrun
      rw [hrefs] at hrun
      obtain ⟨rfl, -⟩ := hrun.done
      exact iff_of_false (not_tracedOnce_nil rfl) (by simp [OneTrace])
    | true =>
      rw [responsesStream_traced_iff hrefs hrun hF]
      simp [OneTrace, hrefs]

lemma messagesStream_oneTrace {reply : Reply MessagesBody}
    (hrun : (handleMessagesStream h ctx flusher chat).Runs log reply) (hF : Follows F log) :
    TracedOnce log (messagesError reply) ↔ OneTrace .messages F h flusher true chat.model := by
  cases hrefs : pickResponsesChain h chat.model with
  | none =>
    unfold handleMessagesStream at hrun
    rw [hrefs] at hrun
    obtain ⟨rfl, -⟩ := hrun.done
    exact iff_of_false (not_tracedOnce_nil rfl) (by simp [OneTrace, hrefs])
  | some refs =>
    cases flusher with
    | false =>
      unfold handleMessagesStream at hrun
      rw [hrefs] at hrun
      obtain ⟨rfl, -⟩ := hrun.done
      exact iff_of_false (not_tracedOnce_nil rfl) (by simp [OneTrace])
    | true =>
      rw [messagesStream_traced_iff hrefs hrun hF]
      simp [OneTrace, hrefs]

lemma unary_oneTrace {β : Type} (s : Surface) {body : ℚ → ChatCompletionResponse → β}
    {answeredError : Reply β → Bool}
    (hbody : ∀ cost resp, answeredError (.ok (body cost resp)) = false) {reply : Reply β}
    (hrun : (do
      let r ← s.execute h ctx chat
      answerTranslated h ctx chat body r).Runs log reply) (hF : Follows F log) :
    TracedOnce log (answeredError reply) ↔ OneTrace s F h flusher false chat.model := by
  rw [unary_traced_iff s hbody hrun hF]
  simp [OneTrace]

end

theorem translated_trace_iff (F : Fates) (h : Handler) (ctx : Ctx) (flusher : Bool) :
    (∀ (req : ResponsesRequest) (chat : ChatCompletionRequest), req.model ≠ "" →
      req.chat = .ok chat → ∀ log reply, (responses h ctx flusher (.ok req)).Runs log reply →
        Follows F log → (TracedOnce log (responsesError reply) ↔
          OneTrace .responses F h flusher req.stream chat.model)) ∧
    (∀ (req : MessagesRequest) (chat : ChatCompletionRequest), req.model ≠ "" →
      req.messageCount ≠ 0 → req.chat = .ok chat →
        ∀ log reply, (messages h ctx flusher (.ok req)).Runs log reply →
          Follows F log → (TracedOnce log (messagesError reply) ↔
            OneTrace .messages F h flusher req.stream chat.model)) := by
  constructor
  · intro req chat hmodel hchat log reply hrun hF
    unfold responses at hrun
    dsimp only at hrun
    rw [if_neg hmodel, hchat] at hrun
    dsimp only at hrun
    cases hstream : req.stream with
    | true =>
      rw [hstream] at hrun
      exact responsesStream_oneTrace hrun hF
    | false =>
      rw [hstream] at hrun
      exact unary_oneTrace .responses (fun _ _ => rfl) hrun hF
  · intro req chat hmodel hcount hchat log reply hrun hF
    unfold messages at hrun
    dsimp only at hrun
    rw [if_neg hmodel, if_neg hcount, hchat] at hrun
    dsimp only at hrun
    cases hstream : req.stream with
    | true =>
      rw [hstream] at hrun
      exact messagesStream_oneTrace hrun hF
    | false =>
      rw [hstream, if_neg Bool.false_ne_true] at hrun
      exact unary_oneTrace .messages (fun _ _ => rfl) hrun hF

theorem translated_trace_answered :
    OneTrace .responses (failingBelow 0) pairHandler true false "fast" ∧
      ∀ log reply, (responses pairHandler caller true
          (.ok ⟨"fast", false, .ok (plainRequest "fast")⟩)).Runs log reply →
        Follows (failingBelow 0) log → TracedOnce log (responsesError reply) := by
  have hone : OneTrace .responses (failingBelow 0) pairHandler true false "fast" := by
    refine ⟨_, pairRefs_eq, ?_⟩
    refine ⟨?_, _, rfl⟩
    rintro ⟨hres, -⟩
    cases hres
  refine ⟨hone, ?_⟩
  intro log reply hrun hF
  exact ((translated_trace_iff (failingBelow 0) pairHandler caller true).1 _ _
    (by decide) rfl log reply hrun hF).mpr hone

theorem translated_trace_lost : ∃ log reply, (responses pairHandler caller true
        (.ok ⟨"fast", false, .ok (plainRequest "fast")⟩)).Runs log reply ∧
      reply.status = 502 ∧ records log = [] := by
  refine ⟨_, _, execute_runs noKeys.oracle _, ?_, ?_⟩ <;> decide

end FfxNexus.TraceCount
