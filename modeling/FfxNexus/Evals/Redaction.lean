/-
**What a plugin is sent of a trace** (`Dispatch`, `renderPayload`, `redactPayload` of
`internal/evaluators/external/dispatcher.go`, and the patterns of
`internal/evaluators/heuristic/patterns.go`).
-/
import FfxNexus.Evals.PluginKeys
import FfxNexus.Gateway
import FfxNexus.Json
import FfxNexus.Regexp
import Mathlib.Data.List.Infix

namespace FfxNexus.Evals
open Gateway Json Regexp List

def digit : Regexp := .char Char.isDigit

def bounded (r : Regexp) : Regexp := .seq .boundary (.seq r .boundary)

def grouped (sep : Char) : List ℕ → Regexp
  | [] => .eps
  | [n] => times n digit
  | n :: ns => .seq (times n digit) (.seq (lit sep) (grouped sep ns))

def emailPattern : Regexp :=
  .seq (plus (.char fun c => c.isAlphanum || c ∈ ['.', '_', '%', '+', '-']))
    (.seq (lit '@') (.seq (plus (.char fun c => c.isAlphanum || c ∈ ['.', '-']))
        (.seq (lit '.') (.seq (.char Char.isAlpha) (plus (.char Char.isAlpha))))))

def residentNumber : Regexp :=
  .seq (times 6 digit) (.seq (lit '-')
    (.seq (.char fun c => c ∈ ['1', '2', '3', '4']) (times 6 digit)))

def ipv4 : Regexp :=
  let part : Regexp := .seq digit (upTo 2 digit)
  .seq (times 3 (.seq part (lit '.'))) part

def piiPatterns : List Regexp :=
  [bounded (grouped '-' [3, 2, 4]), bounded (times 9 digit), bounded (grouped ' ' [3, 3, 4]),
    bounded residentNumber, emailPattern, bounded (grouped '-' [3, 3, 4]),
    bounded (grouped '-' [3, 4, 4]), bounded ipv4]

variable (s : String)

def reRedactEmail : Regexp := emailPattern

structure EvalTrace extends Trace where
  evalMetadata : Fields := []

def omitEmpty (k s : String) : Fields := if s = "" then [] else [(k, .str s)]

def attemptFields (a : ProviderAttempt) : Fields :=
  List.flatten
    [[("index", .num a.index), ("provider", .str a.provider), ("model", .str a.model)],
      omitEmpty "credential_source" a.credentialSource,
      [("status_code", .num a.statusCode), ("latency_ms", .num a.latencyMs)],
      omitEmpty "error_type" a.errorType, omitEmpty "error_message" a.errorMsg,
      if a.cacheHit then [("cache_hit", .bool true)] else [],
      [("fallback_allowed", .bool a.fallbackAllowed)]]

def reasonFields (r : PolicyReason) : Fields :=
  [("code", .str r.code)] ++ omitEmpty "rule_id" r.ruleID ++ omitEmpty "detail" r.detail

def traceFields (formatTime : ℤ → String) (t : EvalTrace) : Fields :=
  List.flatten
    [[("trace_id", .str t.traceID), ("span_id", .str t.spanID)],
      omitEmpty "parent_span_id" t.parentID, [("timestamp", .str (formatTime t.timestamp))],
      omitEmpty "org_id" t.orgID, omitEmpty "user_id" t.userID,
      omitEmpty "virtual_key_id" t.virtualKeyID, omitEmpty "credential_source" t.credentialSource,
      [("gen_ai.operation.name", .str t.operationName),
        ("gen_ai.provider.name", .str t.providerName),
        ("gen_ai.request.model", .str t.requestModel),
        ("gen_ai.response.model", .str t.responseModel),
        ("gen_ai.usage.input_tokens", .num t.inputTokens),
        ("gen_ai.usage.output_tokens", .num t.outputTokens),
        ("gen_ai.response.finish_reasons", .str t.finishReason),
        ("gen_ai.request.temperature", .num t.temperature), ("gen_ai.request.top_p", .num t.topP),
        ("gen_ai.request.max_tokens", .num t.maxTokens), ("streamed", .bool t.streamed),
        ("ttft_ms", .num t.ttftMillis), ("latency_ms", .num t.latencyMs),
        ("cost_usd", .num t.costUSD), ("status_code", .num t.statusCode)],
      omitEmpty "error_type" t.errorType, omitEmpty "error_message" t.errorMsg,
      omitEmpty "guardrail_action" t.guardrailAction,
      omitEmpty "gen_ai.input.messages" t.inputMessages,
      omitEmpty "gen_ai.output.messages" t.outputMessages,
      omitEmpty "nexus.eval.contexts" t.retrievalContexts,
      omitEmpty "nexus.eval.reference" t.evalReference,
      if t.evalMetadata = [] then [] else [("nexus.eval.metadata", .obj t.evalMetadata)],
      omitEmpty "replica_id" t.replicaID, if t.cacheHit then [("cache_hit", .bool true)] else [],
      if t.attempts = [] then []
        else [("attempts", .arr (t.attempts.map fun a => .obj (attemptFields a)))],
      if t.policyReasons = [] then []
        else [("policy_reasons", .arr (t.policyReasons.map fun r => .obj (reasonFields r)))],
      omitEmpty "guardrail_rule" t.guardrailRule, omitEmpty "egress_mode" t.egressMode,
      omitEmpty "session_id" t.sessionID, omitEmpty "turn_id" t.turnID]

structure Dispatcher where
  transmit : ServiceType → Bool
  secrets : Option KeyResolver := none
  formatTime : ℤ → String
  parse : String → String → Except String (Fields → Except String String)

namespace Dispatcher

def traceContext (d : Dispatcher) (t : EvalTrace) : Fields :=
  [("trace", .obj (traceFields d.formatTime t))]

def renderField (d : Dispatcher) (t : EvalTrace) (k v : String) : Except String String :=
  if ¬ "\x7b\x7b".toList <:+: v.toList then .ok v
  else
    match d.parse k v with
    | .error err => .error ("parse template " ++ k ++ ": " ++ err)
    | .ok tmpl =>
      match tmpl (d.traceContext t) with
      | .error err => .error ("execute template " ++ k ++ ": " ++ err)
      | .ok s => .ok s

def renderFields (d : Dispatcher) (t : EvalTrace) : List (String × String) → Except String Fields
  | [] => .ok []
  | (k, v) :: tmpls =>
    match d.renderField t k v with
    | .error err => .error err
    | .ok s =>
      match renderFields d t tmpls with
      | .error err => .error err
      | .ok out => .ok ((k, .str s) :: out)

def renderPayload (d : Dispatcher) (tmpls : List (String × String)) (t : EvalTrace) :
    Except String Fields :=
  if tmpls = [] then .ok [("trace", .obj (d.traceContext t))] else d.renderFields t tmpls

end Dispatcher

def emailMask : List Char := "[REDACTED:email]".toList

def redactPII : String :=
  if '@' ∈ s.toList then String.ofList (replaceAll reRedactEmail s.toList emailMask) else s

def redactValue : Value → Value
  | .str s => .str (redactPII s)
  | v => v

def redactPayload (payload : Fields) (kinds : List String) : Fields :=
  if "pii" ∈ kinds then payload.map fun kv => (kv.1, redactValue kv.2) else payload

def Dispatcher.dispatch (d : Dispatcher) (t : EvalTrace) (p : Plugin) :
    Except String (List Credential × Fields) :=
  if d.transmit p.service.type = false then
    .error ("no adapter registered for service.type=" ++ p.service.type.text)
  else
    match d.renderPayload p.send.payload t with
    | .error err => .error ("render payload: " ++ err)
    | .ok rendered =>
      match (resolveAuth d.secrets p).2 with
      | .error err => .error ("resolve auth for plugin " ++ p.name ++ ": " ++ err)
      | .ok creds => .ok (creds, redactPayload rendered p.send.redact.elems)

lemma separates_emailMask {q : Regexp} (hq : q ∈ piiPatterns) : Separates q emailMask := by
  have hall : ∀ q ∈ piiPatterns, q.alphabet '[' = false ∧ q.alphabet ']' = false ∧
      matchString q "REDACTED:email".toList = false := by decide
  obtain ⟨hopen, hclose, hinner⟩ := hall q hq
  refine ⟨'[', "REDACTED:email".toList, ']', by decide, hopen, by decide, hclose, by decide, ?_⟩
  rw [← matchString_iff, hinner]
  exact Bool.false_ne_true

lemma at_mem_of_matches {before : Bool} {x post : List Char}
    (h : Matches reRedactEmail before x post) : '@' ∈ x := by
  cases h with
  | seq _ hrest =>
    cases hrest with
    | seq hat _ =>
      cases hat with
      | char hc =>
        rw [decide_eq_true_eq] at hc
        simp [hc]

lemma pieces_of_at_not_mem {s : List Char} (h : '@' ∉ s) : pieces reRedactEmail s = [s] := by
  have hnone : find reRedactEmail false s = none := by
    rw [find_eq_none_iff]
    rintro ⟨a, x, b, rfl, hm⟩
    exact h (by simp [at_mem_of_matches hm])
  unfold pieces piecesFrom
  rw [hnone]

lemma found_redactPII {q : Regexp} (hq : q ∈ piiPatterns) (s : String) :
    Found q (redactPII s).toList ↔ ∃ piece ∈ pieces reRedactEmail s.toList, Found q piece := by
  unfold redactPII
  split_ifs with hat
  · rw [String.toList_ofList]
    exact found_replaceAll (separates_emailMask hq) s.toList
  · rw [pieces_of_at_not_mem hat]
    simp

def Clean (s : List Char) : Prop := ∀ q ∈ piiPatterns, q.matchString s = false

lemma clean_redactPII {s : String} :
    Clean (redactPII s).toList ↔ ∀ piece ∈ pieces reRedactEmail s.toList, Clean piece := by
  have hiff : ∀ (q : Regexp) (l : List Char), q.matchString l = false ↔ ¬ Found q l := by
    intro q l
    rw [← matchString_iff, Bool.not_eq_true]
  constructor
  · intro h piece hpiece q hq
    rw [hiff]
    intro hfound
    exact (hiff _ _).mp (h q hq) ((found_redactPII hq s).mpr ⟨piece, hpiece, hfound⟩)
  · intro h q hq
    rw [hiff, found_redactPII hq]
    rintro ⟨piece, hpiece, hfound⟩
    exact (hiff _ _).mp (h piece hpiece q hq) hfound

variable {d : Dispatcher} {t : EvalTrace}

lemma mem_strings_renderFields {tmpls : List (String × String)} {out : Fields}
    (h : d.renderFields t tmpls = .ok out) {s' : String} :
    s' ∈ fieldsStrings (out.map fun kv => (kv.1, redactValue kv.2)) ↔
      ∃ kv ∈ tmpls, ∃ s, d.renderField t kv.1 kv.2 = .ok s ∧ s' = redactPII s := by
  induction tmpls generalizing out with
  | nil =>
    obtain rfl := Except.ok.inj h
    simp [fieldsStrings]
  | cons kv tmpls ih =>
    obtain ⟨k, v⟩ := kv
    unfold Dispatcher.renderFields at h
    cases hfield : d.renderField t k v with
    | error err =>
      rw [hfield] at h
      cases h
    | ok s =>
      cases hrest : d.renderFields t tmpls with
      | error err =>
        rw [hfield, hrest] at h
        cases h
      | ok rest =>
        rw [hfield, hrest] at h
        obtain rfl := Except.ok.inj h
        have hstr : redactValue (.str s) = .str (redactPII s) := rfl
        rw [map_cons, fieldsStrings, hstr, Value.strings, singleton_append, mem_cons, ih hrest]
        simp only [mem_cons]
        constructor
        · rintro (rfl | ⟨kv, hkv, hs⟩)
          · exact ⟨(k, v), Or.inl rfl, s, hfield, rfl⟩
          · exact ⟨kv, Or.inr hkv, hs⟩
        · rintro ⟨kv, rfl | hkv, s0, hs0, rfl⟩
          · obtain rfl := Except.ok.inj (hfield.symm.trans hs0)
            exact Or.inl rfl
          · exact Or.inr ⟨kv, hkv, s0, hs0, rfl⟩

structure Dispatcher.Harmless (d : Dispatcher) (t : EvalTrace) (p : Plugin) : Prop where
  context : p.send.payload = [] → ∀ s ∈ fieldsStrings (traceFields d.formatTime t), Clean s.toList
  rendered : ∀ kv ∈ p.send.payload, ∀ s, d.renderField t kv.1 kv.2 = .ok s →
    ∀ piece ∈ pieces reRedactEmail s.toList, Clean piece

lemma Dispatcher.dispatch_eq_ok {p : Plugin} {creds : List Credential} {payload : Fields}
    (h : d.dispatch t p = .ok (creds, payload)) :
    ∃ rendered, d.renderPayload p.send.payload t = .ok rendered ∧
      payload = redactPayload rendered p.send.redact.elems := by
  unfold dispatch at h
  split_ifs at h
  cases hrender : d.renderPayload p.send.payload t with
  | error err =>
    rw [hrender] at h
    cases h
  | ok rendered =>
    rw [hrender] at h
    cases hauth : (resolveAuth d.secrets p).2 with
    | error err =>
      rw [hauth] at h
      cases h
    | ok creds' =>
      rw [hauth] at h
      exact ⟨rendered, rfl, (congrArg Prod.snd (Except.ok.inj h)).symm⟩

theorem redacted_payload_clean_iff (d : Dispatcher) (t : EvalTrace) (p : Plugin)
    (creds : List Credential) (payload : Fields) (hpii : "pii" ∈ p.send.redact.elems)
    (hsend : d.dispatch t p = .ok (creds, payload)) :
    (∀ s ∈ fieldsStrings payload, Clean s.toList) ↔ d.Harmless t p := by
  obtain ⟨rendered, hrender, rfl⟩ := Dispatcher.dispatch_eq_ok hsend
  unfold Dispatcher.renderPayload at hrender
  rw [redactPayload, if_pos hpii]
  split_ifs at hrender with hnone
  · obtain rfl := Except.ok.inj hrender
    have hstrings : fieldsStrings ([("trace", Value.obj (d.traceContext t))].map
        fun kv => (kv.1, redactValue kv.2)) = fieldsStrings (traceFields d.formatTime t) := by
      simp [fieldsStrings, redactValue, Value.strings, Dispatcher.traceContext]
    rw [hstrings]
    constructor
    · intro h
      exact ⟨fun _ => h, fun kv hkv => by rw [hnone] at hkv; cases hkv⟩
    · intro h
      exact h.context hnone
  · constructor
    · intro h
      refine ⟨fun hnil => absurd hnil hnone, fun kv hkv s hs => ?_⟩
      rw [← clean_redactPII]
      exact h _ ((mem_strings_renderFields hrender).mpr ⟨kv, hkv, s, hs, rfl⟩)
    · intro h s' hs'
      obtain ⟨kv, hkv, s, hs, rfl⟩ := (mem_strings_renderFields hrender).mp hs'
      rw [clean_redactPII]
      exact h.rendered kv hkv s hs

def redacting (payload : List (String × String)) : Plugin :=
  let p := (referring "judge" "").plugin
  { p with
    service := { p.service with auth := {} }
    send := { p.send with payload := payload, redact := .of ["pii"] } }

def plainDispatcher : Dispatcher where
  transmit _ := true
  formatTime _ := "2026-01-02T03:04:05Z"
  parse _ _ := .error "unexpected action"

def traceSaying (prompt : String) : EvalTrace :=
  { (default : Trace) with inputMessages := prompt }

lemma dispatch_redacting {tmpls : List (String × String)} {rendered : Fields}
    (h : plainDispatcher.renderPayload tmpls t = .ok rendered) :
    plainDispatcher.dispatch t (redacting tmpls) = .ok ([], redactPayload rendered ["pii"]) := by
  have hpayload : (redacting tmpls).send.payload = tmpls := rfl
  have hauth : (resolveAuth plainDispatcher.secrets (redacting tmpls)).2 = .ok [] := rfl
  have htransmit : plainDispatcher.transmit (redacting tmpls).service.type = true := rfl
  unfold Dispatcher.dispatch
  rw [hpayload, h]
  rfl

lemma Dispatcher.renderField_plain {k v : String} (h : ¬ "\x7b\x7b".toList <:+: v.toList) :
    d.renderField t k v = .ok v := by
  rw [renderField, if_pos h]

theorem payload_clean_of_masked_address :
    "pii" ∈ (redacting [("input", "write to a@b.com")]).send.redact.elems ∧
      plainDispatcher.dispatch (traceSaying "") (redacting [("input", "write to a@b.com")]) =
        .ok ([], redactPayload [("input", .str "write to a@b.com")] ["pii"]) ∧
      ∀ s ∈ fieldsStrings (redactPayload [("input", .str "write to a@b.com")] ["pii"]),
        Clean s.toList := by
  have hpii : "pii" ∈ (redacting [("input", "write to a@b.com")]).send.redact.elems :=
    mem_singleton_self _
  have hfield : plainDispatcher.renderField (traceSaying "") "input" "write to a@b.com" =
      .ok "write to a@b.com" := Dispatcher.renderField_plain (by decide)
  have hsend : plainDispatcher.dispatch (traceSaying "")
      (redacting [("input", "write to a@b.com")]) =
      .ok ([], redactPayload [("input", .str "write to a@b.com")] ["pii"]) := by
    apply dispatch_redacting
    simp [Dispatcher.renderPayload, Dispatcher.renderFields, hfield]
  refine ⟨hpii, hsend, (redacted_payload_clean_iff _ _ _ _ _ hpii hsend).mpr ⟨?_, ?_⟩⟩
  · intro h
    cases h
  intro kv hkv s hs
  obtain rfl := mem_singleton.mp hkv
  obtain rfl := Except.ok.inj (hfield.symm.trans hs)
  unfold Clean
  decide

theorem address_reaches_vendor :
    ¬ ∀ (d : Dispatcher) (t : EvalTrace) (p : Plugin) (creds : List Credential)
      (payload : Fields), "pii" ∈ p.send.redact.elems → d.dispatch t p = .ok (creds, payload) →
        ∀ s ∈ fieldsStrings payload, Clean s.toList := by
  intro h
  have hrender : plainDispatcher.renderPayload [] (traceSaying "write to a@b.com") =
      .ok [("trace", .obj (plainDispatcher.traceContext (traceSaying "write to a@b.com")))] :=
    if_pos rfl
  have hclean := h plainDispatcher (traceSaying "write to a@b.com") (redacting []) [] _
    (mem_singleton_self _) (dispatch_redacting hrender) "write to a@b.com"
    (by decide) emailPattern (by simp [piiPatterns])
  revert hclean
  decide

end FfxNexus.Evals
