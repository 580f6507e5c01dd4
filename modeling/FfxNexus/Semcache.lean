/-
**The semantic cache** (`internal/semcache/cache.go`).
-/
import FfxNexus.Machine

open List Function

namespace FfxNexus.Semcache

abbrev Bytes := List UInt8

def byte (c : Char) : UInt8 := UInt8.ofNat c.toNat

def ascii (s : String) : Bytes := s.toList.map byte

def itoa (n : ℕ) : Bytes := (Nat.toDigits 10 n).map byte

def redisKey (scope model : Bytes) : Bytes :=
  ascii "nexus:sem:" ++ (itoa scope.length ++ ascii ":" ++ scope) ++ (ascii ":" ++ model)

lemma redisKey_eq_frame (scope model : Bytes) : redisKey scope model =
      ascii "nexus:sem:" ++ (Framing.frame byte (byte ':') scope ++ (ascii ":" ++ model)) := by
  simp only [redisKey, Framing.frame, append_assoc]
  rfl

private lemma toNat_of_isDigit {c : Char} (h : c.isDigit) : 48 ≤ c.toNat ∧ c.toNat ≤ 57 := by
  simp only [Char.isDigit, Bool.and_eq_true, decide_eq_true_eq, UInt32.le_iff_toNat_le,
    ge_iff_le] at h
  exact h

private lemma byte_toNat_of_isDigit {c : Char} (h : c.isDigit) : (byte c).toNat = c.toNat := by
  have := toNat_of_isDigit h
  simp only [byte, UInt8.toNat_ofNat']
  omega

lemma redisKey_injective {scope model scope' model' : Bytes}
    (h : redisKey scope model = redisKey scope' model') : scope = scope' ∧ model = model' := by
  rw [redisKey_eq_frame, redisKey_eq_frame] at h
  have h := append_cancel_left h
  have hdigit : ∀ c d : Char, c.isDigit → d.isDigit → byte c = byte d → c = d := by
    intro c d hc hd hcd
    have := congrArg UInt8.toNat hcd
    rw [byte_toNat_of_isDigit hc, byte_toNat_of_isDigit hd] at this
    exact Char.ext (UInt32.toNat_inj.mp this)
  have hsep : ∀ c : Char, c.isDigit → byte c ≠ byte ':' := by
    intro c hc hsep
    have := congrArg UInt8.toNat hsep
    rw [byte_toNat_of_isDigit hc] at this
    have := toNat_of_isDigit hc
    have : (byte ':').toNat = 58 := rfl
    omega
  obtain ⟨hscope, hmodel⟩ := Framing.frame_append_inj hdigit hsep h
  exact ⟨hscope, append_cancel_left hmodel⟩

structure Config where
  enabled : Bool
  ttl : Int
  threshold : ℚ
  maxEntriesPerModel : Int
  timeout : Int
  exactMatch : Bool

structure EffectiveConfig extends Config where
  ttl_pos : 0 < ttl
  threshold_pos : 0 < threshold
  maxEntriesPerModel_pos : 0 < maxEntriesPerModel
  timeout_pos : 0 < timeout

def orDefault {R : Type} [Zero R] [LE R] [DecidableLE R] (default x : R) : R :=
  if x ≤ 0 then default else x

lemma orDefault_pos {R : Type} [Zero R] [LinearOrder R] {default : R} (h : 0 < default)
    (x : R) : 0 < orDefault default x := by
  unfold orDefault
  split
  · exact h
  · exact not_le.mp ‹_›

def second : Int := 1000000000

def effectiveConfig (cfg : Config) : EffectiveConfig where
  enabled := cfg.enabled
  ttl := orDefault (24 * 3600 * second) cfg.ttl
  threshold := orDefault (92 / 100) cfg.threshold
  maxEntriesPerModel := orDefault 500 cfg.maxEntriesPerModel
  timeout := orDefault (5 * second) cfg.timeout
  exactMatch := cfg.exactMatch
  ttl_pos := orDefault_pos (by decide) _
  threshold_pos := orDefault_pos (by norm_num) _
  maxEntriesPerModel_pos := orDefault_pos (by decide) _
  timeout_pos := orDefault_pos (by decide) _

structure StoredEntry (β : Type) where
  embedding : List ℚ
  response : Option β
  expiresAt : Int
  promptHash : String

structure Hit (β : Type) where
  responseJSON : Option β
  similarity : ℚ
deriving DecidableEq

structure Engine (β : Type) where
  promptHash : Bytes → String
  cosineSimilarity : List ℚ → List ℚ → ℚ
  isEmpty : β → Bool

def unix (t : Int) : Int := t / second

def StoredEntry.expired {β : Type} (e : StoredEntry β) (now : Int) : Bool :=
  decide (0 < e.expiresAt) && decide (e.expiresAt < now)

section
variable {β : Type}

def findExactLoop (hash : String) (now : Int) : List (StoredEntry β) → Option (Hit β)
  | [] => none
  | e :: entries =>
    if e.expired now then findExactLoop hash now entries
    else if e.promptHash ≠ "" ∧ e.promptHash = hash then some ⟨e.response, 1⟩
    else findExactLoop hash now entries

def findExact (hash : String) (entries : List (StoredEntry β)) (now : Int) : Option (Hit β) :=
  if hash = "" then none else findExactLoop hash now entries

def findBestStep (sim : List ℚ → ℚ) (threshold : ℚ) (now : Int)
    (best : ℚ × Option β) (e : StoredEntry β) : ℚ × Option β :=
  if e.expired now then best
  else if threshold ≤ sim e.embedding ∧ best.1 < sim e.embedding then
    (sim e.embedding, e.response)
  else best

variable (E : Engine β)

def findBest (vec : List ℚ) (entries : List (StoredEntry β)) (threshold : ℚ) (now : Int) :
    Option (Hit β) × ℚ :=
  let best := entries.foldl (findBestStep (E.cosineSimilarity vec) threshold now) (0, none)
  match best.2 with
  | none => (none, 0)
  | some resp => (some ⟨some resp, best.1⟩, best.1)

def search (cfg : Config) (entries : List (StoredEntry β)) (prompt : Bytes) (vec : List ℚ)
    (now : Int) : Option (Hit β) :=
  if cfg.exactMatch then
    match findExact (E.promptHash prompt) entries now with
    | some hit => some hit
    | none => if vec.length = 0 then none else (findBest E vec entries cfg.threshold now).1
  else (findBest E vec entries cfg.threshold now).1

end

structure LookupCall where
  now : Int
  scope : Bytes
  model : Bytes
  prompt : Bytes
  vec : List ℚ

structure StoreCall (β : Type) where
  now : Int
  scope : Bytes
  model : Bytes
  prompt : Bytes
  vec : List ℚ
  responseJSON : Option β

abbrev LookupCall.key (q : LookupCall) : Bytes := redisKey q.scope q.model

abbrev StoreCall.key {β : Type} (st : StoreCall β) : Bytes := redisKey st.scope st.model

def StoreCall.entry {β : Type} (E : Engine β) (cfg : Config) (st : StoreCall β)
    (response : Option β) : StoredEntry β where
  embedding := st.vec
  response := response
  expiresAt := unix (st.now + cfg.ttl)
  promptHash := E.promptHash st.prompt

def appendNil {β : Type} (E : Engine β) (b : Option β) : Option β :=
  b.filter fun b => !E.isEmpty b

structure Memory (β : Type) where
  cfg : EffectiveConfig
  data : Bytes → List (StoredEntry β)

def newMemory {β : Type} (cfg : Config) : Memory β := ⟨effectiveConfig cfg, fun _ => []⟩

namespace Memory
variable {β : Type} (E : Engine β)

def lookup (m : Memory β) (q : LookupCall) : Option (Hit β) :=
  search E m.cfg.toConfig (m.data q.key) q.prompt q.vec (unix q.now)

def capAt {α : Type} (l : List α) (n : Int) : List α :=
  if n < l.length then l.take n.toNat else l

def store (m : Memory β) (st : StoreCall β) : Memory β :=
  let e := st.entry E m.cfg.toConfig (appendNil E st.responseJSON)
  let entries := capAt (e :: m.data st.key) m.cfg.maxEntriesPerModel
  { m with data := update m.data st.key entries }

def updateConfig (m : Memory β) (cfg : Config) : Memory β :=
  { m with cfg := effectiveConfig cfg }

end Memory

structure Codec (β ρ : Type) where
  marshal : StoredEntry β → ρ
  unmarshal : ρ → Option (StoredEntry β)
  round_trip : ∀ e, unmarshal (marshal e) = some e

section
variable {α : Type}

def lpush (x : α) (l : List α) : List α := x :: l

def listIndex (l : List α) (i : Int) : Int := if i < 0 then l.length + i else i

def lrange (l : List α) (start stop : Int) : List α :=
  let start := max (listIndex l start) 0
  let stop := listIndex l stop
  (l.drop start.toNat).take (stop - start + 1).toNat

def ltrim (l : List α) (start stop : Int) : List α := lrange l start stop

end

structure Redis (ρ : Type) where
  cfg : EffectiveConfig
  lists : Bytes → List ρ

def newRedis {ρ : Type} (cfg : Config) : Redis ρ := ⟨effectiveConfig cfg, fun _ => []⟩

namespace Redis
variable {β ρ : Type} (E : Engine β) (C : Codec β ρ)

def lookup (c : Redis ρ) (q : LookupCall) : Option (Hit β) :=
  let raws := lrange (c.lists q.key) 0 (c.cfg.maxEntriesPerModel - 1)
  search E c.cfg.toConfig (raws.filterMap C.unmarshal) q.prompt q.vec (unix q.now)

def store (c : Redis ρ) (st : StoreCall β) : Redis ρ :=
  let raw := C.marshal (st.entry E c.cfg.toConfig st.responseJSON)
  let raws := ltrim (lpush raw (c.lists st.key)) 0 (c.cfg.maxEntriesPerModel - 1)
  { c with lists := update c.lists st.key raws }

def updateConfig (c : Redis ρ) (cfg : Config) : Redis ρ :=
  { c with cfg := effectiveConfig cfg }

end Redis

inductive Command (β : Type) where
  | store (st : StoreCall β)
  | lookup (q : LookupCall)
  | updateConfig (cfg : Config)

inductive Answer (β : Type) where
  | done
  | found (hit : Option (Hit β))
deriving DecidableEq

def memory {β : Type} (E : Engine β) : Machine (Memory β) (Command β) (Answer β) where
  step m
    | .store st => (m.store E st, .done)
    | .lookup q => (m, .found (m.lookup E q))
    | .updateConfig cfg => (m.updateConfig cfg, .done)

def redis {β ρ : Type} (E : Engine β) (C : Codec β ρ) :
    Machine (Redis ρ) (Command β) (Answer β) where
  step c
    | .store st => (c.store E C st, .done)
    | .lookup q => (c, .found (c.lookup E C q))
    | .updateConfig cfg => (c.updateConfig cfg, .done)

structure HitOn {β : Type} (E : Engine β) (cfg : Config) (entries : List (StoredEntry β))
    (prompt : Bytes) (vec : List ℚ) (now : Int) (e : StoredEntry β) (hit : Hit β) : Prop where
  mem : e ∈ entries
  unexpired : e.expired now = false
  response : hit.responseJSON = e.response
  reason : (cfg.exactMatch = true ∧ e.promptHash = E.promptHash prompt) ∨
    (hit.similarity = E.cosineSimilarity vec e.embedding ∧ cfg.threshold ≤ hit.similarity ∧
      ∀ e' ∈ entries, e'.expired now = false → E.cosineSimilarity vec e'.embedding ≤ hit.similarity)

section
variable {β : Type}
variable {now : Int} {entries : List (StoredEntry β)} {hit : Hit β}

lemma findExactLoop_spec {hash : String} (h : findExactLoop hash now entries = some hit) :
    ∃ e ∈ entries, e.expired now = false ∧ e.promptHash = hash ∧ hit = ⟨e.response, 1⟩ := by
  induction entries with
  | nil => simp [findExactLoop] at h
  | cons e entries ih =>
    have later : findExactLoop hash now entries = some hit → ∃ e' ∈ e :: entries,
        e'.expired now = false ∧ e'.promptHash = hash ∧ hit = ⟨e'.response, 1⟩ := by
      intro h'
      obtain ⟨e', he', rest⟩ := ih h'
      exact ⟨e', mem_cons_of_mem e he', rest⟩
    simp only [findExactLoop] at h
    split_ifs at h with hexp hhash
    · exact later h
    · exact ⟨e, mem_cons_self, by simpa using hexp, hhash.2, (Option.some.inj h).symm⟩
    · exact later h

lemma findExact_spec {hash : String} (h : findExact hash entries now = some hit) :
    ∃ e ∈ entries, e.expired now = false ∧ e.promptHash = hash ∧ hit = ⟨e.response, 1⟩ := by
  unfold findExact at h
  split_ifs at h
  exact findExactLoop_spec h

structure BestSoFar (sim : List ℚ → ℚ) (threshold : ℚ) (now : Int)
    (seen : List (StoredEntry β)) (best : ℚ × Option β) : Prop where
  bounds : ∀ e ∈ seen, e.expired now = false → threshold ≤ sim e.embedding →
    sim e.embedding ≤ best.1
  attained : ∀ resp, best.2 = some resp → ∃ e ∈ seen, e.expired now = false ∧
    e.response = some resp ∧ best.1 = sim e.embedding ∧ threshold ≤ best.1

lemma bestSoFar_step {sim : List ℚ → ℚ} {threshold : ℚ} {seen : List (StoredEntry β)}
    {best : ℚ × Option β} (e : StoredEntry β) (h : BestSoFar sim threshold now seen best) :
    BestSoFar sim threshold now (seen ++ [e]) (findBestStep sim threshold now best e) := by
  have kept : (e.expired now = false → threshold ≤ sim e.embedding → sim e.embedding ≤ best.1) →
      BestSoFar sim threshold now (seen ++ [e]) best := by
    intro he
    refine ⟨?_, ?_⟩
    · intro e' hmem
      rcases mem_append.mp hmem with hmem | hmem
      · exact h.bounds e' hmem
      · rw [mem_singleton.mp hmem]; exact he
    · intro resp hresp
      obtain ⟨e', hmem, rest⟩ := h.attained resp hresp
      exact ⟨e', mem_append_left _ hmem, rest⟩
  unfold findBestStep
  split_ifs with hexp hbest
  · exact kept fun hexp' => by simp [hexp] at hexp'
  · refine ⟨?_, ?_⟩
    · intro e' hmem hexp' hthr
      rcases mem_append.mp hmem with hmem | hmem
      · exact (h.bounds e' hmem hexp' hthr).trans hbest.2.le
      · rw [mem_singleton.mp hmem]
    · intro resp hresp
      exact ⟨e, by simp, by simpa using hexp, hresp, rfl, hbest.1⟩
  · exact kept fun _ hthr => not_lt.mp fun hlt => hbest ⟨hthr, hlt⟩

lemma bestSoFar_foldl (sim : List ℚ → ℚ) (threshold : ℚ) (now : Int)
    (entries : List (StoredEntry β)) : BestSoFar sim threshold now entries
      (entries.foldl (findBestStep sim threshold now) (0, none)) := by
  -- from the right: the invariant is about what has been seen, and the fold sees `e` last
  induction entries using reverseRecOn with
  | nil => exact ⟨by simp, by simp⟩
  | append_singleton entries e ih =>
    rw [foldl_append]
    exact bestSoFar_step e ih

variable (E : Engine β)

lemma findBest_spec {vec : List ℚ} {threshold : ℚ}
    (h : (findBest E vec entries threshold now).1 = some hit) :
    ∃ e ∈ entries, e.expired now = false ∧ hit.responseJSON = e.response ∧
      hit.similarity = E.cosineSimilarity vec e.embedding ∧ threshold ≤ hit.similarity ∧
      ∀ e' ∈ entries, e'.expired now = false →
        E.cosineSimilarity vec e'.embedding ≤ hit.similarity := by
  have inv := bestSoFar_foldl (E.cosineSimilarity vec) threshold now entries
  unfold findBest at h
  generalize entries.foldl _ _ = best at h inv
  rcases best with ⟨bestSim, _ | resp⟩
  · simp at h
  obtain rfl : (⟨some resp, bestSim⟩ : Hit β) = hit := by simpa using h
  obtain ⟨e, hmem, hexp, hresp, hsim, hthr⟩ := inv.attained resp rfl
  refine ⟨e, hmem, hexp, hresp.symm, hsim, hthr, ?_⟩
  intro e' hmem' hexp'
  -- an entry under the threshold is below the hit without the invariant
  rcases le_total threshold (E.cosineSimilarity vec e'.embedding) with hle | hle
  · exact inv.bounds e' hmem' hexp' hle
  · exact hle.trans hthr

lemma search_spec {cfg : Config} {prompt : Bytes} {vec : List ℚ}
    (h : search E cfg entries prompt vec now = some hit) :
    ∃ e, HitOn E cfg entries prompt vec now e hit := by
  have byBest : (findBest E vec entries cfg.threshold now).1 = some hit →
      ∃ e, HitOn E cfg entries prompt vec now e hit := by
    intro h
    obtain ⟨e, hmem, hexp, hresp, hbest⟩ := findBest_spec E h
    exact ⟨e, hmem, hexp, hresp, .inr hbest⟩
  unfold search at h
  by_cases hexact : cfg.exactMatch = true
  · rw [if_pos hexact] at h
    cases hfound : findExact (E.promptHash prompt) entries now with
    | some hit' =>
      obtain ⟨e, hmem, hexp, hhash, rfl⟩ := findExact_spec hfound
      obtain rfl : ⟨e.response, 1⟩ = hit := by simpa only [hfound, Option.some.injEq] using h
      exact ⟨e, hmem, hexp, rfl, .inl ⟨hexact, hhash⟩⟩
    | none =>
      simp only [hfound] at h
      split_ifs at h
      exact byBest h
  · rw [if_neg hexact] at h
    exact byBest h

end

section
variable {β : Type} (E : Engine β)

def StoreCall.memoryEntry (cfg : Config) (st : StoreCall β) : StoredEntry β :=
  st.entry E cfg (appendNil E st.responseJSON)

lemma mem_capAt {α : Type} {x : α} {l : List α} {n : Int} (h : x ∈ Memory.capAt l n) : x ∈ l := by
  unfold Memory.capAt at h
  split_ifs at h
  · exact mem_of_mem_take h
  · exact h

lemma mem_data_step {m : Memory β} {c : Command β} {key : Bytes} {e : StoredEntry β}
    (h : e ∈ ((memory E).step m c).1.data key) : e ∈ m.data key ∨
      ∃ st, c = .store st ∧ st.key = key ∧ e = st.memoryEntry E m.cfg.toConfig := by
  cases c with
  | store st =>
    simp only [memory, Memory.store] at h
    by_cases hkey : key = st.key
    · subst hkey
      rw [update_self] at h
      rcases mem_cons.mp (mem_capAt h) with rfl | h
      · exact .inr ⟨st, rfl, rfl, rfl⟩
      · exact .inl h
    · rw [update_of_ne hkey] at h
      exact .inl h
  | lookup q => exact .inl h
  | updateConfig cfg => exact .inl h

lemma mem_data_run {cfg0 : Config} {cmds : List (Command β)} {key : Bytes}
    {e : StoredEntry β} (h : e ∈ ((memory E).run (newMemory cfg0) cmds).data key) :
    ∃ before st after, cmds = before ++ .store st :: after ∧ st.key = key ∧
      e = st.memoryEntry E ((memory E).run (newMemory cfg0) before).cfg.toConfig := by
  obtain ⟨before, c, after, hcmds, st, rfl, hkey, he⟩ :=
    (memory E).exists_origin (P := fun m => e ∈ m.data key) (s := newMemory cfg0)
      (B := fun m c =>
        ∃ st, c = .store st ∧ st.key = key ∧ e = st.memoryEntry E m.cfg.toConfig)
      (by simp [newMemory]) (fun _ _ => mem_data_step E) h
  exact ⟨before, st, after, hcmds, hkey, he⟩

def NoCollision (cmds : List (Command β)) (q : LookupCall) : Prop :=
  ∀ st, Command.store st ∈ cmds → E.promptHash st.prompt = E.promptHash q.prompt →
    st.prompt = q.prompt

theorem hit_from_earlier_store (cfg₀ : Config) : (∀ scope model scope' model' : Bytes,
      redisKey scope model = redisKey scope' model' → scope = scope' ∧ model = model') ∧
    ∀ (cmds : List (Command β)) (q : LookupCall) (hit : Hit β),
      ((memory E).run (newMemory cfg₀) cmds).lookup E q = some hit →
      ∃ before st after, cmds = before ++ .store st :: after ∧
        st.scope = q.scope ∧ st.model = q.model ∧ hit.responseJSON = appendNil E st.responseJSON ∧
        (st.memoryEntry E ((memory E).run (newMemory cfg₀) before).cfg.toConfig).expired
          (unix q.now) = false ∧ ((((memory E).run (newMemory cfg₀) cmds).cfg.exactMatch = true ∧
            E.promptHash st.prompt = E.promptHash q.prompt ∧
            (NoCollision E cmds q → st.prompt = q.prompt)) ∨
          (hit.similarity = E.cosineSimilarity q.vec st.vec ∧
            ((memory E).run (newMemory cfg₀) cmds).cfg.threshold ≤ hit.similarity ∧
            ∀ e ∈ ((memory E).run (newMemory cfg₀) cmds).data q.key,
              e.expired (unix q.now) = false →
              E.cosineSimilarity q.vec e.embedding ≤ hit.similarity)) := by
  refine ⟨fun _ _ _ _ => redisKey_injective, ?_⟩
  intro cmds q hit h
  obtain ⟨e, hon⟩ := search_spec E h
  obtain ⟨before, st, after, hcmds, hkey, rfl⟩ := mem_data_run E hon.mem
  obtain ⟨hscope, hmodel⟩ := redisKey_injective hkey
  refine ⟨before, st, after, hcmds, hscope, hmodel, hon.response, hon.unexpired, ?_⟩
  rcases hon.reason with ⟨hexact, hhash⟩ | hbest
  · refine .inl ⟨hexact, hhash, fun hnc => hnc st ?_ hhash⟩
    rw [hcmds]
    exact mem_append_right _ mem_cons_self
  · exact .inr hbest

end

def sampleEngine : Engine Bytes where
  promptHash p := toString (p.map UInt8.toNat)
  cosineSimilarity _ _ := 0
  isEmpty b := b.isEmpty

def sampleConfig : Config := ⟨true, 0, 0, 0, 0, true⟩

def sampleStore (p : UInt8) (response : Bytes) : StoreCall Bytes :=
  ⟨second, ascii "org", ascii "gpt-4o", [p], [], some response⟩

def sampleLookup (p : UInt8) : LookupCall :=
  ⟨2 * second, ascii "org", ascii "gpt-4o", [p], []⟩

theorem hit_from_earlier_store_sample : ∃ before st after,
      [Command.store (sampleStore 1 [10]), .store (sampleStore 2 [20])] =
        before ++ .store st :: after ∧ st.scope = ascii "org" ∧ st.model = ascii "gpt-4o" ∧
      some [10] = appendNil sampleEngine st.responseJSON := by
  obtain ⟨before, st, after, hcmds, hscope, hmodel, hresp, -⟩ :=
    (hit_from_earlier_store sampleEngine sampleConfig).2
      [.store (sampleStore 1 [10]), .store (sampleStore 2 [20])] (sampleLookup 1)
      ⟨some [10], 1⟩ (by decide)
  exact ⟨before, st, after, hcmds, hscope, hmodel, hresp⟩

section
variable {β ρ : Type} (E : Engine β) (C : Codec β ρ)
variable {n : Int}

lemma lrange_zero {α : Type} (l : List α) (hn : 0 < n) : lrange l 0 (n - 1) = l.take n.toNat := by
  have h0 : ¬ (0 : Int) < 0 := by decide
  have h1 : ¬ n - 1 < 0 := by omega
  simp only [lrange, listIndex, if_neg h0, if_neg h1, max_self, Int.toNat_zero, drop_zero,
    sub_zero, sub_add_cancel]

lemma capAt_eq_take {α : Type} (l : List α) (hn : 0 < n) : Memory.capAt l n = l.take n.toNat := by
  unfold Memory.capAt
  split_ifs with h
  · rfl
  · rw [take_of_length_le (by omega)]

structure Agree (m : Memory β) (c : Redis ρ) : Prop where
  cfg : m.cfg = c.cfg
  lists : ∀ key, c.lists key = (m.data key).map C.marshal

def WithinCap (m : Memory β) : Command β → Prop
  | .store st => ∀ b, st.responseJSON = some b → E.isEmpty b = false
  | .lookup q => ((m.data q.key).length : Int) ≤ m.cfg.maxEntriesPerModel
  | .updateConfig _ => True

lemma appendNil_eq_self {b : Option β} (h : ∀ x, b = some x → E.isEmpty x = false) :
    appendNil E b = b := by
  cases b with
  | none => rfl
  | some x => simp [appendNil, h x rfl]

lemma agree_store {m : Memory β} {c : Redis ρ} {st : StoreCall β} (hR : Agree C m c)
    (hst : ∀ b, st.responseJSON = some b → E.isEmpty b = false) :
    Agree C (m.store E st) (c.store E C st) := by
  refine ⟨hR.cfg, ?_⟩
  intro key
  by_cases hkey : key = st.key
  · subst hkey
    simp only [Memory.store, Redis.store, update_self, ltrim, lpush]
    rw [lrange_zero _ c.cfg.maxEntriesPerModel_pos, capAt_eq_take _ m.cfg.maxEntriesPerModel_pos,
      appendNil_eq_self E hst, hR.lists, hR.cfg, ← map_cons, map_take]
  · simp only [Memory.store, Redis.store, update_of_ne hkey]
    exact hR.lists key

lemma agree_lookup {m : Memory β} {c : Redis ρ} {q : LookupCall} (hR : Agree C m c)
    (hq : ((m.data q.key).length : Int) ≤ m.cfg.maxEntriesPerModel) :
    m.lookup E q = c.lookup E C q := by
  have hread : (lrange (c.lists q.key) 0 (c.cfg.maxEntriesPerModel - 1)).filterMap C.unmarshal =
      m.data q.key := by
    rw [lrange_zero _ c.cfg.maxEntriesPerModel_pos, hR.lists,
      take_of_length_le (by rw [length_map, ← hR.cfg]; omega), filterMap_map]
    have : C.unmarshal ∘ C.marshal = some := funext C.round_trip
    rw [this, filterMap_some]
  simp only [Memory.lookup, Redis.lookup, hread, hR.cfg]

lemma agree_step (m : Memory β) (c : Redis ρ) (cmd : Command β) (hR : Agree C m c)
    (hok : WithinCap E m cmd) : Agree C ((memory E).step m cmd).1 ((redis E C).step c cmd).1 ∧
      ((memory E).step m cmd).2 = ((redis E C).step c cmd).2 := by
  cases cmd with
  | store st => exact ⟨agree_store E C hR hok, rfl⟩
  | lookup q => exact ⟨hR, congrArg Answer.found (agree_lookup E C hR hok)⟩
  | updateConfig cfg => exact ⟨⟨rfl, hR.lists⟩, rfl⟩

theorem memory_redis_agree (cfg₀ : Config) (cmds : List (Command β))
    (h : (memory E).Along (WithinCap E) (newMemory cfg₀) cmds) :
    (memory E).trace (newMemory cfg₀) cmds = (redis E C).trace (newRedis cfg₀) cmds :=
  Machine.trace_eq_of_simulation (agree_step E C) ⟨rfl, fun _ => rfl⟩ h

end

def sampleCodec : Codec Bytes (StoredEntry Bytes) := ⟨id, some, fun _ => rfl⟩

theorem memory_redis_agree_sample : (memory sampleEngine).trace (newMemory sampleConfig)
        [.store (sampleStore 1 [10]), .lookup (sampleLookup 1)] =
      (redis sampleEngine sampleCodec).trace (newRedis sampleConfig)
        [.store (sampleStore 1 [10]), .lookup (sampleLookup 1)] := by
  apply memory_redis_agree
  intro before c after h
  match before, h with
  | [], h =>
    obtain ⟨rfl, -⟩ := cons.inj h
    intro b hb
    obtain rfl := Option.some.inj hb
    rfl
  | [_], h =>
    simp only [cons_append] at h
    obtain ⟨rfl, rfl, -⟩ := h
    show ((_ : List (StoredEntry Bytes)).length : Int) ≤ 500
    decide
  | _ :: _ :: before, h => simp at h

theorem memory_redis_diverge : (memory sampleEngine).trace (newMemory sampleConfig)
        [.store (sampleStore 1 [10]), .store (sampleStore 2 [20]),
          .updateConfig { sampleConfig with maxEntriesPerModel := 1 }, .lookup (sampleLookup 1)] ≠
      (redis sampleEngine sampleCodec).trace (newRedis sampleConfig)
        [.store (sampleStore 1 [10]), .store (sampleStore 2 [20]),
          .updateConfig { sampleConfig with maxEntriesPerModel := 1 },
          .lookup (sampleLookup 1)] := by
  decide

end FfxNexus.Semcache
