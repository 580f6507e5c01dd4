/-
**The credential cache** (`internal/gateway/credential_resolver.go`).
-/
import FfxNexus.Gateway

namespace FfxNexus.CredentialCache
open Go Gateway List List.Subset

structure Call where
  orgID : String
  userID : String
  provider : String
deriving DecidableEq

def Call.key (c : Call) : String := c.orgID ++ "\x00" ++ c.userID ++ "\x00" ++ c.provider

abbrev Source : Type := Call → Option ResolvedCredential

structure CacheEntry where
  cred : Option ResolvedCredential
  expires : Int
deriving DecidableEq

structure Config where
  hasSource : Bool
  ttl : Int

def answerOf : Option ResolvedCredential → CredentialAnswer
  | some cred => .found cred
  | none => .notFound

inductive Pc where
  /-- read the cache under the read lock -/
  | lookup
  /-- compare the expiry of what was found with the clock -/
  | check (e : Option CacheEntry)
  /-- ask the source, outside the lock -/
  | read
  /-- write the answer under the lock -/
  | store (cred : Option ResolvedCredential)
  | done (r : CredentialAnswer)
deriving DecidableEq

structure Thread where
  call : Call
  epoch : ℕ
  pc : Pc
deriving DecidableEq

structure State where
  source : Source
  cache : GoMap String CacheEntry
  now : Int
  threads : List Thread
  /-- how often the cache has been cleared -/
  epoch : ℕ
  /-- the source after each change and each invalidation, with the epoch of that moment -/
  history : List (ℕ × Source)

variable (cfg : Config) (src : Source) (now : Int)

def start : State where
  source := src
  cache := ∅
  now := now
  threads := []
  epoch := 0
  history := [(0, src)]

def entry : Pc :=
  if cfg.hasSource = false then .done .notFound
  else if 0 < cfg.ttl then .lookup
  else .read

def Thread.next (s : State) (th : Thread) (err : Option String) :
    Pc × GoMap String CacheEntry :=
  match th.pc with
  | .lookup => (.check (s.cache.lookup th.call.key), s.cache)
  | .check (some e) => (if s.now < e.expires then .done (answerOf e.cred) else .read, s.cache)
  | .check none => (.read, s.cache)
  | .read =>
    match err with
    | some msg => (.done (.failed msg), s.cache)
    | none =>
      (if 0 < cfg.ttl then .store (s.source th.call) else .done (answerOf (s.source th.call)),
        s.cache)
  | .store cred => (.done (answerOf cred), s.cache.insert th.call.key ⟨cred, s.now + cfg.ttl⟩)
  | .done r => (.done r, s.cache)

inductive Action where
  | begin (c : Call)
  | act (i : ℕ) (err : Option String)
  | update (src : Source)
  | invalidate
  | clock (now : Int)

def State.step (s : State) : Action → State
  | .begin c => { s with threads := s.threads ++ [⟨c, s.epoch, entry cfg⟩] }
  | .act i err =>
    match s.threads[i]? with
    | none => s
    | some th =>
      { s with
        cache := (th.next cfg s err).2
        threads := s.threads.set i { th with pc := (th.next cfg s err).1 } }
  | .update src => { s with source := src, history := s.history ++ [(s.epoch, src)] }
  | .invalidate =>
    { s with
      cache := ∅
      epoch := s.epoch + 1
      history := s.history ++ [(s.epoch + 1, s.source)] }
  | .clock now => { s with now := now }

def resolver : Machine State Action Unit where
  step s a := (s.step cfg a, ())

def Held (history : List (ℕ × Source)) (e : ℕ) (key : String)
    (cred : Option ResolvedCredential) : Prop :=
  ∃ m ∈ history, e ≤ m.1 ∧ ∃ c : Call, c.key = key ∧ m.2 c = cred

lemma Held.mono {hist hist' : List (ℕ × Source)} {e e' : ℕ} {key : String}
    {cred : Option ResolvedCredential} (h : Held hist e key cred) (hle : e' ≤ e)
    (hsub : hist ⊆ hist') : Held hist' e' key cred := by
  obtain ⟨m, hm, he, hc⟩ := h
  exact ⟨m, hsub hm, le_trans hle he, hc⟩

/-- A call is known from its key, unless one of its parts holds the separator. -/
lemma Call.eq_of_key {c c' : Call} (h : c'.key = c.key)
    (hnul : '\x00' ∉ (c.orgID ++ c.userID ++ c.provider).toList) : c' = c := by
  have hlist : c'.orgID.toList ++ '\x00' :: (c'.userID.toList ++ '\x00' :: c'.provider.toList) =
      c.orgID.toList ++ '\x00' :: (c.userID.toList ++ '\x00' :: c.provider.toList) := by
    simpa [Call.key] using congrArg String.toList h
  simp only [String.toList_append, mem_append, not_or] at hnul
  obtain ⟨⟨horg, huser⟩, hprovider⟩ := hnul
  -- the two separators are all that the key of `c` has of them
  have hcount := congrArg (count '\x00') hlist
  simp only [count_append, count_cons_self, count_eq_zero.mpr horg, count_eq_zero.mpr huser,
    count_eq_zero.mpr hprovider] at hcount
  obtain ⟨ho, hrest⟩ := Framing.append_sep_inj (count_eq_zero.mp (by omega)) horg hlist
  obtain ⟨hu, hp⟩ := Framing.append_sep_inj (count_eq_zero.mp (by omega)) huser hrest
  obtain ⟨o, u, p⟩ := c
  obtain ⟨o', u', p'⟩ := c'
  rw [String.toList_inj] at ho hu hp
  subst ho hu hp
  rfl

def Thread.Sound (s : State) (th : Thread) : Prop :=
  match th.pc with
  | .check (some e) => Held s.history th.epoch th.call.key e.cred
  | .store cred => Held s.history s.epoch th.call.key cred
  | .done (.found cred) => Held s.history th.epoch th.call.key (some cred)
  | _ => True

structure Inv (s : State) : Prop where
  current : (s.epoch, s.source) ∈ s.history
  cached : ∀ key e, s.cache.lookup key = some e → Held s.history s.epoch key e.cred
  begun : ∀ th ∈ s.threads, th.epoch ≤ s.epoch
  sound : ∀ th ∈ s.threads, th.Sound s

lemma inv_start : Inv (start src now) where
  current := by simp [start]
  cached := by
    intro key e h
    simp [start] at h
  begun := by simp [start]
  sound := by simp [start]

variable {s : State}

lemma Inv.held_now (h : Inv s) (c : Call) : Held s.history s.epoch c.key (s.source c) :=
  ⟨(s.epoch, s.source), h.current, le_refl _, c, rfl, rfl⟩

variable {th : Thread}

lemma Inv.sound_answer (h : Inv s) (hth : th ∈ s.threads) {cred : Option ResolvedCredential}
    (hcred : Held s.history s.epoch th.call.key cred) :
    ({ th with pc := .done (answerOf cred) } : Thread).Sound s := by
  cases cred with
  | none => trivial
  | some cred => exact hcred.mono (h.begun th hth) (refl _)

lemma Inv.next (h : Inv s) (cfg : Config) (hth : th ∈ s.threads) (err : Option String) :
    ({ th with pc := (th.next cfg s err).1 } : Thread).Sound s ∧
      ∀ key e, (th.next cfg s err).2.lookup key = some e →
        Held s.history s.epoch key e.cred := by
  have hsound := h.sound th hth
  have hbegun := h.begun th hth
  obtain ⟨call, epoch, pc⟩ := th
  cases pc with
  | lookup =>
    refine ⟨?_, h.cached⟩
    simp only [Thread.next]
    cases hlook : s.cache.lookup call.key with
    | none => trivial
    | some e => exact (h.cached _ _ hlook).mono hbegun (refl _)
  | check e =>
    refine ⟨?_, by cases e <;> exact h.cached⟩
    cases e with
    | none => trivial
    | some e =>
      simp only [Thread.next]
      split_ifs with hfresh
      · obtain ⟨cred, expires⟩ := e
        cases cred with
        | none => trivial
        | some cred => exact hsound
      · trivial
  | read =>
    cases err with
    | some msg => exact ⟨trivial, h.cached⟩
    | none =>
      refine ⟨?_, h.cached⟩
      simp only [Thread.next]
      split_ifs with httl
      · exact h.held_now call
      · exact h.sound_answer hth (h.held_now call)
  | store cred =>
    refine ⟨h.sound_answer hth hsound, ?_⟩
    intro key e hlook
    rcases lookup_insert_eq_some hlook with ⟨rfl, rfl⟩ | ⟨-, hlook⟩
    · exact hsound
    · exact h.cached key e hlook
  | done r => exact ⟨hsound, h.cached⟩

lemma Thread.Sound.grow {s' : State} (h : th.Sound s) (hepoch : s'.epoch = s.epoch)
    (hsub : s.history ⊆ s'.history) : th.Sound s' := by
  obtain ⟨call, epoch, pc⟩ := th
  cases pc with
  | lookup | read => trivial
  | check e =>
    cases e with
    | none => trivial
    | some e => exact Held.mono h (le_refl _) hsub
  | store cred => exact Held.mono h (le_of_eq hepoch) hsub
  | done r =>
    cases r with
    | found cred => exact Held.mono h (le_refl _) hsub
    | notFound | failed _ => trivial

/-- **The condition**: when the cache is cleared, what a call has read and not yet written is still
what the source holds. -/
def Settled (s : State) : Action → Prop
  | .invalidate => ∀ th ∈ s.threads, ∀ cred, th.pc = .store cred → s.source th.call = cred
  | _ => True

lemma inv_invalidate (h : Inv s) (hset : Settled s .invalidate) : Inv (s.step cfg .invalidate) := by
  have hsub : s.history ⊆ (s.step cfg .invalidate).history := subset_append_left _ _
  have hcurrent : (s.epoch + 1, s.source) ∈ (s.step cfg .invalidate).history := by
    simp [State.step]
  refine ⟨hcurrent, ?_, ?_, ?_⟩
  · intro key e hlook
    simp [State.step] at hlook
  · intro th hth
    exact le_trans (h.begun th hth) (Nat.le_succ _)
  intro th hth
  have hold := h.sound th hth
  obtain ⟨call, epoch, pc⟩ := th
  cases pc with
  | lookup | read => trivial
  | check e =>
    cases e with
    | none => trivial
    | some e => exact Held.mono hold (le_refl _) hsub
  | store cred =>
    have hcred : s.source call = cred := hset _ hth cred rfl
    exact ⟨_, hcurrent, le_refl _, call, rfl, hcred⟩
  | done r =>
    cases r with
    | found cred => exact Held.mono hold (le_refl _) hsub
    | notFound | failed _ => trivial

lemma inv_act (h : Inv s) (i : ℕ) (err : Option String) : Inv (s.step cfg (.act i err)) := by
  cases hi : s.threads[i]? with
  | none =>
    have hstep : s.step cfg (.act i err) = s := by simp only [State.step, hi]
    rw [hstep]
    exact h
  | some th =>
    have hth : th ∈ s.threads := mem_of_getElem? hi
    obtain ⟨hnext, hcache⟩ := h.next cfg hth err
    simp only [State.step, hi]
    refine ⟨h.current, hcache, ?_, ?_⟩
    · intro th' hth'
      rcases mem_or_eq_of_mem_set hth' with hold | rfl
      · exact h.begun th' hold
      · exact h.begun th hth
    · intro th' hth'
      rcases mem_or_eq_of_mem_set hth' with hold | rfl
      · exact (h.sound th' hold).grow rfl (refl _)
      · exact hnext.grow rfl (refl _)

lemma inv_begin (h : Inv s) (c : Call) : Inv (s.step cfg (.begin c)) := by
  have hentry : (⟨c, s.epoch, entry cfg⟩ : Thread).Sound (s.step cfg (.begin c)) := by
    unfold entry
    split
    · trivial
    · split <;> trivial
  refine ⟨h.current, h.cached, ?_, ?_⟩
  · intro th hth
    rcases mem_append.mp hth with hold | hnew
    · exact h.begun th hold
    · rw [mem_singleton.mp hnew]
      exact le_refl _
  · intro th hth
    rcases mem_append.mp hth with hold | hnew
    · exact (h.sound th hold).grow rfl (refl _)
    · rw [mem_singleton.mp hnew]
      exact hentry

lemma inv_update (h : Inv s) (src : Source) : Inv (s.step cfg (.update src)) := by
  have hsub : s.history ⊆ (s.step cfg (.update src)).history := subset_append_left _ _
  refine ⟨by simp [State.step], ?_, h.begun, ?_⟩
  · intro key e hlook
    exact (h.cached key e hlook).mono (le_refl _) hsub
  · intro th hth
    exact (h.sound th hth).grow rfl hsub

lemma inv_step (s : State) (a : Action) (h : Inv s) (hset : Settled s a) :
    Inv ((resolver cfg).step s a).1 := by
  cases a with
  | begin c => exact inv_begin cfg h c
  | act i err => exact inv_act cfg h i err
  | update src => exact inv_update cfg h src
  | invalidate => exact inv_invalidate cfg h hset
  | clock now => exact ⟨h.current, h.cached, h.begun, fun th hth => h.sound th hth⟩

def NoneRevoked (s : State) : Prop :=
  ∀ th ∈ s.threads, ∀ cred, th.pc = .done (.found cred) →
    Held s.history th.epoch th.call.key (some cred)

theorem revoked_stays_revoked (actions : List Action)
    (hset : (resolver cfg).Along Settled (start src now) actions) :
    NoneRevoked ((resolver cfg).run (start src now) actions) := by
  have hinv : Inv ((resolver cfg).run (start src now) actions) :=
    hset.run (inv_step cfg) (inv_start src now)
  intro th hth cred hdone
  have hsound := hinv.sound th hth
  unfold Thread.Sound at hsound
  rw [hdone] at hsound
  exact hsound

def sampleCall : Call := ⟨"org-1", "user-1", "openai"⟩

def sampleCredential : ResolvedCredential := ⟨"sk-old", "", "user", "cred-1"⟩

def sampleSource : Source := fun c => if c = sampleCall then some sampleCredential else none

def sampleConfig : Config := ⟨true, 60000000000⟩

def sampleRun : List Action :=
  [.begin sampleCall, .act 0 none, .act 0 none, .act 0 none, .act 0 none,
    .update fun _ => none, .invalidate,
    .begin sampleCall, .act 1 none, .act 1 none, .act 1 none, .act 1 none]

theorem revoked_stays_revoked_sample :
    NoneRevoked ((resolver sampleConfig).run (start sampleSource 0) sampleRun) := by
  apply revoked_stays_revoked
  simp only [sampleRun, Machine.along_cons, Settled, true_and]
  refine ⟨?_, Machine.along_nil⟩
  intro th hth cred hpc
  have hthreads : ((resolver sampleConfig).run (start sampleSource 0)
      (sampleRun.take 6)).threads = [⟨sampleCall, 0, .done (.found sampleCredential)⟩] := by
    decide
  change th ∈ ((resolver sampleConfig).run (start sampleSource 0) (sampleRun.take 6)).threads at hth
  rw [hthreads, mem_singleton] at hth
  rw [hth] at hpc
  cases hpc

def racingRun : List Action :=
  [.begin sampleCall, .act 0 none, .act 0 none, .act 0 none, .update fun _ => none, .invalidate,
    .act 0 none, .begin sampleCall, .act 1 none, .act 1 none]

theorem revoked_comes_back :
    ¬ NoneRevoked ((resolver sampleConfig).run (start sampleSource 0) racingRun) := by
  intro h
  have hthreads : ((resolver sampleConfig).run (start sampleSource 0) racingRun).threads =
      [⟨sampleCall, 0, .done (.found sampleCredential)⟩,
        ⟨sampleCall, 1, .done (.found sampleCredential)⟩] := by
    decide
  have hth := h ⟨sampleCall, 1, .done (.found sampleCredential)⟩ (by rw [hthreads]; simp)
    sampleCredential rfl
  obtain ⟨m, hm, he, c, -, hc⟩ := hth
  simp [racingRun, resolver, State.step, start] at hm
  rcases hm with rfl | rfl | rfl
  · simp at he
  · simp at he
  · simp at hc

/-- The state with all clearings forgotten: no call is then overtaken by one. -/
def State.flat (s : State) : State :=
  { s with
    threads := s.threads.map fun th => { th with epoch := 0 }
    epoch := 0
    history := s.history.map fun m => (0, m.2) }

/-- No other step reads or changes the number of clearings. -/
lemma flat_step (s : State) {a : Action} (ha : a ≠ .invalidate) :
    (s.step cfg a).flat = s.flat.step cfg a := by
  cases a with
  | invalidate => exact absurd rfl ha
  | act i err =>
    cases hi : s.threads[i]? with
    | none => simp [State.flat, State.step, hi]
    | some th =>
      simp only [State.flat, State.step, getElem?_map, hi, Option.map_some, map_set]
      rfl
  | _ => simp [State.flat, State.step]

lemma inv_flat_step (s : State) (a : Action) (h : Inv s.flat) :
    Inv ((resolver cfg).step s a).1.flat := by
  by_cases ha : a = .invalidate
  · subst ha
    -- the source is noted once more, and the cache is emptied
    have hflat : (s.step cfg .invalidate).flat =
        { s.flat.step cfg (.update s.source) with cache := ∅ } := by
      simp [State.flat, State.step]
    obtain ⟨hcurrent, -, hbegun, hsound⟩ := inv_update cfg h s.source
    exact hflat ▸ ⟨hcurrent, by simp, hbegun, hsound⟩
  · have hstep := inv_step cfg s.flat a h
    cases a with
    | invalidate => exact absurd rfl ha
    | _ => exact flat_step cfg s ha ▸ hstep trivial

/-- **Nobody is given another caller's secret**: in every run, also when a clearing overtakes a
call, what a call finds has been the source's answer for its own organisation, user and provider,
unless one of these holds the separator of the keys. -/
theorem found_own (actions : List Action) (th : Thread) (cred : ResolvedCredential)
    (hth : th ∈ ((resolver cfg).run (start src now) actions).threads)
    (hfound : th.pc = .done (.found cred))
    (hnul : '\x00' ∉ (th.call.orgID ++ th.call.userID ++ th.call.provider).toList) :
    ∃ m ∈ ((resolver cfg).run (start src now) actions).history, m.2 th.call = some cred := by
  have hinv := (resolver cfg).run_invariant (P := fun s => Inv s.flat) (s := start src now)
    (inv_start src now) (inv_flat_step cfg) actions
  -- the invariant speaks of the call's key, and the key of the call itself
  have hsound := hinv.sound _ (mem_map_of_mem hth)
  rw [Thread.Sound, hfound] at hsound
  obtain ⟨_, hflat, -, c, hkey, hc⟩ := hsound
  obtain ⟨m, hmem, rfl⟩ := mem_map.mp hflat
  exact ⟨m, hmem, Call.eq_of_key hkey hnul ▸ hc⟩

theorem found_own_racing : ∃ m ∈ ((resolver sampleConfig).run (start sampleSource 0)
    racingRun).history, m.2 sampleCall = some sampleCredential :=
  found_own _ _ _ racingRun ⟨sampleCall, 1, .done (.found sampleCredential)⟩ _ (by decide) rfl
    (by decide)

end FfxNexus.CredentialCache
