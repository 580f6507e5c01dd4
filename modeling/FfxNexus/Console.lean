/-
**Sessions and the live feeds of the console** (`orgID` of `internal/console/admin.go`, `hub.go`,
`mcp_hub.go`, and the handlers `live` and `liveMCP`).
-/
import FfxNexus.Guardrails
import FfxNexus.Machine

namespace FfxNexus
open Guardrails List

structure Caller where
  id : String
  orgID : String
  admin : Bool
deriving DecidableEq

def trimmed (s : String) : String := String.ofList (trimSpace s.toList)

def defaultOrgID : String := "default"

def orgOrDefault (orgID : String) : String := if orgID = "" then defaultOrgID else orgID

def Caller.requestOrg (caller : Caller) (orgHeader : String) : String :=
  if caller.orgID ≠ "" then caller.orgID
  else if trimmed orgHeader ≠ "" then trimmed orgHeader
  else defaultOrgID

lemma Caller.requestOrg_eq {caller : Caller} (h : caller.orgID ≠ "") (orgHeader : String) :
    caller.requestOrg orgHeader = caller.orgID := by
  rw [requestOrg, if_pos h]

structure Attribution where
  orgID : String
  userID : String
deriving DecidableEq

structure FeedTrace extends Attribution where
  traceID : String
deriving DecidableEq

structure MCPLog extends Attribution where
  id : String

def liveScope (u : Caller) : String := if u.admin then "" else u.id

def channelCapacity : ℕ := 64

structure Subscriber (ε : Type) where
  channel : ℕ
  user : Caller
  userID : String
  queue : List ε
  ofUser : userID = liveScope user

structure Hub (ε : Type) where
  clients : List (Subscriber ε) := []
  next : ℕ := 0
  delivered : List (Caller × ε) := []

inductive HubOp (ε : Type)
  | live (u : Caller)
  | leave (channel : ℕ)
  | receive (channel : ℕ)
  | record (event : ε)

namespace Hub

variable {ε : Type} (attr : ε → Attribution)

def takes (event : ε) (c : Subscriber ε) : Bool :=
  !(c.userID ≠ "" && c.userID ≠ (attr event).userID) && c.queue.length < channelCapacity

def record (h : Hub ε) (event : ε) : Hub ε :=
  { h with
    clients := h.clients.map fun c =>
      if takes attr event c then { c with queue := c.queue ++ [event] } else c
    delivered := h.delivered ++ (h.clients.filter (takes attr event)).map fun c => (c.user, event) }

def subscribe (h : Hub ε) (u : Caller) : Hub ε :=
  { h with
    clients := h.clients ++ [⟨h.next, u, liveScope u, [], rfl⟩]
    next := h.next + 1 }

def unsubscribe (h : Hub ε) (channel : ℕ) : Hub ε :=
  { h with clients := h.clients.filter (·.channel ≠ channel) }

def receive (h : Hub ε) (channel : ℕ) : Hub ε :=
  { h with clients := h.clients.map fun c =>
      if c.channel = channel then { c with queue := c.queue.tail } else c }

def step (h : Hub ε) : HubOp ε → Hub ε
  | .live u => h.subscribe u
  | .leave channel => h.unsubscribe channel
  | .receive channel => h.receive channel
  | .record event => h.record attr event

end Hub

structure Feeds where
  traces : Hub FeedTrace := {}
  mcpLogs : Hub MCPLog := {}

inductive FeedOp
  | trace (op : HubOp FeedTrace)
  | mcp (op : HubOp MCPLog)

def feeds : Machine Feeds FeedOp Unit where
  step s
    | .trace op => ({ s with traces := s.traces.step FeedTrace.toAttribution op }, ())
    | .mcp op => ({ s with mcpLogs := s.mcpLogs.step MCPLog.toAttribution op }, ())

def MaySee (u : Caller) (a : Attribution) : Prop :=
  a.orgID = u.orgID ∧ (u.admin = false → a.userID = u.id)

structure Apart (u : Caller) (a : Attribution) : Prop where
  admin : u.admin = true → a.orgID = u.orgID
  member : u.admin = false → a.userID = u.id → a.orgID = u.orgID
  unnamed : u.admin = false → u.id = "" → a.orgID = u.orgID ∧ a.userID = ""

namespace Hub

variable {ε : Type} {attr : ε → Attribution}

def Contained (attr : ε → Attribution) (h : Hub ε) : Prop :=
  ∀ d ∈ h.delivered, MaySee d.1 (attr d.2)

def Careful (attr : ε → Attribution) (h : Hub ε) : HubOp ε → Prop
  | .record event =>
    ∀ c ∈ h.clients, c.queue.length < channelCapacity → Apart c.user (attr event)
  | _ => True

lemma within_of_takes_iff (c : Subscriber ε) (event : ε)
    (hroom : c.queue.length < channelCapacity) :
    (takes attr event c = true → MaySee c.user (attr event)) ↔ Apart c.user (attr event) := by
  have htakes : takes attr event c = true ↔
      (liveScope c.user = "" ∨ liveScope c.user = (attr event).userID) := by
    unfold takes
    rw [c.ofUser]
    simp [hroom]
  rw [htakes]
  unfold liveScope MaySee
  cases hadmin : c.user.admin with
  | true =>
    constructor
    · intro h
      exact ⟨fun _ => (h (Or.inl rfl)).1, by simp [hadmin], by simp [hadmin]⟩
    · intro h _
      exact ⟨h.admin hadmin, by simp⟩
  | false =>
    simp only [Bool.false_eq_true, if_false, forall_const]
    constructor
    · intro h
      refine ⟨by simp [hadmin], fun _ huser => (h (Or.inr huser.symm)).1, fun _ hid => ?_⟩
      have hboth := h (Or.inl hid)
      exact ⟨hboth.1, hboth.2.trans hid⟩
    · rintro h (hid | huser)
      · have hboth := h.unnamed hadmin hid
        exact ⟨hboth.1, hboth.2.trans hid.symm⟩
      · exact ⟨h.member hadmin huser.symm, huser.symm⟩

lemma mem_delivered_step {h : Hub ε} {op : HubOp ε} {d : Caller × ε} :
    d ∈ (h.step attr op).delivered ↔ d ∈ h.delivered ∨
      ∃ event, op = .record event ∧ ∃ c ∈ h.clients, takes attr event c = true ∧
        d = (c.user, event) := by
  cases op with
  | live u => simp [step, subscribe]
  | leave channel => simp [step, unsubscribe]
  | receive channel => simp [step, receive]
  | record event =>
    simp only [step, record, mem_append, mem_map, mem_filter, HubOp.record.injEq]
    constructor
    · rintro (hd | ⟨c, ⟨hc, ht⟩, rfl⟩)
      · exact Or.inl hd
      · exact Or.inr ⟨event, rfl, c, hc, ht, rfl⟩
    · rintro (hd | ⟨_, rfl, c, hc, ht, rfl⟩)
      · exact Or.inl hd
      · exact Or.inr ⟨c, ⟨hc, ht⟩, rfl⟩

lemma contained_step_iff (h : Hub ε) (op : HubOp ε) :
    (h.step attr op).Contained attr ↔ h.Contained attr ∧ h.Careful attr op := by
  constructor
  · intro hafter
    refine ⟨fun d hd => hafter d (mem_delivered_step.mpr (Or.inl hd)), ?_⟩
    cases op with
    | live u => trivial
    | leave channel => trivial
    | receive channel => trivial
    | record event =>
      intro c hc hroom
      rw [← within_of_takes_iff c event hroom]
      intro ht
      exact hafter (c.user, event)
        (mem_delivered_step.mpr (Or.inr ⟨event, rfl, c, hc, ht, rfl⟩))
  · rintro ⟨hbefore, hcareful⟩ d hd
    rcases mem_delivered_step.mp hd with hd | ⟨event, rfl, c, hc, ht, rfl⟩
    · exact hbefore d hd
    · have hroom : c.queue.length < channelCapacity := by
        simpa using (Bool.and_eq_true_iff.mp ht).2
      exact (within_of_takes_iff c event hroom).mpr (hcareful c hc hroom) ht

end Hub

def Feeds.Contained (s : Feeds) : Prop :=
  s.traces.Contained FeedTrace.toAttribution ∧ s.mcpLogs.Contained MCPLog.toAttribution

def Feeds.Careful (s : Feeds) : FeedOp → Prop
  | .trace op => s.traces.Careful FeedTrace.toAttribution op
  | .mcp op => s.mcpLogs.Careful MCPLog.toAttribution op

theorem feeds_within_tenant_iff (ops : List FeedOp) :
    (feeds.run {} ops).Contained ↔ feeds.Along Feeds.Careful {} ops := by
  have hstep : ∀ s op, (feeds.step s op).1.Contained ↔ s.Contained ∧ s.Careful op := by
    intro s op
    cases op with
    | trace op =>
      show (s.traces.step FeedTrace.toAttribution op).Contained FeedTrace.toAttribution ∧ _ ↔ _
      rw [Hub.contained_step_iff, Feeds.Contained]
      exact and_right_comm
    | mcp op =>
      show _ ∧ (s.mcpLogs.step MCPLog.toAttribution op).Contained MCPLog.toAttribution ↔ _
      rw [Hub.contained_step_iff, Feeds.Contained]
      exact and_assoc.symm
  have hinit : Feeds.Contained {} := ⟨by simp [Hub.Contained], by simp [Hub.Contained]⟩
  rw [Machine.run_iff_along hstep]
  exact and_iff_right hinit

theorem feed_crosses_tenants : ¬ (feeds.run {} [.trace (.live ⟨"u-1", "acme", true⟩),
      .trace (.record ⟨⟨"globex", "u-2"⟩, "t-1"⟩)]).Contained := by
  intro h
  have hwithin := h.1 (⟨"u-1", "acme", true⟩, ⟨⟨"globex", "u-2"⟩, "t-1"⟩) (by decide)
  exact absurd hwithin.1 (by decide)

end FfxNexus
