/-
**The registry of MCP servers** (`internal/mcp/store.go` and `internal/console/mcp.go`).
-/
import FfxNexus.MCP.Gateway

open List

namespace FfxNexus.MCP
open Go

def normalizeMCPOrg (org : String) : String :=
  if trimmed org = "" || org = defaultOrgID then "" else org

structure Requester where
  caller : Caller
  orgHeader : String := ""

def Requester.org (who : Requester) : String := who.caller.requestOrg who.orgHeader

structure Uuids where
  name : ℕ → String
  injective : Function.Injective name
  notBlank : ∀ n, trimmed (name n) ≠ ""

inductive Waiter
  | nobody
  | reconnect
  | test

structure Dial where
  record : ServerRecord
  spec : ServerSpec
  org : String
  waiter : Waiter

structure State where
  rows : Table ServerRecord.id := .empty
  manager : Manager := {}
  dials : List Dial := []
  issued : ℕ := 0
  creators : GoMap String String := ∅

structure Faults where
  read : Option String := none
  write : Option String := none
  reread : Option String := none

namespace State

def list (s : State) (orgID : String) : List ServerRecord :=
  (s.rows.values.filter fun row => orgID = "" || row.orgID = "" || row.orgID = orgID).insertionSort
    fun a b => a.createdAt ≤ b.createdAt

def named (s : State) (orgID name : String) : Option ServerRecord :=
  s.rows.values.find? fun row => row.orgID = orgID && row.name = name

def write (s : State) (rec : ServerRecord) (now : ℤ) : State × Except String ServerRecord :=
  if s.rows.values.any fun row =>
      row.id ≠ rec.id && row.orgID = rec.orgID && row.name = rec.name then
    (s, .error "duplicate key value violates unique constraint \"mcp_servers_unique_name\"")
  else
    let saved :=
      { rec with
        createdAt := ((s.rows.get rec.id).map (·.createdAt)).getD now
        updatedAt := now }
    ({ s with rows := s.rows.put saved }, .ok saved)

def issue (ids : Uuids) (s : State) (org : String) : State :=
  { s with
    issued := s.issued + 1
    creators := s.creators.insert (ids.name s.issued) org }

def save (lib : Library) (ids : Uuids) (s : State) (org : String) (rec : ServerRecord) (now : ℤ)
    (fault : Option String) : State × Except String ServerRecord :=
  if trimmed rec.name = "" then (s, .error "mcp: name is required")
  else if trimmed rec.specYAML = "" then (s, .error "mcp: spec_yaml is required")
  else
    match decodeSpec lib rec.specYAML, fault with
    | .error err, _ => (s, .error ("re-validate spec_yaml: " ++ err))
    | .ok _, some err => (s, .error err)
    | .ok _, none =>
      if trimmed rec.id = "" then
        match s.named rec.orgID rec.name with
        | some row => s.write { rec with id := row.id } now
        | none => (s.issue ids org).write { rec with id := ids.name s.issued } now
      else s.write rec now

def upsert (lib : Library) (s : State) (org : String) (rec : ServerRecord) (waiter : Waiter) :
    State × Except String Bool :=
  match s.manager.upsert lib rec with
  | (m, .error err) => ({ s with manager := m }, .error err)
  | (m, .ok none) => ({ s with manager := m }, .ok false)
  | (m, .ok (some spec)) =>
    ({ s with manager := m, dials := s.dials ++ [⟨rec, spec, org, waiter⟩] }, .ok true)

end State

structure Body where
  name : String
  specYAML : String
  enabled : Bool

inductive Request
  | list
  | create (body : Option Body) (now : ℤ)
  | get (id : String)
  | patch (id : String) (body : Option Body) (now : ℤ)
  | delete (id : String)
  | reconnect (id : String)
  | test (id : String)

inductive Answer
  | listed (servers : List ServerRecord) (statuses : List ServerStatus)
  | record (status : ℕ) (rec : ServerRecord)
  | done (status : ℕ) (message : String)
  | failed (status : ℕ) (message : String)
  | servers (statuses : List ServerStatus)
  | tools (serverID : String) (tools : List Tool)
  | called (serverID : String) (name : String)
  | refused (err : CallError)
  | silent
deriving DecidableEq

namespace State

variable (s : State)

def serverByIDForOrg (org id : String) (fault : Option String) :
    Except Answer ServerRecord :=
  match fault, s.rows.get id with
  | some err, _ => .error (.failed 500 err)
  | none, none => .error (.failed 404 "not found")
  | none, some rec =>
    if rec.orgID ≠ "" && normalizeMCPOrg rec.orgID ≠ normalizeMCPOrg org then
      .error (.failed 404 "not found")
    else .ok rec

variable (lib : Library)

def listMCPServers (org : String) (faults : Faults) : State × Answer :=
  match faults.read with
  | some err => (s, .failed 500 err)
  | none => (s, .listed (s.list org) (s.manager.listAllServers lib (normalizeMCPOrg org)))

def store (ids : Uuids) (s : State) (org : String) (rec : ServerRecord) (now : ℤ)
    (fault : Option String) (status : ℕ) : State × Answer :=
  match s.save lib ids org rec now fault with
  | (s', .error err) => (s', .failed 500 err)
  | (s', .ok saved) => ((s'.upsert lib org saved .nobody).1, .record status saved)

def newRecord (org : String) (body : Body) : ServerRecord where
  id := ""
  orgID := normalizeMCPOrg org
  name := body.name
  specYAML := body.specYAML
  enabled := body.enabled
  createdAt := 0
  updatedAt := 0

def createMCPServer (ids : Uuids) (s : State) (org : String) (body : Option Body)
    (now : ℤ) (faults : Faults) : State × Answer :=
  match body with
  | none => (s, .failed 400 "invalid JSON")
  | some body =>
    match decodeSpec lib body.specYAML with
    | .error err => (s, .failed 400 err)
    | .ok _ => s.store lib ids org (newRecord org body) now faults.write 201

def getMCPServer (org id : String) (faults : Faults) : State × Answer :=
  match s.serverByIDForOrg org id faults.read with
  | .error answer => (s, answer)
  | .ok rec => (s, .record 200 rec)

def patched (rec : ServerRecord) (body : Body) : Except String ServerRecord :=
  let named := { rec with
    name := if trimmed body.name ≠ "" then body.name else rec.name
    enabled := body.enabled }
  if trimmed body.specYAML = "" then .ok named
  else
    match decodeSpec lib body.specYAML with
    | .error err => .error err
    | .ok _ => .ok { named with specYAML := body.specYAML }

def patchMCPServer (ids : Uuids) (s : State) (org id : String) (body : Option Body)
    (now : ℤ) (faults : Faults) : State × Answer :=
  match s.serverByIDForOrg org id faults.read, body with
  | .error answer, _ => (s, answer)
  | .ok _, none => (s, .failed 400 "invalid JSON")
  | .ok rec, some body =>
    match patched lib rec body with
    | .error err => (s, .failed 400 err)
    | .ok rec' => s.store lib ids org rec' now faults.write 200

def deleteMCPServer (org id : String) (faults : Faults) : State × Answer :=
  match s.serverByIDForOrg org id faults.read, faults.write with
  | .error answer, _ => (s, answer)
  | .ok _, some err => (s, .failed 500 err)
  | .ok _, none =>
    ({ s with rows := s.rows.erase id, manager := s.manager.remove id }, .done 204 "")

def countTools (id : String) : Answer :=
  match s.manager.clients.get id with
  | none => .done 200 CallError.serverNotFound.text
  | some st => .done 200 ("tools/list ok (" ++ toString st.tools.length ++ " tools)")

def report (id : String) : Waiter → Except String Unit → Answer
  | .nobody, _ => .silent
  | .reconnect, .error err => .failed 502 err
  | .reconnect, .ok () => .done 200 "ok"
  | .test, .error err => .done 200 err
  | .test, .ok () => s.countTools id

def reconnectWith (org id : String) (faults : Faults)
    (waiter : Waiter) : State × Answer :=
  match s.serverByIDForOrg org id faults.read, faults.reread with
  | .error answer, _ => (s, answer)
  | .ok _, some err => (s, s.report id waiter (.error err))
  | .ok rec, none =>
    match s.upsert lib org rec waiter with
    | (s', .error err) => (s', s'.report id waiter (.error err))
    | (s', .ok false) => (s', s'.report id waiter (.ok ()))
    | (s', .ok true) => (s', .silent)

def reconnectMCPServer (org id : String) (faults : Faults) :
    State × Answer :=
  s.reconnectWith lib org id faults .reconnect

def testMCPServer (org id : String) (faults : Faults) :
    State × Answer :=
  s.reconnectWith lib org id faults .test

def handle (ids : Uuids) (s : State) (org : String) (faults : Faults) :
    Request → State × Answer
  | .list => s.listMCPServers lib org faults
  | .create body now => s.createMCPServer lib ids org body now faults
  | .get id => s.getMCPServer org id faults
  | .patch id body now => s.patchMCPServer lib ids org id body now faults
  | .delete id => s.deleteMCPServer org id faults
  | .reconnect id => s.reconnectMCPServer lib org id faults
  | .test id => s.testMCPServer lib org id faults

def dialled (k : ℕ) (upstream : Upstream) : State × Answer :=
  match s.dials[k]? with
  | none => (s, .silent)
  | some d =>
    let (m, result) := s.manager.connected d.record d.spec upstream
    let s' := { s with manager := m, dials := s.dials.eraseIdx k }
    (s', s'.report d.record.id d.waiter result)

end State

inductive Cmd
  | console (who : Requester) (request : Request) (faults : Faults)
  | dialled (k : ℕ) (upstream : Upstream)
  | restart (upstream : String → Upstream)
  | servers (key : Key)
  | listTools (key : Key) (serverID : String)
  | callTool (key : Key) (serverID name : String)

def State.step (lib : Library) (ids : Uuids) (s : State) : Cmd → State × Answer
  | .console who request faults =>
    if who.caller.admin then s.handle lib ids who.org faults request
    else (s, .failed 403 "admin role required")
  | .dialled k upstream => s.dialled k upstream
  | .restart upstream =>
    ({ s with manager := Manager.reload lib upstream (s.list ""), dials := [] }, .silent)
  | .servers key => (s, .servers (s.manager.listServers lib key))
  | .listTools key serverID =>
    match s.manager.listTools lib key serverID with
    | .error err => (s, .refused err)
    | .ok tools => (s, .tools serverID tools)
  | .callTool key serverID name =>
    match s.manager.callTool key serverID name with
    | .error err => (s, .refused err)
    | .ok _ => (s, .called serverID name)

def registry (lib : Library) (ids : Uuids) : Machine State Cmd Answer := ⟨State.step lib ids⟩

def Cmd.org (s : State) : Cmd → Option String
  | .console who _ _ => some who.org
  | .dialled k _ => s.dials[k]?.map (·.org)
  | .restart _ => none
  | .servers key => some key.orgID
  | .listTools key _ => some key.orgID
  | .callTool key _ _ => some key.orgID

def Answer.Shows (id : String) : Answer → Prop
  | .listed records statuses => (∃ rec ∈ records, rec.id = id) ∨ ∃ st ∈ statuses, st.id = id
  | .record _ rec => rec.id = id
  | .servers statuses => ∃ st ∈ statuses, st.id = id
  | .tools serverID _ => serverID = id
  | .called serverID _ => serverID = id
  | .done _ _ => False
  | .failed _ _ => False
  | .refused _ => False
  | .silent => False

def Touches (lib : Library) (ids : Uuids) (s : State) (cmd : Cmd) (id : String) : Prop :=
  (s.step lib ids cmd).2.Shows id ∨
    (s.step lib ids cmd).1.rows.get id ≠ s.rows.get id ∨
    (s.step lib ids cmd).1.manager.clients.get id ≠ s.manager.clients.get id

def TenantLocal (lib : Library) (ids : Uuids) (creator org : String) (cmds : List Cmd) : Prop :=
  (registry lib ids).Along (fun s cmd => cmd.org s = some org → ∀ id, Touches lib ids s cmd id →
    (s.step lib ids cmd).1.creators.lookup id = some creator → creator = org) {} cmds

lemma normalizeMCPOrg_eq (org : String) : normalizeMCPOrg org = "" ∨ normalizeMCPOrg org = org := by
  unfold normalizeMCPOrg
  split_ifs
  · exact .inl rfl
  · exact .inr rfl

lemma normalizeMCPOrg_empty : normalizeMCPOrg "" = "" := by
  rcases normalizeMCPOrg_eq "" with h | h
  · exact h
  · exact h

lemma normalizeMCPOrg_idem (org : String) :
    normalizeMCPOrg (normalizeMCPOrg org) = normalizeMCPOrg org := by
  rcases normalizeMCPOrg_eq org with h | h
  · rw [h, normalizeMCPOrg_empty]
  · rw [h, h]

def Shares (creator org : String) : Prop :=
  normalizeMCPOrg creator = "" ∨ normalizeMCPOrg org = "" ∨ creator = org

variable {creator : String}

lemma shares_of_normalize_eq {org : String} (h : normalizeMCPOrg creator = org) :
    Shares creator org := by
  rcases normalizeMCPOrg_eq creator with hcreator | hcreator
  · exact .inl hcreator
  · exact .inr (.inr (hcreator.symm.trans h))

lemma shares_of_normalize_eq_normalize {org : String}
    (h : normalizeMCPOrg creator = normalizeMCPOrg org) : Shares creator org := by
  rcases normalizeMCPOrg_eq org with horg | horg
  · exact .inr (.inl horg)
  · exact shares_of_normalize_eq (h.trans horg)

lemma hidden_eq_false_iff {orgID : String} {rec : ServerRecord} :
    hidden orgID rec = false ↔ orgID = "" ∨ rec.orgID = "" ∨ rec.orgID = orgID := by
  unfold hidden
  by_cases hcaller : orgID = ""
  · simp [hcaller]
  · by_cases hrec : rec.orgID = ""
    · simp [hrec]
    · simp [hcaller, hrec]

namespace State
variable {lib : Library} {ids : Uuids} {s s' : State} {org id : String} {rec : ServerRecord}

def Owned (s : State) (rec : ServerRecord) : Prop :=
  ∃ creator, s.creators.lookup rec.id = some creator ∧ rec.orgID = normalizeMCPOrg creator

def Shared (s : State) (org id : String) : Prop :=
  ∃ creator, s.creators.lookup id = some creator ∧ Shares creator org

/-- Every record carries the organisation its server was registered for, a dial is of a server that
its organisation shares, and the ids in use have been issued. -/
structure Sound (ids : Uuids) (s : State) : Prop where
  rows : ∀ row ∈ s.rows.values, s.Owned row
  clients : ∀ st ∈ s.manager.clients.values, s.Owned st.record
  dials : ∀ d ∈ s.dials, s.Owned d.record ∧ s.Shared d.org d.record.id
  issued : ∀ id creator, s.creators.lookup id = some creator → ∃ n < s.issued, id = ids.name n

lemma sound_init (ids : Uuids) : Sound ids {} where
  rows row h := by cases h
  clients st h := by cases h
  dials d h := by cases h
  issued id creator h := by cases h

structure Acts (ids : Uuids) (org : String) (s s' : State) : Prop where
  sound : s'.Sound ids
  creators : ∀ {id creator}, s.creators.lookup id = some creator →
    s'.creators.lookup id = some creator
  rows : ∀ id, s'.rows.get id ≠ s.rows.get id → s'.Shared org id
  clients : ∀ id, s'.manager.clients.get id ≠ s.manager.clients.get id → s'.Shared org id

lemma Acts.refl (h : s.Sound ids) : Acts ids org s s where
  sound := h
  creators h := h
  rows _ h := absurd rfl h
  clients _ h := absurd rfl h

lemma Acts.owned (h : Acts ids org s s') (hrec : s.Owned rec) : s'.Owned rec := by
  obtain ⟨creator, hcreator, horg⟩ := hrec
  exact ⟨creator, h.creators hcreator, horg⟩

lemma Acts.shared {org' : String} (h : Acts ids org s s') (hid : s.Shared org' id) :
    s'.Shared org' id := by
  obtain ⟨creator, hcreator, hshares⟩ := hid
  exact ⟨creator, h.creators hcreator, hshares⟩

lemma Acts.trans {s'' : State} (h : Acts ids org s s') (h' : Acts ids org s' s'') :
    Acts ids org s s'' where
  sound := h'.sound
  creators hid := h'.creators (h.creators hid)
  rows id hne := by
    by_cases hmid : s'.rows.get id = s.rows.get id
    · exact h'.rows id (hmid ▸ hne)
    · exact h'.shared (h.rows id hmid)
  clients id hne := by
    by_cases hmid : s'.manager.clients.get id = s.manager.clients.get id
    · exact h'.clients id (hmid ▸ hne)
    · exact h'.shared (h.clients id hmid)

lemma lookup_issue (ids : Uuids) (s : State) (org : String) :
    (s.issue ids org).creators.lookup (ids.name s.issued) = some org :=
  AList.lookup_insert _

lemma save_cases (lib : Library) (ids : Uuids) (s : State) (org : String) (rec : ServerRecord)
    (now : ℤ) (fault : Option String) :
    (∃ err, s.save lib ids org rec now fault = (s, .error err)) ∨ s.save lib ids org rec now fault =
        if trimmed rec.id = "" then
          match s.named rec.orgID rec.name with
          | some row => s.write { rec with id := row.id } now
          | none => (s.issue ids org).write { rec with id := ids.name s.issued } now
        else s.write rec now := by
  unfold save
  by_cases hname : trimmed rec.name = ""
  · rw [if_pos hname]
    exact .inl ⟨_, rfl⟩
  rw [if_neg hname]
  by_cases hspec : trimmed rec.specYAML = ""
  · rw [if_pos hspec]
    exact .inl ⟨_, rfl⟩
  rw [if_neg hspec]
  split
  · exact .inl ⟨_, rfl⟩
  · exact .inl ⟨_, rfl⟩
  · exact .inr rfl

section
variable (hs : s.Sound ids)
include hs

lemma acts_put (howned : s.Owned rec) (hshared : s.Shared org rec.id) :
    Acts ids org s { s with rows := s.rows.put rec } where
  sound :=
    { rows := by
        intro row hrow
        rcases Table.get_put_eq_some (Table.mem_values.mp hrow) with rfl | hrow
        · exact howned
        · exact hs.rows row (Table.mem_values_of_get hrow)
      clients := hs.clients
      dials := hs.dials
      issued := hs.issued }
  creators h := h
  rows id hne := by
    by_cases hid : id = rec.id
    · rw [hid]
      exact hshared
    · exact absurd (Table.get_put_of_ne _ hid) hne
  clients _ hne := absurd rfl hne

lemma acts_erase (hshared : s.Shared org id) :
    Acts ids org s { s with rows := s.rows.erase id, manager := s.manager.remove id } where
  sound :=
    { rows := fun row hrow => hs.rows row
        (Table.mem_values_of_get (Table.get_erase_eq_some (Table.mem_values.mp hrow)))
      clients := fun st hst => hs.clients st
        (Table.mem_values_of_get (Table.get_erase_eq_some (Table.mem_values.mp hst)))
      dials := hs.dials
      issued := hs.issued }
  creators h := h
  rows id' hne := by
    by_cases hid : id' = id
    · rw [hid]
      exact hshared
    · exact absurd (Table.get_erase_of_ne _ hid) hne
  clients id' hne := by
    by_cases hid : id' = id
    · rw [hid]
      exact hshared
    · exact absurd (Table.get_erase_of_ne _ hid) hne

lemma acts_set {st : ClientState} (howned : s.Owned st.record)
    (hshared : s.Shared org st.id) : Acts ids org s { s with manager := s.manager.set st } where
  sound :=
    { rows := hs.rows
      clients := by
        intro st' hst'
        rcases Manager.mem_set hst' with rfl | hst'
        · exact howned
        · exact hs.clients st' hst'
      dials := hs.dials
      issued := hs.issued }
  creators h := h
  rows _ hne := absurd rfl hne
  clients id hne := by
    by_cases hid : id = st.id
    · rw [hid]
      exact hshared
    · exact absurd (Manager.get_set_of_ne _ hid) hne

lemma acts_dials {dials : List Dial}
    (h : ∀ d ∈ dials, s.Owned d.record ∧ s.Shared d.org d.record.id) :
    Acts ids org s { s with dials := dials } where
  sound := ⟨hs.rows, hs.clients, h, hs.issued⟩
  creators h := h
  rows _ hne := absurd rfl hne
  clients _ hne := absurd rfl hne

lemma lookup_issue_of_lookup {creator : String} (h : s.creators.lookup id = some creator) :
    (s.issue ids org).creators.lookup id = some creator := by
  obtain ⟨n, hn, rfl⟩ := hs.issued id creator h
  have hne : ids.name n ≠ ids.name s.issued := by
    intro heq
    have hsame := ids.injective heq
    omega
  exact (AList.lookup_insert_ne hne).trans h

lemma acts_issue : Acts ids org s (s.issue ids org) := by
  have howned : ∀ {rec}, s.Owned rec → (s.issue ids org).Owned rec := by
    rintro rec ⟨creator, hcreator, horg⟩
    exact ⟨creator, lookup_issue_of_lookup hs hcreator, horg⟩
  refine ⟨⟨fun row hrow => howned (hs.rows row hrow), fun st hst => howned (hs.clients st hst),
    ?_, ?_⟩, lookup_issue_of_lookup hs, fun _ hne => absurd rfl hne, fun _ hne => absurd rfl hne⟩
  · intro d hd
    obtain ⟨hrec, creator, hcreator, hshares⟩ := hs.dials d hd
    exact ⟨howned hrec, creator, lookup_issue_of_lookup hs hcreator, hshares⟩
  · intro id creator hid
    rcases lookup_insert_eq_some hid with ⟨rfl, -⟩ | ⟨-, hid⟩
    · exact ⟨s.issued, Nat.lt_succ_self _, rfl⟩
    · obtain ⟨n, hn, rfl⟩ := hs.issued id creator hid
      exact ⟨n, Nat.lt_succ_of_lt hn, rfl⟩

lemma acts_upsert (howned : s.Owned rec) (hshared : s.Shared org rec.id)
    (waiter : Waiter) : Acts ids org s (s.upsert lib org rec waiter).1 := by
  obtain ⟨st, hrec, hset⟩ := Manager.upsert_eq_set lib s.manager rec
  have hacts : Acts ids org s { s with manager := (s.manager.upsert lib rec).1 } := by
    rw [hset]
    exact acts_set hs (hrec ▸ howned) (by rw [ClientState.id, hrec]; exact hshared)
  unfold upsert
  split
  · next m err heq => rw [heq] at hacts; exact hacts
  · next m heq => rw [heq] at hacts; exact hacts
  next m spec heq =>
  rw [heq] at hacts
  refine hacts.trans (acts_dials hacts.sound ?_)
  intro d hd
  rcases mem_append.mp hd with hd | hd
  · exact hacts.sound.dials d hd
  · rw [mem_singleton.mp hd]
    exact ⟨howned, hshared⟩

structure Saves (ids : Uuids) (org : String) (s : State) (r : State × Except String ServerRecord) :
    Prop where
  acts : Acts ids org s r.1
  owned : ∀ rec, r.2 = .ok rec → r.1.Owned rec ∧ r.1.Shared org rec.id

lemma saves_error (err : String) : Saves ids org s (s, .error err) where
  acts := .refl hs
  owned _ h := by cases h

lemma saves_write (howned : s.Owned rec) (hshared : s.Shared org rec.id)
    (now : ℤ) : Saves ids org s (s.write rec now) := by
  unfold write
  split_ifs
  · exact saves_error hs _
  · -- the times that are filled in do not matter
    have howned' : s.Owned { rec with
        createdAt := ((s.rows.get rec.id).map (·.createdAt)).getD now
        updatedAt := now } := howned
    have hacts := acts_put hs howned' hshared
    refine ⟨hacts, ?_⟩
    rintro _ ⟨⟩
    exact ⟨hacts.owned howned', hacts.shared hshared⟩

lemma saves_new (body : Body) (now : ℤ) (fault : Option String) :
    Saves ids org s (s.save lib ids org (newRecord org body) now fault) := by
  have hid : (newRecord org body).id = "" := rfl
  have horg : (newRecord org body).orgID = normalizeMCPOrg org := by rw [newRecord]
  generalize newRecord org body = rec at hid horg ⊢
  rcases save_cases lib ids s org rec now fault with ⟨err, heq⟩ | heq
  · rw [heq]
    exact saves_error hs err
  have hblank : trimmed rec.id = "" := by
    rw [hid]
    decide
  rw [heq, if_pos hblank]
  cases hnamed : s.named rec.orgID rec.name with
  | some row =>
    obtain ⟨creator, hcreator, hrow⟩ := hs.rows row (mem_of_find?_eq_some hnamed)
    have hsame : row.orgID = rec.orgID := by
      have htest := find?_some hnamed
      simp only [Bool.and_eq_true, decide_eq_true_eq] at htest
      exact htest.1
    have hshares : Shares creator org := by
      apply shares_of_normalize_eq_normalize
      rw [← hrow, hsame, horg]
    have howned : s.Owned { rec with id := row.id } :=
      ⟨creator, hcreator, hsame.symm.trans hrow⟩
    exact saves_write hs howned ⟨creator, hcreator, hshares⟩ now
  | none =>
    have hacts : Acts ids org s (s.issue ids org) := acts_issue hs
    have hlookup := lookup_issue ids s org
    have howned : (s.issue ids org).Owned { rec with id := ids.name s.issued } :=
      ⟨org, hlookup, horg⟩
    have hsaves := saves_write hacts.sound howned ⟨org, hlookup, .inr (.inr rfl)⟩ now
    exact ⟨hacts.trans hsaves.acts, hsaves.owned⟩

lemma saves_registered (howned : s.Owned rec) (hshared : s.Shared org rec.id)
    (now : ℤ) (fault : Option String) : Saves ids org s (s.save lib ids org rec now fault) := by
  rcases save_cases lib ids s org rec now fault with ⟨err, heq⟩ | heq
  · rw [heq]
    exact saves_error hs err
  have hblank : trimmed rec.id ≠ "" := by
    obtain ⟨creator, hcreator, -⟩ := howned
    obtain ⟨n, -, hn⟩ := hs.issued rec.id creator hcreator
    rw [hn]
    exact ids.notBlank n
  rw [heq, if_neg hblank]
  exact saves_write hs howned hshared now

end

structure Serves (ids : Uuids) (org : String) (s : State) (r : State × Answer) : Prop where
  acts : Acts ids org s r.1
  shows : ∀ id, r.2.Shows id → r.1.Shared org id

variable {answer : Answer}

lemma serves_quietly (hacts : Acts ids org s s') (hquiet : ∀ id, ¬ answer.Shows id) :
    Serves ids org s (s', answer) where
  acts := hacts
  shows id h := absurd h (hquiet id)

lemma serves_failed (hs : s.Sound ids) (status : ℕ) (message : String) :
    Serves ids org s (s, .failed status message) :=
  serves_quietly (.refl hs) fun _ => id

lemma Owned.shared {orgID : String} (h : s.Owned rec)
    (horg : orgID = org ∨ orgID = normalizeMCPOrg org)
    (hvisible : orgID = "" ∨ rec.orgID = "" ∨ rec.orgID = orgID) : s.Shared org rec.id := by
  obtain ⟨creator, hcreator, hrec⟩ := h
  refine ⟨creator, hcreator, ?_⟩
  rcases hvisible with hcaller | hglobal | hsame
  · rcases horg with horg | horg
    · rw [← horg, hcaller]
      exact .inr (.inl normalizeMCPOrg_empty)
    · exact .inr (.inl (horg.symm.trans hcaller))
  · exact .inl (hrec.symm.trans hglobal)
  rw [hrec] at hsame
  rcases horg with horg | horg
  · exact shares_of_normalize_eq (hsame.trans horg)
  · exact shares_of_normalize_eq_normalize (hsame.trans horg)

variable {fault : Option String}

lemma serverByIDForOrg_error (h : s.serverByIDForOrg org id fault = .error answer) :
    ∃ status message, answer = .failed status message := by
  unfold serverByIDForOrg at h
  split at h
  · cases h
    exact ⟨_, _, rfl⟩
  · cases h
    exact ⟨_, _, rfl⟩
  · split_ifs at h
    cases h
    exact ⟨_, _, rfl⟩

lemma not_shows_report (s : State) (serverID : String) (waiter : Waiter)
    (result : Except String Unit) (id : String) : ¬ (s.report serverID waiter result).Shows id := by
  cases waiter with
  | nobody => exact fun h => h
  | reconnect =>
    cases result with
    | error err => exact fun h => h
    | ok _ => exact fun h => h
  | test =>
    cases result with
    | error err => exact fun h => h
    | ok _ =>
      show ¬ (s.countTools serverID).Shows id
      unfold countTools
      cases s.manager.clients.get serverID with
      | none => exact fun h => h
      | some st => exact fun h => h

lemma serves_store {now : ℤ} (h : Saves ids org s (s.save lib ids org rec now fault))
    (status : ℕ) : Serves ids org s (s.store lib ids org rec now fault status) := by
  unfold store
  split
  · next s' err heq =>
    rw [heq] at h
    exact serves_quietly h.acts fun _ => id
  next s' saved heq =>
  rw [heq] at h
  obtain ⟨howned, hshared⟩ := h.owned saved rfl
  have hacts : Acts ids org s' (s'.upsert lib org saved .nobody).1 :=
    acts_upsert h.acts.sound howned hshared .nobody
  refine ⟨h.acts.trans hacts, ?_⟩
  rintro _ rfl
  exact hacts.shared hshared

lemma patched_ok {body : Body} {rec' : ServerRecord} (h : patched lib rec body = .ok rec') :
    rec'.id = rec.id ∧ rec'.orgID = rec.orgID := by
  unfold patched at h
  simp only at h
  split_ifs at h
  all_goals first
    | (cases h; exact ⟨rfl, rfl⟩)
    | (split at h <;> cases h; exact ⟨rfl, rfl⟩)

section
variable (hs : s.Sound ids)
include hs

lemma serverByIDForOrg_ok (h : s.serverByIDForOrg org id fault = .ok rec) :
    rec.id = id ∧ s.Owned rec ∧ s.Shared org id := by
  unfold serverByIDForOrg at h
  split at h
  · cases h
  · cases h
  next row hrow =>
  split_ifs at h with htest
  cases h
  have hid : rec.id = id := s.rows.keyed hrow
  have howned : s.Owned rec := hs.rows rec (Table.mem_values_of_get hrow)
  have hvisible : normalizeMCPOrg org = "" ∨ rec.orgID = "" ∨
      rec.orgID = normalizeMCPOrg org := by
    by_cases hglobal : rec.orgID = ""
    · exact .inr (.inl hglobal)
    have hsame : normalizeMCPOrg rec.orgID = normalizeMCPOrg org := by
      simpa [hglobal] using htest
    obtain ⟨creator, -, hrec⟩ := howned
    rw [hrec, normalizeMCPOrg_idem, ← hrec] at hsame
    exact .inr (.inr hsame)
  exact ⟨hid, howned, hid ▸ howned.shared (.inr rfl) hvisible⟩

lemma serves_error (h : s.serverByIDForOrg org id fault = .error answer) :
    Serves ids org s (s, answer) := by
  obtain ⟨status, message, rfl⟩ := serverByIDForOrg_error h
  exact serves_failed hs status message

lemma serves_list (faults : Faults) : Serves ids org s (s.listMCPServers lib org faults) := by
  unfold listMCPServers
  cases faults.read with
  | some err => exact serves_failed hs 500 err
  | none =>
    refine ⟨.refl hs, ?_⟩
    rintro id (⟨row, hrow, rfl⟩ | ⟨status, hstatus, rfl⟩)
    · obtain ⟨hmem, htest⟩ := mem_filter.mp (mem_insertionSort _ |>.mp hrow)
      refine (hs.rows row hmem).shared (.inl rfl) ?_
      simpa [or_assoc] using htest
    obtain ⟨st, hst, rfl⟩ := mem_map.mp (mem_insertionSort _ |>.mp hstatus)
    obtain ⟨hmem, htest⟩ := mem_filter.mp hst
    refine (hs.clients st hmem).shared (.inr rfl) (hidden_eq_false_iff.mp ?_)
    simpa using htest

lemma serves_create (body : Option Body) (now : ℤ) (faults : Faults) :
    Serves ids org s (s.createMCPServer lib ids org body now faults) := by
  unfold createMCPServer
  cases body with
  | none => exact serves_failed hs 400 _
  | some body =>
    simp only
    cases decodeSpec lib body.specYAML with
    | error err => exact serves_failed hs 400 err
    | ok spec => exact serves_store (saves_new hs body now faults.write) 201

lemma serves_get (id : String) (faults : Faults) :
    Serves ids org s (s.getMCPServer org id faults) := by
  unfold getMCPServer
  cases hread : s.serverByIDForOrg org id faults.read with
  | error answer => exact serves_error hs hread
  | ok rec =>
    obtain ⟨rfl, -, hshared⟩ := serverByIDForOrg_ok hs hread
    refine ⟨.refl hs, ?_⟩
    rintro _ rfl
    exact hshared

lemma serves_patch (id : String) (body : Option Body) (now : ℤ)
    (faults : Faults) : Serves ids org s (s.patchMCPServer lib ids org id body now faults) := by
  unfold patchMCPServer
  cases hread : s.serverByIDForOrg org id faults.read with
  | error answer => exact serves_error hs hread
  | ok rec =>
    obtain ⟨rfl, ⟨creator, hcreator, horg⟩, hshared⟩ := serverByIDForOrg_ok hs hread
    cases body with
    | none => exact serves_failed hs 400 _
    | some body =>
      simp only
      cases hpatched : patched lib rec body with
      | error err => exact serves_failed hs 400 err
      | ok rec' =>
        obtain ⟨hid, horg'⟩ := patched_ok hpatched
        have howned : s.Owned rec' := by
          refine ⟨creator, ?_, horg'.trans horg⟩
          rw [hid]
          exact hcreator
        rw [← hid] at hshared
        exact serves_store (saves_registered hs howned hshared now faults.write) 200

lemma serves_delete (id : String) (faults : Faults) :
    Serves ids org s (s.deleteMCPServer org id faults) := by
  unfold deleteMCPServer
  cases hread : s.serverByIDForOrg org id faults.read with
  | error answer => exact serves_error hs hread
  | ok rec =>
    obtain ⟨-, -, hshared⟩ := serverByIDForOrg_ok hs hread
    cases faults.write with
    | some err => exact serves_failed hs 500 err
    | none => exact serves_quietly (acts_erase hs hshared) fun _ h => h

lemma serves_reconnect (id : String) (faults : Faults) (waiter : Waiter) :
    Serves ids org s (s.reconnectWith lib org id faults waiter) := by
  unfold reconnectWith
  cases hread : s.serverByIDForOrg org id faults.read with
  | error answer => exact serves_error hs hread
  | ok rec =>
    obtain ⟨rfl, howned, hshared⟩ := serverByIDForOrg_ok hs hread
    cases faults.reread with
    | some err => exact serves_quietly (.refl hs) (not_shows_report _ _ _ _)
    | none =>
      have hacts : Acts ids org s (s.upsert lib org rec waiter).1 :=
        acts_upsert hs howned hshared waiter
      simp only
      split
      · next s' err heq =>
        rw [heq] at hacts
        exact serves_quietly hacts (not_shows_report _ _ _ _)
      · next s' heq =>
        rw [heq] at hacts
        exact serves_quietly hacts (not_shows_report _ _ _ _)
      · next s' heq =>
        rw [heq] at hacts
        exact serves_quietly hacts fun _ h => h

lemma serves_handle (faults : Faults) (request : Request) :
    Serves ids org s (s.handle lib ids org faults request) := by
  cases request with
  | list => exact serves_list hs faults
  | create body now => exact serves_create hs body now faults
  | get id => exact serves_get hs id faults
  | patch id body now =>
    rw [handle]
    exact serves_patch hs id body now faults
  | delete id => exact serves_delete hs id faults
  | reconnect id => exact serves_reconnect hs id faults .reconnect
  | test id => exact serves_reconnect hs id faults .test

lemma serves_dialled {k : ℕ} {d : Dial} (hd : s.dials[k]? = some d)
    (upstream : Upstream) : Serves ids d.org s (s.dialled k upstream) := by
  obtain ⟨howned, hshared⟩ := hs.dials d (mem_of_getElem? hd)
  obtain ⟨st, hrec, hset⟩ := Manager.connected_eq_set s.manager d.record d.spec upstream
  have hacts : Acts ids d.org s
      { s with manager := (s.manager.connected d.record d.spec upstream).1 } := by
    rw [hset]
    exact acts_set hs (hrec ▸ howned) (by rw [ClientState.id, hrec]; exact hshared)
  unfold dialled
  rw [hd]
  refine serves_quietly (hacts.trans (acts_dials hacts.sound ?_)) (not_shows_report _ _ _ _)
  intro d' hd'
  exact hacts.sound.dials d' (mem_of_mem_eraseIdx hd')

lemma shared_of_ready {key : Key} {serverID : String} {st : ClientState}
    (h : s.manager.ready key serverID = .ok st) : s.Shared key.orgID serverID := by
  obtain ⟨hget, hhidden⟩ := Manager.ready_ok h
  have hid : st.record.id = serverID := s.manager.clients.keyed hget
  have howned := hs.clients st (Table.mem_values_of_get hget)
  exact hid ▸ howned.shared (.inl rfl) (hidden_eq_false_iff.mp hhidden)

lemma serves_servers (key : Key) :
    Serves ids key.orgID s (s, .servers (s.manager.listServers lib key)) := by
  refine ⟨.refl hs, ?_⟩
  rintro id ⟨status, hstatus, rfl⟩
  obtain ⟨st, hmem, hlisted, rfl⟩ :=
    Manager.mem_collected.mp (mem_insertionSort _ |>.mp hstatus)
  refine (hs.clients st hmem).shared (.inl rfl) (hidden_eq_false_iff.mp ?_)
  simp only [ClientState.listedTo, Bool.and_eq_true, Bool.not_eq_true'] at hlisted
  exact hlisted.1.1

end

lemma serves_step (lib : Library) (hs : s.Sound ids) {cmd : Cmd} (horg : cmd.org s = some org) :
    Serves ids org s (s.step lib ids cmd) := by
  cases cmd with
  | console who request faults =>
    cases horg
    simp only [step]
    split_ifs
    · exact serves_handle hs faults request
    · exact serves_failed hs 403 _
  | dialled k upstream =>
    obtain ⟨d, hd, rfl⟩ := Option.map_eq_some_iff.mp horg
    exact serves_dialled hs hd upstream
  | restart upstream => cases horg
  | servers key =>
    cases horg
    exact serves_servers hs key
  | listTools key serverID =>
    cases horg
    simp only [step]
    cases htools : s.manager.listTools lib key serverID with
    | error err => exact serves_quietly (.refl hs) fun _ h => h
    | ok tools =>
      obtain ⟨st, hready⟩ := Manager.listTools_ok htools
      refine ⟨.refl hs, ?_⟩
      rintro _ rfl
      exact shared_of_ready hs hready
  | callTool key serverID name =>
    cases horg
    simp only [step]
    cases hcall : s.manager.callTool key serverID name with
    | error err => exact serves_quietly (.refl hs) fun _ h => h
    | ok st =>
      refine ⟨.refl hs, ?_⟩
      rintro _ rfl
      exact shared_of_ready hs (Manager.callTool_ok hcall)

lemma sound_restart (lib : Library) (hs : s.Sound ids) (upstream : String → Upstream) :
    Sound ids { s with manager := Manager.reload lib upstream (s.list ""), dials := [] } where
  rows := hs.rows
  clients st hst := by
    have hmem := mem_insertionSort _ |>.mp (Manager.record_mem_of_mem_reload hst)
    exact hs.rows _ (mem_filter.mp hmem).1
  dials d hd := by cases hd
  issued := hs.issued

lemma sound_step (lib : Library) (hs : s.Sound ids) (cmd : Cmd) :
    (s.step lib ids cmd).1.Sound ids := by
  cases horg : cmd.org s with
  | some org => exact (serves_step lib hs horg).acts.sound
  | none =>
    cases cmd with
    | restart upstream => exact sound_restart lib hs upstream
    | dialled k upstream =>
      have hd : s.dials[k]? = none := Option.map_eq_none_iff.mp horg
      show (s.dialled k upstream).1.Sound ids
      unfold dialled
      rw [hd]
      exact hs
    | console who request faults => cases horg
    | servers key => cases horg
    | listTools key serverID => cases horg
    | callTool key serverID name => cases horg

lemma shares_of_touches {cmd : Cmd} {creator : String} (hs : s.Sound ids)
    (horg : cmd.org s = some org) (htouches : Touches lib ids s cmd id)
    (hcreator : (s.step lib ids cmd).1.creators.lookup id = some creator) : Shares creator org := by
  have hserves := serves_step lib hs horg
  obtain ⟨creator', hlookup, hshares⟩ : (s.step lib ids cmd).1.Shared org id := by
    rcases htouches with hshows | hrow | hclient
    · exact hserves.shows id hshows
    · exact hserves.acts.rows id hrow
    · exact hserves.acts.clients id hclient
  rw [hcreator, Option.some.injEq] at hlookup
  rw [hlookup]
  exact hshares

end State

lemma tenantLocal_of_not_shares (lib : Library) (ids : Uuids) {org : String}
    (h : Shares creator org → creator = org) (cmds : List Cmd) :
    TenantLocal lib ids creator org cmds := by
  intro before cmd after _ horg id htouches hcreator
  have hsound : ((registry lib ids).run {} before).Sound ids :=
    Machine.run_invariant _ (State.sound_init ids)
      (fun s cmd hs => State.sound_step lib hs cmd) before
  exact h (State.shares_of_touches hsound horg htouches hcreator)

def plainSpec : ServerSpec := { connection := { type := "http", url := "upstream" } }

lemma decodeSpec_plain (raw : String) : decodeSpec plainLibrary raw = .ok plainSpec := by
  have htype : trimmed "http" = "http" := by decide
  have hurl : trimmed "upstream" ≠ "" := by decide
  simp [decodeSpec, validateSpec, plainLibrary, plainSpec, ServerSpec.connectionType, htype, hurl]

section
variable {lib : Library} {ids : Uuids} {org : String} {body : Body} {spec : ServerSpec}

def firstClient (ids : Uuids) (org : String) (body : Body) (spec : ServerSpec) : ClientState where
  record := { State.newRecord org body with id := ids.name 0 }
  spec := some spec
  state := .connecting

def firstState (ids : Uuids) (org : String) (body : Body) (spec : ServerSpec) : State where
  rows := Table.empty.put (firstClient ids org body spec).record
  manager := ({} : Manager).set (firstClient ids org body spec)
  dials := [⟨(firstClient ids org body spec).record, spec, org, .nobody⟩]
  issued := 1
  creators := AList.insert (ids.name 0) org ∅

lemma create_first (hname : trimmed body.name ≠ "") (htext : trimmed body.specYAML ≠ "")
    (hspec : decodeSpec lib body.specYAML = .ok spec) (henabled : body.enabled = true) :
    (State.createMCPServer lib ids {} org (some body) 0 {}).1 = firstState ids org body spec := by
  have hblank : trimmed "" = "" := by decide
  have hsave : State.save lib ids {} org (State.newRecord org body) 0 none =
      (({} : State).issue ids org).write { State.newRecord org body with id := ids.name 0 } 0 := by
    have hname' : trimmed (State.newRecord org body).name ≠ "" := hname
    have htext' : trimmed (State.newRecord org body).specYAML ≠ "" := htext
    have hspec' : decodeSpec lib (State.newRecord org body).specYAML = .ok spec := hspec
    unfold State.save
    rw [if_neg hname', if_neg htext', hspec']
    exact if_pos hblank
  have hwrite : (({} : State).issue ids org).write
      { State.newRecord org body with id := ids.name 0 } 0 =
        ({ ({} : State).issue ids org with
          rows := Table.empty.put (firstClient ids org body spec).record },
            .ok (firstClient ids org body spec).record) := by
    simp only [State.write, State.issue, firstClient, State.newRecord, Table.values_empty,
      any_nil, Bool.false_eq_true, if_false, Table.get_empty, Option.map_none, Option.getD_none]
  have hspec' : decodeSpec lib (firstClient ids org body spec).record.specYAML = .ok spec := hspec
  have henabled' : (firstClient ids org body spec).record.enabled = true := henabled
  unfold State.createMCPServer State.store
  simp only [hspec, hsave, hwrite, State.upsert, Manager.upsert, henabled', if_true,
    Manager.connectServer, hspec']
  simp only [firstState, State.issue, firstClient, nil_append]

end

def sampleBody : Body := ⟨"search", "http", true⟩

def enrol (who : Requester) : Cmd :=
  .console { who with caller := { who.caller with admin := true } }
    (.create (some sampleBody) 0) {}

section
variable {ids : Uuids} {org : String}

def sampleClient (ids : Uuids) (org : String) : ClientState :=
  firstClient ids org sampleBody plainSpec

lemma sampleClient_orgID (ids : Uuids) (org : String) :
    (sampleClient ids org).record.orgID = normalizeMCPOrg org := by
  rw [sampleClient, firstClient, State.newRecord]

lemma run_enrol (ids : Uuids) (who : Requester) : (registry plainLibrary ids).run {} [enrol who] =
      firstState ids who.org sampleBody plainSpec := by
  have hname : trimmed sampleBody.name ≠ "" := by decide
  have htext : trimmed sampleBody.specYAML ≠ "" := by decide
  have horg : Requester.org { who with caller := { who.caller with admin := true } } = who.org :=
    rfl
  have henabled : sampleBody.enabled = true := rfl
  rw [← create_first hname htext (decodeSpec_plain _) henabled, ← horg]
  simp only [Machine.run_cons, Machine.run_nil, registry, State.step, enrol, if_true, State.handle]

lemma mem_firstState (ids : Uuids) (org : String) :
    sampleClient ids org ∈ (firstState ids org sampleBody plainSpec).manager.clients.values :=
  Table.mem_values_of_get (Manager.get_set_self {} (sampleClient ids org))

lemma creator_firstState (ids : Uuids) (org : String) :
    (firstState ids org sampleBody plainSpec).creators.lookup (ids.name 0) = some org :=
  AList.lookup_insert _

lemma eq_of_tenantLocal_key {who : Requester} (h : normalizeMCPOrg who.org = "" ∨ org = "")
    (hlocal : TenantLocal plainLibrary ids who.org org [enrol who, .servers ⟨org, ""⟩]) :
    who.org = org := by
  have hstep := hlocal [enrol who] (.servers ⟨org, ""⟩) [] rfl
  rw [run_enrol] at hstep
  have hvisible : hidden org (sampleClient ids who.org).record = false := by
    rw [hidden_eq_false_iff]
    rcases h with hcreator | horg
    · exact .inr (.inl ((sampleClient_orgID ids who.org).trans hcreator))
    · exact .inl horg
  have hlisted : (sampleClient ids who.org).listedTo org "" = true := by
    have henabled : (sampleClient ids who.org).record.enabled = true := rfl
    have hrefuses : (sampleClient ids who.org).refuses "" = false := by
      simp [ClientState.refuses]
    rw [ClientState.listedTo, hvisible, hrefuses, henabled]
    rfl
  refine hstep rfl (ids.name 0) (.inl ?_) (creator_firstState ids who.org)
  refine ⟨(sampleClient ids who.org).status plainLibrary, ?_, rfl⟩
  exact (mem_insertionSort _).mpr
    (Manager.mem_collected.mpr ⟨_, mem_firstState ids who.org, hlisted, rfl⟩)

lemma eq_of_tenantLocal_admin {who : Requester} (h : normalizeMCPOrg org = "") (horg : org ≠ "")
    (hlocal : TenantLocal plainLibrary ids who.org org
      [enrol who, .console ⟨⟨"admin", org, true⟩, ""⟩ .list {}]) : who.org = org := by
  have hstep := hlocal [enrol who] (.console ⟨⟨"admin", org, true⟩, ""⟩ .list {}) [] rfl
  rw [run_enrol] at hstep
  have hasks : Requester.org ⟨⟨"admin", org, true⟩, ""⟩ = org := Caller.requestOrg_eq horg ""
  have hvisible : hidden (normalizeMCPOrg (Requester.org ⟨⟨"admin", org, true⟩, ""⟩))
      (sampleClient ids who.org).record = false := by
    rw [hasks, hidden_eq_false_iff]
    exact .inl h
  refine hstep (congrArg some hasks) (ids.name 0) (.inl (.inr ?_)) (creator_firstState ids who.org)
  refine ⟨(sampleClient ids who.org).status plainLibrary, ?_, rfl⟩
  refine (mem_insertionSort _).mpr (mem_map.mpr ⟨sampleClient ids who.org, ?_, rfl⟩)
  exact mem_filter.mpr ⟨mem_firstState ids who.org, by rw [hvisible]; rfl⟩

end

def tallyUuids : Uuids where
  name n := String.ofList (List.replicate (n + 1) 'u')
  injective := by
    intro m n h
    have hlength := congrArg (fun t => t.toList.length) h
    simpa using hlength
  notBlank n := by
    have hspace : Guardrails.isSpace 'u' = false := by decide
    have hdrop : (List.replicate (n + 1) 'u').dropWhile Guardrails.isSpace =
        List.replicate (n + 1) 'u' := by
      rw [List.replicate_succ, List.dropWhile_cons_of_neg (by simp [hspace])]
    intro h
    have hlist := congrArg String.toList h
    simp [trimmed, Guardrails.trimSpace, hdrop] at hlist

theorem servers_tenant_local_iff (creator : Requester) (org : String) :
    (∀ lib ids cmds, TenantLocal lib ids creator.org org cmds) ↔
      creator.org = org ∨ (normalizeMCPOrg creator.org ≠ "" ∧ normalizeMCPOrg org ≠ "") := by
  constructor
  · intro hlocal
    by_cases hsame : creator.org = org
    · exact .inl hsame
    refine .inr ⟨fun hcreator => hsame ?_, fun horg => hsame ?_⟩
    · exact eq_of_tenantLocal_key (.inl hcreator) (hlocal plainLibrary tallyUuids _)
    · by_cases hempty : org = ""
      · exact eq_of_tenantLocal_key (.inr hempty) (hlocal plainLibrary tallyUuids _)
      · exact eq_of_tenantLocal_admin horg hempty (hlocal plainLibrary tallyUuids _)
  · intro h lib ids cmds
    apply tenantLocal_of_not_shares
    rintro (hcreator | horg | hsame)
    · rcases h with hsame | ⟨hproper, -⟩
      · exact hsame
      · exact absurd hcreator hproper
    · rcases h with hsame | ⟨-, hproper⟩
      · exact hsame
      · exact absurd horg hproper
    · exact hsame

def defaultAdmin : Requester := ⟨⟨"admin", "default", true⟩, ""⟩

def acmeAdmin : Requester := ⟨⟨"root", "acme", true⟩, ""⟩

theorem default_org_shares : ¬ TenantLocal plainLibrary tallyUuids "default" "acme"
        [enrol defaultAdmin, .dialled 0 (.ok [("lookup", "")]),
          .callTool ⟨"acme", "k-1"⟩ "u" "lookup"] ∧
      ¬ TenantLocal plainLibrary tallyUuids "acme" "default"
        [enrol acmeAdmin, .console defaultAdmin .list {}] := by
  constructor
  · intro hlocal
    have hstep := hlocal [enrol defaultAdmin, .dialled 0 (.ok [("lookup", "")])]
      (.callTool ⟨"acme", "k-1"⟩ "u" "lookup") [] rfl rfl "u"
    refine absurd (hstep (.inl ?_) ?_) (by decide)
    · have hcalled : (State.step plainLibrary tallyUuids ((registry plainLibrary tallyUuids).run {}
            [enrol defaultAdmin, .dialled 0 (.ok [("lookup", "")])])
          (.callTool ⟨"acme", "k-1"⟩ "u" "lookup")).2 = .called "u" "lookup" := by
        decide
      rw [hcalled]
      rfl
    · decide
  · intro hlocal
    have hacme : acmeAdmin.org = "acme" := by decide
    have hdefault : normalizeMCPOrg "default" = "" := by decide
    rw [← hacme] at hlocal
    have hsame : acmeAdmin.org = "default" := eq_of_tenantLocal_admin hdefault (by decide) hlocal
    exact absurd (hacme.symm.trans hsame) (by decide)

end FfxNexus.MCP
