/-
**MCP servers at run time** (`internal/mcp/types.go`, `spec.go`, `risk.go`, `manager.go`).
-/
import FfxNexus.Console
import FfxNexus.Sorting
import FfxNexus.Table
import Mathlib.Data.List.Infix
import Mathlib.Data.String.Basic

namespace FfxNexus.MCP
open Go List

structure ServerRecord where
  id : String
  orgID : String
  name : String
  specYAML : String
  enabled : Bool
  createdAt : ℤ
  updatedAt : ℤ
deriving DecidableEq

structure ConnectionSpec where
  type : String := ""
  command : String := ""
  args : List String := []
  env : GoMap String String := ∅
  url : String := ""
  headers : GoMap String String := ∅

structure ServerSpec where
  connection : ConnectionSpec
  allowedVirtualKeyIDs : List String := []
  allowedTools : List String := []
  timeoutMs : ℤ := 0

structure Library where
  toLower : String → String
  unmarshal : String → Except String ServerSpec
  rfc3339 : ℤ → String
  scrub : String → String

namespace ServerSpec

def connectionType (lib : Library) (spec : ServerSpec) : String :=
  lib.toLower (trimmed spec.connection.type)

def allowsVirtualKey (spec : ServerSpec) (vkeyID : String) : Bool :=
  spec.allowedVirtualKeyIDs.isEmpty || vkeyID ∈ spec.allowedVirtualKeyIDs

def allowsTool (spec : ServerSpec) (name : String) : Bool :=
  spec.allowedTools.isEmpty || name ∈ spec.allowedTools

end ServerSpec

def invalidSpec (what : String) : Except String Unit :=
  .error ("mcp: invalid server spec: " ++ what)

variable (lib : Library)

def validateSpec (spec : ServerSpec) : Except String Unit :=
  let typ := spec.connectionType lib
  if typ = "stdio" && trimmed spec.connection.command = "" then
    invalidSpec "stdio connection requires command"
  else if typ = "http" && trimmed spec.connection.url = "" then
    invalidSpec "http connection requires url"
  else if typ ≠ "stdio" && typ ≠ "http" then invalidSpec "connection.type must be stdio or http"
  else if spec.timeoutMs < 0 then invalidSpec "timeout_ms must be non-negative"
  else .ok ()

def decodeSpec (raw : String) : Except String ServerSpec :=
  match lib.unmarshal raw with
  | .error err => .error ("decode mcp spec: " ++ err)
  | .ok spec =>
    match validateSpec lib spec with
    | .error err => .error err
    | .ok () => .ok spec

inductive Risk
  | read
  | write
  | network
  | dataExport
deriving DecidableEq

def Risk.text : Risk → String
  | .read => "read"
  | .write => "write"
  | .network => "network"
  | .dataExport => "data_export"

structure Tool where
  name : String
  description : String
  risk : Option Risk := none
deriving DecidableEq

def containsAny (s : List Char) (parts : List String) : Bool :=
  parts.any fun p => decide (p.toList <:+: s)

def classifyToolRisk (name : String) : Risk :=
  let n := (lib.toLower (trimmed name)).toList.map fun c => if c = '-' then '_' else c
  if containsAny n ["email", "send_mail", "export", "download", "upload", "share", "forward"] then
    .dataExport
  else if containsAny n ["http", "fetch", "request", "webhook", "browse", "url", "web_"] then
    .network
  else if containsAny n
      ["write", "create", "update", "delete", "put", "patch", "remove", "insert", "drop"] then
    .write
  else .read

def Tool.graded (t : Tool) : Tool :=
  { t with risk := some (classifyToolRisk lib t.name) }

inductive ConnState
  | healthy
  | error
  | disabled
  | connecting
deriving DecidableEq

def ConnState.text : ConnState → String
  | .healthy => "healthy"
  | .error => "error"
  | .disabled => "disabled"
  | .connecting => "connecting"

structure ClientState where
  record : ServerRecord
  spec : Option ServerSpec
  cli : Bool := false
  tools : List Tool := []
  state : ConnState
  lastError : String := ""

def ClientState.id (st : ClientState) : String := st.record.id

structure ServerStatus extends ServerRecord where
  connectionType : String
  state : ConnState
  toolCount : ℕ
  tools : List Tool
  lastError : String
deriving DecidableEq

structure Manager where
  clients : Table ClientState.id := .empty

abbrev Upstream : Type := Except String (List (String × String))

namespace Manager

def set (m : Manager) (st : ClientState) : Manager := ⟨m.clients.put st⟩

@[simp] lemma get_set_self (m : Manager) (st : ClientState) :
    (m.set st).clients.get st.id = some st :=
  Table.get_put_self _ _

lemma get_set_of_ne (m : Manager) {st : ClientState} {id : String} (h : id ≠ st.id) :
    (m.set st).clients.get id = m.clients.get id :=
  Table.get_put_of_ne _ h

lemma mem_set {m : Manager} {st st' : ClientState} (h : st' ∈ (m.set st).clients.values) :
    st' = st ∨ st' ∈ m.clients.values := by
  rcases Table.get_put_eq_some (Table.mem_values.mp h) with h | h
  · exact .inl h
  · exact .inr (Table.mem_values_of_get h)

def setDisabled (m : Manager) (rec : ServerRecord) : Manager :=
  m.set { record := rec, spec := (decodeSpec lib rec.specYAML).toOption, state := .disabled }

def markError (m : Manager) (rec : ServerRecord) (spec : Option ServerSpec) (err : String) :
    Manager :=
  m.set { record := rec, spec := spec, state := .error, lastError := err }

def connectServer (m : Manager) (rec : ServerRecord) :
    Manager × Except String ServerSpec :=
  match decodeSpec lib rec.specYAML with
  | .error err => (m.markError rec none err, .error err)
  | .ok spec => (m.set { record := rec, spec := some spec, state := .connecting }, .ok spec)

def connected (m : Manager) (rec : ServerRecord) (spec : ServerSpec) :
    Upstream → Manager × Except String Unit
  | .error err => (m.markError rec (some spec) err, .error err)
  | .ok found =>
    let tools := found.map fun t => { name := t.1, description := t.2 : Tool }
    (m.set
      { record := rec
        spec := some spec
        cli := true
        tools := tools.insertionSort fun a b => a.name ≤ b.name
        state := .healthy }, .ok ())

def upsert (m : Manager) (rec : ServerRecord) :
    Manager × Except String (Option ServerSpec) :=
  if rec.enabled then
    match m.connectServer lib rec with
    | (m', .error err) => (m', .error err)
    | (m', .ok spec) => (m', .ok (some spec))
  else (m.setDisabled lib rec, .ok none)

def remove (m : Manager) (id : String) : Manager := ⟨m.clients.erase id⟩

def reloadOne (upstream : String → Upstream) (m : Manager) (rec : ServerRecord) :
    Manager :=
  match m.upsert lib rec with
  | (m', .ok (some spec)) => (m'.connected rec spec (upstream rec.id)).1
  | (m', _) => m'

def reload (upstream : String → Upstream) (rows : List ServerRecord) : Manager :=
  rows.foldl (reloadOne lib upstream) {}

lemma connected_eq_set (m : Manager) (rec : ServerRecord) (spec : ServerSpec)
    (upstream : Upstream) :
    ∃ st, st.record = rec ∧ (m.connected rec spec upstream).1 = m.set st := by
  cases upstream with
  | error err => exact ⟨_, rfl, rfl⟩
  | ok found => exact ⟨_, rfl, rfl⟩

lemma upsert_eq_set (m : Manager) (rec : ServerRecord) :
    ∃ st, st.record = rec ∧ (m.upsert lib rec).1 = m.set st := by
  unfold upsert connectServer
  split_ifs with henabled
  · cases decodeSpec lib rec.specYAML with
    | error err => exact ⟨_, rfl, rfl⟩
    | ok spec => exact ⟨_, rfl, rfl⟩
  · exact ⟨_, rfl, rfl⟩

lemma mem_reloadOne {lib : Library} {upstream : String → Upstream} {m : Manager}
    {rec : ServerRecord} {st : ClientState}
    (h : st ∈ (m.reloadOne lib upstream rec).clients.values) :
    st.record = rec ∨ st ∈ m.clients.values := by
  obtain ⟨st1, hrec1, hset1⟩ := upsert_eq_set lib m rec
  have hupsert : st ∈ (m.upsert lib rec).1.clients.values →
      st.record = rec ∨ st ∈ m.clients.values := by
    intro hst
    rw [hset1] at hst
    rcases mem_set hst with rfl | hst
    · exact .inl hrec1
    · exact .inr hst
  unfold reloadOne at h
  split at h
  · next m' spec heq =>
    obtain ⟨st2, hrec2, hset2⟩ := connected_eq_set m' rec spec (upstream rec.id)
    rw [hset2] at h
    rcases mem_set h with rfl | h
    · exact .inl hrec2
    · rw [heq] at hupsert
      exact hupsert h
  · next m' _ heq =>
    rw [heq] at hupsert
    exact hupsert h

lemma record_mem_of_mem_reload {lib : Library} {upstream : String → Upstream}
    {rows : List ServerRecord} {st : ClientState}
    (h : st ∈ (reload lib upstream rows).clients.values) : st.record ∈ rows := by
  -- along the loop: a client is for a row of the prefix, or was there at the start
  have hloop : ∀ (rows : List ServerRecord) (m : Manager),
      st ∈ (rows.foldl (reloadOne lib upstream) m).clients.values →
        st.record ∈ rows ∨ st ∈ m.clients.values := by
    intro rows
    induction rows with
    | nil => exact fun m hst => .inr hst
    | cons rec rows ih =>
      intro m hst
      rcases ih _ hst with hmem | hst
      · exact .inl (mem_cons_of_mem _ hmem)
      · rcases mem_reloadOne hst with hrec | hst
        · exact .inl (hrec ▸ mem_cons_self)
        · exact .inr hst
  rcases hloop rows {} h with hmem | hst
  · exact hmem
  · cases hst

end Manager

def hidden (orgID : String) (rec : ServerRecord) : Bool :=
  orgID ≠ "" && rec.orgID ≠ "" && rec.orgID ≠ orgID

namespace ClientState

def refuses (st : ClientState) (vkeyID : String) : Bool :=
  st.spec.any fun spec => vkeyID ≠ "" && !spec.allowsVirtualKey vkeyID

def listedTo (orgID vkeyID : String) (st : ClientState) : Bool :=
  !hidden orgID st.record && !st.refuses vkeyID && st.record.enabled

def shownTools (st : ClientState) : List Tool :=
  (st.tools.filter fun t => st.spec.all fun spec => spec.allowsTool t.name).map (Tool.graded lib)

def status (st : ClientState) : ServerStatus where
  toServerRecord := st.record
  connectionType := (st.spec.map fun spec => spec.connectionType lib).getD ""
  state := st.state
  toolCount := (st.shownTools lib).length
  tools := st.shownTools lib
  lastError := st.lastError

end ClientState

inductive CallError
  | serverNotFound
  | keyNotAllowed
  | notReady (name : String) (state : ConnState)
  | nameRequired
  | toolNotAllowed
deriving DecidableEq

def CallError.text : CallError → String
  | .serverNotFound => "mcp: server not found"
  | .keyNotAllowed => "mcp: virtual key not allowed for this server"
  | .notReady name state => "mcp server " ++ name.quote ++ " is " ++ state.text
  | .nameRequired => "tool name is required"
  | .toolNotAllowed => "mcp: tool is not on this server's allowlist"

structure Key where
  orgID : String
  id : String

namespace Manager

def collected (m : Manager) (key : Key) : List ServerStatus :=
  (m.clients.values.filter (ClientState.listedTo key.orgID key.id)).map (ClientState.status lib)

def listServers (m : Manager) (key : Key) : List ServerStatus :=
  (m.collected lib key).insertionSort fun a b => a.name ≤ b.name

def listAllServers (m : Manager) (orgID : String) : List ServerStatus :=
  ((m.clients.values.filter fun st => !hidden orgID st.record).map
    (ClientState.status lib)).insertionSort fun a b => a.name ≤ b.name

def MayList (m : Manager) (key : Key) (out : List ServerStatus) : Prop :=
  out.Perm (m.collected lib key) ∧ out.Pairwise fun a b => a.name ≤ b.name

def getAllowed (m : Manager) (key : Key) (serverID : String) : Except CallError ClientState :=
  match m.clients.get serverID with
  | none => .error .serverNotFound
  | some st =>
    if hidden key.orgID st.record then .error .serverNotFound
    else if st.refuses key.id then .error .keyNotAllowed
    else .ok st

def ready (m : Manager) (key : Key) (serverID : String) : Except CallError ClientState :=
  match m.getAllowed key serverID with
  | .error err => .error err
  | .ok st =>
    if st.state ≠ .healthy || !st.cli then .error (.notReady st.record.name st.state) else .ok st

def listTools (m : Manager) (key : Key) (serverID : String) :
    Except CallError (List Tool) :=
  match m.ready key serverID with
  | .error err => .error err
  | .ok st => .ok (st.shownTools lib)

def callTool (m : Manager) (key : Key) (serverID name : String) : Except CallError ClientState :=
  match m.ready key serverID with
  | .error err => .error err
  | .ok st =>
    if trimmed name = "" then .error .nameRequired
    else if !(st.spec.all fun spec => spec.allowsTool name) then .error .toolNotAllowed
    else .ok st

variable {lib : Library} {m : Manager} {key : Key} {serverID : String} {st : ClientState}

lemma mem_collected {s : ServerStatus} :
    s ∈ m.collected lib key ↔ ∃ st ∈ m.clients.values,
      st.listedTo key.orgID key.id = true ∧ st.status lib = s := by
  unfold Manager.collected
  rw [mem_map]
  constructor
  · rintro ⟨st, hst, rfl⟩
    obtain ⟨hmem, hlisted⟩ := mem_filter.mp hst
    exact ⟨st, hmem, hlisted, rfl⟩
  · rintro ⟨st, hmem, hlisted, rfl⟩
    exact ⟨st, mem_filter.mpr ⟨hmem, hlisted⟩, rfl⟩

lemma ready_ok (h : m.ready key serverID = .ok st) :
    m.clients.get serverID = some st ∧ hidden key.orgID st.record = false := by
  have hallowed : m.getAllowed key serverID = .ok st := by
    unfold ready at h
    split at h
    · cases h
    next st' hst' =>
    split_ifs at h
    cases h
    exact hst'
  unfold getAllowed at hallowed
  split at hallowed
  · cases hallowed
  next st' hget =>
  split_ifs at hallowed with hhidden hrefuses
  cases hallowed
  exact ⟨hget, by simpa using hhidden⟩

lemma listTools_ok {tools : List Tool} (h : m.listTools lib key serverID = .ok tools) :
    ∃ st, m.ready key serverID = .ok st := by
  unfold listTools at h
  split at h
  · cases h
  · next st hready => exact ⟨st, hready⟩

lemma callTool_ok {name : String} (h : m.callTool key serverID name = .ok st) :
    m.ready key serverID = .ok st := by
  unfold callTool at h
  split at h
  · cases h
  next st' hready =>
  split_ifs at h
  cases h
  exact hready

end Manager

end FfxNexus.MCP
