/-
**MCP servers at the gateway** (`MCPServers`, `MCPListTools` and `writeMCPError` of
`internal/gateway/mcp.go`).
-/
import FfxNexus.Json
import FfxNexus.MCP.Manager

open List Option

namespace FfxNexus.MCP
open Json

structure Response where
  status : ℕ
  body : Value

variable (lib : Library)

def writeError (status : ℕ) (errType msg : String) : Response :=
  ⟨status, .obj [("error", .obj [("message", .str (lib.scrub msg)), ("type", .str errType)])]⟩

def writeMCPError (err : CallError) : Response :=
  if err = .serverNotFound then writeError lib 404 "mcp_not_found" err.text
  else if err = .toolNotAllowed then writeError lib 403 "forbidden" err.text
  else if "virtual key not allowed".toList <:+: err.text.toList then
    writeError lib 403 "forbidden" err.text
  else writeError lib 502 "mcp_error" err.text

def omitEmpty (name : String) (empty : Bool) (v : Value) : Fields :=
  if empty then [] else [(name, v)]

def Tool.json (t : Tool) : Value :=
  .obj ([("name", .str t.name)] ++ omitEmpty "description" (t.description = "") (.str t.description)
    ++ omitEmpty "risk" t.risk.isNone (.str ((t.risk.map Risk.text).getD "")))

def ServerStatus.json (s : ServerStatus) : Value :=
  .obj ([("id", .str s.id), ("org_id", .str s.orgID), ("name", .str s.name),
      ("spec_yaml", .str s.specYAML), ("enabled", .bool s.enabled),
      ("created_at", .str (lib.rfc3339 s.createdAt)),
      ("updated_at", .str (lib.rfc3339 s.updatedAt)),
      ("connection_type", .str s.connectionType), ("state", .str s.state.text),
      ("tool_count", .num s.toolCount)]
    ++ omitEmpty "tools" s.tools.isEmpty (.arr (s.tools.map Tool.json))
    ++ omitEmpty "last_error" (s.lastError = "") (.str s.lastError))

def serversResponse (servers : List ServerStatus) : Response :=
  ⟨200, .obj [("servers", .arr (servers.map (ServerStatus.json lib)))]⟩

def mcpServers (m : Manager) (key : Key) : Response :=
  serversResponse lib (m.listServers lib key)

def MayAnswer (m : Manager) (key : Key) (r : Response) : Prop :=
  ∃ out, m.MayList lib key out ∧ r = serversResponse lib out

def mcpListTools (m : Manager) (key : Key) (serverID : String) : Response :=
  match m.listTools lib key serverID with
  | .error err => writeMCPError lib err
  | .ok tools => ⟨200, .obj [("tools", .arr (tools.map Tool.json))]⟩

structure ConnectionSpec.SameButSecrets (c c' : ConnectionSpec) : Prop where
  type : c.type = c'.type
  command : c.command = c'.command
  args : c.args = c'.args
  env : ∀ k, k ∈ c.env ↔ k ∈ c'.env
  url : c.url = c'.url
  headers : ∀ k, k ∈ c.headers ↔ k ∈ c'.headers

structure ServerSpec.SameButSecrets (spec spec' : ServerSpec) : Prop where
  connection : spec.connection.SameButSecrets spec'.connection
  keys : spec.allowedVirtualKeyIDs = spec'.allowedVirtualKeyIDs
  tools : spec.allowedTools = spec'.allowedTools
  timeout : spec.timeoutMs = spec'.timeoutMs

def ServerRecord.SameButText (rec rec' : ServerRecord) : Prop :=
  { rec with specYAML := "" } = { rec' with specYAML := "" }

structure ClientState.SameButSecrets (st st' : ClientState) : Prop where
  record : st.record.SameButText st'.record
  spec : Rel ServerSpec.SameButSecrets st.spec st'.spec
  cli : st.cli = st'.cli
  tools : st.tools = st'.tools
  state : st.state = st'.state
  lastError : st.lastError = st'.lastError

def Manager.SameButSecrets (m m' : Manager) : Prop :=
  ∀ id, Rel ClientState.SameButSecrets (m.clients.get id) (m'.clients.get id)

lemma rel_symm {α : Type} {r : α → α → Prop} (hr : ∀ a b, r a b → r b a) {x y : Option α}
    (h : Rel r x y) : Rel r y x := by
  cases h with
  | some h => exact .some (hr _ _ h)
  | none => exact .none

lemma rel_cases {α : Type} {r : α → α → Prop} {x y : Option α} (h : Rel r x y) :
    (x = none ∧ y = none) ∨ ∃ a b, x = some a ∧ y = some b ∧ r a b := by
  cases h with
  | some h => exact .inr ⟨_, _, rfl, rfl, h⟩
  | none => exact .inl ⟨rfl, rfl⟩

lemma ServerSpec.SameButSecrets.symm {spec spec' : ServerSpec}
    (h : spec.SameButSecrets spec') : spec'.SameButSecrets spec where
  connection :=
    { type := h.connection.type.symm
      command := h.connection.command.symm
      args := h.connection.args.symm
      env := fun k => (h.connection.env k).symm
      url := h.connection.url.symm
      headers := fun k => (h.connection.headers k).symm }
  keys := h.keys.symm
  tools := h.tools.symm
  timeout := h.timeout.symm

lemma ClientState.SameButSecrets.symm {st st' : ClientState}
    (h : st.SameButSecrets st') : st'.SameButSecrets st where
  record := Eq.symm h.record
  spec := rel_symm (fun _ _ => ServerSpec.SameButSecrets.symm) h.spec
  cli := h.cli.symm
  tools := h.tools.symm
  state := h.state.symm
  lastError := h.lastError.symm

lemma Manager.SameButSecrets.symm {m m' : Manager} (h : m.SameButSecrets m') :
    m'.SameButSecrets m :=
  fun id => rel_symm (fun _ _ => ClientState.SameButSecrets.symm) (h id)

section
variable {st st' : ClientState}

lemma ServerRecord.SameButText.fields {rec rec' : ServerRecord} (h : rec.SameButText rec') :
    rec.id = rec'.id ∧ rec.orgID = rec'.orgID ∧ rec.name = rec'.name ∧
      rec.enabled = rec'.enabled := by
  injection h with hid horg hname _ henabled
  exact ⟨hid, horg, hname, henabled⟩

lemma ServerRecord.SameButText.eq {rec rec' : ServerRecord} (h : rec.SameButText rec')
    (htext : rec.specYAML = rec'.specYAML) : rec = rec' := by
  cases rec
  cases rec'
  simp_all [ServerRecord.SameButText]

namespace ClientState.SameButSecrets

variable (h : st.SameButSecrets st')
include h

lemma refuses_eq (vkeyID : String) : st.refuses vkeyID = st'.refuses vkeyID := by
  unfold ClientState.refuses
  rcases rel_cases h.spec with ⟨hnone, hnone'⟩ | ⟨spec, spec', hsome, hsome', hspec⟩
  · rw [hnone, hnone']
  · rw [hsome, hsome']
    simp only [any_some, ServerSpec.allowsVirtualKey, hspec.keys]

lemma hidden_eq (orgID : String) : hidden orgID st.record = hidden orgID st'.record := by
  unfold hidden
  rw [h.record.fields.2.1]

lemma listedTo_eq (orgID vkeyID : String) :
    st.listedTo orgID vkeyID = st'.listedTo orgID vkeyID := by
  unfold ClientState.listedTo
  rw [h.hidden_eq, h.refuses_eq, h.record.fields.2.2.2]

lemma allowsTool_eq (name : String) : (st.spec.all fun spec => spec.allowsTool name) =
      st'.spec.all fun spec => spec.allowsTool name := by
  rcases rel_cases h.spec with ⟨hnone, hnone'⟩ | ⟨spec, spec', hsome, hsome', hspec⟩
  · rw [hnone, hnone']
  · rw [hsome, hsome']
    simp only [all_some, ServerSpec.allowsTool, hspec.tools]

lemma shownTools_eq : st.shownTools lib = st'.shownTools lib := by
  unfold ClientState.shownTools
  simp only [h.allowsTool_eq, h.tools]

lemma status_eq
    (htext : st.record.specYAML = st'.record.specYAML) : st.status lib = st'.status lib := by
  have htype : (st.spec.map fun spec => spec.connectionType lib) =
      st'.spec.map fun spec => spec.connectionType lib := by
    rcases rel_cases h.spec with ⟨hnone, hnone'⟩ | ⟨spec, spec', hsome, hsome', hspec⟩
    · rw [hnone, hnone']
    · rw [hsome, hsome']
      simp only [map_some, ServerSpec.connectionType, hspec.connection.type]
  unfold ClientState.status
  rw [h.record.eq htext, htype, h.state, h.shownTools_eq, h.lastError]

end ClientState.SameButSecrets

end

namespace Manager.SameButSecrets
variable {m m' : Manager} {lib : Library} {key : Key}

lemma nodup_collected : (m.collected lib key).Nodup := by
  refine List.Nodup.map_on ?_ (m.clients.nodup_values.filter _)
  intro st hst st' hst' heq
  have hget := Table.mem_values.mp (mem_filter.mp hst).1
  have hget' := Table.mem_values.mp (mem_filter.mp hst').1
  have hid : st.id = st'.id := congrArg (·.id) heq
  rw [hid, hget'] at hget
  exact (some.inj hget).symm

variable (h : m.SameButSecrets m')
include h

lemma getAllowed_rel (key : Key) (serverID : String) :
    (∃ err, m.getAllowed key serverID = .error err ∧ m'.getAllowed key serverID = .error err) ∨
      ∃ st st', st.SameButSecrets st' ∧ m.getAllowed key serverID = .ok st ∧
        m'.getAllowed key serverID = .ok st' := by
  unfold Manager.getAllowed
  rcases rel_cases (h serverID) with ⟨hnone, hnone'⟩ | ⟨st, st', hsome, hsome', hst⟩
  · rw [hnone, hnone']
    exact .inl ⟨_, rfl, rfl⟩
  rw [hsome, hsome']
  simp only [hst.hidden_eq, hst.refuses_eq]
  by_cases hhidden : hidden key.orgID st'.record = true
  · rw [if_pos hhidden, if_pos hhidden]
    exact .inl ⟨_, rfl, rfl⟩
  rw [if_neg hhidden, if_neg hhidden]
  by_cases hrefuses : st'.refuses key.id = true
  · rw [if_pos hrefuses, if_pos hrefuses]
    exact .inl ⟨_, rfl, rfl⟩
  · rw [if_neg hrefuses, if_neg hrefuses]
    exact .inr ⟨st, st', hst, rfl, rfl⟩

lemma mcpListTools_eq (lib : Library) (key : Key) (serverID : String) :
    mcpListTools lib m key serverID = mcpListTools lib m' key serverID := by
  have htools : m.listTools lib key serverID = m'.listTools lib key serverID := by
    unfold Manager.listTools Manager.ready
    rcases h.getAllowed_rel key serverID with ⟨err, herr, herr'⟩ | ⟨st, st', hst, hok, hok'⟩
    · rw [herr, herr']
    rw [hok, hok']
    simp only [hst.state, hst.cli, hst.record.fields.2.2.1]
    split_ifs
    · rfl
    · simp only [hst.shownTools_eq]
  unfold mcpListTools
  rw [htools]

def TextsAgree (m m' : Manager) (key : Key) : Prop :=
  ∀ st ∈ m.clients.values, ∀ st' ∈ m'.clients.values, st.id = st'.id →
    st.listedTo key.orgID key.id = true → st.record.specYAML = st'.record.specYAML

variable (htexts : TextsAgree m m' key)
include htexts

lemma TextsAgree.symm : TextsAgree m' m key := by
  intro st' hst' st hst hid hlisted
  refine (htexts st hst st' hst' hid.symm ?_).symm
  have hrel := h st.id
  rw [Table.mem_values.mp hst, ← hid, Table.mem_values.mp hst'] at hrel
  cases hrel with
  | some hsame => rw [hsame.listedTo_eq, hlisted]

lemma collected_subset : m.collected lib key ⊆ m'.collected lib key := by
  intro s hs
  obtain ⟨st, hst, hlisted, rfl⟩ := mem_collected.mp hs
  have hget : m.clients.get st.id = some st := Table.mem_values.mp hst
  have hrel := h st.id
  rw [hget] at hrel
  obtain ⟨st', hget', hsame⟩ : ∃ st', m'.clients.get st.id = some st' ∧
      st.SameButSecrets st' := by
    rcases rel_cases hrel with ⟨hnone, -⟩ | ⟨_, st', heq, hsome', hsame⟩
    · cases hnone
    · cases heq
      exact ⟨st', hsome', hsame⟩
  have hst' : st' ∈ m'.clients.values := Table.mem_values_of_get hget'
  refine mem_collected.mpr ⟨st', hst', ?_, ?_⟩
  · rw [← hsame.listedTo_eq]
    exact hlisted
  · exact (hsame.status_eq lib (htexts st hst st' hst' hsame.record.fields.1 hlisted)).symm

lemma collected_perm : (m.collected lib key).Perm (m'.collected lib key) := by
  rw [perm_ext_iff_of_nodup nodup_collected nodup_collected]
  intro s
  exact ⟨fun hs => h.collected_subset htexts hs,
    fun hs => h.symm.collected_subset (htexts.symm h) hs⟩

end Manager.SameButSecrets

lemma mayList_listServers (lib : Library) (m : Manager) (key : Key) :
    m.MayList lib key (m.listServers lib key) :=
  ⟨perm_insertionSort _ _,
    Sorting.ByKey.pairwise (fun (a b : ServerStatus) => Iff.refl (a.name ≤ b.name)) _⟩

lemma ServerStatus.eq_of_json_eq {lib : Library} {s s' : ServerStatus}
    (h : s.json lib = s'.json lib) : s.id = s'.id ∧ s.specYAML = s'.specYAML := by
  unfold ServerStatus.json at h
  simp only [cons_append, nil_append, Value.obj.injEq, cons.injEq, Prod.mk.injEq,
    Value.str.injEq, true_and] at h
  exact ⟨h.1, h.2.2.2.1⟩

open Manager.SameButSecrets

lemma textsAgree_of_mayAnswer {lib : Library} {m m' : Manager} {key : Key}
    (h : ∀ r, MayAnswer lib m key r → MayAnswer lib m' key r) : TextsAgree m m' key := by
  intro st hst st' hst' hid hlisted
  obtain ⟨out', ⟨hperm, -⟩, hout⟩ :=
    h (mcpServers lib m key) ⟨_, mayList_listServers lib m key, rfl⟩
  have hmap : (m.listServers lib key).map (ServerStatus.json lib) =
      out'.map (ServerStatus.json lib) := by
    simpa [mcpServers, serversResponse] using hout
  have hmem : st.status lib ∈ m.listServers lib key :=
    (perm_insertionSort _ _).mem_iff.mpr (Manager.mem_collected.mpr ⟨st, hst, hlisted, rfl⟩)
  have hjson := mem_map_of_mem (f := ServerStatus.json lib) hmem
  rw [hmap] at hjson
  obtain ⟨s, hs, heq⟩ := mem_map.mp hjson
  obtain ⟨st'', hst'', -, rfl⟩ := Manager.mem_collected.mp (hperm.mem_iff.mp hs)
  obtain ⟨hid'', htext⟩ := ServerStatus.eq_of_json_eq heq
  have hget' := Table.mem_values.mp hst'
  have hget'' := Table.mem_values.mp hst''
  have hids : st''.id = st'.id := Eq.trans hid'' hid
  rw [hids, hget'] at hget''
  rw [some.inj hget'']
  exact htext.symm

theorem secrets_hidden_iff (lib : Library) (m m' : Manager) (h : m.SameButSecrets m') (key : Key) :
    ((∀ r, MayAnswer lib m key r ↔ MayAnswer lib m' key r) ∧
        ∀ serverID, mcpListTools lib m key serverID = mcpListTools lib m' key serverID) ↔
      TextsAgree m m' key := by
  constructor
  · rintro ⟨hservers, -⟩
    exact textsAgree_of_mayAnswer fun r => (hservers r).mp
  · intro htexts
    refine ⟨fun r => ?_, fun serverID => h.mcpListTools_eq lib key serverID⟩
    have hperm : (m.collected lib key).Perm (m'.collected lib key) := h.collected_perm htexts
    constructor
    · rintro ⟨out, ⟨hout, hsorted⟩, rfl⟩
      exact ⟨out, ⟨hout.trans hperm, hsorted⟩, rfl⟩
    · rintro ⟨out, ⟨hout, hsorted⟩, rfl⟩
      exact ⟨out, ⟨hout.trans hperm.symm, hsorted⟩, rfl⟩

def plainLibrary : Library where
  toLower := id
  unmarshal _ := .ok { connection := { type := "http", url := "upstream" } }
  rfc3339 _ := ""
  scrub := id

def tokenSpec (token : String) : String :=
  "connection:\n  type: http\n  url: upstream\n  headers:\n    Authorization: " ++ token

lemma tokenSpec_injective : Function.Injective tokenSpec := by
  intro token token' h
  exact (String.append_right_inj _).mp h

variable (orgID token : String)

def tokenClient : ClientState where
  record :=
    { id := "s-1"
      orgID := orgID
      name := "search"
      specYAML := tokenSpec token
      enabled := true
      createdAt := 0
      updatedAt := 0 }
  spec := some
    { connection :=
        { type := "http", url := "upstream", headers := AList.singleton "Authorization" token } }
  cli := true
  tools := [{ name := "web_search", description := "" }]
  state := .healthy

def tokenManager : Manager := ({} : Manager).set (tokenClient orgID token)

lemma tokenClient_id : (tokenClient orgID token).id = "s-1" := rfl

lemma tokenManager_get :
    (tokenManager orgID token).clients.get "s-1" = some (tokenClient orgID token) := by
  exact Manager.get_set_self {} (tokenClient orgID token)

lemma tokenManager_same (orgID token token' : String) :
    (tokenManager orgID token).SameButSecrets (tokenManager orgID token') := by
  intro id
  by_cases hid : id = "s-1"
  · rw [hid]
    refine .some ⟨rfl, .some ⟨?_, rfl, rfl, rfl⟩, rfl, rfl, rfl, rfl⟩
    exact ⟨rfl, rfl, rfl, fun _ => Iff.rfl, rfl, fun _ => Iff.rfl⟩
  · have hget : ∀ token, (tokenManager orgID token).clients.get id = none := by
      intro token
      exact Manager.get_set_of_ne {} hid
    rw [hget, hget]
    exact .none

lemma eq_of_mem_tokenManager {orgID token : String} {st : ClientState}
    (h : st ∈ (tokenManager orgID token).clients.values) : st = tokenClient orgID token := by
  rcases Manager.mem_set h with hst | hst
  · exact hst
  · cases hst

theorem token_hidden_from_others :
    (∀ r, MayAnswer plainLibrary (tokenManager "globex" "one") ⟨"acme", "k-1"⟩ r ↔
        MayAnswer plainLibrary (tokenManager "globex" "two") ⟨"acme", "k-1"⟩ r) ∧ ∀ serverID,
        mcpListTools plainLibrary (tokenManager "globex" "one") ⟨"acme", "k-1"⟩ serverID =
          mcpListTools plainLibrary (tokenManager "globex" "two") ⟨"acme", "k-1"⟩ serverID := by
  refine (secrets_hidden_iff plainLibrary _ _ (tokenManager_same "globex" "one" "two") _).mpr ?_
  intro st hst st' _ _ hlisted
  rw [eq_of_mem_tokenManager hst] at hlisted
  exact absurd hlisted (by decide)

theorem token_shown_to_key :
    (tokenManager "acme" "one").SameButSecrets (tokenManager "acme" "two") ∧
      ¬ ∀ r, MayAnswer plainLibrary (tokenManager "acme" "one") ⟨"acme", "k-1"⟩ r ↔
        MayAnswer plainLibrary (tokenManager "acme" "two") ⟨"acme", "k-1"⟩ r := by
  refine ⟨tokenManager_same "acme" "one" "two", fun h => ?_⟩
  have hmem : ∀ token, tokenClient "acme" token ∈ (tokenManager "acme" token).clients.values :=
    fun token => Table.mem_values_of_get (tokenManager_get "acme" token)
  have htexts := textsAgree_of_mayAnswer fun r => (h r).mp
  have hids := (tokenClient_id "acme" "one").trans (tokenClient_id "acme" "two").symm
  have hsame : tokenSpec "one" = tokenSpec "two" :=
    htexts _ (hmem "one") _ (hmem "two") hids (by decide)
  exact absurd (tokenSpec_injective hsame) (by decide)

end FfxNexus.MCP
