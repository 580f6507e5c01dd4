/-
**The registry and the table of plugins** (`internal/evalplugin/store_loader.go`, `decode.go`,
`cloneRecord` of `registry.go`, and `Save` and `Delete` of `cmd/nexus/plugin_source_adapter.go`).
A reconcile writes clones of the decoded manifests and compares them with `reflect.DeepEqual`; it is
quiet where a manifest deeply equals its own clone.
-/
import FfxNexus.Evals.KeyAdmin
import FfxNexus.Evals.Precedence
import FfxNexus.Table

open List Option

namespace FfxNexus.Evals
open Go

/-! ## Clones and deep equality -/

/-- `append([]T(nil), s...)`: a slice without elements becomes nil. -/
def Slice.copy {α : Type} : Slice α → Slice α
  | .of (a :: elems) => .of (a :: elems)
  | _ => .nil

/-- The maps of a manifest are copied as they are. -/
def Plugin.clone (p : Plugin) : Plugin :=
  { p with send := { p.send with redact := p.send.redact.copy } }

def Record.clone (rec : Record) : Record := { rec with plugin := rec.plugin.clone }

def Float64.eq : Float64 → Float64 → Bool
  | .num v, .num w => v = w
  | _, _ => false

def Scalar.deepEqual : Scalar → Scalar → Bool
  | .text s, .text t => s = t
  | .number x, .number y => x.eq y
  | _, _ => false

def deepEqualArgs : List (String × Scalar) → List (String × Scalar) → Bool
  | [], [] => true
  | kv :: args, kv' :: args' =>
    kv.1 = kv'.1 && kv.2.deepEqual kv'.2 && deepEqualArgs args args'
  | _, _ => false

/-- A manifest without its floats; nil and empty slices differ. -/
def Plugin.withoutFloats (p : Plugin) : Plugin :=
  { p with
    service := { p.service with metric := { p.service.metric with args := [] } }
    send := { p.send with sampling := .nan } }

def Plugin.deepEqual (p q : Plugin) : Bool :=
  p.withoutFloats = q.withoutFloats && p.send.sampling.eq q.send.sampling &&
    deepEqualArgs p.service.metric.args q.service.metric.args

/-- No float of the manifest is a NaN. -/
structure Plugin.NaNFree (p : Plugin) : Prop where
  sampling : p.send.sampling ≠ .nan
  args : ∀ kv ∈ p.service.metric.args, kv.2 ≠ .number .nan

lemma Float64.eq_iff {x y : Float64} : x.eq y = true ↔ x = y ∧ y ≠ .nan := by
  cases x <;> cases y <;> simp [Float64.eq]

lemma Scalar.deepEqual_iff {v w : Scalar} : v.deepEqual w = true ↔ v = w ∧ w ≠ .number .nan := by
  cases v <;> cases w <;> simp [Scalar.deepEqual, Float64.eq_iff]

lemma deepEqualArgs_iff {args args' : List (String × Scalar)} :
    deepEqualArgs args args' = true ↔ args = args' ∧ ∀ kv ∈ args', kv.2 ≠ .number .nan := by
  induction args generalizing args' with
  | nil => cases args' <;> simp [deepEqualArgs]
  | cons kv args ih =>
    cases args' with
    | nil => simp [deepEqualArgs]
    | cons kv' args' =>
      simp only [deepEqualArgs, Bool.and_eq_true, decide_eq_true_eq, Scalar.deepEqual_iff, ih,
        cons.injEq, Prod.ext_iff, forall_mem_cons]
      tauto

lemma Plugin.deepEqual_iff {p q : Plugin} : p.deepEqual q = true ↔ p = q ∧ q.NaNFree := by
  unfold Plugin.deepEqual
  simp only [Bool.and_eq_true, decide_eq_true_eq, Float64.eq_iff, deepEqualArgs_iff]
  constructor
  · rintro ⟨⟨hrest, hsampling, hnan⟩, hargs, hnans⟩
    obtain ⟨_, _, _, _, ⟨_, _, _, _, _⟩, ⟨_, _, _, _⟩, _, _, _⟩ := p
    obtain ⟨_, _, _, _, ⟨_, _, _, _, _⟩, ⟨_, _, _, _⟩, _, _, _⟩ := q
    refine ⟨?_, hnan, hnans⟩
    simp_all [Plugin.withoutFloats]
  · rintro ⟨rfl, hfree⟩
    exact ⟨⟨rfl, rfl, hfree.sampling⟩, rfl, hfree.args⟩

/-- When a manifest deeply equals its clone. -/
lemma Plugin.deepEqual_clone_iff {p : Plugin} :
    p.clone.deepEqual p = true ↔ p.send.redact ≠ .of [] ∧ p.NaNFree := by
  have hclone : p.clone = p ↔ p.send.redact ≠ .of [] := by
    obtain ⟨_, _, _, _, _, ⟨_, _, _, redact⟩, _, _, _⟩ := p
    rcases redact with _ | _ | _ <;> simp [Plugin.clone, Slice.copy]
  rw [Plugin.deepEqual_iff, hclone]

structure Desired where
  record : Record
  valid : validate record.plugin = .ok ()
  database : record.source.kind = .database

def Record.key (rec : Record) : String := recordKey rec.orgID rec.plugin.name

def Desired.key (want : Desired) : String := want.record.key

namespace Registry

def remove (reg : Registry) (key : String) : Registry where
  all := reg.all.erase key
  keyed key' rec h := reg.keyed key' rec (lookup_erase_eq_some h).2

def helmAt (reg : Registry) (key : String) : Bool :=
  (reg.all.lookup key).any (·.source.kind = .helm)

end Registry

section
variable (unmarshal : String → Except String Plugin)

def decode (raw : String) : Except String Plugin := do
  let p ← unmarshal raw
  validate p
  pure p

lemma decode_ok {raw : String} {p : Plugin} (h : decode unmarshal raw = .ok p) :
    validate p = .ok () := by
  unfold decode at h
  cases hraw : unmarshal raw with
  | error err => rw [hraw] at h; cases h
  | ok p' =>
    rw [hraw] at h
    cases hvalid : validate p' with
    | error err => simp [bind, Except.bind, hvalid] at h
    | ok u =>
      simp only [bind, Except.bind, hvalid, pure, Except.pure, Except.ok.injEq] at h
      rw [← h]
      exact hvalid

variable (row : PluginRecord)

def desire : Option Desired :=
  match h : decode unmarshal row.specYAML with
  | .error _ => none
  | .ok p => some
      { record := ⟨p, ⟨.database, row.id⟩, row.enabled, normalizeOrgID row.orgID⟩
        valid := decode_ok unmarshal h
        database := rfl }

def desired (rows : List PluginRecord) : Table Desired.key :=
  (rows.filterMap (desire unmarshal)).foldl Table.put .empty

def sameRecord (live stored : Record) : Bool :=
  live.enabled = stored.enabled && live.source.ref = stored.source.ref &&
    live.plugin.deepEqual stored.plugin

def adopts (reg : Registry) (want : Desired) : Bool :=
  match reg.all.lookup want.key with
  | none => true
  | some live => live.source.kind ≠ .helm && !sameRecord live want.record

def reconcileFromStore (reg : Registry) (rows : List PluginRecord) : Registry × ℕ :=
  let wanted := desired unmarshal rows
  let adopted := wanted.values.filter (adopts reg)
  let evicted := reg.all.keys.filter fun key =>
    (reg.all.lookup key).any (·.source.kind = .database) && (wanted.get key).isNone
  (evicted.foldl Registry.remove (adopted.foldl (fun reg want => reg.put want.record.clone) reg),
    adopted.length + evicted.length)

section
variable {unmarshal} {reg : Registry} {rows : List PluginRecord} {key : String} {want : Desired}

lemma lookup_removes (reg : Registry) (keys : List String) (key : String) :
    (keys.foldl Registry.remove reg).all.lookup key =
      if key ∈ keys then none else reg.all.lookup key := by
  induction keys generalizing reg with
  | nil => simp
  | cons key' keys ih =>
    rw [foldl_cons, ih]
    by_cases hkey : key = key'
    · subst hkey
      simp [Registry.remove]
    · simp [hkey, Registry.remove]

def settled (reg : Registry) (want : Desired) : Record :=
  if adopts reg want then want.record.clone else want.record

lemma lookup_puts (reg : Registry) (wants : List Desired)
    (hnodup : (wants.map Desired.key).Nodup) (key : String) :
    (wants.foldl (fun reg want => reg.put want.record.clone) reg).all.lookup key =
      ((wants.find? (·.key = key)).map (·.record.clone)).or (reg.all.lookup key) := by
  induction wants generalizing reg with
  | nil => rfl
  | cons want wants ih =>
    rw [map_cons, nodup_cons] at hnodup
    rw [foldl_cons, ih _ hnodup.2, find?_cons]
    by_cases hkey : want.key = key
    · have hnone : wants.find? (·.key = key) = none := by
        rw [find?_eq_none]
        intro w hw heq
        exact hnodup.1 (mem_map.mpr ⟨w, hw, (of_decide_eq_true heq).trans hkey.symm⟩)
      rw [hnone, decide_eq_true hkey]
      subst hkey
      exact AList.lookup_insert _
    · have hput : (reg.put want.record.clone).all.lookup key = reg.all.lookup key :=
        AList.lookup_insert_ne (Ne.symm hkey)
      rw [decide_eq_false hkey, hput]

lemma eq_of_sameRecord {live : Record} (hlive : reg.all.lookup want.key = some live)
    (hkind : live.source.kind ≠ .helm) (h : sameRecord live want.record = true) :
    live = want.record := by
  have hkey : recordKey want.record.orgID want.record.plugin.name = _ := reg.keyed _ _ hlive
  have hname := validPluginName_of_validate want.valid
  have hdatabase := want.database
  simp only [sameRecord, Bool.and_eq_true, decide_eq_true_eq, Plugin.deepEqual_iff] at h
  obtain ⟨⟨henabled, href⟩, hplugin, -⟩ := h
  rw [hplugin] at hkey
  obtain ⟨horg, -⟩ := recordKey_inj hname hname hkey
  have hsource : live.source = want.record.source := by
    cases hlive : live.source
    cases hwant : want.record.source
    grind [SourceKind]
  cases live
  cases hrecord : want.record
  simp_all

lemma lookup_reconcile (reg : Registry) (rows : List PluginRecord) (key : String) :
    (reconcileFromStore unmarshal reg rows).1.all.lookup key =
      if reg.helmAt key then reg.all.lookup key
      else ((desired unmarshal rows).get key).map (settled reg) := by
  unfold reconcileFromStore Registry.helmAt
  have hnodup : (((desired unmarshal rows).values.filter (adopts reg)).map Desired.key).Nodup :=
    (desired unmarshal rows).nodup_keys.sublist (filter_sublist.map _)
  have hmem : key ∈ reg.all.keys ↔ (reg.all.lookup key).isSome := by
    rw [← AList.mem_keys, AList.lookup_isSome]
  rw [lookup_removes, lookup_puts _ _ hnodup, Table.find?_filter_values]
  simp only [mem_filter, hmem]
  cases hlive : reg.all.lookup key with
  | none =>
    cases hget : (desired unmarshal rows).get key with
    | none => simp
    | some want =>
      obtain rfl : want.key = key := (desired unmarshal rows).keyed hget
      simp [settled, adopts, hlive]
  | some live =>
    cases hget : (desired unmarshal rows).get key with
    | none => cases hkind : live.source.kind <;> simp [hkind]
    | some want =>
      obtain rfl : want.key = key := (desired unmarshal rows).keyed hget
      have hsame := eq_of_sameRecord hlive
      cases hkind : live.source.kind <;> grind [settled, adopts]

/-- Every write of the registry goes through `cloneRecord`. -/
def Registry.Cloned (reg : Registry) : Prop := ∀ rec ∈ reg.records, rec.clone = rec

lemma settled_eq (hreg : reg.Cloned) (hhelm : reg.helmAt want.key = false) :
    settled reg want = want.record.clone := by
  unfold settled
  split_ifs with hadopts
  · rfl
  have hlive : reg.all.lookup want.key = some want.record := by
    unfold adopts at hadopts
    unfold Registry.helmAt at hhelm
    have heq := @eq_of_sameRecord reg want
    cases hlook : reg.all.lookup want.key <;> grind
  exact (hreg _ (Registry.mem_records.mpr hlive)).symm

lemma adopts_after (hreg : reg.Cloned) (hwant : want ∈ (desired unmarshal rows).values) :
    adopts (reconcileFromStore unmarshal reg rows).1 want =
      (!reg.helmAt want.key && !want.record.plugin.clone.deepEqual want.record.plugin) := by
  have hsame : sameRecord want.record.clone want.record =
      want.record.plugin.clone.deepEqual want.record.plugin := by
    simp [sameRecord, Record.clone]
  have hdatabase : want.record.clone.source.kind = .database := want.database
  unfold adopts
  rw [lookup_reconcile, Table.mem_values.mp hwant]
  cases hhelm : reg.helmAt want.key with
  | false => simp [settled_eq hreg hhelm, hdatabase, hsame]
  | true =>
    unfold Registry.helmAt at hhelm
    cases hlive : reg.all.lookup want.key <;> grind

lemma quiet_iff (hreg : reg.Cloned) :
    reconcileFromStore unmarshal (reconcileFromStore unmarshal reg rows).1 rows =
      ((reconcileFromStore unmarshal reg rows).1, 0) ↔
    ∀ want ∈ (desired unmarshal rows).values, reg.helmAt want.key = false →
      want.record.plugin.clone.deepEqual want.record.plugin = true := by
  have hevicted : (reconcileFromStore unmarshal reg rows).1.all.keys.filter (fun key =>
      ((reconcileFromStore unmarshal reg rows).1.all.lookup key).any (·.source.kind = .database) &&
        ((desired unmarshal rows).get key).isNone) = [] := by
    rw [filter_eq_nil_iff]
    intro key _
    rw [lookup_reconcile]
    cases hget : (desired unmarshal rows).get key <;>
      cases hlive : reg.all.lookup key <;> grind [Registry.helmAt]
  have hadopted : (desired unmarshal rows).values.filter
      (adopts (reconcileFromStore unmarshal reg rows).1) = [] ↔
      ∀ want ∈ (desired unmarshal rows).values, reg.helmAt want.key = false →
        want.record.plugin.clone.deepEqual want.record.plugin = true := by
    rw [filter_eq_nil_iff]
    refine forall₂_congr fun want hwant => ?_
    rw [adopts_after hreg hwant]
    simp
  rw [← hadopted]
  constructor
  · intro h
    have hcount := congrArg Prod.snd h
    rw [← length_eq_zero_iff]
    exact (Nat.add_eq_zero_iff.mp hcount).1
  · intro hnone
    generalize (reconcileFromStore unmarshal reg rows).1 = after at *
    simp only [reconcileFromStore, hevicted, hnone, foldl_nil, length_nil]

variable {rec : Record}

lemma helmAt_key (h : rec ∈ reg.records) :
    reg.helmAt rec.key = decide (rec.source.kind = .helm) := by
  rw [Registry.mem_records, ← Record.key] at h
  rw [Registry.helmAt, h, any_some]

lemma desire_eq_some {row : PluginRecord} (h : desire unmarshal row = some want) :
    want.record.source.ref = row.id ∧ ∃ p, decode unmarshal row.specYAML = .ok p := by
  unfold desire at h
  split at h
  · cases h
  · rename_i p hp
    obtain rfl := some.inj h
    exact ⟨rfl, p, hp⟩

lemma settled_source : (settled reg want).source = want.record.source := by
  unfold settled
  split_ifs <;> rfl

lemma settled_key : (settled reg want).key = want.key := by
  unfold settled
  split_ifs <;> rfl

lemma mem_reconcile : rec ∈ (reconcileFromStore unmarshal reg rows).1.records ↔
    if reg.helmAt rec.key then rec ∈ reg.records
    else ∃ want, (desired unmarshal rows).get rec.key = some want ∧ settled reg want = rec := by
  rw [Registry.mem_records, ← Record.key, lookup_reconcile]
  split_ifs
  · rw [Registry.mem_records, ← Record.key]
  · rw [map_eq_some_iff]

lemma mem_reconcile_helm (hkind : rec.source.kind = .helm) :
    rec ∈ (reconcileFromStore unmarshal reg rows).1.records ↔ rec ∈ reg.records := by
  rw [mem_reconcile]
  split_ifs with hhelm
  · rfl
  · refine iff_of_false ?_ fun hmem => hhelm ?_
    · rintro ⟨want, -, rfl⟩
      rw [settled_source, want.database] at hkind
      cases hkind
    · rw [helmAt_key hmem, decide_eq_true hkind]

lemma mem_of_get_desired (h : (desired unmarshal rows).get key = some want) :
    ∃ row ∈ rows, desire unmarshal row = some want :=
  mem_filterMap.mp ((Table.mem_of_get_puts h).resolve_right (by simp))

end

/-- The database entries are those of the rows without a Helm record in their place, the Helm
entries are as before, and a second reconcile does nothing. -/
structure Converges (reg : Registry) (rows : List PluginRecord) : Prop where
  database : ∀ rec, (rec ∈ (reconcileFromStore unmarshal reg rows).1.records ∧
      rec.source.kind = .database) ↔
    ∃ row ∈ rows, ∃ want, desire unmarshal row = some want ∧ want.record.clone = rec ∧
      reg.helmAt want.key = false
  helm : ∀ rec, rec.source.kind = .helm →
    (rec ∈ (reconcileFromStore unmarshal reg rows).1.records ↔ rec ∈ reg.records)
  quiet : reconcileFromStore unmarshal (reconcileFromStore unmarshal reg rows).1 rows =
    ((reconcileFromStore unmarshal reg rows).1, 0)

/-- **Reconcile converges and is then quiet** exactly if no manifest it may write has an explicit
empty list of redactions or a NaN: those do not survive `cloneRecord` and `DeepEqual`. -/
theorem reconcile_converges_iff (reg : Registry) (rows : List PluginRecord) (hreg : reg.Cloned)
    (hrows : ((rows.filterMap (desire unmarshal)).map fun want =>
      (want.record.orgID, want.record.plugin.name)).Nodup) :
    Converges unmarshal reg rows ↔ ∀ row ∈ rows, ∀ want, desire unmarshal row = some want →
      reg.helmAt want.key = false →
        want.record.plugin.send.redact ≠ .of [] ∧ want.record.plugin.NaNFree := by
  have hkeys : ((rows.filterMap (desire unmarshal)).map Desired.key).Nodup := by
    refine pairwise_map.mpr ((pairwise_map.mp hrows).imp fun {w w'} hne heq => hne ?_)
    obtain ⟨horg, hname⟩ := recordKey_inj (validPluginName_of_validate w.valid)
      (validPluginName_of_validate w'.valid) heq
    rw [horg, hname]
  have hget : ∀ row ∈ rows, ∀ want, desire unmarshal row = some want →
      (desired unmarshal rows).get want.key = some want := fun row hrow want hwant =>
    Table.get_puts hkeys (mem_filterMap.mpr ⟨row, hrow, hwant⟩)
  have hquiet : (∀ want ∈ (desired unmarshal rows).values, reg.helmAt want.key = false →
      want.record.plugin.clone.deepEqual want.record.plugin = true) ↔
      ∀ row ∈ rows, ∀ want, desire unmarshal row = some want → reg.helmAt want.key = false →
        want.record.plugin.send.redact ≠ .of [] ∧ want.record.plugin.NaNFree := by
    simp only [Plugin.deepEqual_clone_iff]
    grind [Table.mem_values, mem_of_get_desired]
  rw [← hquiet, ← quiet_iff hreg]
  refine ⟨fun h => h.quiet, fun h => ⟨fun rec => ?_, fun rec => mem_reconcile_helm, h⟩⟩
  rw [mem_reconcile]
  constructor
  · rintro ⟨hmem, hkind⟩
    split_ifs at hmem with hhelm
    · rw [helmAt_key hmem, hkind] at hhelm
      cases hhelm
    · obtain ⟨want, hwant, rfl⟩ := hmem
      obtain ⟨row, hrow, hdesire⟩ := mem_of_get_desired hwant
      rw [settled_key, Bool.not_eq_true] at hhelm
      exact ⟨row, hrow, want, hdesire, (settled_eq hreg hhelm).symm, hhelm⟩
  · rintro ⟨row, hrow, want, hwant, rfl, hhelm⟩
    have hkey : want.record.clone.key = want.key := rfl
    rw [hkey, hhelm, if_neg Bool.false_ne_true]
    exact ⟨⟨want, hget row hrow want hwant, settled_eq hreg hhelm⟩, want.database⟩

theorem undecodable_kept_iff (reg : Registry) (store : Table PluginRecord.id) :
    (∀ rec ∈ reg.records, rec.source.kind = .database → ∀ row ∈ store.values,
      row.id = rec.source.ref → (∃ err, decode unmarshal row.specYAML = .error err) →
        rec ∈ (reconcileFromStore unmarshal reg store.values).1.records) ↔
    ∀ rec ∈ reg.records, rec.source.kind = .database → ∀ row ∈ store.values,
      row.id = rec.source.ref → ∃ p, decode unmarshal row.specYAML = .ok p := by
  refine forall₂_congr fun rec hrec => forall_congr' fun hkind => forall₂_congr fun row hrow =>
    forall_congr' fun hid => ?_
  cases hdecode : decode unmarshal row.specYAML with
  | ok p => simp
  | error err =>
    refine iff_of_false (fun h => ?_) (by simp)
    have hmem := h ⟨err, rfl⟩
    rw [mem_reconcile, helmAt_key hrec, hkind] at hmem
    obtain ⟨want, hwant, rfl⟩ := hmem
    obtain ⟨row', hrow', hdesire⟩ := mem_of_get_desired hwant
    obtain ⟨hid', p, hp⟩ := desire_eq_some hdesire
    rw [Table.mem_values] at hrow hrow'
    rw [hid, settled_source, hid', hrow', some.injEq] at hrow
    rw [← hrow, hp] at hdecode
    cases hdecode

structure Live where
  reg : Registry
  store : Table PluginRecord.id

inductive ConsoleOp
  | create (row : PluginRecord)
  | edit (row : PluginRecord) (readable : Bool)
  | delete (id : String) (readable : Bool)
  | refused
  | reconcile

def identifyRecord : String × String :=
  (normalizeOrgID row.orgID, match decode unmarshal row.specYAML with
    | .ok p => p.name
    | .error _ => row.name)

def identify (s : Live) (id : String) (readable : Bool) : Option (String × String) :=
  if readable then ((s.store.get id).map (identifyRecord unmarshal)).filter (·.2 ≠ "") else none

def accepted : Option Desired :=
  if blank row.name ∨ blank row.specYAML then none else desire unmarshal row

def evictedKey (s : Live) : ConsoleOp → Option String
  | .edit row readable => (accepted unmarshal row).bind fun want =>
    ((identify unmarshal s row.id readable).filter (·.2 ≠ want.record.plugin.name)).map
      fun old => recordKey old.1 old.2
  | .delete id readable => (identify unmarshal s id readable).map fun old => recordKey old.1 old.2
  | _ => none

def Live.save (s : Live) (row : PluginRecord) : Live :=
  match accepted unmarshal row with
  | none => s
  | some want => ⟨(s.reg.merge [want.record]).1, s.store.put row⟩

def Live.enter (s : Live) : ConsoleOp → Live
  | .create row => s.save unmarshal row
  | .edit row _ => s.save unmarshal row
  | .delete id _ => ⟨s.reg, s.store.erase id⟩
  | .refused => s
  | .reconcile => ⟨(reconcileFromStore unmarshal s.reg s.store.values).1, s.store⟩

def pluginConsole : Machine Live ConsoleOp Unit where
  step s op :=
    let entered := s.enter unmarshal op
    (⟨(evictedKey unmarshal s op).elim entered.reg entered.reg.remove, entered.store⟩, ())

section
variable {unmarshal} {s : Live} {op : ConsoleOp} {rec : Record}

lemma mem_enter (hkind : rec.source.kind = .helm) :
    rec ∈ (s.enter unmarshal op).reg.records ↔ rec ∈ s.reg.records := by
  have hsave : ∀ row, rec ∈ (s.save unmarshal row).reg.records ↔ rec ∈ s.reg.records := by
    intro row
    unfold Live.save
    split
    · rfl
    · rename_i want _
      have hdatabase := want.database
      rw [Registry.mem_records, Registry.mem_records,
        Registry.lookup_merge (by simpa using want.valid)]
      cases hlive : s.reg.all.lookup (recordKey rec.orgID rec.plugin.name) <;>
        grind [Registry.pick]
  cases op with
  | create row => exact hsave row
  | edit row readable => exact hsave row
  | reconcile => exact mem_reconcile_helm hkind
  | delete id readable => rfl
  | refused => rfl

lemma mem_step (hkind : rec.source.kind = .helm) :
    rec ∈ ((pluginConsole unmarshal).step s op).1.reg.records ↔
      rec ∈ s.reg.records ∧ evictedKey unmarshal s op ≠ some rec.key := by
  have henter : rec ∈ (s.enter unmarshal op).reg.records ↔ rec ∈ s.reg.records := mem_enter hkind
  rw [← henter]
  unfold pluginConsole
  dsimp only
  cases evictedKey unmarshal s op with
  | none => simp
  | some key =>
    rw [elim_some, Registry.mem_records, Registry.mem_records, ← Record.key]
    by_cases hkey : rec.key = key
    · subst hkey
      simp [Registry.remove]
    · simp [Registry.remove, AList.lookup_erase_ne hkey, Ne.symm hkey]

end

theorem helm_survives_iff (s : Live) (ops : List ConsoleOp) :
    (∀ rec ∈ s.reg.records, rec.source.kind = .helm →
      rec ∈ ((pluginConsole unmarshal).run s ops).reg.records) ↔
    (pluginConsole unmarshal).Along (fun s op => ∀ key, evictedKey unmarshal s op = some key →
      s.reg.helmAt key = false) s ops := by
  refine Iff.trans (Machine.run_iff_along_of
    (I := fun t : Live => ∀ rec ∈ t.reg.records, rec.source.kind = .helm → rec ∈ s.reg.records)
    (P := fun t : Live => ∀ rec ∈ s.reg.records, rec.source.kind = .helm → rec ∈ t.reg.records)
    ?_ ?_ (fun rec hmem _ => hmem) ops) (and_iff_right fun (rec : Record) hmem _ => hmem)
  · intro t op ht rec hmem hkind
    exact ht rec ((mem_step hkind).mp hmem).1 hkind
  · intro t op ht
    constructor
    · intro h
      refine ⟨fun rec hmem hkind => ((mem_step hkind).mp (h rec hmem hkind)).1, ?_⟩
      intro key hevicted
      by_contra hhelm
      obtain ⟨rec, hlook, hkind⟩ : ∃ rec, t.reg.all.lookup key = some rec ∧
          rec.source.kind = .helm := by
        simpa [Registry.helmAt, Option.any_eq_true] using hhelm
      obtain rfl := t.reg.keyed key rec hlook
      have hlost := h rec (ht rec (Registry.mem_records.mpr hlook) hkind) hkind
      exact ((mem_step hkind).mp hlost).2 hevicted
    · rintro ⟨h, hspared⟩ rec hmem hkind
      refine (mem_step hkind).mpr ⟨h rec hmem hkind, fun hevicted => ?_⟩
      have hhelm := hspared _ hevicted
      rw [helmAt_key (h rec hmem hkind), hkind] at hhelm
      cases hhelm

end

/-- A decoder that knows the manifest of the judge, with the list of redactions given or not. -/
def sampleManifest : String → Except String Plugin
  | "judge" => .ok (judgeOf "").plugin
  | "judge, redact: [pii]" => .ok (redactingJudge ["pii"])
  | "judge, redact: []" => .ok (redactingJudge [])
  | _ => .error "decode plugin manifest"
where redactingJudge (redact : List String) : Plugin :=
  let p := (judgeOf "").plugin
  { p with send := { p.send with redact := .of redact } }

def judgeRow (specYAML : String) : PluginRecord := { id := "p1", name := "judge", specYAML }

theorem reconcile_converges_redacting :
    Converges sampleManifest .new [judgeRow "judge, redact: [pii]"] := by
  have hreg : Registry.new.Cloned := fun rec hrec => absurd hrec not_mem_nil
  refine (reconcile_converges_iff sampleManifest .new _ hreg (by decide)).mpr ?_
  intro row hrow want hwant _
  rw [mem_singleton.mp hrow] at hwant
  have hplain : (desire sampleManifest (judgeRow "judge, redact: [pii]")).map
      (fun want => want.record.plugin.clone.deepEqual want.record.plugin) = some true := by
    decide
  rw [hwant] at hplain
  exact Plugin.deepEqual_clone_iff.mp (some.inj hplain)

theorem reconcile_restless :
    (reconcileFromStore sampleManifest (reconcileFromStore sampleManifest .new
      [judgeRow "judge, redact: []"]).1 [judgeRow "judge, redact: []"]).2 = 1 := by
  decide

theorem undecodable_evicted : (reconcileFromStore sampleManifest
      (Registry.new.put { judgeOf "" with source := ⟨.database, "p1"⟩ })
      (Table.empty.put (judgeRow "nexus.io/v2") : Table PluginRecord.id).values).1.records = [] :=
  by decide

theorem helm_evicted :
    ((pluginConsole sampleManifest).run ⟨Registry.new.put Registry.helmJudge, .empty⟩
      [.create (judgeRow "judge"), .delete "p1" true]).reg.records = [] := by
  decide

end FfxNexus.Evals
