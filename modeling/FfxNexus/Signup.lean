/-
**Signing up** (`register` of `internal/console/auth.go`, `CountUsers` and `CreateUser` of
`internal/core/users.go`).
-/
import FfxNexus.Console
import Mathlib.Data.Fintype.EquivFin

namespace FfxNexus.Signup
open List Function Machine

structure User where
  id : String
  orgID : String
  email : String
  passwordHash : String
  role : String
  enforceLimits : Bool

def roleAdmin : String := "admin"

def roleMember : String := "member"

variable (users : List User)

def countUsers (orgID : String) : ℕ :=
  (users.filter fun u => u.orgID = orgOrDefault orgID).length

def newUser (id orgID email passwordHash role : String) : User :=
  ⟨id, orgOrDefault orgID, email, passwordHash, if role = "" then roleMember else role, true⟩

def vacant (row : User) : Prop :=
  ∀ u ∈ users, u.id ≠ row.id ∧ ¬ (u.orgID = row.orgID ∧ u.email = row.email)

instance (users : List User) (row : User) : Decidable (vacant users row) :=
  inferInstanceAs (Decidable (∀ u ∈ users, _))

structure Server where
  allowSignup : Bool
  localMode : Bool
  hasStore : Bool

structure Incoming where
  session : Option Caller
  orgHeader : String
  body : Option (String × String × String × String)

def Incoming.orgID (r : Incoming) : String :=
  match r.session with
  | some u => u.requestOrg r.orgHeader
  | none => if trimmed r.orgHeader ≠ "" then trimmed r.orgHeader else defaultOrgID

def validateEmail (email : String) : Bool :=
  let rev := (trimmed email).toList.reverse
  let domain := rev.takeWhile (· ≠ '@')
  decide ('@' ∈ rev) && decide ((rev.dropWhile (· ≠ '@')).tail ≠ []) && decide ('.' ∈ domain)

def validatePassword (password : String) : Bool := 8 ≤ password.utf8ByteSize

inductive Answer
  | pending
  | refused (status : ℕ) (err : String)
  | created (user : User)

variable (srv : Server)

def validate (r : Incoming) : Except Answer (String × String) :=
  if srv.allowSignup = false then .error (.refused 403 "registration disabled")
  else
    match r.body with
    | none => .error (.refused 400 "invalid JSON")
    | some (email, password, provider, providerSecret) =>
      if validateEmail (trimmed email) = false then .error (.refused 400 "invalid email")
      else if validatePassword password = false then
        .error (.refused 400 "password must be at least 8 characters")
      else if providerSecret ≠ "" ∧ provider = "" then
        .error (.refused 400 "provider is required when provider_secret is set")
      else if srv.hasStore = false then
        .error (.refused 503 ("control plane disabled: set NEXUS_POSTGRES_URL to enable " ++
          "key/credential management"))
      else .ok (trimmed email, password)

def roleFor (users : List User) (orgID : String) (failed : Bool) : String :=
  if srv.localMode = true ∧ failed = false ∧ countUsers users orgID = 0 then roleAdmin
  else roleMember

inductive Phase
  | idle
  | creating (orgID email password role : String)

structure State where
  users : List User
  phase : ℕ → Phase

variable (s : State)

def State.goTo (i : ℕ) (p : Phase) : State :=
  { s with phase := update s.phase i p }

inductive Cmd
  | count (i : ℕ) (r : Incoming) (failed : Bool)
  | create (i : ℕ) (id : String) (hash : Except String String)
      (failure : Option (String × Bool))

def count (i : ℕ) (r : Incoming) (failed : Bool) : State × Answer :=
  match s.phase i with
  | .creating _ _ _ _ => (s, .pending)
  | .idle =>
    match validate srv r with
    | .error answer => (s, answer)
    | .ok (email, password) =>
      (s.goTo i (.creating r.orgID email password (roleFor srv s.users r.orgID failed)), .pending)

def create (i : ℕ) (id : String) (hash : Except String String)
    (failure : Option (String × Bool)) : State × Answer :=
  match s.phase i, hash, failure with
  | .idle, _, _ => (s, .pending)
  | .creating _ _ _ _, .error _, _ => (s.goTo i .idle, .refused 500 "registration failed")
  | .creating orgID email _ role, .ok passwordHash, some (_, applied) =>
    let row := newUser id orgID email passwordHash role
    ({ s.goTo i .idle with
        users := if applied = true ∧ vacant s.users row then s.users ++ [row] else s.users },
      .refused 500 "registration failed")
  | .creating orgID email _ role, .ok passwordHash, none =>
    let row := newUser id orgID email passwordHash role
    if vacant s.users row then
      ({ s.goTo i .idle with users := s.users ++ [row] }, .created row)
    else (s.goTo i .idle, .refused 409 "email already registered")

def console : Machine State Cmd Answer where
  step s
    | .count i r failed => count srv s i r failed
    | .create i id hash failure => create s i id hash failure

def Promotes (org : String) (i : ℕ) (r : Incoming) (failed : Bool)
    (email : String) : Prop :=
  s.phase i = .idle ∧ (∃ password, validate srv r = .ok (email, password)) ∧
    srv.localMode = true ∧ failed = false ∧ orgOrDefault r.orgID = org ∧
    ∀ u ∈ s.users, u.orgID ≠ org

def Promoted (org : String) (j : ℕ) (email : String) : Prop :=
  ∃ orgID password, s.phase j = .creating orgID email password roleAdmin ∧ orgOrDefault orgID = org

variable {orgID : String}

lemma countUsers_eq_zero {users : List User} :
    countUsers users orgID = 0 ↔ ∀ u ∈ users, u.orgID ≠ orgOrDefault orgID := by
  unfold countUsers
  rw [length_eq_zero_iff, filter_eq_nil_iff]
  simp only [decide_eq_true_eq]

variable {srv : Server} {failed : Bool}

lemma roleFor_eq_admin {users : List User} : roleFor srv users orgID failed = roleAdmin ↔
      srv.localMode = true ∧ failed = false ∧ ∀ u ∈ users, u.orgID ≠ orgOrDefault orgID := by
  unfold roleFor
  rw [← countUsers_eq_zero]
  split_ifs with h
  · exact ⟨fun _ => h, fun _ => rfl⟩
  · exact ⟨fun hrole => absurd hrole (by decide), fun h' => absurd h' h⟩

lemma count_cases (srv : Server) (s : State) (i : ℕ) (r : Incoming) (failed : Bool) :
    (count srv s i r failed).1.users = s.users ∧
      ∀ org j email, Promoted (count srv s i r failed).1 org j email →
        Promoted s org j email ∨ (j = i ∧ Promotes srv s org i r failed email) := by
  unfold count
  cases hphase : s.phase i with
  | creating orgID email password role => exact ⟨rfl, fun _ _ _ h => .inl h⟩
  | idle =>
    cases hvalid : validate srv r with
    | error answer => exact ⟨rfl, fun _ _ _ h => .inl h⟩
    | ok account =>
      obtain ⟨email, password⟩ := account
      refine ⟨rfl, ?_⟩
      rintro org j email' ⟨orgID, password', hj, horg⟩
      unfold State.goTo at hj
      dsimp only at hj
      by_cases hji : j = i
      · subst hji
        rw [update_self, Phase.creating.injEq] at hj
        obtain ⟨rfl, rfl, rfl, hrole⟩ := hj
        obtain ⟨hlocal, hfailed, hnone⟩ := roleFor_eq_admin.mp hrole
        exact .inr ⟨rfl, hphase, ⟨_, hvalid⟩, hlocal, hfailed, horg, horg ▸ hnone⟩
      · rw [update_of_ne hji] at hj
        exact .inl ⟨orgID, password', hj, horg⟩

variable {i j : ℕ}

lemma phase_count_of_ne (srv : Server) (s : State) (h : j ≠ i) (r : Incoming) (failed : Bool) :
    (count srv s i r failed).1.phase j = s.phase j := by
  unfold count
  cases s.phase i with
  | creating orgID email password role => rfl
  | idle =>
    cases validate srv r with
    | error answer => rfl
    | ok account => exact update_of_ne h _ _

variable {s : State} {org email : String} {r : Incoming}

lemma promoted_count (h : Promotes srv s org i r failed email) :
    Promoted (count srv s i r failed).1 org i email := by
  obtain ⟨hphase, ⟨password, hvalid⟩, hlocal, hfailed, horg, hnone⟩ := h
  refine ⟨r.orgID, password, ?_, horg⟩
  have hrole : roleFor srv s.users r.orgID failed = roleAdmin :=
    roleFor_eq_admin.mpr ⟨hlocal, hfailed, horg ▸ hnone⟩
  unfold count
  rw [hphase, hvalid]
  rw [hrole]
  exact update_self _ _ _

lemma create_cases (s : State) (i : ℕ) (id : String) (hash : Except String String)
    (failure : Option (String × Bool)) :
    (∀ j p, (create s i id hash failure).1.phase j = p → p ≠ .idle → s.phase j = p) ∧
      ((create s i id hash failure).1.users = s.users ∨ ∃ orgID email password role passwordHash,
          s.phase i = .creating orgID email password role ∧
          vacant s.users (newUser id orgID email passwordHash role) ∧
          (create s i id hash failure).1.users =
            s.users ++ [newUser id orgID email passwordHash role]) := by
  have hidle : ∀ {users : List User} {j : ℕ} {p : Phase},
      ({ s.goTo i .idle with users := users } : State).phase j = p → p ≠ .idle → s.phase j = p := by
    intro users j p hj hp
    unfold State.goTo at hj
    dsimp only at hj
    by_cases hji : j = i
    · rw [hji, update_self] at hj
      exact absurd hj.symm hp
    · rwa [update_of_ne hji] at hj
  unfold create
  cases hphase : s.phase i with
  | idle => exact ⟨fun j p hj _ => hj, .inl rfl⟩
  | creating orgID email password role =>
    cases hash with
    | error err => exact ⟨fun j p hj hp => hidle hj hp, .inl rfl⟩
    | ok passwordHash =>
      cases failure with
      | none =>
        dsimp only
        split_ifs with hvacant
        · exact ⟨fun j p hj hp => hidle hj hp,
            .inr ⟨orgID, email, password, role, passwordHash, rfl, hvacant, rfl⟩⟩
        · exact ⟨fun j p hj hp => hidle hj hp, .inl rfl⟩
      | some outcome =>
        obtain ⟨err, applied⟩ := outcome
        dsimp only
        by_cases hthere : applied = true ∧
            vacant s.users (newUser id orgID email passwordHash role)
        · rw [if_pos hthere]
          exact ⟨fun j p hj hp => hidle hj hp,
            .inr ⟨orgID, email, password, role, passwordHash, rfl, hthere.2, rfl⟩⟩
        · rw [if_neg hthere]
          exact ⟨fun j p hj hp => hidle hj hp, .inl rfl⟩

lemma create_ok {id password role : String}
    (hphase : s.phase i = .creating orgID email password role) (passwordHash : String)
    (hvacant : vacant s.users (newUser id orgID email passwordHash role)) :
    (create s i id (.ok passwordHash) none).1 =
      { s.goTo i .idle with users := s.users ++ [newUser id orgID email passwordHash role] } := by
  unfold create
  rw [hphase]
  dsimp only
  rw [if_pos hvacant]

def admins (org : String) (s : State) : List User :=
  s.users.filter fun u => u.orgID = org ∧ u.role = roleAdmin

/-- **The condition**: a count that promotes its request finds no other promoted with another
address. -/
def Unraced (srv : Server) (org : String) (s : State) : Cmd → Prop
  | .count i r failed => ∀ email, Promotes srv s org i r failed email →
      ∀ j email', Promoted s org j email' → email' = email
  | .create _ _ _ _ => True

structure Inv (org : String) (s : State) : Prop where
  address : ∃ email, (∀ j email', Promoted s org j email' → email' = email) ∧
    ∀ u ∈ admins org s, u.email = email
  unique : (s.users.filter fun u => u.orgID = org).Pairwise fun u u' => u.email ≠ u'.email

lemma Inv.length_admins_le (h : Inv org s) : (admins org s).length ≤ 1 := by
  obtain ⟨email, -, haddress⟩ := h.address
  have hsub : (admins org s).Sublist (s.users.filter fun u => u.orgID = org) := by
    apply monotone_filter_right
    intro u hu
    rw [decide_eq_true_eq] at hu
    exact decide_eq_true hu.1
  have hpairwise := h.unique.sublist hsub
  match hlist : admins org s with
  | [] => exact Nat.zero_le _
  | [_] => exact le_refl _
  | u :: u' :: rest =>
    rw [hlist] at hpairwise haddress
    have hne := (pairwise_cons.mp hpairwise).1 u' mem_cons_self
    have hu := haddress u mem_cons_self
    have hu' := haddress u' (mem_cons_of_mem _ mem_cons_self)
    exact absurd (hu.trans hu'.symm) hne

lemma inv_start (husers : ∀ u ∈ s.users, u.orgID ≠ org) (hidle : ∀ i, s.phase i = .idle) :
    Inv org s := by
  refine ⟨⟨"", ?_, ?_⟩, ?_⟩
  · rintro j email ⟨orgID, password, hj, -⟩
    rw [hidle j] at hj
    cases hj
  · intro u hu
    unfold admins at hu
    rw [mem_filter, decide_eq_true_eq] at hu
    exact absurd hu.2.1 (husers u hu.1)
  · rw [filter_eq_nil_iff.mpr fun u hu => by simpa using husers u hu]
    exact List.Pairwise.nil

lemma inv_count (h : Inv org s) (hc : Unraced srv org s (.count i r failed)) :
    Inv org (count srv s i r failed).1 := by
  obtain ⟨husers, hpromoted⟩ := count_cases srv s i r failed
  obtain ⟨email, hpending, hrows⟩ := h.address
  have hadmins : admins org (count srv s i r failed).1 = admins org s := by
    unfold admins
    rw [husers]
  refine ⟨?_, by rw [husers]; exact h.unique⟩
  rw [hadmins]
  by_cases hnew : ∃ email', Promotes srv s org i r failed email'
  · -- the organisation has no users yet, and all who wait have the address of the new one
    obtain ⟨email', hpromotes⟩ := hnew
    refine ⟨email', ?_, ?_⟩
    · intro j email'' hj
      rcases hpromoted org j email'' hj with hold | ⟨-, hthis⟩
      · exact hc email' hpromotes j email'' hold
      obtain ⟨-, ⟨_, hvalid⟩, -⟩ := hthis
      obtain ⟨-, ⟨_, hvalid'⟩, -⟩ := hpromotes
      rw [hvalid'] at hvalid
      cases hvalid
      rfl
    · intro u hu
      unfold admins at hu
      rw [mem_filter, decide_eq_true_eq] at hu
      exact absurd hu.2.1 (hpromotes.2.2.2.2.2 u hu.1)
  · refine ⟨email, ?_, hrows⟩
    intro j email'' hj
    rcases hpromoted org j email'' hj with hold | ⟨-, hthis⟩
    · exact hpending j email'' hold
    · exact absurd ⟨email'', hthis⟩ hnew

lemma inv_create (h : Inv org s) (i : ℕ) (id : String) (hash : Except String String)
    (failure : Option (String × Bool)) : Inv org (create s i id hash failure).1 := by
  obtain ⟨hphase, husers⟩ := create_cases s i id hash failure
  obtain ⟨email, hpending, hrows⟩ := h.address
  have hpending' : ∀ j email', Promoted (create s i id hash failure).1 org j email' →
      email' = email := by
    rintro j email' ⟨orgID, password, hj, horg⟩
    exact hpending j email' ⟨orgID, password, hphase j _ hj (by simp), horg⟩
  rcases husers with hsame | ⟨orgID, email', password, role, passwordHash, hi, hvacant, hinsert⟩
  · refine ⟨⟨email, hpending', ?_⟩, by rw [hsame]; exact h.unique⟩
    unfold admins
    rw [hsame]
    exact hrows
  · refine ⟨⟨email, hpending', ?_⟩, ?_⟩
    · intro u hu
      unfold admins at hu
      rw [hinsert, filter_append, mem_append] at hu
      rcases hu with hu | hu
      · exact hrows u hu
      rw [mem_filter, mem_singleton, decide_eq_true_eq] at hu
      obtain ⟨rfl, horg, hrole⟩ := hu
      have hadmin : role = roleAdmin := by
        unfold newUser at hrole
        dsimp only at hrole
        by_cases hempty : role = ""
        · rw [if_pos hempty] at hrole
          exact absurd hrole (by decide)
        · rwa [if_neg hempty] at hrole
      subst hadmin
      exact hpending i email' ⟨orgID, password, hi, horg⟩
    · rw [hinsert, filter_append, pairwise_append]
      refine ⟨h.unique, List.Pairwise.sublist filter_sublist (pairwise_singleton _ _), ?_⟩
      intro u hu u' hu'
      rw [mem_filter, decide_eq_true_eq] at hu
      rw [mem_filter, mem_singleton, decide_eq_true_eq] at hu'
      obtain ⟨rfl, horg⟩ := hu'
      intro hemail
      exact (hvacant u hu.1).2 ⟨hu.2.trans horg.symm, hemail⟩

lemma inv_step (s : State) (c : Cmd) (h : Inv org s) (hc : Unraced srv org s c) :
    Inv org ((console srv).step s c).1 := by
  cases c with
  | count i r failed => exact inv_count h hc
  | create i id hash failure => exact inv_create h i id hash failure

lemma exists_fresh : ∃ id : String, ∀ u ∈ users, u.id ≠ id := by
  obtain ⟨id, hid⟩ := Infinite.exists_notMem_finset (users.map User.id).toFinset
  refine ⟨id, fun u hu heq => hid ?_⟩
  rw [mem_toFinset, mem_map]
  exact ⟨u, hu, heq⟩

lemma two_admins (srv : Server) (hnone : ∀ u ∈ s.users, u.orgID ≠ org) (hij : i ≠ j)
    {email' : String} (hi : Promoted s org i email) (hj : Promoted s org j email')
    (hne : email' ≠ email) : ∃ id id', (admins org ((console srv).run s
      [.create i id (.ok "") none, .create j id' (.ok "") none])).length = 2 := by
  obtain ⟨orgID, password, hphase, horg⟩ := hi
  obtain ⟨orgID', password', hphase', horg'⟩ := hj
  obtain ⟨id, hid⟩ := exists_fresh s.users
  obtain ⟨id', hid'⟩ := exists_fresh (s.users ++ [newUser id orgID email "" roleAdmin])
  refine ⟨id, id', ?_⟩
  have hvacant : vacant s.users (newUser id orgID email "" roleAdmin) :=
    fun u hu => ⟨hid u hu, fun hsame => hnone u hu (hsame.1.trans horg)⟩
  have hvacant' : vacant (s.users ++ [newUser id orgID email "" roleAdmin])
      (newUser id' orgID' email' "" roleAdmin) := by
    intro u hu
    refine ⟨hid' u hu, ?_⟩
    rintro ⟨hsame, hemail⟩
    rcases mem_append.mp hu with hu | hu
    · exact hnone u hu (hsame.trans horg')
    · rw [mem_singleton.mp hu] at hemail
      exact hne hemail.symm
  have hother : ({ s.goTo i .idle with
      users := s.users ++ [newUser id orgID email "" roleAdmin] } : State).phase j =
      .creating orgID' email' password' roleAdmin := by
    unfold State.goTo
    dsimp only
    rw [update_of_ne (Ne.symm hij), hphase']
  have hrun : ((console srv).run s
      [.create i id (.ok "") none, .create j id' (.ok "") none]).users =
      s.users ++ [newUser id orgID email "" roleAdmin] ++
        [newUser id' orgID' email' "" roleAdmin] := by
    show ((create ((create s i id (.ok "") none).1) j id' (.ok "") none).1).users = _
    rw [create_ok hphase "" hvacant, create_ok hother "" hvacant']
  have hold : s.users.filter (fun u => decide (u.orgID = org ∧ u.role = roleAdmin)) = [] := by
    rw [filter_eq_nil_iff]
    intro u hu
    rw [decide_eq_true_eq]
    exact fun h => hnone u hu h.1
  have hadmin : ∀ id orgID email, orgOrDefault orgID = org →
      [newUser id orgID email "" roleAdmin].filter
        (fun u => decide (u.orgID = org ∧ u.role = roleAdmin)) =
        [newUser id orgID email "" roleAdmin] := by
    intro id orgID email horg
    rw [filter_eq_self]
    intro u hu
    rw [mem_singleton.mp hu, decide_eq_true_eq]
    exact ⟨horg, rfl⟩
  unfold admins
  rw [hrun, filter_append, filter_append, hold, hadmin _ _ _ horg, hadmin _ _ _ horg']
  rfl

lemma two_admins_of_race (hpromotes : Promotes srv s org i r failed email) {email' : String}
    (hj : Promoted s org j email') (hne : email' ≠ email) :
    ∃ id id', (admins org ((console srv).run s [.count i r failed,
      .create i id (.ok "") none, .create j id' (.ok "") none])).length = 2 := by
  obtain ⟨orgID, password, hphase, horg⟩ := hj
  have hij : j ≠ i := by
    rintro rfl
    rw [hpromotes.1] at hphase
    cases hphase
  have hkeep : Promoted (count srv s i r failed).1 org j email' :=
    ⟨orgID, password, (phase_count_of_ne srv _ hij r failed).trans hphase, horg⟩
  have hnone : ∀ u ∈ (count srv s i r failed).1.users, u.orgID ≠ org := by
    rw [(count_cases srv s i r failed).1]
    exact hpromotes.2.2.2.2.2
  exact two_admins srv hnone (Ne.symm hij) (promoted_count hpromotes) hkeep hne

structure Admission where
  admits : State → Cmd → Prop
  creates : ∀ s i id hash failure, admits s (.create i id hash failure)

theorem single_admin_iff (srv : Server) (org : String) (a : Admission) (s : State)
    (husers : ∀ u ∈ s.users, u.orgID ≠ org) (hidle : ∀ i, s.phase i = .idle) :
    (∀ cmds, (console srv).Along a.admits s cmds →
        (admins org ((console srv).run s cmds)).length ≤ 1) ↔
      ∀ cmds, (console srv).Along a.admits s cmds →
        (console srv).Along (Unraced srv org) s cmds := by
  constructor
  · intro hone cmds halong before c after heq
    cases c with
    | create i id hash failure => trivial
    | count i r failed =>
      intro email hpromotes j email' hj
      by_contra hne
      obtain ⟨id, id', htwo⟩ := two_admins_of_race hpromotes hj hne
      have hadmitted : (console srv).Along a.admits s (before ++ .count i r failed ::
          [.create i id (.ok "") none, .create j id' (.ok "") none]) := by
        rw [heq, along_append, along_cons] at halong
        rw [along_append, along_cons, along_cons, along_cons]
        exact ⟨halong.1, halong.2.1, a.creates _ _ _ _ _, a.creates _ _ _ _ _, along_nil⟩
      have hle := hone _ hadmitted
      rw [run_append] at hle
      omega
  · intro h cmds halong
    have hinv := (h cmds halong).run (P := Inv org) inv_step (inv_start husers hidle)
    exact hinv.length_admins_le

def localServer : Server := ⟨true, true, true⟩

def signup (email : String) : Incoming := ⟨none, "", some (email, "password", "", "")⟩

def nobody : State := ⟨[], fun _ => .idle⟩

def oneByOne : Admission where
  admits s
    | .count _ _ _ => ∀ i, s.phase i = .idle
    | .create _ _ _ _ => True
  creates _ _ _ _ _ := trivial

theorem single_admin_iff_oneByOne :
    nobody.users = [] ∧ ∀ cmds, (console localServer).Along oneByOne.admits nobody cmds →
      (admins "default" ((console localServer).run nobody cmds)).length ≤ 1 := by
  refine ⟨rfl, (single_admin_iff localServer "default" oneByOne nobody (by simp [nobody])
    fun _ => rfl).mpr ?_⟩
  intro cmds halong before c after heq
  have hadmitted := halong before c after heq
  cases c with
  | create i id hash failure => trivial
  | count i r failed =>
    rintro email - j email' ⟨orgID, password, hj, -⟩
    rw [hadmitted j] at hj
    cases hj

theorem two_first_admins : (admins "default" ((console localServer).run nobody
      [.count 0 (signup "a@example.com") false, .count 1 (signup "b@example.com") false,
        .create 0 "1" (.ok "") none, .create 1 "2" (.ok "") none])).map User.email =
      ["a@example.com", "b@example.com"] := by
  decide

end FfxNexus.Signup
