/-
**Invites** (`CreateInvite`, `RevokeInvite` and `AcceptInvite` of `internal/core/invite.go`).
-/
import FfxNexus.Console
import FfxNexus.Go

open List AList Function Option

namespace FfxNexus.Invites
open Go

structure Invite where
  orgID : String
  email : String
  role : String
  tokenHash : String
  createdBy : String
  createdAt : ℤ
  expiresAt : ℤ
  acceptedAt : Option ℤ := none
  acceptedBy : Option String := none
  revokedAt : Option ℤ := none

def Invite.Open (row : Invite) : Prop := row.acceptedAt = none ∧ row.revokedAt = none

instance (row : Invite) : Decidable row.Open := inferInstanceAs (Decidable (_ ∧ _))

def Invite.revoke (row : Invite) (now : ℤ) : Invite := { row with revokedAt := some now }

def Invite.accept (row : Invite) (now : ℤ) (userID : String) : Invite :=
  { row with acceptedAt := some now, acceptedBy := some userID }

structure User where
  id : String
  orgID : String
  email : String
  passwordHash : String
  role : String
  enforceLimits : Bool
  invite : String

inductive Phase
  | idle
  | explaining (orgID id : String)
  | selecting (hash password : String)
  | checking (id : String) (row : Invite) (password : String)
  | inserting (id : String) (row : Invite) (passwordHash : String)
  | stamping (id : String) (user : User) (now : ℤ)
  | committing (id : String) (user : User) (version : Option Invite)
  | aborting (locked : Option String) (err : String)

structure State where
  invites : GoMap String Invite := ∅
  users : List User := []
  holder : GoMap String ℕ := ∅
  phase : ℕ → Phase := fun _ => .idle

inductive Answer
  | pending
  | created (result : Except String (String × Invite × String × String))
  | revoked (id : String) (result : Except String Unit)
  | accepted (result : Except String (User × String))

inductive CommitOutcome
  | ok
  | failed (err : String) (applied : Bool)

inductive Cmd
  | create (orgID actorID email role : String) (ttl : ℤ) (publicBaseURL : String)
      (token : Except String String) (id : String) (now : ℤ) (failure : Option String)
  | revoke (i : ℕ) (orgID id : String) (now : ℤ) (failure : Option String)
  | explain (i : ℕ) (failure : Option String)
  | begin (i : ℕ) (raw password : String) (failure : Option String)
  | select (i : ℕ) (failure : Option String)
  | check (i : ℕ) (now : ℤ) (hashed : Except String String)
  | insertUser (i : ℕ) (userID : String) (now : ℤ) (failure : Option (String × Bool))
  | stamp (i : ℕ) (failure : Option String)
  | commit (i : ℕ) (outcome : CommitOutcome)
  | rollback (i : ℕ)

structure Library where
  hashInviteToken : String → String
  toLower : String → String

namespace State

def goTo (s : State) (i : ℕ) (p : Phase) : State := { s with phase := update s.phase i p }

def vacant (s : State) (id : String) (row : Invite) : Prop :=
  ∀ e ∈ s.invites.entries, e.1 ≠ id ∧ e.2.tokenHash ≠ row.tokenHash ∧
    ¬ (e.2.orgID = row.orgID ∧ e.2.email = row.email)

instance (s : State) (id : String) (row : Invite) : Decidable (s.vacant id row) :=
  inferInstanceAs (Decidable (∀ e ∈ s.invites.entries, _))

end State

def errEmailTaken : String := "core: email already registered"

def defaultInviteTTL : ℤ := 604800000000000

def trimSlashes (s : String) : String :=
  String.ofList (s.toList.reverse.dropWhile (· = '/')).reverse

def buildInviteURL (publicBaseURL raw : String) : String :=
  (if trimSlashes publicBaseURL = "" then "/" else trimSlashes publicBaseURL) ++ "/invite/" ++ raw

variable (lib : Library)

def Library.newInvite (orgID actorID email role : String) (ttl : ℤ) (raw : String)
    (now : ℤ) : Invite where
  orgID := orgOrDefault orgID
  email := lib.toLower (trimmed email)
  role := if role = "" then "member" else role
  tokenHash := lib.hashInviteToken raw
  createdBy := actorID
  createdAt := now
  expiresAt := now + if ttl ≤ 0 then defaultInviteTTL else ttl

namespace State

def createInvite (s : State) (lib : Library) (orgID actorID email role : String) (ttl : ℤ)
    (publicBaseURL : String) (token : Except String String) (id : String) (now : ℤ)
    (failure : Option String) : State × Answer :=
  if lib.toLower (trimmed email) = "" then (s, .created (.error "email is required"))
  else
    match token, failure with
    | .error err, _ => (s, .created (.error ("token: " ++ err)))
    | .ok _, some err => (s, .created (.error err))
    | .ok raw, none =>
      let row := lib.newInvite orgID actorID email role ttl raw now
      if s.vacant id row then
        ({ s with invites := s.invites.insert id row },
          .created (.ok (id, row, raw, buildInviteURL publicBaseURL raw)))
      else (s, .created (.error errEmailTaken))

def revokeInvite (s : State) (i : ℕ) (orgID id : String) (now : ℤ) : State × Answer :=
  match s.invites.lookup id with
  | some row =>
    if row.orgID = orgOrDefault orgID ∧ row.Open then
      match s.holder.lookup id with
      | some _ => (s, .pending)
      | none => ({ s with invites := s.invites.insert id (row.revoke now) }, .revoked id (.ok ()))
    else (s.goTo i (.explaining (orgOrDefault orgID) id), .pending)
  | none => (s.goTo i (.explaining (orgOrDefault orgID) id), .pending)

def errNotFound : String := "core: not found"

def explain (s : State) (orgID id : String) : String :=
  match s.invites.lookup id with
  | none => errNotFound
  | some row =>
    if row.orgID ≠ orgID then errNotFound
    else if row.acceptedAt ≠ none then "core: invite already accepted; revoke the user instead"
    else if row.revokedAt ≠ none then "core: invite already revoked"
    else errNotFound

def byHash (s : State) (hash : String) : Option (String × Invite) :=
  (s.invites.entries.find? fun e => e.2.tokenHash = hash).map fun e => (e.1, e.2)

def select (s : State) (i : ℕ) (hash password : String) : State × Answer :=
  match s.byHash hash with
  | none => (s.goTo i (.aborting none "core: invite not found or no longer valid"), .pending)
  | some (id, row) =>
    match s.holder.lookup id with
    | some _ => (s, .pending)
    | none =>
      ({ s with holder := s.holder.insert id i }.goTo i (.checking id row password), .pending)

end State

def checked (id : String) (row : Invite) (now : ℤ) (hashed : Except String String) : Phase :=
  if row.revokedAt ≠ none then .aborting (some id) "core: invite not found or no longer valid"
  else if row.acceptedAt ≠ none then .aborting (some id) "core: invite already accepted"
  else if row.expiresAt < now then .aborting (some id) "core: invite expired"
  else
    match hashed with
    | .error err => .aborting (some id) err
    | .ok passwordHash => .inserting id row passwordHash

def Invite.user (row : Invite) (id userID passwordHash : String) : User :=
  ⟨userID, row.orgID, row.email, passwordHash, row.role, true, id⟩

def inserted (id : String) (row : Invite) (passwordHash userID : String) (now : ℤ) :
    Option (String × Bool) → Phase
  | none => .stamping id (row.user id userID passwordHash) now
  | some (_, true) => .aborting (some id) errEmailTaken
  | some (err, false) => .aborting (some id) err

namespace State

def stamp (s : State) (i : ℕ) (id : String) (user : User) (now : ℤ) : State × Answer :=
  if (s.holder.lookup id).getD i ≠ i then (s, .pending)
  else
    ({ s with holder := s.holder.insert id i }.goTo i
      (.committing id user ((s.invites.lookup id).map fun row : Invite =>
        row.accept now user.id)), .pending)

def unlock (s : State) (id : String) : State := { s with holder := s.holder.erase id }

def apply (s : State) (id : String) (user : User) (version : Option Invite) : State :=
  { s with
    users := user :: s.users
    invites := match version with
      | some row => s.invites.insert id row
      | none => s.invites }

def commit (s : State) (i : ℕ) (id : String) (user : User) (version : Option Invite) :
    CommitOutcome → State × Answer
  | .ok => (((s.apply id user version).unlock id).goTo i .idle, .accepted (.ok (user, id)))
  | .failed err true => (((s.apply id user version).unlock id).goTo i .idle, .accepted (.error err))
  | .failed err false => ((s.unlock id).goTo i .idle, .accepted (.error err))

def step (s : State) : Cmd → State × Answer
  | .create orgID actorID email role ttl publicBaseURL token id now failure =>
    s.createInvite lib orgID actorID email role ttl publicBaseURL token id now failure
  | .revoke i orgID id now failure =>
    match s.phase i, failure with
    | .idle, some err => (s, .revoked id (.error err))
    | .idle, none => s.revokeInvite i orgID id now
    | _, _ => (s, .pending)
  | .explain i failure =>
    match s.phase i with
    | .explaining orgID id =>
      (s.goTo i .idle, .revoked id (.error (failure.getD (s.explain orgID id))))
    | _ => (s, .pending)
  | .begin i raw password failure =>
    match s.phase i, failure with
    | .idle, some err => (s, .accepted (.error err))
    | .idle, none => (s.goTo i (.selecting (lib.hashInviteToken raw) password), .pending)
    | _, _ => (s, .pending)
  | .select i failure =>
    match s.phase i, failure with
    | .selecting _ _, some err => (s.goTo i (.aborting none err), .pending)
    | .selecting hash password, none => s.select i hash password
    | _, _ => (s, .pending)
  | .check i now hashed =>
    match s.phase i with
    | .checking id row _ => (s.goTo i (checked id row now hashed), .pending)
    | _ => (s, .pending)
  | .insertUser i userID now failure =>
    match s.phase i with
    | .inserting id row passwordHash =>
      (s.goTo i (inserted id row passwordHash userID now failure), .pending)
    | _ => (s, .pending)
  | .stamp i failure =>
    match s.phase i, failure with
    | .stamping id _ _, some err => (s.goTo i (.aborting (some id) err), .pending)
    | .stamping id user now, none => s.stamp i id user now
    | _, _ => (s, .pending)
  | .commit i outcome =>
    match s.phase i with
    | .committing id user version => s.commit i id user version outcome
    | _ => (s, .pending)
  | .rollback i =>
    match s.phase i with
    | .aborting (some id) err => ((s.unlock id).goTo i .idle, .accepted (.error err))
    | .aborting none err => (s.goTo i .idle, .accepted (.error err))
    | _ => (s, .pending)

end State

def invites : Machine State Cmd Answer where
  step := State.step lib

def Fits (s : State) (i : ℕ) : Phase → Prop
  | .idle => True
  | .explaining _ _ => True
  | .selecting _ _ => True
  | .checking id row _ => s.holder.lookup id = some i ∧ s.invites.lookup id = some row
  | .inserting id row _ =>
    s.holder.lookup id = some i ∧ s.invites.lookup id = some row ∧ row.Open
  | .stamping id user _ => s.holder.lookup id = some i ∧ user.invite = id ∧
      ∃ row, s.invites.lookup id = some row ∧ row.Open
  | .committing id user version => s.holder.lookup id = some i ∧ user.invite = id ∧
      ∃ row now, s.invites.lookup id = some row ∧ row.Open ∧
        version = some (row.accept now user.id)
  | .aborting locked _ => ∀ id, locked = some id → s.holder.lookup id = some i

variable {s' : State}

lemma Fits.frame {s : State} {i : ℕ} {p : Phase} (h : Fits s i p)
    (hkeep : ∀ id, s.holder.lookup id = some i → s'.holder.lookup id = some i ∧
      ∀ row, s.invites.lookup id = some row → s'.invites.lookup id = some row) : Fits s' i p := by
  cases p with
  | idle => trivial
  | explaining orgID id => trivial
  | selecting hash password => trivial
  | checking id row password =>
    obtain ⟨hlock, hrow⟩ := h
    obtain ⟨hlock', hsame⟩ := hkeep id hlock
    exact ⟨hlock', hsame row hrow⟩
  | inserting id row passwordHash =>
    obtain ⟨hlock, hrow, hopen⟩ := h
    obtain ⟨hlock', hsame⟩ := hkeep id hlock
    exact ⟨hlock', hsame row hrow, hopen⟩
  | stamping id user now =>
    obtain ⟨hlock, hinvite, row, hrow, hopen⟩ := h
    obtain ⟨hlock', hsame⟩ := hkeep id hlock
    exact ⟨hlock', hinvite, row, hsame row hrow, hopen⟩
  | committing id user version =>
    obtain ⟨hlock, hinvite, row, now, hrow, hopen, hversion⟩ := h
    obtain ⟨hlock', hsame⟩ := hkeep id hlock
    exact ⟨hlock', hinvite, row, now, hsame row hrow, hopen, hversion⟩
  | aborting locked err =>
    intro id hid
    exact (hkeep id (h id hid)).1

structure Inv (s : State) : Prop where
  fits : ∀ i, Fits s i (s.phase i)
  exclusive : ∀ id row, s.invites.lookup id = some row →
    row.acceptedAt = none ∨ row.revokedAt = none
  accepted : ∀ u ∈ s.users, ∃ row, s.invites.lookup u.invite = some row ∧ row.acceptedAt ≠ none
  nodup : (s.users.map User.invite).Nodup

inductive Effect (s : State) : State → Answer → Prop
  /-- The call moves on, and may lock a row that is free or give back the row that it has. -/
  | moved (i : ℕ) (s' : State) (a : Answer) :
      s'.invites = s.invites → s'.users = s.users → (∀ j, j ≠ i → s'.phase j = s.phase j) →
      (∀ j id, j ≠ i → s.holder.lookup id = some j → s'.holder.lookup id = some j) →
      Fits s' i (s'.phase i) → (∀ id, a ≠ .revoked id (.ok ())) → Effect s s' a
  | created (id : String) (row : Invite) (a : Answer) : s.invites.lookup id = none → row.Open →
      (∀ id', a ≠ .revoked id' (.ok ())) →
      Effect s { s with invites := s.invites.insert id row } a
  | revoked (id : String) (row : Invite) (now : ℤ) : s.invites.lookup id = some row → row.Open →
      s.holder.lookup id = none →
      Effect s { s with invites := s.invites.insert id (row.revoke now) } (.revoked id (.ok ()))
  | accepted (i : ℕ) (user : User) (row : Invite) (now : ℤ) (a : Answer) :
      s.invites.lookup user.invite = some row → row.Open →
      s.holder.lookup user.invite = some i → (∀ id, a ≠ .revoked id (.ok ())) →
      Effect s (((s.apply user.invite user (some (row.accept now user.id))).unlock
        user.invite).goTo i .idle) a

section
variable {s : State}

lemma goTo_phase_self (s : State) (i : ℕ) (p : Phase) : (s.goTo i p).phase i = p := by
  show update s.phase i p i = p
  rw [update_self]

variable {i : ℕ}

lemma goTo_phase_ne (s : State) {j : ℕ} (hj : j ≠ i) (p : Phase) :
    (s.goTo i p).phase j = s.phase j := by
  show update s.phase i p j = s.phase j
  rw [update_of_ne hj]

variable {a : Answer}

lemma effect_stay (h : Inv s) (ha : ∀ id, a ≠ .revoked id (.ok ())) : Effect s s a :=
  .moved 0 s a rfl rfl (fun _ _ => rfl) (fun _ _ _ hl => hl) (h.fits 0) ha

lemma effect_goTo {p : Phase} (hp : Fits s i p) (ha : ∀ id, a ≠ .revoked id (.ok ())) :
    Effect s (s.goTo i p) a := by
  refine .moved i _ a rfl rfl (fun j hj => goTo_phase_ne s hj p) (fun _ _ _ hl => hl) ?_ ha
  rw [goTo_phase_self]
  exact hp.frame fun _ hl => ⟨hl, fun _ hrow => hrow⟩

variable {id : String}

lemma effect_lock (hfree : ∀ j, j ≠ i → s.holder.lookup id ≠ some j) {p : Phase}
    (hp : Fits { s with holder := s.holder.insert id i } i p)
    (ha : ∀ id, a ≠ .revoked id (.ok ())) :
    Effect s ({ s with holder := s.holder.insert id i }.goTo i p) a := by
  refine .moved i _ a rfl rfl (fun j hj => goTo_phase_ne _ hj p) ?_ ?_ ha
  · intro j id' hj hl
    have hid : id' ≠ id := by
      rintro rfl
      exact hfree j hj hl
    exact (lookup_insert_ne hid).trans hl
  · rw [goTo_phase_self]
    exact hp.frame fun _ hl => ⟨hl, fun _ hrow => hrow⟩

lemma effect_unlock (hheld : s.holder.lookup id = some i) (ha : ∀ id, a ≠ .revoked id (.ok ())) :
    Effect s ((s.unlock id).goTo i .idle) a := by
  refine .moved i _ a rfl rfl (fun j hj => goTo_phase_ne _ hj .idle) ?_ ?_ ha
  · intro j id' hj hl
    have hid : id' ≠ id := by
      rintro rfl
      rw [hheld, some.injEq] at hl
      exact hj hl.symm
    exact (lookup_erase_ne hid).trans hl
  · rw [goTo_phase_self]
    trivial

variable {row : Invite}

lemma lookup_eq_none_of_vacant (h : s.vacant id row) : s.invites.lookup id = none := by
  rw [lookup_eq_none]
  intro hmem
  obtain ⟨e, he, hid⟩ := mem_map.mp hmem
  exact (h e he).1 hid

lemma effect_createInvite (h : Inv s) (lib : Library) (orgID actorID email role : String)
    (ttl : ℤ) (publicBaseURL : String) (token : Except String String) (id : String) (now : ℤ)
    (failure : Option String) : Effect s
      (s.createInvite lib orgID actorID email role ttl publicBaseURL token id now failure).1
      (s.createInvite lib orgID actorID email role ttl publicBaseURL token id now failure).2 := by
  unfold State.createInvite
  split_ifs with hemail
  · exact effect_stay h (by simp)
  rcases token with err | raw
  · exact effect_stay h (by simp)
  rcases failure with _ | err
  · by_cases hvacant : s.vacant id (lib.newInvite orgID actorID email role ttl raw now)
    · simp only [if_pos hvacant]
      exact .created id _ _ (lookup_eq_none_of_vacant hvacant) ⟨rfl, rfl⟩ (by simp)
    · simp only [if_neg hvacant]
      exact effect_stay h (by simp)
  · exact effect_stay h (by simp)

lemma effect_revokeInvite (h : Inv s) (i : ℕ) (orgID id : String) (now : ℤ) :
    Effect s (s.revokeInvite i orgID id now).1 (s.revokeInvite i orgID id now).2 := by
  unfold State.revokeInvite
  cases hrow : s.invites.lookup id with
  | none => exact effect_goTo (p := .explaining _ _) trivial (by simp)
  | some row =>
    by_cases hmatch : row.orgID = orgOrDefault orgID ∧ row.Open
    · simp only [if_pos hmatch]
      cases hlock : s.holder.lookup id with
      | some j => exact effect_stay h (by simp)
      | none => exact .revoked id row now hrow hmatch.2 hlock
    · simp only [if_neg hmatch]
      exact effect_goTo (p := .explaining _ _) trivial (by simp)

lemma lookup_of_byHash {hash : String} (h : s.byHash hash = some (id, row)) :
    s.invites.lookup id = some row := by
  unfold State.byHash at h
  cases hfind : s.invites.entries.find? (fun e => e.2.tokenHash = hash) with
  | none =>
    rw [hfind] at h
    cases h
  | some e =>
    rw [hfind] at h
    obtain ⟨rfl, rfl⟩ := Prod.mk.inj (some.inj h)
    exact mem_lookup_iff.mpr (mem_of_find?_eq_some hfind)

lemma effect_select (h : Inv s) (i : ℕ) (hash password : String) :
    Effect s (s.select i hash password).1 (s.select i hash password).2 := by
  unfold State.select
  cases hrow : s.byHash hash with
  | none => exact effect_goTo (p := .aborting none _) (fun _ hid => by cases hid) (by simp)
  | some found =>
    obtain ⟨id, row⟩ := found
    cases hlock : s.holder.lookup id with
    | some j =>
      simp only [hlock]
      exact effect_stay h (by simp)
    | none =>
      simp only [hlock]
      refine effect_lock ?_ ?_ (by simp)
      · intro j _ hj
        rw [hlock] at hj
        cases hj
      · exact ⟨lookup_insert _, lookup_of_byHash hrow⟩

section
variable (hlock : s.holder.lookup id = some i)
include hlock

lemma fits_aborting (err : String) : Fits s i (.aborting (some id) err) := by
  intro id' hid
  obtain rfl := some.inj hid
  exact hlock

lemma fits_checked (hrow : s.invites.lookup id = some row)
    (now : ℤ) (hashed : Except String String) : Fits s i (checked id row now hashed) := by
  unfold checked
  by_cases hrevoked : row.revokedAt ≠ none
  · rw [if_pos hrevoked]
    exact fits_aborting hlock _
  rw [if_neg hrevoked]
  by_cases haccepted : row.acceptedAt ≠ none
  · rw [if_pos haccepted]
    exact fits_aborting hlock _
  split_ifs with hexpired
  · exact fits_aborting hlock _
  rcases hashed with err | passwordHash
  · exact fits_aborting hlock err
  · exact ⟨hlock, hrow, not_not.mp haccepted, not_not.mp hrevoked⟩

lemma fits_inserted (hrow : s.invites.lookup id = some row)
    (hopen : row.Open) (passwordHash userID : String) (now : ℤ) (failure : Option (String × Bool)) :
    Fits s i (inserted id row passwordHash userID now failure) := by
  rcases failure with _ | ⟨err, _ | _⟩
  · exact ⟨hlock, rfl, row, hrow, hopen⟩
  · exact fits_aborting hlock err
  · exact fits_aborting hlock errEmailTaken

end

lemma effect_stamp {user : User} {now : ℤ} (h : Fits s i (.stamping id user now)) :
    Effect s (s.stamp i id user now).1 (s.stamp i id user now).2 := by
  obtain ⟨hlock, hinvite, row, hrow, hopen⟩ := h
  have hmine : ¬ (s.holder.lookup id).getD i ≠ i := by
    rw [hlock]
    exact fun hne => hne rfl
  unfold State.stamp
  rw [if_neg hmine]
  refine effect_lock ?_ ?_ (by simp)
  · intro j hj hl
    rw [hlock, some.injEq] at hl
    exact hj hl.symm
  · refine ⟨lookup_insert _, hinvite, row, now, hrow, hopen, ?_⟩
    rw [hrow]
    rfl

lemma effect_commit {user : User} {version : Option Invite}
    (h : Fits s i (.committing id user version)) (outcome : CommitOutcome) :
    Effect s (s.commit i id user version outcome).1 (s.commit i id user version outcome).2 := by
  obtain ⟨hlock, rfl, row, now, hrow, hopen, rfl⟩ := h
  rcases outcome with _ | ⟨err, _ | _⟩
  · exact .accepted i user row now _ hrow hopen hlock (by simp [State.commit])
  · exact effect_unlock hlock (by simp [State.commit])
  · exact .accepted i user row now _ hrow hopen hlock (by simp [State.commit])

lemma effect_step (h : Inv s) (lib : Library) (c : Cmd) :
    Effect s (s.step lib c).1 (s.step lib c).2 := by
  have hstay : Effect s s .pending := effect_stay h (by simp)
  cases c with
  | create orgID actorID email role ttl publicBaseURL token id now failure =>
    exact effect_createInvite h lib orgID actorID email role ttl publicBaseURL token id now
      failure
  | revoke i orgID id now failure =>
    cases hphase : s.phase i with
    | idle =>
      cases failure with
      | none =>
        simp only [State.step, hphase]
        exact effect_revokeInvite h i orgID id now
      | some err =>
        simp only [State.step, hphase]
        exact effect_stay h (by simp)
    | _ => simpa only [State.step, hphase] using hstay
  | explain i failure =>
    cases hphase : s.phase i with
    | explaining orgID id =>
      simp only [State.step, hphase]
      exact effect_goTo (p := .idle) trivial (by simp)
    | _ => simpa only [State.step, hphase] using hstay
  | begin i raw password failure =>
    cases hphase : s.phase i with
    | idle =>
      cases failure with
      | none =>
        simp only [State.step, hphase]
        exact effect_goTo (p := .selecting _ _) trivial (by simp)
      | some err =>
        simp only [State.step, hphase]
        exact effect_stay h (by simp)
    | _ => simpa only [State.step, hphase] using hstay
  | select i failure =>
    cases hphase : s.phase i with
    | selecting hash password =>
      cases failure with
      | none =>
        simp only [State.step, hphase]
        exact effect_select h i hash password
      | some err =>
        simp only [State.step, hphase]
        exact effect_goTo (p := .aborting none err) (fun _ hid => by cases hid) (by simp)
    | _ => simpa only [State.step, hphase] using hstay
  | check i now hashed =>
    cases hphase : s.phase i with
    | checking id row password =>
      have hfits := h.fits i
      rw [hphase] at hfits
      simp only [State.step, hphase]
      exact effect_goTo (fits_checked hfits.1 hfits.2 now hashed) (by simp)
    | _ => simpa only [State.step, hphase] using hstay
  | insertUser i userID now failure =>
    cases hphase : s.phase i with
    | inserting id row passwordHash =>
      have hfits := h.fits i
      rw [hphase] at hfits
      obtain ⟨hlock, hrow, hopen⟩ := hfits
      simp only [State.step, hphase]
      exact effect_goTo (fits_inserted hlock hrow hopen passwordHash userID now failure)
        (by simp)
    | _ => simpa only [State.step, hphase] using hstay
  | stamp i failure =>
    cases hphase : s.phase i with
    | stamping id user now =>
      have hfits := h.fits i
      rw [hphase] at hfits
      cases failure with
      | none =>
        simp only [State.step, hphase]
        exact effect_stamp hfits
      | some err =>
        simp only [State.step, hphase]
        refine effect_goTo (p := .aborting (some id) err) ?_ (by simp)
        intro id' hid
        obtain rfl := some.inj hid
        exact hfits.1
    | _ => simpa only [State.step, hphase] using hstay
  | commit i outcome =>
    cases hphase : s.phase i with
    | committing id user version =>
      have hfits := h.fits i
      rw [hphase] at hfits
      simp only [State.step, hphase]
      exact effect_commit hfits outcome
    | _ => simpa only [State.step, hphase] using hstay
  | rollback i =>
    cases hphase : s.phase i with
    | aborting locked err =>
      have hfits := h.fits i
      rw [hphase] at hfits
      cases locked with
      | none =>
        simp only [State.step, hphase]
        exact effect_goTo (p := .idle) trivial (by simp)
      | some id =>
        simp only [State.step, hphase]
        exact effect_unlock (hfits id rfl) (by simp)
    | _ => simpa only [State.step, hphase] using hstay

end

variable {id : String}

lemma Effect.final {s : State} {a : Answer} (h : Effect s s' a) {row : Invite}
    (hrow : s.invites.lookup id = some row) (hclosed : ¬ row.Open) :
    s'.invites.lookup id = some row := by
  have hne : ∀ {id' row'}, s.invites.lookup id' = some row' → row'.Open → id ≠ id' := by
    rintro id' row' hrow' hopen rfl
    rw [hrow, some.injEq] at hrow'
    exact hclosed (hrow' ▸ hopen)
  cases h with
  | moved i _ _ hinvites => rw [hinvites, hrow]
  | created id' row' _ hnew =>
    have hid : id ≠ id' := by
      rintro rfl
      rw [hrow] at hnew
      cases hnew
    exact (lookup_insert_ne hid).trans hrow
  | revoked id' row' now hrow' hopen =>
    exact (lookup_insert_ne (hne hrow' hopen)).trans hrow
  | accepted i user row' now _ hrow' hopen =>
    exact (lookup_insert_ne (hne hrow' hopen)).trans hrow

lemma Inv.exclusive_insert {s : State} (h : Inv s) (id : String) (row : Invite)
    (hrow : row.acceptedAt = none ∨ row.revokedAt = none) {id' : String} {row' : Invite}
    (hrow' : (s.invites.insert id row).lookup id' = some row') :
    row'.acceptedAt = none ∨ row'.revokedAt = none := by
  rcases lookup_insert_eq_some hrow' with ⟨-, rfl⟩ | ⟨-, hrow'⟩
  · exact hrow
  · exact h.exclusive id' row' hrow'

lemma inv_of_effect {s : State} {a : Answer} (h : Inv s) (he : Effect s s' a) : Inv s' := by
  have haccepted : ∀ u ∈ s.users, ∃ row, s'.invites.lookup u.invite = some row ∧
      row.acceptedAt ≠ none := by
    intro u hu
    obtain ⟨row, hrow, hacc⟩ := h.accepted u hu
    exact ⟨row, he.final hrow fun hopen => hacc hopen.1, hacc⟩
  cases he with
  | moved i _ _ hinvites husers hphase hholder hfits =>
    refine ⟨fun j => ?_, ?_, ?_, ?_⟩
    · by_cases hj : j = i
      · rw [hj]
        exact hfits
      · rw [hphase j hj]
        refine (h.fits j).frame fun id hl => ⟨hholder j id hj hl, fun row hrow => ?_⟩
        rw [hinvites, hrow]
    · rw [hinvites]
      exact h.exclusive
    · rw [husers]
      exact haccepted
    · rw [husers]
      exact h.nodup
  | created id row _ hnew hopen =>
    have hold : ∀ {id' row'}, s.invites.lookup id' = some row' → id' ≠ id := by
      rintro id' row' hrow' rfl
      rw [hnew] at hrow'
      cases hrow'
    refine ⟨fun j => (h.fits j).frame fun id' hl => ⟨hl, fun row' hrow' => ?_⟩, ?_,
      haccepted, h.nodup⟩
    · exact (lookup_insert_ne (hold hrow')).trans hrow'
    · exact fun _ _ => h.exclusive_insert id row (.inl hopen.1)
  | revoked id row now hrow hopen hfree =>
    refine ⟨fun j => (h.fits j).frame fun id' hl => ⟨hl, fun row' hrow' => ?_⟩, ?_,
      haccepted, h.nodup⟩
    · have hid : id' ≠ id := by
        rintro rfl
        rw [hfree] at hl
        cases hl
      exact (lookup_insert_ne hid).trans hrow'
    · exact fun _ _ => h.exclusive_insert id (row.revoke now) (.inl hopen.1)
  | accepted i user row now _ hrow hopen hlock =>
    refine ⟨fun j => ?_, ?_, ?_, ?_⟩
    · by_cases hj : j = i
      · rw [hj, goTo_phase_self]
        trivial
      rw [goTo_phase_ne _ hj]
      refine (h.fits j).frame fun id hl => ?_
      have hid : id ≠ user.invite := by
        rintro rfl
        rw [hlock, some.injEq] at hl
        exact hj hl.symm
      exact ⟨(lookup_erase_ne hid).trans hl,
        fun row' hrow' => (lookup_insert_ne hid).trans hrow'⟩
    · exact fun _ _ => h.exclusive_insert user.invite (row.accept now user.id) (.inr hopen.2)
    · intro u hu
      rcases mem_cons.mp hu with rfl | hu
      · exact ⟨_, lookup_insert _, some_ne_none now⟩
      · exact haccepted u hu
    · refine nodup_cons.mpr ⟨?_, h.nodup⟩
      intro hmem
      obtain ⟨u, hu, hinvite⟩ := mem_map.mp hmem
      obtain ⟨row', hrow', hacc⟩ := h.accepted u hu
      rw [hinvite, hrow, some.injEq] at hrow'
      exact hacc (hrow' ▸ hopen.1)

lemma inv_init : Inv {} :=
  ⟨fun _ => trivial, fun _ _ h => absurd h (by simp), fun _ h => absurd h not_mem_nil,
    nodup_nil⟩

lemma inv_run (cmds : List Cmd) : Inv ((invites lib).run {} cmds) :=
  (invites lib).run_invariant inv_init (fun _ c h => inv_of_effect h (effect_step h lib c)) cmds

lemma final_run {s : State} (h : Inv s) {row : Invite}
    (hrow : s.invites.lookup id = some row) (hclosed : ¬ row.Open) (more : List Cmd) :
    ((invites lib).run s more).invites.lookup id = some row := by
  have hboth : Inv ((invites lib).run s more) ∧
      ((invites lib).run s more).invites.lookup id = some row := by
    refine (invites lib).run_invariant (P := fun s => Inv s ∧ s.invites.lookup id = some row)
      ⟨h, hrow⟩ ?_ more
    rintro s c ⟨hs, hrow⟩
    have heffect := effect_step hs lib c
    exact ⟨inv_of_effect hs heffect, heffect.final hrow hclosed⟩
  exact hboth.2

lemma revoked_of_answer {s : State} (h : Effect s s' (.revoked id (.ok ()))) :
    ∃ row, s'.invites.lookup id = some row ∧ row.revokedAt ≠ none := by
  generalize ha : Answer.revoked id (.ok ()) = a at h
  cases h with
  | moved i _ _ _ _ _ _ _ hquiet => exact absurd ha.symm (hquiet id)
  | created _ _ _ _ _ hquiet => exact absurd ha.symm (hquiet id)
  | revoked id' row now hrow hopen hfree =>
    obtain ⟨rfl, -⟩ := Answer.revoked.inj ha
    exact ⟨_, lookup_insert _, some_ne_none now⟩
  | accepted _ _ _ _ _ _ _ _ hquiet => exact absurd ha.symm (hquiet id)

theorem invite_state_machine (cmds : List Cmd) :
    (∀ id, (((invites lib).run {} cmds).users.map User.invite).count id ≤ 1) ∧
    (∀ id row, ((invites lib).run {} cmds).invites.lookup id = some row →
      ¬ (row.acceptedAt ≠ none ∧ row.revokedAt ≠ none)) ∧
    (∀ id row, ((invites lib).run {} cmds).invites.lookup id = some row →
      row.acceptedAt ≠ none ∨ row.revokedAt ≠ none →
        ∀ more, ((invites lib).run {} (cmds ++ more)).invites.lookup id = some row) ∧
    ∀ before c after id, cmds = before ++ c :: after →
      ((invites lib).step ((invites lib).run {} before) c).2 = .revoked id (.ok ()) →
        ∀ u ∈ ((invites lib).run {} cmds).users, u.invite ≠ id := by
  have hinv := inv_run lib cmds
  refine ⟨fun id => nodup_iff_count_le_one.mp hinv.nodup id, ?_, ?_, ?_⟩
  · rintro id row hrow ⟨hacc, hrev⟩
    exact (hinv.exclusive id row hrow).elim hacc hrev
  · intro id row hrow hclosed more
    rw [Machine.run_append]
    refine final_run lib hinv hrow (fun hopen => ?_) more
    exact hclosed.elim (fun h => h hopen.1) fun h => h hopen.2
  rintro before c after id rfl hanswer u hu rfl
  have hbefore := inv_run lib before
  have heffect := effect_step hbefore lib c
  obtain ⟨row, hrow, hrev⟩ := revoked_of_answer (hanswer ▸ heffect)
  have hlast := final_run lib (inv_of_effect hbefore heffect) hrow (fun h => hrev h.2) after
  obtain ⟨row', hrow', hacc⟩ := hinv.accepted u hu
  rw [Machine.run_append] at hrow' hinv
  obtain rfl : row = row' := some.inj (hlast.symm.trans hrow')
  exact (hinv.exclusive _ _ hlast).elim hacc hrev

def plainLibrary : Library := ⟨fun raw => raw, fun s => s⟩

def race : List Cmd :=
  [.create "acme" "root" "b@x" "" 0 "" (.ok "t-2") "inv-2" 0 none, .revoke 0 "acme" "inv-2" 5 none,
    .create "acme" "root" "a@x" "" 0 "" (.ok "t-1") "inv-1" 6 none,
    .begin 1 "t-1" "secret" none, .begin 2 "t-2" "secret" none, .select 2 none, .select 1 none,
    .check 2 7 (.ok "hash"), .check 1 7 (.ok "hash"), .insertUser 1 "u-1" 8 none, .rollback 2,
    .stamp 1 none, .commit 1 .ok]

theorem revoked_invite_has_no_user :
    ((invites plainLibrary).run {} race).users.map User.invite = ["inv-1"] ∧
      ∀ u ∈ ((invites plainLibrary).run {} race).users, u.invite ≠ "inv-2" :=
  ⟨by decide, (invite_state_machine plainLibrary race).2.2.2 (race.take 1) _ (race.drop 2)
    "inv-2" rfl rfl⟩

end FfxNexus.Invites
