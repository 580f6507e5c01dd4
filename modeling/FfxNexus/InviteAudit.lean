/-
**Accepting an invite, with its audit rows** (`AcceptInvite` of `internal/core/invite.go` over
`Audit` of `store.go`).
-/
import FfxNexus.Invites

namespace FfxNexus.Invites

structure AuditRow where
  orgID : String
  actorID : String
  action : String
  targetID : String
  detail : String

structure Database extends State where
  attempts : List AuditRow := []
  audit : List AuditRow := []

structure Attempt where
  begin : Except String Unit := .ok ()
  select : Except String Unit := .ok ()
  now : ℤ := 0
  hashed : Except String String
  userID : String
  stampedAt : ℤ := 0
  insert : Except (String × Bool) Unit := .ok ()
  stamp : Except String Unit := .ok ()
  auditAccept : Except String Unit := .ok ()
  auditCreate : Except String Unit := .ok ()
  commit : Except String Unit := .ok ()

def Database.record (db : Database) (scrub : String → String) (row : AuditRow) :
    Except String Unit → Database := fun answer =>
  let orgID := scrub row.orgID
  let actorID := scrub row.actorID
  let stored : AuditRow :=
    { orgID := if orgID = "" then "default" else orgID
      actorID := if actorID = "" then "system" else actorID
      action := row.action
      targetID := scrub row.targetID
      detail := scrub row.detail }
  { db with
    attempts := stored :: db.attempts
    audit := match answer with
      | .ok () => stored :: db.audit
      | .error _ => db.audit }

def Attempt.prepare (t : Attempt) (lib : Library) (raw : String) (db : Database) :
    Except String (String × Invite × User) := do
  t.begin
  t.select
  match db.byHash (lib.hashInviteToken raw) with
  | none => throw "core: invite not found or no longer valid"
  | some (id, row) =>
    if row.revokedAt ≠ none then throw "core: invite not found or no longer valid"
    if row.acceptedAt ≠ none then throw "core: invite already accepted"
    if row.expiresAt < t.now then throw "core: invite expired"
    let passwordHash ← t.hashed
    match t.insert with
    | .error (_, true) => throw errEmailTaken
    | .error (err, false) => throw err
    | .ok () =>
      t.stamp
      return (id, row, row.user id t.userID passwordHash)

def acceptInvite (lib : Library) (scrub : String → String) (t : Attempt) (raw : String)
    (db : Database) : Except String (User × String) × Database :=
  match t.prepare lib raw db with
  | .error err => (.error err, db)
  | .ok (id, row, user) =>
    let db := db.record scrub ⟨row.orgID, user.id, "invite.accepted", id, row.email⟩ t.auditAccept
    let db := db.record scrub ⟨row.orgID, user.id, "user.create", user.id, row.email⟩ t.auditCreate
    match t.commit with
    | .error err => (.error err, db)
    | .ok () =>
      (.ok (user, id),
        { db with toState := db.apply id user (some (row.accept t.stampedAt user.id)) })

/-- **All or nothing**: an error leaves the users, the invites and the audit log as they were. -/
def AllOrNothing (db : Database) : Except String (User × String) × Database → Prop
  | (.error _, db') => db'.users = db.users ∧ db'.invites = db.invites ∧ db'.audit = db.audit
  | (.ok (user, id), db') => user ∈ db'.users ∧
      (∃ row, db'.invites.lookup id = some row ∧ row.acceptedBy = some user.id) ∧
      (db'.attempts.take 2).map AuditRow.action = ["user.create", "invite.accepted"]

theorem all_or_nothing_iff (lib : Library) (scrub : String → String) (t : Attempt) (raw : String)
    (db : Database) : AllOrNothing db (acceptInvite lib scrub t raw db) ↔
      (t.prepare lib raw db).isOk = false ∨ t.commit.isOk = true ∨
        (t.auditAccept.isOk = false ∧ t.auditCreate.isOk = false) := by
  unfold acceptInvite
  cases hprepare : t.prepare lib raw db with
  | error err => exact iff_of_true ⟨rfl, rfl, rfl⟩ (.inl rfl)
  | ok x =>
    obtain ⟨id, row, user⟩ := x
    cases hcommit : t.commit with
    | ok u =>
      exact iff_of_true ⟨List.mem_cons_self, ⟨_, AList.lookup_insert _, rfl⟩, rfl⟩ (.inr (.inl rfl))
    | error err =>
      cases haccept : t.auditAccept <;> cases hcreate : t.auditCreate <;>
        simp [AllOrNothing, Database.record, Except.isOk, Except.toBool]
      intro heq
      have hlength := congrArg List.length heq
      simp only [List.length_cons] at hlength
      omega

def openInvite : Database where
  invites := AList.insert "invite"
    ⟨"acme", "eve@acme.test", "member", "raw", "root", 0, 9, none, none, none⟩ ∅

theorem audited_without_user :
    let t : Attempt := { hashed := .ok "hash", userID := "user", commit := .error "closed" }
    let out := acceptInvite plainLibrary id t "raw" openInvite
    out.1.isOk = false ∧ out.2.users = [] ∧
      out.2.audit.map AuditRow.action = ["user.create", "invite.accepted"] := by
  decide

end FfxNexus.Invites
