/-
**Spellings of an address** (`register`, `createUser`, `login` of `internal/console/auth.go`,
invites and `ssoLinkOrCreate`, down to the table `users`). A user keeps the password that the hash
stands for, and the identity that is linked.
-/
import FfxNexus.Fields
import FfxNexus.Signup

namespace FfxNexus.Emails
open List Signup Guardrails Option

/-! ## The ways to an account, and the way in -/

/-- `strings.ToLower`: a trimmed text in lower case is in lower case. -/
structure Lowering where
  toLower : String → String
  fixed : ∀ s, toLower (trimmed (toLower s)) = trimmed (toLower s)

structure User where
  orgID : String
  email : String
  password : String
  sso : Option (String × String)

inductive Request
  | register (orgID email password : String)
  | createUser (orgID email password : String)
  | acceptInvite (orgID email password : String)
  | sso (orgID email provider subject secret : String)

variable (low : Lowering)

def normaliseEmail (s : String) : String := low.toLower (trimmed s)

/-- The row that a request would add, if it is not refused. -/
def Request.user : Request → Option User
  | .register orgID email password =>
    if validateEmail (trimmed email) ∧ validatePassword password then
      some ⟨orgOrDefault orgID, trimmed email, password, none⟩ else none
  | .createUser orgID email password =>
    if email = "" ∨ password = "" then none
    else some ⟨orgOrDefault orgID, email, password, none⟩
  | .acceptInvite orgID email password =>
    if normaliseEmail low email ≠ "" ∧ validatePassword (trimmed password) then
      some ⟨orgOrDefault orgID, normaliseEmail low email, trimmed password, none⟩ else none
  | .sso orgID email provider subject secret =>
    if email = "" ∨ subject = "" then none
    else some ⟨orgOrDefault orgID, trimmed (low.toLower email), secret,
      if provider = "" then none else some (provider, subject)⟩

def sameRow (u v : User) : Bool := u.orgID = v.orgID && u.email = v.email

variable (users : List User)

def insert (u : User) : List User :=
  if users.any (sameRow u) then users else users ++ [u]

def linkSSOIdentity (u v : User) : User :=
  if sameRow u v ∧ v.sso = none then { v with sso := u.sso } else v

def step (r : Request) : List User :=
  match r, r.user low with
  | _, none => users
  | .sso .., some u =>
    if u.sso.isSome ∧ users.any (fun v => v.orgID = u.orgID && v.sso = u.sso) then users
    else if users.any (sameRow u) then users.map (linkSSOIdentity u)
    else insert users u
  | _, some u => insert users u

def run (rs : List Request) : List User := rs.foldl (step low) []

def authenticate (orgID email password : String) : Option User :=
  (users.find? fun u => u.orgID = orgOrDefault orgID && u.email = email).filter
    (·.password = password)

/-! ## One person, one account -/

def OneAccount : Prop :=
  users.Pairwise fun u v =>
    ¬ (u.orgID = v.orgID ∧ normaliseEmail low u.email = normaliseEmail low v.email)

/-- Users with a password get in with every spelling of their address. -/
def AnySpelling : Prop :=
  ∀ u ∈ users, u.sso = none → ∀ email, normaliseEmail low email = normaliseEmail low u.email →
    authenticate users u.orgID email u.password ≠ none

lemma trimmed_space_append (s : String) : trimmed (" " ++ s) = trimmed s := by
  rw [trimmed, String.toList_append]
  rfl

lemma trimSpace_trimSpace (s : List Char) : trimSpace (trimSpace s) = trimSpace s := by
  by_cases hnil : trimSpace s = []
  · rw [hnil]
    rfl
  · exact trimSpace_of_solid (solid_trimSpace hnil)

lemma normaliseEmail_of_sso {r : Request} {u : User} (hu : r.user low = some u)
    (hsso : u.sso ≠ none) : normaliseEmail low u.email = u.email := by
  have htwice (s : String) : trimmed (trimmed s) = trimmed s := by
    rw [trimmed, trimmed, String.toList_ofList, trimSpace_trimSpace]
  cases r with
  | register orgID email password | acceptInvite orgID email password =>
    rw [Request.user, ite_none_right_eq_some, some_inj] at hu
    exact absurd (hu.2 ▸ rfl) hsso
  | createUser orgID email password =>
    rw [Request.user, ite_none_left_eq_some, some_inj] at hu
    exact absurd (hu.2 ▸ rfl) hsso
  | sso orgID email provider subject secret =>
    rw [Request.user, ite_none_left_eq_some, some_inj] at hu
    rw [← hu.2, normaliseEmail, htwice, low.fixed]

/-! ## Runs -/

variable {low} {users : List User} {r r' : Request} {u v : User}

lemma sameRow_iff : sameRow u v ↔ u.orgID = v.orgID ∧ u.email = v.email := by
  simp [sameRow]

lemma linkSSOIdentity_eq : (linkSSOIdentity u v).orgID = v.orgID ∧
    (linkSSOIdentity u v).email = v.email ∧ (v.sso ≠ none → (linkSSOIdentity u v).sso ≠ none) := by
  unfold linkSSOIdentity
  split
  · rename_i h
    exact ⟨rfl, rfl, fun hne => absurd h.2 hne⟩
  · exact ⟨rfl, rfl, id⟩

def Distinct (users : List User) : Prop := users.Pairwise fun u v => ¬ sameRow u v

/-- The row stands for one that a request of the traffic would add. -/
def Stems (low : Lowering) (traffic : Set Request) (u : User) : Prop :=
  ∃ r ∈ traffic, ∃ v, r.user low = some v ∧ v.orgID = u.orgID ∧ v.email = u.email ∧
    (v.sso ≠ none → u.sso ≠ none)

lemma step_cases (h : r.user low = some u) : step low users r = users ∨
    step low users r = insert users u ∨ step low users r = users.map (linkSSOIdentity u) := by
  unfold step
  rw [h]
  cases r with
  | sso =>
    dsimp only
    split
    · exact .inl rfl
    · split
      · exact .inr (.inr rfl)
      · exact .inr (.inl rfl)
  | _ => exact .inr (.inl rfl)

lemma Distinct.insert (h : Distinct users) : Distinct (insert users u) := by
  unfold Emails.insert
  split
  · exact h
  · rename_i hany
    refine pairwise_append.mpr ⟨h, pairwise_singleton _ _, fun v hv w hw hsame => hany ?_⟩
    rw [mem_singleton.mp hw, sameRow_iff] at hsame
    exact any_eq_true.mpr ⟨v, hv, sameRow_iff.mpr ⟨hsame.1.symm, hsame.2.symm⟩⟩

lemma distinct_run {traffic : Set Request} {rs : List Request} (hrs : ∀ r ∈ rs, r ∈ traffic) :
    Distinct (run low rs) ∧ ∀ u ∈ run low rs, Stems low traffic u := by
  induction rs using reverseRecOn with
  | nil => exact ⟨.nil, nofun⟩
  | append_singleton rs r ih =>
    obtain ⟨hdistinct, hstems⟩ := ih fun x hx => hrs x (mem_append_left _ hx)
    have hr : r ∈ traffic := hrs r (by simp)
    have hrun : run low (rs ++ [r]) = step low (run low rs) r := by simp [run]
    rw [hrun]
    cases hu : r.user low with
    | none =>
      have hsame : step low (run low rs) r = run low rs := by
        unfold step
        rw [hu]
      rw [hsame]
      exact ⟨hdistinct, hstems⟩
    | some u =>
      have hcases := @step_cases low (run low rs) r u hu
      rcases hcases with heq | heq | heq <;> rw [heq]
      · exact ⟨hdistinct, hstems⟩
      · refine ⟨hdistinct.insert, fun v hv => ?_⟩
        unfold insert at hv
        split at hv
        · exact hstems v hv
        · rcases mem_append.mp hv with hv | hv
          · exact hstems v hv
          · rw [mem_singleton.mp hv]
            exact ⟨r, hr, u, hu, rfl, rfl, id⟩
      · constructor
        · refine pairwise_map.mpr (hdistinct.imp fun hne hsame => hne ?_)
          rw [sameRow_iff, linkSSOIdentity_eq.1, linkSSOIdentity_eq.1, linkSSOIdentity_eq.2.1,
            linkSSOIdentity_eq.2.1] at hsame
          exact sameRow_iff.mpr hsame
        · intro v hv
          obtain ⟨w, hw, rfl⟩ := mem_map.mp hv
          obtain ⟨q, hq, x, hx, horg, hemail, hsso⟩ := hstems w hw
          obtain ⟨horg', hemail', hsso'⟩ := linkSSOIdentity_eq (u := u) (v := w)
          exact ⟨q, hq, x, hx, horg.trans horg'.symm, hemail.trans hemail'.symm, hsso' ∘ hsso⟩

lemma run_singleton (hu : r.user low = some u) : run low [r] = [u] := by
  have hstep : run low [r] = step low [] r := rfl
  rw [hstep]
  unfold step
  rw [hu]
  cases r <;> simp [insert]

/-- Two rows without a common identity and of different spellings are both added. -/
lemma run_pair (hu : r.user low = some u) (hv : r'.user low = some v)
    (hsso : u.sso = none ∨ v.sso = none) (hne : u.email ≠ v.email) : run low [r, r'] = [u, v] := by
  have hsame : sameRow v u = false := by simp [sameRow, Ne.symm hne]
  have hnone : ¬ (v.sso.isSome ∧ [u].any fun w => w.orgID = v.orgID && w.sso = v.sso) := by
    rcases hsso with h | h
    · cases hs : v.sso <;> simp [h]
    · simp [h]
  have hstep : run low [r, r'] = step low (run low [r]) r' := rfl
  rw [hstep, run_singleton hu]
  unfold step
  rw [hv]
  cases r' with
  | sso =>
    dsimp only
    rw [if_neg hnone]
    simp [insert, hsame]
  | _ => simp [insert, hsame]

/-! ## The condition -/

/-- **Accounts and spellings**: an organisation holds one account for an address if and only if
the requests for it store one spelling; and every spelling opens the account if and only if
nobody has a password. -/
theorem one_account_iff (low : Lowering) (traffic : Set Request) :
    ((∀ rs, (∀ r ∈ rs, r ∈ traffic) → OneAccount low (run low rs)) ↔
      ∀ r ∈ traffic, ∀ r' ∈ traffic, ∀ u ∈ r.user low, ∀ v ∈ r'.user low, u.orgID = v.orgID →
        normaliseEmail low u.email = normaliseEmail low v.email → u.email = v.email) ∧
      ((∀ rs, (∀ r ∈ rs, r ∈ traffic) → AnySpelling low (run low rs)) ↔
        ∀ r ∈ traffic, ∀ u ∈ r.user low, u.sso ≠ none) := by
  refine ⟨⟨fun h r hr r' hr' u hu v hv horg hnorm => ?_, fun h rs hrs => ?_⟩,
    ⟨fun h r hr u hu hsso => ?_, fun h rs hrs u hu hsso => ?_⟩⟩
  · by_contra hne
    by_cases hsso : u.sso = none ∨ v.sso = none
    · have hone := h [r, r'] (by simp [hr, hr'])
      rw [run_pair hu hv hsso hne] at hone
      exact (rel_of_pairwise_cons hone mem_cons_self) ⟨horg, hnorm⟩
    · rw [not_or] at hsso
      rw [normaliseEmail_of_sso low hu hsso.1, normaliseEmail_of_sso low hv hsso.2] at hnorm
      exact hne hnorm
  · obtain ⟨hdistinct, hstems⟩ := distinct_run hrs
    refine hdistinct.imp_of_mem fun {u v} hu hv hne hsame => hne ?_
    obtain ⟨r, hr, x, hx, horg, hemail, -⟩ := hstems u hu
    obtain ⟨r', hr', y, hy, horg', hemail', -⟩ := hstems v hv
    rw [← horg, ← horg', ← hemail, ← hemail'] at hsame
    have heq := h r hr r' hr' x hx y hy hsame.1 hsame.2
    exact sameRow_iff.mpr ⟨horg.symm.trans (hsame.1.trans horg'),
      hemail.symm.trans (heq.trans hemail')⟩
  · have hany := h [r] (by simp [hr])
    rw [run_singleton hu] at hany
    have hne : u.email ≠ " " ++ u.email := fun heq => by
      have hlen := congrArg String.length heq
      rw [String.length_append] at hlen
      exact absurd hlen (by simp)
    refine hany u mem_cons_self hsso (" " ++ u.email) ?_ (by simp [authenticate, hne])
    rw [normaliseEmail, trimmed_space_append, normaliseEmail]
  · obtain ⟨r, hr, v, hv, -, -, hkeep⟩ := (distinct_run hrs).2 u hu
    exact absurd hsso (hkeep (h r hr v hv))

/-- For addresses in lower case. -/
def unchanged : Lowering := ⟨id, fun _ => rfl⟩

theorem blank_makes_two : ¬ OneAccount unchanged (run unchanged [.createUser "" "ann@x.io" "secret",
        .createUser "" (" " ++ "ann@x.io") "secret"]) ∧
      authenticate (run unchanged [.createUser "" "ann@x.io" "secret"]) "" (" " ++ "ann@x.io")
        "secret" = none := by
  have hu (email : String) (hne : email ≠ "") :
      (Request.createUser "" email "secret").user unchanged =
        some ⟨"default", email, "secret", none⟩ := by
    simp [Request.user, hne, orgOrDefault, defaultOrgID]
  have hplain := hu "ann@x.io" (by decide)
  constructor
  · rw [run_pair hplain (hu (" " ++ "ann@x.io") (by decide)) (.inl rfl) (by decide)]
    refine fun hone => rel_of_pairwise_cons hone mem_cons_self ⟨rfl, ?_⟩
    rw [normaliseEmail, normaliseEmail, trimmed_space_append]
  · rw [run_singleton hplain]
    decide

end FfxNexus.Emails
