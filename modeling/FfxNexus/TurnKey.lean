/-
**Turn keys** (`internal/gateway/turnkey.go`): which calls of an agent belong to one turn.
-/
import FfxNexus.Guardrails
import FfxNexus.Schema

namespace FfxNexus.TurnKey
open Schema Guardrails List Option

def userAt (msgs : List Message) (i : ℕ) : Bool := msgs[i]?.any fun m => m.role = "user"

def lastUserIndexBefore (msgs : List Message) : ℕ → Option ℕ
  | 0 => none
  | n + 1 => if userAt msgs n then some n else lastUserIndexBefore msgs n

def agentWasMidWork (m : Message) : Bool :=
  m.role = "tool" ∨ m.role = "assistant" ∧ 0 < m.toolCalls.length

def midWorkAt (msgs : List Message) (i : ℕ) : Bool :=
  decide (0 < i) && msgs[i - 1]?.any agentWasMidWork

lemma lastUserIndexBefore_lt {msgs : List Message} {n p : ℕ}
    (hp : lastUserIndexBefore msgs n = some p) : p < n := by
  induction n with
  | zero => simp [lastUserIndexBefore] at hp
  | succ n ih =>
    rw [lastUserIndexBefore] at hp
    split at hp
    · obtain rfl := some.inj hp
      exact Nat.lt_succ_self _
    · exact Nat.lt_succ_of_lt (ih hp)

def rootFrom (msgs : List Message) (i : ℕ) : ℕ :=
  if midWorkAt msgs i = true then
    match _hprev : lastUserIndexBefore msgs i with
    | none => i
    | some prev => rootFrom msgs prev
  else i
termination_by i
decreasing_by exact lastUserIndexBefore_lt _hprev

def turnRootUserIndex (msgs : List Message) : Option ℕ :=
  (lastUserIndexBefore msgs msgs.length).map (rootFrom msgs)

def systemPrompt (msgs : List Message) : String :=
  ((msgs.find? fun m => m.role = "system" ∨ m.role = "developer").map Message.content).getD ""

variable (hexSum : String → String)

def deriveTurnKey (userID : String) (msgs : List Message) : String :=
  match turnRootUserIndex msgs with
  | none => ""
  | some root =>
    let lastUser := (msgs[root]?.map Message.content).getD ""
    String.ofList ((hexSum (userID ++ "\x00" ++ systemPrompt msgs ++ "\x00" ++
      String.ofList (trimSpace lastUser.toList))).toList.take 16)

structure IsRoot (msgs : List Message) (i : ℕ) : Prop where
  user : userAt msgs i = true
  opens : midWorkAt msgs i = true → ∀ j < i, userAt msgs j = false
  later : ∀ j, i < j → userAt msgs j = true → midWorkAt msgs j = true

variable {i : ℕ}

section
variable {msgs : List Message}

lemma lastUserIndexBefore_eq_none {n : ℕ} (hnone : lastUserIndexBefore msgs n = none) :
    ∀ j < n, userAt msgs j = false := by
  induction n with
  | zero =>
    intro j hj
    omega
  | succ n ih =>
    intro j hj
    rw [lastUserIndexBefore] at hnone
    by_cases hn : userAt msgs n = true
    · rw [if_pos hn] at hnone
      cases hnone
    rw [if_neg hn] at hnone
    rcases Nat.lt_succ_iff_lt_or_eq.mp hj with hlt | rfl
    · exact ih hnone j hlt
    · simpa using hn

lemma lastUserIndexBefore_eq_some {n p : ℕ} (hp : lastUserIndexBefore msgs n = some p) :
    userAt msgs p = true ∧ ∀ j, p < j → j < n → userAt msgs j = false := by
  induction n with
  | zero => simp [lastUserIndexBefore] at hp
  | succ n ih =>
    rw [lastUserIndexBefore] at hp
    split_ifs at hp with hn
    · obtain rfl := some.inj hp
      refine ⟨hn, ?_⟩
      intro j hlt hj
      omega
    · obtain ⟨huser, hbetween⟩ := ih hp
      refine ⟨huser, ?_⟩
      intro j hlt hj
      rcases Nat.lt_succ_iff_lt_or_eq.mp hj with hjn | rfl
      · exact hbetween j hlt hjn
      · simpa using hn

lemma userAt_lt_length (hi : userAt msgs i = true) : i < msgs.length := by
  by_contra hge
  rw [userAt, getElem?_eq_none (by omega)] at hi
  cases hi

lemma isRoot_rootFrom (hi : userAt msgs i = true)
    (hlater : ∀ j, i < j → userAt msgs j = true → midWorkAt msgs j = true) :
    IsRoot msgs (rootFrom msgs i) := by
  induction i using Nat.strong_induction_on with
  | _ i ih =>
    rw [rootFrom]
    split_ifs with hmid
    · split
      · rename_i hprev
        exact ⟨hi, fun _ => lastUserIndexBefore_eq_none hprev, hlater⟩
      rename_i prev hprev
      obtain ⟨huser, hbetween⟩ := lastUserIndexBefore_eq_some hprev
      refine ih prev (lastUserIndexBefore_lt hprev) huser ?_
      intro j hlt hj
      rcases Nat.lt_trichotomy j i with hji | rfl | hij
      · rw [hbetween j hlt hji] at hj
        cases hj
      · exact hmid
      · exact hlater j hij hj
    · exact ⟨hi, fun h => absurd h hmid, hlater⟩

lemma IsRoot.unique {j : ℕ} (hi : IsRoot msgs i) (hj : IsRoot msgs j) : i = j := by
  have hle : ∀ {i j : ℕ}, IsRoot msgs i → IsRoot msgs j → j ≤ i := by
    intro i j hi hj
    by_contra hlt
    have hlt' : i < j := by omega
    have hnone := hj.opens (hi.later j hlt' hj.user) i hlt'
    rw [hi.user] at hnone
    cases hnone
  exact Nat.le_antisymm (hle hj hi) (hle hi hj)

lemma isRoot_iff : turnRootUserIndex msgs = some i ↔ IsRoot msgs i := by
  unfold turnRootUserIndex
  cases hlast : lastUserIndexBefore msgs msgs.length with
  | none =>
    refine iff_of_false (by simp) ?_
    intro hroot
    have hnone := lastUserIndexBefore_eq_none hlast i (userAt_lt_length hroot.user)
    rw [hroot.user] at hnone
    cases hnone
  | some last =>
    obtain ⟨huser, hbetween⟩ := lastUserIndexBefore_eq_some hlast
    have hfound : IsRoot msgs (rootFrom msgs last) := by
      refine isRoot_rootFrom huser ?_
      intro j hlt hj
      rw [hbetween j hlt (userAt_lt_length hj)] at hj
      cases hj
    rw [map_some, some.injEq]
    constructor
    · rintro rfl
      exact hfound
    · intro hroot
      exact hfound.unique hroot

lemma exists_isRoot (huser : ∃ m ∈ msgs, m.role = "user") : ∃ i, IsRoot msgs i := by
  obtain ⟨m, hm, hrole⟩ := huser
  obtain ⟨k, hk⟩ := mem_iff_getElem?.mp hm
  have hat : userAt msgs k = true := by
    rw [userAt, hk]
    simpa using hrole
  cases hlast : lastUserIndexBefore msgs msgs.length with
  | none =>
    rw [lastUserIndexBefore_eq_none hlast k (userAt_lt_length hat)] at hat
    cases hat
  | some last =>
    refine ⟨rootFrom msgs last, isRoot_iff.mp ?_⟩
    rw [turnRootUserIndex, hlast]
    rfl

end

def Continues (h e : List Message) : Prop :=
  ∀ before m after, e = before ++ m :: after → m.role = "user" →
    ∃ previous, (h ++ before).getLast? = some previous ∧ agentWasMidWork previous = true

section
variable {h e : List Message}

lemma userAt_append_left (hi : i < h.length) : userAt (h ++ e) i = userAt h i := by
  rw [userAt, userAt, getElem?_append_left hi]

lemma midWorkAt_append_left (hi : i < h.length) : midWorkAt (h ++ e) i = midWorkAt h i := by
  rw [midWorkAt, midWorkAt, getElem?_append_left (by omega)]

lemma continues_iff (hne : h ≠ []) : Continues h e ↔
      ∀ j, h.length ≤ j → userAt (h ++ e) j = true → midWorkAt (h ++ e) j = true := by
  have hpos : 0 < h.length := length_pos_iff.mpr hne
  constructor
  · intro hcont j hle hj
    have hlt := userAt_lt_length hj
    rw [length_append] at hlt
    have hk : j - h.length < e.length := by omega
    rw [userAt, getElem?_append_right hle, getElem?_eq_getElem hk] at hj
    have hsplit : e = e.take (j - h.length) ++ e[j - h.length] :: e.drop (j - h.length + 1) := by
      rw [← drop_eq_getElem_cons hk, take_append_drop]
    have hlength : (e.take (j - h.length)).length = j - h.length := by
      rw [length_take]
      omega
    obtain ⟨previous, hprevious, hmid⟩ := hcont _ _ _ hsplit (by simpa using hj)
    rw [getLast?_eq_getElem?, length_append] at hprevious
    have hat : (h ++ e)[j - 1]? = some previous := by
      rw [hsplit, ← append_assoc, getElem?_append_left (by
        rw [length_append]
        omega), ← hprevious]
      congr 1
      omega
    rw [midWorkAt, hat]
    simpa using ⟨by omega, hmid⟩
  · intro hall before m after hsplit hrole
    have hm : (h ++ e)[h.length + before.length]? = some m := by
      rw [hsplit, ← append_assoc, ← length_append]
      simp
    have hmid := hall (h.length + before.length) (by omega) (by
      rw [userAt, hm]
      simpa using hrole)
    rw [midWorkAt, Bool.and_eq_true] at hmid
    have hat : (h ++ e)[h.length + before.length - 1]? = (h ++ before).getLast? := by
      rw [getLast?_eq_getElem?, length_append, hsplit, ← append_assoc, getElem?_append_left (by
          rw [length_append]
          omega)]
    rw [hat, Option.any_eq_true] at hmid
    obtain ⟨-, previous, hprevious, hwork⟩ := hmid
    exact ⟨previous, hprevious, hwork⟩

lemma isRoot_append_iff (hi : i < h.length) : IsRoot (h ++ e) i ↔ IsRoot h i ∧ Continues h e := by
  have hne : h ≠ [] := length_pos_iff.mp (by omega)
  rw [continues_iff hne]
  constructor
  · intro hroot
    refine ⟨⟨?_, ?_, ?_⟩, ?_⟩
    · rw [← userAt_append_left hi]
      exact hroot.user
    · intro hmid j hj
      rw [← userAt_append_left (by omega)]
      rw [← midWorkAt_append_left hi] at hmid
      exact hroot.opens hmid j hj
    · intro j hlt hj
      have hjh := userAt_lt_length hj
      rw [← userAt_append_left hjh] at hj
      rw [← midWorkAt_append_left hjh]
      exact hroot.later j hlt hj
    · intro j hle hj
      exact hroot.later j (by omega) hj
  · rintro ⟨hroot, hcont⟩
    refine ⟨?_, ?_, ?_⟩
    · rw [userAt_append_left hi]
      exact hroot.user
    · intro hmid j hj
      rw [midWorkAt_append_left hi] at hmid
      rw [userAt_append_left (by omega)]
      exact hroot.opens hmid j hj
    intro j hlt hj
    by_cases hjh : j < h.length
    · rw [userAt_append_left hjh] at hj
      rw [midWorkAt_append_left hjh]
      exact hroot.later j hlt hj
    · exact hcont j (by omega) hj

lemma systemPrompt_append (hroles : ∀ m ∈ e, m.role ∈ ["user", "assistant", "tool"]) :
    systemPrompt (h ++ e) = systemPrompt h := by
  have hnone : e.find? (fun m => m.role = "system" ∨ m.role = "developer") = none := by
    rw [find?_eq_none]
    intro m hm
    have hrole := hroles m hm
    simp only [mem_cons, not_mem_nil, or_false] at hrole
    rcases hrole with hr | hr | hr <;> simp [hr]
  rw [systemPrompt, systemPrompt, find?_append, hnone, or_none]

end

theorem turn_extends (h e : List Message) (huser : ∃ m ∈ h, m.role = "user")
    (hroles : ∀ m ∈ e, m.role ∈ ["user", "assistant", "tool"]) :
    (turnRootUserIndex (h ++ e) = turnRootUserIndex h ↔ Continues h e) ∧
      (Continues h e → ∀ userID, deriveTurnKey hexSum userID (h ++ e) =
        deriveTurnKey hexSum userID h) ∧
      (¬ Continues h e → ∃ j m, e[j]? = some m ∧ m.role = "user" ∧
        turnRootUserIndex (h ++ e) = some (h.length + j)) := by
  obtain ⟨i, hi⟩ := exists_isRoot huser
  have hlt : i < h.length := userAt_lt_length hi.user
  have hroot : turnRootUserIndex h = some i := isRoot_iff.mpr hi
  have hsame : turnRootUserIndex (h ++ e) = some i ↔ Continues h e := by
    rw [isRoot_iff, isRoot_append_iff hlt]
    exact and_iff_right hi
  refine ⟨?_, ?_, ?_⟩
  · rw [hroot]
    exact hsame
  · intro hcont userID
    rw [deriveTurnKey, deriveTurnKey, hsame.mpr hcont, hroot, systemPrompt_append hroles]
    dsimp only
    rw [getElem?_append_left hlt]
  intro hcont
  obtain ⟨m, hm, hrole⟩ := huser
  obtain ⟨k, hk⟩ := exists_isRoot ⟨m, mem_append_left e hm, hrole⟩
  have hge : h.length ≤ k := by
    by_contra hklt
    exact hcont ((isRoot_append_iff (by omega)).mp hk).2
  have hat := hk.user
  rw [userAt, getElem?_append_right hge, Option.any_eq_true] at hat
  obtain ⟨m', hm', hrole'⟩ := hat
  refine ⟨k - h.length, m', hm', by simpa using hrole', ?_⟩
  rw [Nat.add_sub_cancel' hge]
  exact isRoot_iff.mpr hk

def asked : List Message :=
  [ textMessage "user" "fix it",
    ⟨"assistant", "", "", [⟨none, "c1", "function", "ls", "", "", ""⟩], ""⟩ ]

def interrupted : List Message := [textMessage "tool" "a.go", textMessage "user" "in b.go"]

theorem turn_extends_interrupted : (∃ m ∈ asked, m.role = "user") ∧
      (∀ m ∈ interrupted, m.role ∈ ["user", "assistant", "tool"]) ∧ Continues asked interrupted ∧
      turnRootUserIndex (asked ++ interrupted) = turnRootUserIndex asked := by
  have huser : ∃ m ∈ asked, m.role = "user" := by decide
  have hroles : ∀ m ∈ interrupted, m.role ∈ ["user", "assistant", "tool"] := by decide
  have hcont : Continues asked interrupted := by
    rw [continues_iff (by decide)]
    intro j hle hj
    have hlt : j < (asked ++ interrupted).length := userAt_lt_length hj
    have hall : ∀ j < (asked ++ interrupted).length, asked.length ≤ j →
        userAt (asked ++ interrupted) j = true → midWorkAt (asked ++ interrupted) j = true := by
      decide
    exact hall j hlt hle hj
  exact ⟨huser, hroles, hcont, (turn_extends id asked interrupted huser hroles).1.mpr hcont⟩

end FfxNexus.TurnKey
