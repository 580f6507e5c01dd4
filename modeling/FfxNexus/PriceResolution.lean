/-
**Which family a model is billed as, and tokens priced in detail** (`internal/gateway/pricing.go`).
-/
import FfxNexus.Pricing
import Mathlib.Tactic.Linarith

namespace FfxNexus.Pricing
open Go List

section
variable {α κ γ : Type} {chars : κ → List α} {find : κ → Option γ} {m : List α}

lemma findSome?_longest {keys : List κ} (hkeys : keys.Pairwise fun a b => ¬ chars a <+: chars b)
    (hfind : ∀ a, (find a).isSome = true → chars a <+: m) (x : γ) : keys.findSome? find = some x ↔
      ∃ a ∈ keys, find a = some x ∧
        ∀ b ∈ keys, (find b).isSome = true → (chars b).length ≤ (chars a).length := by
  induction keys with
  | nil => simp
  | cons k keys ih =>
    obtain ⟨hfirst, hrest⟩ := pairwise_cons.mp hkeys
    rw [findSome?_cons]
    cases hk : find k with
    | some y =>
      have hshorter : ∀ b ∈ keys, (find b).isSome = true →
          (chars b).length < (chars k).length := by
        intro b hb hbm
        by_contra hge
        refine hfirst b hb (prefix_of_prefix_length_le (hfind k ?_) (hfind b hbm) ?_)
        · rw [hk]
          rfl
        · omega
      dsimp only
      constructor
      · intro hxy
        refine ⟨k, mem_cons_self, by rw [hk, hxy], ?_⟩
        intro b hb hbm
        rcases mem_cons.mp hb with rfl | hb
        · exact le_rfl
        · exact le_of_lt (hshorter b hb hbm)
      · rintro ⟨a, ha, hax, hlongest⟩
        have hle := hlongest k mem_cons_self (by rw [hk]; rfl)
        rcases mem_cons.mp ha with rfl | ha
        · rw [← hk, hax]
        · have hlt := hshorter a ha (by rw [hax]; rfl)
          omega
    | none =>
      have hnone : ∀ {b}, (find b).isSome = true → b ≠ k := by
        rintro b hb rfl
        rw [hk] at hb
        cases hb
      dsimp only
      rw [ih hrest]
      constructor
      · rintro ⟨a, ha, hax, hlongest⟩
        refine ⟨a, mem_cons_of_mem k ha, hax, ?_⟩
        intro b hb hbm
        exact hlongest b (mem_of_ne_of_mem (hnone hbm) hb) hbm
      · rintro ⟨a, ha, hax, hlongest⟩
        refine ⟨a, mem_of_ne_of_mem (hnone (by rw [hax]; rfl)) ha, hax, ?_⟩
        intro b hb
        exact hlongest b (mem_cons_of_mem k hb)

end

def matchAlias (model : String) : Option Price := matchAliasIn pricingTable model

def matchAliasDetail (model : String) : Option DetailedPrice :=
  matchAliasIn detailedPricingTable model

lemma hasPrefix_iff {s pre : String} : hasPrefix s pre = true ↔ pre.toList <+: s.toList :=
  isPrefixOf_iff_prefix

lemma familyAliases_ordered : familyAliases.Pairwise fun a b => ¬ a.1.toList <+: b.1.toList := by
  decide

lemma family_priced : ∀ a ∈ familyAliases, (pricingTable.lookup a.2).isSome = true := by
  decide

lemma detailed_price : ∀ e ∈ detailedPricingTable, pricingTable.lookup e.1 = some e.2.price := by
  decide +kernel

lemma detailed_alias : ∀ e ∈ detailedPricingTable, matchAliasDetail e.1 = some e.2 := by
  decide +kernel

lemma detailed_bare : ∀ e ∈ detailedPricingTable, cut e.1 '/' = none := by
  decide

lemma detailed_alias_maximal : ∀ a ∈ familyAliases, ∀ b ∈ familyAliases,
    (detailedPricingTable.lookup a.2).isSome = true → a.1.toList <+: b.1.toList → b = a := by
  decide

lemma detailed_aliases : familyAliases.filter (fun a => (detailedPricingTable.lookup a.2).isSome) =
      [ ("o4-mini", "o4-mini"), ("o3", "o3"), ("claude-3-7-sonnet", "claude-3-7-sonnet-latest"),
        ("claude-3-5-haiku", "claude-3-5-haiku-latest"), ("claude-opus", "claude-opus-4-1"),
        ("claude-sonnet", "claude-sonnet-4-5"), ("claude-haiku", "claude-haiku-4-5") ] := by
  decide

lemma priced_id : ∀ e ∈ pricingTable,
    ∀ a ∈ familyAliases.filter (fun a => (detailedPricingTable.lookup a.2).isSome),
      (hasPrefix e.1 a.1 = true → '/' ∉ e.1.toList ∧ pricingTable.lookup a.2 = some e.2) ∧
        ¬ a.1.toList <+: (e.1.toList.dropWhile (· != '/')).tail := by
  rw [detailed_aliases]
  decide +kernel

structure LongestAlias (m : String) (a : String × String) : Prop where
  mem : a ∈ familyAliases
  starts : hasPrefix m a.1 = true
  longest : ∀ b ∈ familyAliases, hasPrefix m b.1 = true → b.1.toList.length ≤ a.1.toList.length

def DetailedAlias (m : String) (dp : DetailedPrice) : Prop :=
  ∃ a ∈ familyAliases, hasPrefix m a.1 = true ∧ detailedPricingTable.lookup a.2 = some dp

def BasicPrice (m : String) (p : Price) : Prop :=
  pricingTable.lookup m = some p ∨
    pricingTable.lookup m = none ∧ ∃ a, LongestAlias m a ∧ pricingTable.lookup a.2 = some p

variable {dp : DetailedPrice}

section
variable {m : String}

lemma matchAliasIn_eq_some {β : Type} (table : List (String × β)) (x : β) :
    matchAliasIn table m = some x ↔
      ∃ a ∈ familyAliases, hasPrefix m a.1 = true ∧ table.lookup a.2 = some x ∧
        ∀ b ∈ familyAliases, hasPrefix m b.1 = true → (table.lookup b.2).isSome = true →
          b.1.toList.length ≤ a.1.toList.length := by
  have hsome : ∀ (a : String × String) (y : β),
      (if hasPrefix m a.1 then table.lookup a.2 else none) = some y ↔
        hasPrefix m a.1 = true ∧ table.lookup a.2 = some y := by
    intro a y
    by_cases ha : hasPrefix m a.1 = true <;> simp [ha]
  have hisSome : ∀ a : String × String,
      (if hasPrefix m a.1 then table.lookup a.2 else none).isSome = true ↔
        hasPrefix m a.1 = true ∧ (table.lookup a.2).isSome = true := by
    intro a
    by_cases ha : hasPrefix m a.1 = true <;> simp [ha]
  rw [matchAliasIn, findSome?_longest (m := m.toList) familyAliases_ordered
    (fun a ha => hasPrefix_iff.mp ((hisSome a).mp ha).1)]
  simp only [hsome, hisSome, and_imp, and_assoc]

lemma matchAlias_eq_some (p : Price) :
    matchAlias m = some p ↔ ∃ a, LongestAlias m a ∧ pricingTable.lookup a.2 = some p := by
  rw [matchAlias, matchAliasIn_eq_some]
  constructor
  · rintro ⟨a, ha, hstarts, hp, hlongest⟩
    exact ⟨a, ⟨ha, hstarts, fun b hb hbm => hlongest b hb hbm (family_priced b hb)⟩, hp⟩
  · rintro ⟨a, ⟨ha, hstarts, hlongest⟩, hp⟩
    exact ⟨a, ha, hstarts, hp, fun b hb hbm _ => hlongest b hb hbm⟩

lemma matchAlias_eq_none : matchAlias m = none ↔ ∀ a ∈ familyAliases, hasPrefix m a.1 = false := by
  rw [matchAlias, matchAliasIn, findSome?_eq_none_iff]
  refine forall₂_congr fun a ha => ?_
  have hpriced := Option.isSome_iff_ne_none.mp (family_priced a ha)
  by_cases hstarts : hasPrefix m a.1 = true <;> simp [hstarts, hpriced]

lemma detailed_longest {a : String × String} (ha : a ∈ familyAliases)
    (hstarts : hasPrefix m a.1 = true) (hdp : detailedPricingTable.lookup a.2 = some dp) :
    LongestAlias m a := by
  refine ⟨ha, hstarts, fun b hb hbm => ?_⟩
  by_contra hlt
  have hab := prefix_of_prefix_length_le (hasPrefix_iff.mp hstarts)
    (hasPrefix_iff.mp hbm) (by omega)
  rw [detailed_alias_maximal a ha b hb (by rw [hdp]; rfl) hab] at hlt
  exact hlt le_rfl

lemma matchAliasDetail_eq_some (dp : DetailedPrice) :
    matchAliasDetail m = some dp ↔ DetailedAlias m dp := by
  rw [matchAliasDetail, matchAliasIn_eq_some]
  constructor
  · rintro ⟨a, ha, hstarts, hdp, -⟩
    exact ⟨a, ha, hstarts, hdp⟩
  · rintro ⟨a, ha, hstarts, hdp⟩
    have hlongest := (detailed_longest ha hstarts hdp).longest
    exact ⟨a, ha, hstarts, hdp, fun b hb hbm _ => hlongest b hb hbm⟩

lemma mem_detailed_aliases {a : String × String} (ha : a ∈ familyAliases)
    (hdp : detailedPricingTable.lookup a.2 = some dp) :
    a ∈ familyAliases.filter (fun a => (detailedPricingTable.lookup a.2).isSome) := by
  rw [mem_filter, hdp]
  exact ⟨ha, rfl⟩

lemma detail_of_entry {p : Price} (hentry : pricingTable.lookup m = some p)
    (hdp : matchAliasDetail m = some dp) : '/' ∉ m.toList ∧ p = dp.price := by
  obtain ⟨a, ha, hstarts, hlookup⟩ := (matchAliasDetail_eq_some dp).mp hdp
  obtain ⟨hslash, hprice⟩ :=
    (priced_id _ (mem_of_lookup hentry) a (mem_detailed_aliases ha hlookup)).1 hstarts
  rw [detailed_price _ (mem_of_lookup hlookup)] at hprice
  exact ⟨hslash, (Option.some.inj hprice).symm⟩

lemma no_detail_of_rest {p : Price} {parts : String × String}
    (hentry : pricingTable.lookup m = some p) (hcut : cut m '/' = some parts) :
    matchAliasDetail parts.2 = none := by
  by_contra hsome
  obtain ⟨dp, hdp⟩ := Option.ne_none_iff_exists'.mp hsome
  obtain ⟨a, ha, hstarts, hlookup⟩ := (matchAliasDetail_eq_some dp).mp hdp
  have hrest := (priced_id _ (mem_of_lookup hentry) a (mem_detailed_aliases ha hlookup)).2
  unfold cut at hcut
  split_ifs at hcut
  obtain rfl := Option.some.inj hcut
  rw [hasPrefix_iff, String.toList_ofList] at hstarts
  exact hrest hstarts

lemma matchAlias_of_detail (h : matchAliasDetail m = some dp) : matchAlias m = some dp.price := by
  obtain ⟨a, ha, hstarts, hdp⟩ := (matchAliasDetail_eq_some dp).mp h
  exact (matchAlias_eq_some _).mpr
    ⟨a, detailed_longest ha hstarts hdp, detailed_price _ (mem_of_lookup hdp)⟩

lemma lookup_or_matchAliasDetail :
    (detailedPricingTable.lookup m <|> matchAliasDetail m) = matchAliasDetail m := by
  cases hentry : detailedPricingTable.lookup m with
  | none => rfl
  | some dp => exact (detailed_alias _ (mem_of_lookup hentry)).symm

lemma basicPrice_iff (p : Price) :
    (pricingTable.lookup m <|> matchAlias m) = some p ↔ BasicPrice m p := by
  rw [BasicPrice, ← matchAlias_eq_some]
  cases pricingTable.lookup m <;> simp

end

def OneFamily (m : String) : Prop :=
  ∀ provider rest, m = provider ++ String.singleton '/' ++ rest → '/' ∉ provider.toList →
    ∀ dp, DetailedAlias m dp → (∀ dp', ¬ DetailedAlias rest dp') →
      ∀ p, BasicPrice rest p → p = dp.price

def Agree (m : String) : Prop :=
  ∀ dp, matchDetailed m = some dp → matchPrice m = some dp.price

section
variable {m : String}

lemma oneFamily_iff : OneFamily m ↔ ∀ provider rest, cut m '/' = some (provider, rest) →
      ∀ dp, matchAliasDetail m = some dp → matchAliasDetail rest = none →
        ∀ p, (pricingTable.lookup rest <|> matchAlias rest) = some p → p = dp.price := by
  have hcut : ∀ provider rest, cut m '/' = some (provider, rest) ↔
      m = provider ++ String.singleton '/' ++ rest ∧ '/' ∉ provider.toList := by
    intro provider rest
    constructor
    · intro h
      exact ⟨cut_eq_some h, not_mem_of_cut h⟩
    · rintro ⟨rfl, hprovider⟩
      exact cut_append hprovider rest
  have hnone : ∀ rest, matchAliasDetail rest = none ↔ ∀ dp, ¬ DetailedAlias rest dp := by
    intro rest
    simp only [← matchAliasDetail_eq_some, Option.eq_none_iff_forall_ne_some, ne_eq]
  simp only [OneFamily, hcut, hnone, matchAliasDetail_eq_some, basicPrice_iff, and_imp]

lemma matchDetailed_eq (hne : m ≠ "") : matchDetailed m = match cut m '/' with
      | none => matchAliasDetail m
      | some parts => matchAliasDetail parts.2 <|> matchAliasDetail m := by
  rw [matchDetailed, matchIn, if_neg hne]
  cases hentry : detailedPricingTable.lookup m with
  | none =>
    cases cut m '/' with
    | none => rfl
    | some parts =>
      dsimp only
      rw [← lookup_or_matchAliasDetail (m := parts.2)]
      rfl
  | some dp =>
    have hcut : cut m '/' = none := detailed_bare _ (mem_of_lookup hentry)
    rw [hcut]
    exact (detailed_alias _ (mem_of_lookup hentry)).symm

lemma agree_of_entry {p : Price} (hentry : pricingTable.lookup m = some p) :
    Agree m ∧ OneFamily m := by
  have hne : m ≠ "" := by
    rintro rfl
    have hempty : pricingTable.lookup "" = none := by decide
    rw [hempty] at hentry
    cases hentry
  have hbasic : matchPrice m = some p := by
    rw [matchPrice, matchIn, if_neg hne, hentry]
    rfl
  rw [Agree, oneFamily_iff, hbasic, matchDetailed_eq hne]
  cases hcut : cut m '/' with
  | none =>
    refine ⟨?_, by simp⟩
    intro dp hdp
    rw [(detail_of_entry hentry hdp).2]
  | some parts =>
    have hslash : '/' ∈ m.toList := by
      rw [cut_eq_some hcut]
      simp
    have hwhole : matchAliasDetail m = none := by
      by_contra hsome
      obtain ⟨dp, hdp⟩ := Option.ne_none_iff_exists'.mp hsome
      exact (detail_of_entry hentry hdp).1 hslash
    rw [hwhole]
    dsimp only
    rw [no_detail_of_rest hentry hcut]
    simp

lemma agree_of_bare (hentry : pricingTable.lookup m = none) (hcut : cut m '/' = none) :
    Agree m := by
  intro dp hdp
  by_cases hne : m = ""
  · rw [matchDetailed, matchIn, if_pos hne] at hdp
    cases hdp
  · rw [matchDetailed_eq hne, hcut] at hdp
    rw [matchPrice, matchIn, if_neg hne, hentry, hcut]
    exact matchAlias_of_detail hdp

lemma agree_iff_of_cut {provider rest : String} (hentry : pricingTable.lookup m = none)
    (hcut : cut m '/' = some (provider, rest)) :
    Agree m ↔ ∀ dp, matchAliasDetail m = some dp → matchAliasDetail rest = none →
      ∀ p, (pricingTable.lookup rest <|> matchAlias rest) = some p → p = dp.price := by
  have hne : m ≠ "" := by
    rw [cut_eq_some hcut]
    simp
  have hdetailed : matchDetailed m = (matchAliasDetail rest <|> matchAliasDetail m) := by
    rw [matchDetailed_eq hne, hcut]
  have hbasic : matchPrice m =
      ((pricingTable.lookup rest <|> matchAlias rest) <|> matchAlias m) := by
    rw [matchPrice, matchIn, if_neg hne, hentry, hcut]
    rfl
  rw [Agree, hdetailed, hbasic]
  cases hrest : matchAliasDetail rest with
  | some dp =>
    refine iff_of_true ?_ (by simp)
    intro dp' hdp'
    obtain rfl : dp = dp' := Option.some.inj hdp'
    cases hlookup : pricingTable.lookup rest with
    | some p => exact congrArg some (detail_of_entry hlookup hrest).2
    | none =>
      rw [matchAlias_of_detail hrest]
      rfl
  | none =>
    refine forall₂_congr fun dp hdp => ?_
    have halias : matchAlias m = some dp.price := matchAlias_of_detail hdp
    cases hstripped : (pricingTable.lookup rest <|> matchAlias rest) with
    | some p => simp
    | none => simpa using halias

lemma agree_iff : Agree m ↔ OneFamily m := by
  cases hentry : pricingTable.lookup m with
  | some p => exact iff_of_true (agree_of_entry hentry).1 (agree_of_entry hentry).2
  | none =>
    rw [oneFamily_iff]
    cases hcut : cut m '/' with
    | none => exact iff_of_true (agree_of_bare hentry hcut) (by simp)
    | some parts =>
      obtain ⟨provider, rest⟩ := parts
      rw [agree_iff_of_cut hentry hcut]
      simp

end

theorem price_resolution (m : String) :
    (∀ p, matchAlias m = some p ↔ ∃ a, LongestAlias m a ∧ pricingTable.lookup a.2 = some p) ∧
      (matchAlias m = none ↔ ∀ a ∈ familyAliases, hasPrefix m a.1 = false) ∧
      ((∀ dp, matchDetailed m = some dp → matchPrice m = some dp.price) ↔ OneFamily m) :=
  ⟨matchAlias_eq_some, matchAlias_eq_none, agree_iff⟩

theorem price_resolution_crosses : matchDetailed "o3/gpt-4o" = some ⟨⟨2.00, 8.00⟩, 0, 8.00⟩ ∧
      matchPrice "o3/gpt-4o" = some ⟨2.50, 10.00⟩ := by
  decide +kernel

/-! ## Detailed prices -/

open Schema
variable (usage : Option Usage) (inTokens outTokens : ℤ) (dp : DetailedPrice)

def uncachedShare : ℤ := max (inTokens - cachedShare usage inTokens) 0

def regularShare : ℤ :=
  if outTokens - reasoningShare usage outTokens < 0 then outTokens
  else outTokens - reasoningShare usage outTokens

def cachedInRate : ℚ := if dp.cachedInPerM = 0 then dp.price.inPerM else dp.cachedInPerM

def reasoningOutRate : ℚ :=
  if dp.reasoningOutPerM = 0 then dp.price.outPerM else dp.reasoningOutPerM

/-- What `a` tokens at one rate and `b` at another cost. -/
def mixed (a b : ℤ) (r s : ℚ) : ℚ := (a / 1000000 : ℚ) * r + (b / 1000000 : ℚ) * s

/-- The parts of a total are not negative and leave nothing out. -/
def Parts (a b total : ℤ) : Prop := 0 ≤ a ∧ 0 ≤ b ∧ a + b = total

variable {usage inTokens outTokens dp} {a b total : ℤ} {r s : ℚ}

lemma applyDetailed_eq : applyDetailed dp inTokens outTokens usage =
    mixed (uncachedShare usage inTokens) (cachedShare usage inTokens) dp.price.inPerM
        (cachedInRate dp) + mixed (regularShare usage outTokens) (reasoningShare usage outTokens)
        dp.price.outPerM (reasoningOutRate dp) :=
  add_assoc _ _ _

lemma parts_input (h : 0 ≤ inTokens) :
    Parts (uncachedShare usage inTokens) (cachedShare usage inTokens) inTokens := by
  -- the details count only up to the total, and not at all where they are negative
  unfold Parts uncachedShare cachedShare
  split
  · split <;> omega
  · omega

lemma parts_output (h : 0 ≤ outTokens) :
    Parts (regularShare usage outTokens) (reasoningShare usage outTokens) outTokens := by
  unfold Parts regularShare reasoningShare
  split
  · split <;> omega
  · omega

lemma tokens_nonneg (h : 0 ≤ total) : (0 : ℚ) ≤ total / 1000000 :=
  div_nonneg (Int.cast_nonneg h) (by norm_num)

lemma Parts.mixed_between (h : Parts a b total) (r s : ℚ) :
    (total / 1000000 : ℚ) * min r s ≤ mixed a b r s ∧
      mixed a b r s ≤ (total / 1000000 : ℚ) * max r s := by
  obtain ⟨ha, hb, rfl⟩ := h
  have ha := tokens_nonneg ha
  have hb := tokens_nonneg hb
  rw [Int.cast_add, add_div, add_mul, add_mul, mixed]
  exact ⟨add_le_add (mul_le_mul_of_nonneg_left (min_le_left r s) ha)
      (mul_le_mul_of_nonneg_left (min_le_right r s) hb),
    add_le_add (mul_le_mul_of_nonneg_left (le_max_left r s) ha)
      (mul_le_mul_of_nonneg_left (le_max_right r s) hb)⟩

/-- **Every token is priced once**, at a rate between the two of its side. -/
theorem detailed_conserves (dp : DetailedPrice) (inTokens outTokens : ℤ) (usage : Option Usage)
    (hin : 0 ≤ inTokens) (hout : 0 ≤ outTokens) (hrates : ∀ r ∈ [dp.price.inPerM,
      dp.price.outPerM, dp.cachedInPerM, dp.reasoningOutPerM], 0 ≤ r) :
    let cost := applyDetailed dp inTokens outTokens usage
    let (uncached, cached) := (uncachedShare usage inTokens, cachedShare usage inTokens)
    let (regular, reasoning) := (regularShare usage outTokens, reasoningShare usage outTokens)
    let (i, c, o, r) := (dp.price.inPerM, cachedInRate dp, dp.price.outPerM, reasoningOutRate dp)
    cost = mixed uncached cached i c + mixed regular reasoning o r ∧
      Parts uncached cached inTokens ∧ Parts regular reasoning outTokens ∧ 0 ≤ cost ∧
      mixed inTokens outTokens (min i c) (min o r) ≤ cost ∧
      cost ≤ mixed inTokens outTokens (max i c) (max o r) := by
  have hinput := (parts_input hin : Parts (uncachedShare usage inTokens) _ _).mixed_between
    dp.price.inPerM (cachedInRate dp)
  have houtput := (parts_output hout : Parts (regularShare usage outTokens) _ _).mixed_between
    dp.price.outPerM (reasoningOutRate dp)
  simp only [List.forall_mem_cons] at hrates
  obtain ⟨hprice, hprice', hcached, hreasoning, -⟩ := hrates
  have hrates : 0 ≤ cachedInRate dp ∧ 0 ≤ reasoningOutRate dp := by
    unfold cachedInRate reasoningOutRate
    split_ifs
    all_goals exact ⟨by assumption, by assumption⟩
  have hlow := add_le_add hinput.1 houtput.1
  rw [← applyDetailed_eq] at hlow
  have hleast := add_nonneg (mul_nonneg (tokens_nonneg hin) (le_min hprice hrates.1))
    (mul_nonneg (tokens_nonneg hout) (le_min hprice' hrates.2))
  exact ⟨applyDetailed_eq, parts_input hin, parts_output hout, hleast.trans hlow, hlow,
    applyDetailed_eq.trans_le (add_le_add hinput.2 houtput.2)⟩

theorem detailed_conserves_oversized :
    Parts (uncachedShare (some { Usage.zero with promptTokenDetails := some ⟨99, 0, 0, 0⟩ }) 10)
      (cachedShare (some { Usage.zero with promptTokenDetails := some ⟨99, 0, 0, 0⟩ }) 10) 10 :=
  (detailed_conserves ⟨⟨2, 8⟩, 1, 0⟩ 10 4 _ (by decide) (by decide) (by decide)).2.1

end FfxNexus.Pricing
