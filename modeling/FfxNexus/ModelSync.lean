/-
**Catalog refreshes** (`runOnce` of `internal/gateway/model_sync.go` and the two fetchers of
`model_fetcher.go`).
-/
import FfxNexus.Console
import FfxNexus.Providers

namespace FfxNexus.ModelSync

open List Go Providers

inductive Answer where
  | failed (err : String)
  | reply (code : ℤ) (status body : String)

/-- `decode` reads the ids of a body, or the names for Gemini, blank where the field is missing;
`start` is the first 256 bytes of a body. -/
structure Lib where
  decode : String → Except String (List String)
  start : String → String

/-- One attempt; `stopped` tells that its error is a cancellation or that the wait after it ends
with the context. -/
structure Attempt where
  answer : Answer
  stopped : Bool

inductive Fetcher where
  | modelList (provider : String)
  | geminiModelList

def Fetcher.provider : Fetcher → String
  | .modelList provider => provider
  | .geminiModelList => "gemini"

/-- The id under which an entry of the answer is kept. -/
def Fetcher.keep (f : Fetcher) (entry : String) : Option String :=
  match f with
  | .modelList _ => if entry = "" then none else some entry
  | .geminiModelList =>
    let id :=
      if "models/".toList <+: entry.toList then String.ofList (entry.toList.drop 7) else entry
    if id = "" ∨ id = entry then none else some id

variable (lib : Lib) (f : Fetcher)

def fetch : Answer → Except String (List String)
  | .failed err => .error ("transport: " ++ err)
  | .reply code status body =>
    if 400 ≤ code then
      .error ("upstream " ++ f.provider ++ ": " ++ status ++ ": " ++ trimmed (lib.start body))
    else
      match lib.decode body with
      | .error err => .error ("decode response: " ++ err)
      | .ok [] => .error ("upstream " ++ f.provider ++ " returned zero models")
      | .ok entries => .ok (entries.filterMap f.keep)

/-- The loop over the attempts; `none` where it returns and the catalog is kept. Without any attempt
there is no error and no model. -/
def attemptAll : List Attempt → Option (List String)
  | [] => some []
  | a :: rest =>
    match fetch lib f a.answer with
    | .ok models => some models
    | .error _ => if a.stopped ∨ rest = [] then none else attemptAll rest

def attempts (maxRetries : ℤ) (answers : ℕ → Attempt) : List Attempt :=
  (List.range (maxRetries + 1).toNat).map answers

/-- The registry and the provider's own catalog. -/
def runOnce (name : String) (maxRetries : ℤ) (answers : ℕ → Attempt)
    (s : Registry × List String) : Registry × List String :=
  match attemptAll lib f (attempts maxRetries answers) with
  | none => s
  | some models => ((s.1.updateModels name models).1, models)

def Indexed (r : Registry) (p : Provider) : Prop := ∃ m, r.byModel.lookup m = some p

/-- An answer without error of which no id is left. -/
def Blanks : Answer → Prop
  | .failed _ => False
  | .reply code _ body => code < 400 ∧ ∃ entries, lib.decode body = .ok entries ∧ entries ≠ [] ∧
      ∀ e ∈ entries, f.keep e = none

def goesOn (a : Attempt) : Bool := !a.stopped && (fetch lib f a.answer).toOption.isNone

lemma fetch_eq_nil_iff (a : Answer) : fetch lib f a = .ok [] ↔ Blanks lib f a := by
  cases a with
  | failed err => simp [fetch, Blanks]
  | reply code status body =>
    rw [fetch, Blanks]
    split_ifs with hcode
    · simp [hcode]
    cases hbody : lib.decode body with
    | error err => simp
    | ok entries =>
      cases entries with
      | nil => simp
      | cons e es => simp [not_le.mp hcode]

lemma attemptAll_eq_nil_iff (as : List Attempt) : attemptAll lib f as = some [] ↔
    as = [] ∨ ∃ a, (as.dropWhile (goesOn lib f)).head? = some a ∧ Blanks lib f a.answer := by
  induction as with
  | nil => simp [attemptAll]
  | cons a as ih =>
    have hblanks := fetch_eq_nil_iff lib f a.answer
    rw [attemptAll, dropWhile_cons, goesOn]
    cases hfetch : fetch lib f a.answer with
    | ok models => simp [← hblanks, hfetch, Except.toOption]
    | error err =>
      have hfalse : ¬ Blanks lib f a.answer := by simp [← hblanks, hfetch]
      cases hstop : a.stopped with
      | true => simp [hfalse, Except.toOption]
      | false =>
        cases as with
        -- the error of the last attempt keeps the catalog
        | nil => simp [Except.toOption]
        | cons b bs => simpa [Except.toOption] using ih

lemma indexed_updateModels_iff {r : Registry} {name : String} {p : Provider}
    (hp : r.providers.lookup name = some p) (models : List String) :
    Indexed (r.updateModels name models).1 p ↔ models ≠ [] := by
  simp only [Indexed, Registry.updateModels, hp, lookup_setAll, lookup_deleteWhere]
  cases models with
  | nil => simp
  | cons m ms => exact iff_of_true ⟨m, if_pos mem_cons_self⟩ (cons_ne_nil m ms)

/-- **A refresh keeps a model of the provider** exactly when there is an attempt and the one that
ends the loop does not answer with ids that are all dropped. -/
theorem runOnce_indexed_iff (lib : Lib) (f : Fetcher) (name : String) (maxRetries : ℤ)
    (answers : ℕ → Attempt) (s : Registry × List String) (p : Provider)
    (hp : s.1.providers.lookup name = some p) (hindexed : Indexed s.1 p) :
    Indexed (runOnce lib f name maxRetries answers s).1 p ↔ 0 ≤ maxRetries ∧
      ∀ a, ((attempts maxRetries answers).dropWhile (goesOn lib f)).head? = some a →
        ¬ Blanks lib f a.answer := by
  have hsome : attempts maxRetries answers = [] ↔ ¬ 0 ≤ maxRetries := by
    rw [attempts, map_eq_nil_iff, range_eq_nil]
    omega
  have hends := attemptAll_eq_nil_iff lib f (attempts maxRetries answers)
  -- the update drops every id of the provider before it sets the new ones
  have hkept : Indexed (runOnce lib f name maxRetries answers s).1 p ↔
      attemptAll lib f (attempts maxRetries answers) ≠ some [] := by
    unfold runOnce
    cases attemptAll lib f (attempts maxRetries answers) with
    | none => simpa using hindexed
    | some models => simp [indexed_updateModels_iff hp]
  rw [hkept, Ne, hends, hsome]
  simp

def known : Registry × List String := (newRegistry.register openai ["gpt-4o"], ["gpt-4o"])

def blankBody : String := "\x7b\"data\":[\x7b\"id\":\"\"\x7d]\x7d"

def blankIds : Lib := ⟨fun body => if body = blankBody then .ok [""] else .error "EOF", id⟩

theorem runOnce_refused : Indexed (runOnce blankIds (.modelList "openai") "openai" 3
    (fun _ => ⟨.failed "connection refused", false⟩) known).1 openai :=
  (runOnce_indexed_iff _ _ _ 3 _ known openai rfl ⟨"gpt-4o", rfl⟩).mpr
    ⟨by decide, fun _ h => by cases h⟩

theorem runOnce_blanked : Indexed known.1 openai ∧ ¬ Indexed (runOnce blankIds
    (.modelList "openai") "openai" 3 (fun _ => ⟨.reply 200 "200 OK" blankBody, false⟩) known).1
      openai :=
  ⟨⟨"gpt-4o", rfl⟩, fun h => (indexed_updateModels_iff (r := known.1) rfl []).mp h rfl⟩

end FfxNexus.ModelSync
