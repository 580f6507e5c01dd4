/-
**The statements of a ClickHouse migration** (`splitCHStatements` of
`internal/migrate/clickhouse.go`).
-/
import FfxNexus.JsonRepair
import FfxNexus.Separated

namespace FfxNexus.Migrate
open Guardrails List

def before (pat : List Char) : List Char → List Char
  | [] => []
  | c :: s => if pat <+: c :: s then [] else c :: before pat s

variable (line : List Char)

def inlineCut : List Char := before [' ', '-', '-', ' '] line

def keptLine : Option (List Char) :=
  if ['-', '-'] <+: trimSpace line then none
  else if trimSpace (inlineCut line) = [] then none
  else some (inlineCut line)

def closes (s : List Char) : Prop := s.getLast? = some ';'

instance : DecidablePred closes := fun _ => inferInstanceAs (Decidable (_ = _))

def finish (stmtLines : List (List Char)) : List (List Char) :=
  let joined := trimSpace (['\n'].intercalate stmtLines)
  let joined := if closes joined then joined.dropLast else joined
  if joined = [] then [] else [joined]

def splitLines (stmtLines : List (List Char)) : List (List Char) → List (List Char)
  | [] => if stmtLines = [] then [] else finish stmtLines
  | line :: lines =>
    match keptLine line with
    | none => splitLines stmtLines lines
    | some kept =>
      if closes (trimSpace kept) then finish (stmtLines ++ [kept]) ++ splitLines [] lines
      else splitLines (stmtLines ++ [kept]) lines

def splitCHStatements (sql : String) : List String :=
  (splitLines [] (sql.toList.splitOn '\n')).map String.ofList

def words (s : List Char) : List (List Char) := Separated.groups isSpace s

def uncommented : List Char := before ['-', '-'] line

def cutFrom (ws : List (List Char)) (text : List Char) : List (List (List Char)) :=
  (((text.splitOn ';').map words).modifyHead (ws ++ ·)).filter (· ≠ [])

def pieces (sql : String) : List (List (List Char)) :=
  cutFrom [] ((sql.toList.splitOn '\n').flatMap fun line => uncommented line ++ ['\n'])

def LaidOut : Prop :=
  ['-', '-'] <+: trimSpace line ∨
    (¬ ['-', '-'] <:+: inlineCut line ∧ ';' ∉ (trimSpace (inlineCut line)).dropLast)

instance : DecidablePred LaidOut := fun _ => inferInstanceAs (Decidable (_ ∨ _))

variable {s x y u r line : List Char} {ws : List (List Char)} {c : Char}

lemma words_append (hc : isSpace c = true) (x y : List Char) :
    words (x ++ c :: y) = words x ++ words y := by
  unfold words Separated.groups
  rw [splitOnP_append_cons x y hc, filter_append]

lemma words_cons (hc : isSpace c = true) (s : List Char) : words (c :: s) = words s :=
  words_append hc [] s

lemma words_eq_nil_iff : words s = [] ↔ Blank s := by
  induction s with
  | nil => exact iff_of_true rfl (forall_mem_nil _)
  | cons c s ih =>
    rw [Blank, forall_mem_cons]
    cases hc : isSpace c with
    | true =>
      rw [words_cons hc, ih]
      simp [Blank]
    | false =>
      obtain ⟨first, rest, heq⟩ := exists_cons_of_ne_nil (splitOnP_ne_nil isSpace s)
      have hsplit : (c :: s).splitOnP isSpace = (c :: first) :: rest := by
        rw [splitOnP_cons_eq_if_modifyHead, if_neg (by simp [hc]), heq, modifyHead_cons]
      simp [words, Separated.groups, hsplit]

lemma words_append_blank (hr : Blank r) : words (s ++ r) = words s := by
  cases r with
  | nil => rw [append_nil]
  | cons c r =>
    obtain ⟨hc, hr⟩ := forall_mem_cons.mp hr
    rw [words_append hc, words_eq_nil_iff.mpr hr, append_nil]

lemma words_trimLeft (s : List Char) : words (trimLeft s) = words s := by
  induction s with
  | nil => rfl
  | cons c s ih =>
    cases hc : isSpace c with
    | true => rw [trimLeft, dropWhile_cons_of_pos hc, words_cons hc, ← trimLeft, ih]
    | false => rw [trimLeft, dropWhile_cons_of_neg (by simp [hc])]

lemma trimLeft_split (s : List Char) : ∃ r, Blank r ∧ trimLeft s = trimSpace s ++ r := by
  refine ⟨((trimLeft s).reverse.takeWhile isSpace).reverse, fun c hc => ?_, ?_⟩
  · exact mem_takeWhile_imp (mem_reverse.mp hc)
  · rw [trimSpace, ← reverse_append, trimLeft, takeWhile_append_dropWhile, reverse_reverse]

lemma words_trimSpace (s : List Char) : words (trimSpace s) = words s := by
  obtain ⟨r, hr, heq⟩ := trimLeft_split s
  rw [← words_trimLeft s, heq, words_append_blank hr]

lemma trimSpace_of_all (h : Blank s) : trimSpace s = [] := by
  rw [trimSpace, dropWhile_eq_nil_iff.mpr h]
  rfl

variable (acc : List (List Char))

lemma intercalate_concat (a : List Char) :
    ['\n'].intercalate (acc ++ [a]) = acc.flatMap (· ++ ['\n']) ++ a := by
  induction acc with
  | nil => simp
  | cons l acc ih =>
    rw [cons_append, intercalate_cons_of_ne_nil (by simp), ih]
    simp

lemma words_intercalate (a : List Char) :
    words (['\n'].intercalate (acc ++ [a])) = acc.flatMap words ++ words a := by
  rw [intercalate_concat]
  induction acc with
  | nil => rfl
  | cons l acc ih =>
    rw [flatMap_cons, append_assoc, append_assoc, singleton_append, words_append (by decide), ih,
      flatMap_cons, append_assoc]

lemma cutFrom_nil : cutFrom ws [] = [ws].filter (· ≠ []) := by
  simp [cutFrom, words, Separated.groups]

lemma cutFrom_line (hu : ';' ∉ u) (text : List Char) :
    cutFrom ws (u ++ '\n' :: text) = cutFrom (ws ++ words u) text := by
  have hsplit : ∀ v : List Char, ';' ∉ v →
      (v ++ text).splitOn ';' = (text.splitOn ';').modifyHead (v ++ ·) := by
    intro v hv
    induction v with
    | nil => cases h : text.splitOn ';' <;> exact h
    | cons c v ih =>
      obtain ⟨hc, hv⟩ := not_or.mp (mem_cons.not.mp hv)
      rw [cons_append, splitOn, splitOnP_cons_eq_if_modifyHead, if_neg (by simpa using Ne.symm hc),
        ← splitOn, ih hv, modifyHead_modifyHead]
      rfl
  obtain ⟨first, rest, heq⟩ := exists_cons_of_ne_nil (splitOnP_ne_nil (· == ';') text)
  have hfirst := hsplit (u ++ ['\n']) (by simpa using hu)
  rw [append_assoc, singleton_append] at hfirst
  rw [cutFrom, cutFrom, hfirst, splitOn, heq, modifyHead_cons, map_cons, map_cons, modifyHead_cons,
    modifyHead_cons, append_assoc u, singleton_append, words_append (by decide), append_assoc ws]

lemma cutFrom_semicolon (hu : ';' ∉ u) (text : List Char) :
    cutFrom ws (u ++ ';' :: text) = [ws ++ words u].filter (· ≠ []) ++ cutFrom [] text := by
  have hsplit : (u ++ ';' :: text).splitOn ';' = u :: text.splitOn ';' :=
    splitOnP_append_cons_of_forall_mem (by grind) ';' (by decide) text
  rw [cutFrom, cutFrom, hsplit, map_cons, modifyHead_cons, ← singleton_append, filter_append]
  congr 2
  cases (text.splitOn ';').map words <;> rfl

lemma finish_open {acc : List (List Char)} {a : List Char} (h : ∀ l ∈ acc ++ [a], ';' ∉ l) :
    (finish (acc ++ [a])).map words = [(acc ++ [a]).flatMap words].filter (· ≠ []) := by
  have hjoined : ';' ∉ ['\n'].intercalate (acc ++ [a]) := by
    rw [intercalate_concat]
    simpa [or_imp, forall_and] using h
  rw [flatMap_append, flatMap_singleton, ← words_intercalate, ← words_trimSpace, finish]
  generalize ['\n'].intercalate (acc ++ [a]) = text at *
  have hopen : ¬ closes (trimSpace text) := by
    intro hlast
    obtain ⟨r, -, heq⟩ := trimLeft_split text
    have hmem : ';' ∈ trimLeft text := by
      rw [heq]
      exact mem_append_left _ (mem_of_getLast? hlast)
    exact hjoined ((dropWhile_sublist _).subset hmem)
  split_ifs with hnil
  · rw [hnil]
    rfl
  · have hwords : words (trimSpace text) ≠ [] := by
      intro hblank
      rw [words_trimSpace, words_eq_nil_iff] at hblank
      exact hnil (trimSpace_of_all hblank)
    simp [hwords]

lemma finish_closed (body : List Char) (hr : Blank r) :
    (finish (acc ++ [body ++ ';' :: r])).map words =
      [acc.flatMap words ++ words body].filter (· ≠ []) := by
  rw [← words_intercalate, finish, intercalate_concat, intercalate_concat, ← append_assoc]
  generalize acc.flatMap (· ++ ['\n']) ++ body = y
  have htrim : trimSpace (y ++ ';' :: r) = trimLeft y ++ [';'] := by
    have hsolid : Solid [';'] := ⟨⟨_, _, rfl, by decide⟩, ⟨[], _, rfl, by decide⟩⟩
    have hsplit := trimSpace_solid hsolid y r
    rwa [append_assoc, singleton_append, trimRight_eq_nil_iff.mpr hr, append_nil] at hsplit
  have hcloses : closes (trimLeft y ++ [';']) := getLast?_concat ..
  rw [htrim, dropLast_concat]
  split_ifs with hnil
  · rw [words_eq_nil_iff.mpr (trimLeft_eq_nil_iff.mp hnil)]
    rfl
  · have hwords : words y ≠ [] := fun h => hnil (trimLeft_eq_nil_iff.mpr (words_eq_nil_iff.mp h))
    simp [words_trimLeft, hwords]

lemma uncommented_comment (h : ['-', '-'] <+: trimSpace line) : Blank (uncommented line) := by
  obtain ⟨r, -, heq⟩ := trimLeft_split line
  obtain ⟨t, ht⟩ := h.trans (heq ▸ prefix_append _ _)
  have hline : line = line.takeWhile isSpace ++ (['-', '-'] ++ t) := by
    rw [ht, trimLeft, takeWhile_append_dropWhile]
  have hblank : Blank (line.takeWhile isSpace) := fun c hc => mem_takeWhile_imp hc
  generalize line.takeWhile isSpace = front at hline hblank
  subst hline
  have hfront : uncommented (front ++ (['-', '-'] ++ t)) = front := by
    clear heq ht h
    induction front with
    | nil => simp [uncommented, before]
    | cons c front ih =>
      obtain ⟨hc, hblank⟩ := forall_mem_cons.mp hblank
      have hnot : ¬ ['-', '-'] <+: c :: (front ++ (['-', '-'] ++ t)) := by
        rw [cons_prefix_cons]
        rintro ⟨rfl, -⟩
        exact absurd hc (by decide)
      rw [cons_append, uncommented, before, if_neg hnot, ← uncommented, ih hblank]
  rw [hfront]
  exact hblank

lemma uncommented_inlineCut (h : ¬ ['-', '-'] <:+: inlineCut line) :
    ∃ r, Blank r ∧ uncommented line = inlineCut line ++ r := by
  induction line with
  | nil => exact ⟨[], forall_mem_nil _, rfl⟩
  | cons c s ih =>
    by_cases hinline : [' ', '-', '-', ' '] <+: c :: s
    · obtain ⟨t, ht⟩ := hinline
      obtain ⟨rfl, rfl⟩ := cons.inj ht
      refine ⟨[' '], forall_mem_singleton.mpr (by decide), ?_⟩
      simp [uncommented, inlineCut, before]
    · have hcut : inlineCut (c :: s) = c :: inlineCut s := if_neg hinline
      rw [hcut] at h ⊢
      have hdash : ¬ ['-', '-'] <+: c :: s := by
        rintro ⟨t, ht⟩
        obtain ⟨rfl, rfl⟩ := cons.inj ht
        exact h ⟨[], inlineCut t, by simp [inlineCut, before]⟩
      obtain ⟨r, hr, heq⟩ := ih fun hs => h (infix_cons_iff.mpr (.inr hs))
      refine ⟨r, hr, ?_⟩
      rw [uncommented, before, if_neg hdash, ← uncommented, heq]
      rfl

lemma not_mem_of_blank (h : Blank s) : ';' ∉ s := fun hs => absurd (h _ hs) (by decide)

lemma line_cases (h : LaidOut line) : (keptLine line = none ∧ Blank (uncommented line)) ∨
      ∃ kept r, keptLine line = some kept ∧ Blank r ∧ uncommented line = kept ++ r ∧
        ((¬ closes (trimSpace kept) ∧ ';' ∉ kept) ∨
          (closes (trimSpace kept) ∧ ∃ body back, kept = body ++ ';' :: back ∧ ';' ∉ body ∧
            Blank back)) := by
  by_cases hcomment : ['-', '-'] <+: trimSpace line
  · exact .inl ⟨if_pos hcomment, uncommented_comment hcomment⟩
  obtain ⟨hdash, hsemi⟩ := h.resolve_left hcomment
  obtain ⟨r, hr, heq⟩ := uncommented_inlineCut hdash
  by_cases hblank : trimSpace (inlineCut line) = []
  · refine .inl ⟨by rw [keptLine, if_neg hcomment, if_pos hblank], ?_⟩
    rw [heq, ← words_eq_nil_iff, words_append_blank hr, ← words_trimSpace, hblank]
    rfl
  refine .inr ⟨inlineCut line, r, by rw [keptLine, if_neg hcomment, if_neg hblank], hr, heq, ?_⟩
  generalize inlineCut line = kept at *
  obtain ⟨back, hback, htrim⟩ := trimLeft_split kept
  have hfront : Blank (kept.takeWhile isSpace) := fun c hc => mem_takeWhile_imp hc
  have hkept : kept = kept.takeWhile isSpace ++ (trimSpace kept ++ back) := by
    rw [← htrim, trimLeft, takeWhile_append_dropWhile]
  by_cases hcloses : closes (trimSpace kept)
  · obtain ⟨t, ht⟩ := getLast?_eq_some_iff.mp hcloses
    rw [ht, dropLast_concat] at hsemi
    refine .inr ⟨hcloses, kept.takeWhile isSpace ++ t, back, ?_, ?_, hback⟩
    · rw [ht] at hkept
      simpa using hkept
    · exact fun hmem => (mem_append.mp hmem).elim (not_mem_of_blank hfront) hsemi
  · refine .inl ⟨hcloses, fun hmem => ?_⟩
    rw [hkept, mem_append, mem_append] at hmem
    rcases hmem with hmem | hmem | hmem
    · exact not_mem_of_blank hfront hmem
    · rw [← dropLast_concat_getLast hblank, mem_append, mem_singleton] at hmem
      rcases hmem with hmem | hlast
      · exact hsemi hmem
      · exact hcloses (by rw [closes, getLast?_eq_some_getLast hblank, hlast])
    · exact not_mem_of_blank hback hmem

lemma splitLines_words {acc lines : List (List Char)} (hacc : ∀ l ∈ acc, ';' ∉ l)
    (hlines : ∀ line ∈ lines, LaidOut line) : (splitLines acc lines).map words =
      cutFrom (acc.flatMap words) (lines.flatMap fun line => uncommented line ++ ['\n']) := by
  induction lines generalizing acc with
  | nil =>
    rw [flatMap_nil, cutFrom_nil, splitLines]
    split_ifs with hnil
    · rw [hnil]
      rfl
    · obtain ⟨acc, l, rfl⟩ := (eq_nil_or_concat' acc).resolve_left hnil
      exact finish_open hacc
  | cons line lines ih =>
    obtain ⟨hline, hlines⟩ := forall_mem_cons.mp hlines
    rw [flatMap_cons, append_assoc, singleton_append, splitLines]
    rcases line_cases hline with ⟨hnone, hblank⟩ | ⟨kept, r, hkept, hr, heq, hcase⟩
    · rw [hnone, cutFrom_line (not_mem_of_blank hblank), words_eq_nil_iff.mpr hblank, append_nil]
      exact ih hacc hlines
    rw [hkept, heq]
    dsimp only
    rcases hcase with ⟨hopen, hsemi⟩ | ⟨hcloses, body, back, rfl, hbody, hback⟩
    · have hsemi' : ';' ∉ kept ++ r :=
        fun hmem => (mem_append.mp hmem).elim hsemi (not_mem_of_blank hr)
      rw [if_neg hopen, cutFrom_line hsemi', words_append_blank hr]
      have hacc' := forall_mem_append.mpr ⟨hacc, forall_mem_singleton.mpr hsemi⟩
      rw [ih hacc' hlines, flatMap_append, flatMap_singleton]
    · have hrest : Blank (back ++ r) := forall_mem_append.mpr ⟨hback, hr⟩
      rw [if_pos hcloses, map_append, finish_closed acc body hback, ih (forall_mem_nil _) hlines]
      rw [append_assoc, append_assoc, cons_append, cutFrom_semicolon hbody, ← append_assoc back,
        cutFrom_line (not_mem_of_blank hrest), words_eq_nil_iff.mpr hrest]
      rfl

/-- **The statements of a text that is laid out** are its pieces. -/
theorem splitCHStatements_pieces (sql : String)
    (h : ∀ line ∈ sql.toList.splitOn '\n', LaidOut line) :
    (splitCHStatements sql).map (fun stmt => words stmt.toList) = pieces sql := by
  rw [splitCHStatements, map_map, pieces, ← flatMap_nil, ← splitLines_words (forall_mem_nil _) h]
  exact map_congr_left fun s _ => by simp

theorem splitCHStatements_pieces_inline :
    (splitCHStatements "CREATE TABLE a ( -- one\n  id String);\n-- two; three\nDROP TABLE b").map
        (fun stmt => words stmt.toList) =
      pieces "CREATE TABLE a ( -- one\n  id String);\n-- two; three\nDROP TABLE b" :=
  splitCHStatements_pieces _ (by decide +kernel)

theorem two_on_a_line : splitCHStatements "DROP TABLE a; DROP TABLE b;" =
      ["DROP TABLE a; DROP TABLE b"] ∧ (pieces "DROP TABLE a; DROP TABLE b;").length = 2 := by
  decide +kernel

end FfxNexus.Migrate
