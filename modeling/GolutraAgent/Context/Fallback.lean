import GolutraAgent.Library.Accounting
import GolutraAgent.Library.Text
import Mathlib.Tactic.Common

/-
  This file models the local summary that stands in for the provider's when a
  context is compacted: the start of the previous summary, and the newest facts
  that fit.

  Texts are lists of characters. They are in memory, so that no count of their
  tokens reaches the end of a word.

  Main declarations:
    * `deterministicCompactionFallback_newest`
-/

namespace GolutraAgent.Context

open Text

abbrev Chars := List Char

def estimateTokens (content : Chars) : Nat := (content.length + 3) / 4

def normalise (value : Chars) : Chars := [' '].intercalate (words value)

def compactText (value : Chars) (tokenBudget : Nat) : Chars :=
  (normalise value).take (min (tokenBudget * 4) Word.limit)

/- Those lines come first that are newer. -/
def collectFacts (recentBudget : Nat) : List Chars → Nat → List Chars → List Chars
  | [], _, recent => recent
  | line :: older, used, recent =>
    let fact := normalise line
    if fact = [] ∨ recent.head? = some fact then collectFacts recentBudget older used recent
    else
      let factTokens := estimateTokens fact + 1
      if recentBudget < used + factTokens then
        if recent = [] then
          let fitted := compactText fact recentBudget
          if fitted = [] then [] else [fitted]
        else recent
      else collectFacts recentBudget older (used + factTokens) (fact :: recent)

def previousPart (previousSummary : Option Chars) (lines : List Chars)
    (tokenBudget : Nat) : Option Chars :=
  (((previousSummary.map trim).filter (· ≠ [])).map (compactText · (if lines = [] then tokenBudget
      else (tokenBudget + 1) / 2))).filter (· ≠ [])

def deterministicCompactionFallback (previousSummary : Option Chars)
    (lines : List Chars) (tokenBudget : Nat) : Chars :=
  if tokenBudget = 0 then []
  else
    let previous := previousPart previousSummary lines tokenBudget
    let previousTokens := previous.elim 0 estimateTokens
    let recentBudget := tokenBudget - previousTokens - previous.toList.length
    ['\n'].intercalate (previous.toList ++ collectFacts recentBudget lines.reverse 0 [])

theorem words_append {space : Char} (hSpace : isSpace space = true)
    (left right : Chars) : words (left ++ space :: right) = words left ++ words right := by
  simp [words, List.splitOnP_append_cons _ _ hSpace]

theorem words_dropWhile (value : Chars) : words (value.dropWhile isSpace) = words value := by
  induction value with
  | nil => rfl
  | cons first rest ih =>
    by_cases hSpace : isSpace first = true
    · rw [List.dropWhile_cons_of_pos hSpace, ih]
      exact (words_append hSpace [] rest).symm
    · rw [List.dropWhile_cons_of_neg hSpace]

theorem words_trim (value : Chars) : words (trim value) = words value := by
  rw [trim, ← words_dropWhile value]
  generalize value.dropWhile isSpace = rest
  induction rest using List.reverseRecOn with
  | nil => rfl
  | append_singleton rest last ih =>
    by_cases hSpace : isSpace last = true
    · rw [List.rdropWhile_concat_pos _ _ _ hSpace, ih, words_append hSpace rest []]
      exact (List.append_nil _).symm
    · rw [List.rdropWhile_concat_neg _ _ _ hSpace]

theorem word_free {value word : Chars} (hWord : word ∈ words value) :
    ∀ letter ∈ word, isSpace letter = false := by
  have hSplit := (List.mem_filter.mp hWord).1
  clear hWord
  induction value generalizing word with
  | nil => simp_all
  | cons first rest ih =>
    rw [List.splitOnP_cons_eq_if_modifyHead] at hSplit
    split at hSplit
    next =>
      rcases List.mem_cons.mp hSplit with rfl | hRest
      · simp
      · exact ih hRest
    next hLetter =>
      cases hParts : rest.splitOnP isSpace with
      | nil => exact absurd hParts (List.splitOnP_ne_nil _ _)
      | cons part parts =>
        rw [hParts] at hSplit ih
        rcases List.mem_cons.mp hSplit with rfl | hRest
        · exact List.forall_mem_cons.mpr
            ⟨Bool.eq_false_of_not_eq_true hLetter, ih List.mem_cons_self⟩
        · exact ih (List.mem_cons_of_mem _ hRest)

theorem normalise_normalise (value : Chars) : normalise (normalise value) = normalise value := by
  have hWords : ∀ word ∈ words value, word ≠ [] ∧ ∀ letter ∈ word, isSpace letter = false :=
    fun word hWord => ⟨by simpa using (List.mem_filter.mp hWord).2, word_free hWord⟩
  suffices words (normalise value) = words value by
    rw [normalise, this, normalise]
  rw [normalise]
  generalize words value = parts at *
  induction parts with
  | nil => rfl
  | cons first rest ih =>
    rw [List.forall_mem_cons] at hWords
    have hFirst : words first = [first] := by
      rw [words, List.splitOnP_eq_singleton hWords.1.2]
      simp [hWords.1.1]
    cases rest with
    | nil => simpa using hFirst
    | cons second rest =>
      rw [List.intercalate_cons_cons, List.append_assoc,
        List.singleton_append, words_append (by decide), hFirst, ih hWords.2]
      rfl

/- Of facts that repeat one another, one is kept. -/
def collapse (facts : List Chars) : List Chars := facts.foldr (fun fact kept =>
    if fact = [] ∨ kept.head? = some fact then kept
    else fact :: kept) []

/- What the sections take, with a line end for each. -/
def sectionTokens (kept : List Chars) : Nat := (kept.map (fun fact => estimateTokens fact + 1)).sum

/-
  A run of the newest lines is kept that the next older one does not fit behind,
  or, when the newest that is not empty does not fit, the start of it.
-/
def KeepsNewest (budget : Nat) (lines kept : List Chars) : Prop :=
  (∃ run, run <:+ lines ∧ kept = collapse (run.map normalise) ∧
    ∀ older, older :: run <:+ lines →
      budget < sectionTokens (collapse ((older :: run).map normalise))) ∨
  ∃ newest cut, ((lines.map normalise).filter (· ≠ [])).getLast? = some newest ∧
    budget < sectionTokens [newest] ∧ cut ≠ [] ∧ cut <+: newest ∧ kept = [cut]

theorem length_compactText (value : Chars) (tokenBudget : Nat) :
    (compactText value tokenBudget).length ≤ tokenBudget * 4 :=
  (List.length_take_le _ _).trans (Nat.min_le_left _ _)

theorem collapse_eq_nil {facts : List Chars} (hNone : collapse facts = []) :
    ∀ fact ∈ facts, fact = [] := by
  induction facts with
  | nil => simp
  | cons fact facts ih =>
    rw [collapse, List.foldr_cons] at hNone
    split at hNone
    next hSkip =>
      have hRest := ih hNone
      refine List.forall_mem_cons.mpr ⟨hSkip.resolve_right ?_, hRest⟩
      exact fun hHead => nomatch (hNone ▸ hHead)
    next => cases hNone

theorem sections_le {kept : List Chars} {budget : Nat} (hFits : sectionTokens kept ≤ budget) :
    (kept.map (·.length + 1)).sum ≤ budget * 4 + min budget 1 := by
  induction kept generalizing budget with
  | nil => simp
  | cons fact kept ih =>
    simp only [sectionTokens, List.map_cons, List.sum_cons, estimateTokens] at hFits ih ⊢
    have hRest := ih le_rfl
    omega

theorem collapse_cons_of_not {fact : Chars} {facts : List Chars}
    (hNew : ¬ (fact = [] ∨ (collapse facts).head? = some fact)) :
    collapse (fact :: facts) = fact :: collapse facts := if_neg hNew

theorem eq_of_cons_suffix {line older : Chars} {front run : List Chars}
    (hSuffix : older :: run <:+ front ++ line :: run) : older = line := by
  have hLine : line :: run <:+ front ++ line :: run := List.suffix_append _ _
  exact (List.cons.inj ((List.suffix_of_suffix_length_le hSuffix hLine le_rfl).eq_of_length rfl)).1

/- The loop keeps what fits, from the newest line on. -/
theorem collectFacts_spec {recentBudget used : Nat} {older newer recent : List Chars}
    (hRecent : recent = collapse (newer.map normalise)) (hUsed : used = sectionTokens recent)
    (hFits : used ≤ recentBudget) :
    let kept := collectFacts recentBudget older used recent
    KeepsNewest recentBudget (older.reverse ++ newer) kept ∧ (kept.map (·.length + 1)).sum ≤
        recentBudget * 4 + min recentBudget 1 ∧
      (kept = [] → recentBudget = 0 ∨ ∀ line ∈ older.reverse ++ newer, normalise line = []) := by
  -- what is collected so far comes from the newer lines alone
  induction older generalizing newer used recent with
  | nil =>
    refine ⟨.inl ⟨newer, List.suffix_rfl, hRecent, ?_⟩, sections_le (hUsed ▸ hFits), ?_⟩
    · intro line hLonger
      exact absurd hLonger.length_le (by simp)
    · intro hNone
      have hBlank := collapse_eq_nil (hRecent.symm.trans hNone)
      exact .inr (fun line hIn => hBlank _ (List.mem_map_of_mem hIn))
  | cons line older ih =>
    have hSame : (line :: older).reverse ++ newer = older.reverse ++ line :: newer := by simp
    rw [hSame, collectFacts]
    dsimp only
    split
    next hSkip =>
      refine ih ?_ hUsed hFits
      rw [List.map_cons, collapse, List.foldr_cons, ← collapse, ← hRecent, if_pos hSkip]
    next hSkip =>
      have hNext : collapse ((line :: newer).map normalise) = normalise line :: recent := by
        rw [hRecent] at hSkip ⊢
        exact collapse_cons_of_not hSkip
      have hTokens : sectionTokens (normalise line :: recent) =
          used + (estimateTokens (normalise line) + 1) := by
        rw [hUsed, sectionTokens, sectionTokens, List.map_cons, List.sum_cons, Nat.add_comm]
      split
      next hOver =>
        have hLast : ∀ next, next :: newer <:+ older.reverse ++ line :: newer →
            recentBudget < sectionTokens (collapse ((next :: newer).map normalise)) := by
          intro next hLonger
          rw [eq_of_cons_suffix hLonger, hNext, hTokens]
          exact hOver
        have hStays : newer <:+ older.reverse ++ line :: newer :=
          (List.suffix_cons _ _).trans (List.suffix_append _ _)
        split
        next hFirst =>
          subst hFirst
          have hBlank := collapse_eq_nil hRecent.symm
          have hFact : normalise line ≠ [] := fun hNone => hSkip (.inl hNone)
          have hTail : (newer.map normalise).filter (· ≠ []) = [] :=
            List.filter_eq_nil_iff.mpr (by simpa using hBlank)
          have hNewest : (((older.reverse ++ line :: newer).map normalise).filter
                (· ≠ [])).getLast? = some (normalise line) := by
            rw [List.map_append, List.map_cons, List.filter_append, List.filter_cons_of_pos
                (by simpa using hFact), hTail]
            simp
          have hCut : compactText (normalise line) recentBudget = (normalise line).take
                (min (recentBudget * 4) Word.limit) := by
            rw [compactText, normalise_normalise]
          split
          next hNone =>
            refine ⟨.inl ⟨newer, hStays, hRecent, hLast⟩, Nat.zero_le _, fun _ => .inl ?_⟩
            rw [hCut, List.take_eq_nil_iff] at hNone
            have hZero := hNone.resolve_right hFact
            rw [Word.limit] at hZero
            omega
          next hSome =>
            refine ⟨.inr ⟨_, _, hNewest, hTokens ▸ hOver, hSome, ?_, rfl⟩, ?_, nofun⟩
            · rw [hCut]
              exact List.take_prefix _ _
            · have hPos : recentBudget ≠ 0 := by
                rintro rfl
                exact hSome rfl
              have hLe := length_compactText (normalise line) recentBudget
              rw [List.map_singleton, List.sum_singleton]
              omega
        next hSome =>
          exact ⟨.inl ⟨newer, hStays, hRecent, hLast⟩, sections_le (hUsed ▸ hFits),
            fun hNone => absurd hNone hSome⟩
      next hRoom => exact ih hNext.symm hTokens.symm (Nat.le_of_not_lt hRoom)

theorem length_intercalate (sections : List Chars) :
    (['\n'].intercalate sections).length = (sections.map (·.length + 1)).sum - 1 := by
  induction sections with
  | nil => rfl
  | cons first rest ih =>
    cases rest with
    | nil => simp
    | cons second rest =>
      rw [List.intercalate_cons_cons, List.length_append, ih]
      simp
      omega

theorem previousPart_spec {previousSummary : Option Chars}
    {lines : List Chars} {tokenBudget : Nat} {previous : Chars}
    (hPrevious : previousPart previousSummary lines tokenBudget = some previous) :
    previous.length ≤ tokenBudget * 4 ∧ ∃ summary ∈ previousSummary,
        previous <+: normalise summary := by
  rw [previousPart, Option.filter_eq_some_iff] at hPrevious
  rcases Option.map_eq_some_iff.mp hPrevious.1 with ⟨trimmed, hTrimmed, rfl⟩
  rw [Option.filter_eq_some_iff] at hTrimmed
  rcases Option.map_eq_some_iff.mp hTrimmed.1 with ⟨summary, hSummary, rfl⟩
  refine ⟨(length_compactText _ _).trans ?_, summary, hSummary, ?_⟩
  · split <;> omega
  · rw [compactText, normalise, words_trim]
    exact List.take_prefix _ _

/-
  The summary fits the budget. The start of the normalised previous one is
  followed by what is kept of the newest lines in the tokens that it leaves.
-/
theorem deterministicCompactionFallback_newest (previousSummary : Option Chars)
    (lines : List Chars) (tokenBudget : Nat) :
    let summary := deterministicCompactionFallback previousSummary lines tokenBudget
    estimateTokens summary ≤ tokenBudget ∧
      ∃ (previous : Option Chars) (kept : List Chars), summary =
          ['\n'].intercalate (previous.toList ++ kept) ∧
        (∀ start ∈ previous, ∃ whole ∈ previousSummary, start <+: normalise whole) ∧
        KeepsNewest (tokenBudget - sectionTokens previous.toList) lines kept ∧
        (kept = [] → (∀ line ∈ lines, normalise line = []) ∨
          tokenBudget ≤ sectionTokens previous.toList) := by
  intro summary
  have hCollect := fun budget => @collectFacts_spec budget 0 lines.reverse [] [] rfl rfl
    (Nat.zero_le _)
  simp only [List.reverse_reverse, List.append_nil] at hCollect
  simp only [summary, deterministicCompactionFallback]
  split
  next hZero =>
    -- nothing fits without a budget
    rcases hCollect 0 with ⟨hNewest, hFits, -⟩
    have hEmpty : collectFacts 0 lines.reverse 0 [] = [] := by
      rcases hKept : collectFacts 0 lines.reverse 0 [] with _ | ⟨fact, rest⟩
      · rfl
      · simp [hKept] at hFits
    refine ⟨Nat.zero_le _, none, [], rfl, by simp, ?_, fun _ => .inr (by omega)⟩
    rwa [hEmpty, ← Nat.zero_sub, ← hZero] at hNewest
  next =>
    generalize hPrevious : previousPart previousSummary lines tokenBudget = previous
    have hBudget : tokenBudget - previous.elim 0 estimateTokens - previous.toList.length =
        tokenBudget - sectionTokens previous.toList := by
      cases previous <;> simp [sectionTokens, Nat.sub_sub]
    rw [hBudget]
    rcases hCollect (tokenBudget - sectionTokens previous.toList) with ⟨hNewest, hFits, hNone⟩
    generalize collectFacts _ _ _ _ = kept at *
    refine ⟨?_, previous, kept, rfl, ?_, hNewest, ?_⟩
    · rw [estimateTokens, length_intercalate]
      cases previous with
      | none => simp [sectionTokens] at hFits ⊢; omega
      | some start =>
        have hStart := (previousPart_spec hPrevious).1
        simp [sectionTokens, estimateTokens] at hFits ⊢
        omega
    · intro start hStart
      exact (previousPart_spec (hPrevious.trans hStart)).2
    · intro hEmpty
      rcases hNone hEmpty with hZero | hBlank
      · exact .inr (Nat.le_of_sub_eq_zero hZero)
      · exact .inl hBlank

end GolutraAgent.Context
