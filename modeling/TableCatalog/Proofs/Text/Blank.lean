import TableCatalog.Text.Blank

/-!
# Pieces and last words, without their recursions

`pieces` is the cut of the core library at one element, so its lemmas serve here too. Trimming does
nothing to a text without white space at its ends, and nothing that is seen once all white space is
left out. `words` reads from left to right with an accumulator; what a reader of a heading wants
from it is the last word only, and `IsLastWord` says which one that is by how the text falls apart
around it.
-/

set_option autoImplicit false

namespace TableCatalog.Text

theorem pieces_eq_splitOn (sep : Char) (cs : List Char) : pieces sep cs = cs.splitOn sep := by
  rw [List.splitOn_eq_splitOnP]
  induction cs with
  | nil => rfl
  | cons c cs ih =>
    rw [pieces, List.splitOnP_cons_eq_if_modifyHead, ih]
    by_cases h : c = sep
    · simp [h]
    · obtain ⟨piece, more, hcut⟩ := List.exists_cons_of_ne_nil
        (List.splitOnP_ne_nil (fun b => b == sep) cs)
      simp [h, hcut]

/-- A text is put together again from its pieces. -/
theorem exists_pieces (sep : Char) (cs : List Char) :
    ∃ part parts, pieces sep cs = part :: parts ∧ part ++ parts.flatMap (sep :: ·) = cs := by
  induction cs with
  | nil => exact ⟨[], [], rfl, rfl⟩
  | cons c cs ih =>
    obtain ⟨part, parts, hcut, hjoin⟩ := ih
    by_cases h : c = sep
    · refine ⟨[], part :: parts, by rw [pieces, if_pos h, hcut], ?_⟩
      rw [List.nil_append, List.flatMap_cons, List.cons_append, hjoin, h]
    · refine ⟨c :: part, parts, by rw [pieces, if_neg h, hcut], ?_⟩
      rw [List.cons_append, hjoin]

theorem pieces_append (sep : Char) (cs ds : List Char) :
    pieces sep (cs ++ sep :: ds) = pieces sep cs ++ pieces sep ds := by
  rw [pieces_eq_splitOn, pieces_eq_splitOn, pieces_eq_splitOn, List.splitOn_eq_splitOnP,
    List.splitOn_eq_splitOnP, List.splitOn_eq_splitOnP]
  exact List.splitOnP_append_cons cs ds (beq_self_eq_true sep)

theorem pieces_of_not_mem {sep : Char} {cs : List Char} (h : sep ∉ cs) : pieces sep cs = [cs] := by
  rw [pieces_eq_splitOn, List.splitOn_eq_singleton h]

/-- Nothing is cut before the first separator. -/
theorem pieces_append_cons {sep : Char} {cs : List Char} (h : sep ∉ cs) (ds : List Char) :
    pieces sep (cs ++ sep :: ds) = cs :: pieces sep ds := by
  rw [pieces_append, pieces_of_not_mem h, List.singleton_append]

/-- What stands in a piece stands in the text and is no separator. -/
theorem mem_of_mem_pieces {sep : Char} {cs piece : List Char} (h : piece ∈ pieces sep cs) {c : Char}
    (hc : c ∈ piece) : c ∈ cs ∧ c ≠ sep := by
  induction cs generalizing piece with
  | nil =>
    obtain rfl : piece = [] := by simpa [pieces] using h
    exact absurd hc List.not_mem_nil
  | cons d cs ih =>
    have hlater {piece : List Char} (h : piece ∈ pieces sep cs) (hc : c ∈ piece) :
        c ∈ d :: cs ∧ c ≠ sep := (ih h hc).imp_left (List.mem_cons_of_mem d)
    rw [pieces] at h
    split at h
    · rcases List.mem_cons.1 h with rfl | h
      · exact absurd hc List.not_mem_nil
      · exact hlater h hc
    · next hd =>
      have hfirst (hc : c = d) : c ∈ d :: cs ∧ c ≠ sep := by
        rw [hc]
        exact ⟨List.mem_cons_self, hd⟩
      cases hcut : pieces sep cs with
      | nil =>
        obtain rfl : piece = [d] := by simpa [hcut] using h
        exact hfirst (List.mem_singleton.1 hc)
      | cons first more =>
        rw [hcut] at h hlater
        rcases List.mem_cons.1 h with rfl | h
        · rcases List.mem_cons.1 hc with hc | hc
          · exact hfirst hc
          · exact hlater List.mem_cons_self hc
        · exact hlater (List.mem_cons_of_mem first h) hc

theorem not_mem_of_mem_pieces {sep : Char} {cs piece : List Char} (h : piece ∈ pieces sep cs) :
    sep ∉ piece :=
  fun hmem => (mem_of_mem_pieces h hmem).2 rfl

/-- What is put at the end of a text without a separator goes to the last piece. -/
theorem exists_pieces_append {sep : Char} (cs : List Char) {ds : List Char} (h : sep ∉ ds) :
    ∃ before last, pieces sep cs = before ++ [last] ∧
      pieces sep (cs ++ ds) = before ++ [last ++ ds] := by
  induction cs with
  | nil => exact ⟨[], [], rfl, pieces_of_not_mem h⟩
  | cons c cs ih =>
    obtain ⟨before, last, hcut, hcut'⟩ := ih
    rw [List.cons_append, pieces, pieces, hcut, hcut']
    by_cases hc : c = sep
    · rw [if_pos hc, if_pos hc]
      exact ⟨[] :: before, last, rfl, rfl⟩
    · rw [if_neg hc, if_neg hc]
      cases before with
      | nil => exact ⟨[], c :: last, rfl, rfl⟩
      | cons first before => exact ⟨(c :: first) :: before, last, rfl, rfl⟩

/-- A text with no white space at its ends stays as it is. -/
theorem trim_eq_self {cs : List Char} (hfirst : ∀ c ∈ cs.head?, isBlank c = false)
    (hlast : ∀ c ∈ cs.getLast?, isBlank c = false) : trim cs = cs := by
  have hdrop (ds : List Char) (h : ∀ c ∈ ds.head?, isBlank c = false) :
      ds.dropWhile isBlank = ds := by
    cases ds with
    | nil => rfl
    | cons d ds =>
      have hd : isBlank d = false := h d (by simp)
      exact List.dropWhile_cons_of_neg (by simp [hd])
  rw [trim, trimStart, hdrop cs hfirst, trimEnd, hdrop cs.reverse, List.reverse_reverse]
  rwa [List.head?_reverse]

/-- What is cut off at the end is white space. -/
theorem exists_trimEnd_append (cs : List Char) :
    ∃ blanks, cs = trimEnd cs ++ blanks ∧ ∀ c ∈ blanks, isBlank c = true := by
  refine ⟨(cs.reverse.takeWhile isBlank).reverse, ?_, ?_⟩
  · rw [trimEnd, ← List.reverse_append, List.takeWhile_append_dropWhile, List.reverse_reverse]
  · intro c hc
    exact List.all_eq_true.1 List.all_takeWhile c (List.mem_reverse.1 hc)

theorem trimEnd_cons {c : Char} (hc : isBlank c = false) (cs : List Char) :
    trimEnd (c :: cs) = c :: trimEnd cs := by
  rw [trimEnd, List.reverse_cons, List.dropWhile_append, trimEnd]
  split
  · next hblank => simp [List.isEmpty_iff.1 hblank, hc]
  · simp

theorem trim_append_cons {blanks : List Char} (hblanks : ∀ b ∈ blanks, isBlank b = true) {c : Char}
    (hc : isBlank c = false) (cs : List Char) : trim (blanks ++ c :: cs) = c :: trimEnd cs := by
  rw [trim, trimStart, List.dropWhile_append_of_pos hblanks,
    List.dropWhile_cons_of_neg (by simp [hc]), trimEnd_cons hc]

theorem trim_blanks_append {blanks : List Char} (h : ∀ c ∈ blanks, isBlank c = true)
    (cs : List Char) : trim (blanks ++ cs) = trim cs := by
  rw [trim, trim, trimStart, trimStart, List.dropWhile_append_of_pos h]

theorem trimEnd_append_blanks {blanks : List Char} (h : ∀ c ∈ blanks, isBlank c = true)
    (cs : List Char) : trimEnd (cs ++ blanks) = trimEnd cs := by
  have hback : ∀ c ∈ blanks.reverse, isBlank c = true := fun c hc => h c (List.mem_reverse.1 hc)
  rw [trimEnd, trimEnd, List.reverse_append, List.dropWhile_append_of_pos hback]

theorem trim_append_blanks {blanks : List Char} (h : ∀ c ∈ blanks, isBlank c = true)
    (cs : List Char) : trim (cs ++ blanks) = trim cs := by
  rw [trim, trim, trimStart, trimStart, List.dropWhile_append]
  split
  · next hnone =>
    have hblanks : (blanks ++ []).dropWhile isBlank = [] := List.dropWhile_append_of_pos h
    rw [List.append_nil] at hblanks
    rw [List.isEmpty_iff.1 hnone, hblanks]
  · exact trimEnd_append_blanks h _

theorem isBlank_head?_trim {cs : List Char} {c : Char} (hc : c ∈ (trim cs).head?) :
    isBlank c = false := by
  have hfirst := List.head?_dropWhile_not isBlank cs
  cases hdrop : cs.dropWhile isBlank with
  | nil =>
    rw [trim, trimStart, hdrop] at hc
    exact absurd hc (by simp [trimEnd])
  | cons d ds =>
    rw [hdrop] at hfirst
    rw [trim, trimStart, hdrop, trimEnd_cons hfirst, List.head?_cons, Option.mem_some_iff] at hc
    rw [← hc]
    exact hfirst

theorem isBlank_getLast?_trim {cs : List Char} {c : Char} (hc : c ∈ (trim cs).getLast?) :
    isBlank c = false := by
  have hfirst := List.head?_dropWhile_not isBlank (cs.dropWhile isBlank).reverse
  rw [trim, trimStart, trimEnd, List.getLast?_reverse, Option.mem_def] at hc
  rw [hc] at hfirst
  exact hfirst

/-- Where white space is lost, trimming changes nothing. -/
theorem filter_trim (cs : List Char) :
    ((trim cs).filter fun c => !isBlank c) = cs.filter fun c => !isBlank c := by
  have hnone {blanks : List Char} (h : ∀ c ∈ blanks, isBlank c = true) :
      (blanks.filter fun c => !isBlank c) = [] :=
    List.filter_eq_nil_iff.2 fun c hc => by simp [h c hc]
  obtain ⟨blanks, hend, hblanks⟩ := exists_trimEnd_append (cs.dropWhile isBlank)
  have hstart := List.takeWhile_append_dropWhile (p := isBlank) (l := cs)
  have hfront : ∀ c ∈ cs.takeWhile isBlank, isBlank c = true := 
    List.all_eq_true.1 List.all_takeWhile
  calc ((trim cs).filter fun c => !isBlank c)
      = (trim cs ++ blanks).filter fun c => !isBlank c := by
        rw [List.filter_append, hnone hblanks, List.append_nil]
    _ = (cs.dropWhile isBlank).filter fun c => !isBlank c := by rw [hend]; rfl
    _ = (cs.takeWhile isBlank ++ cs.dropWhile isBlank).filter fun c => !isBlank c := by
        rw [List.filter_append, hnone hfront, List.nil_append]
    _ = cs.filter fun c => !isBlank c := by rw [hstart]

/-- `word` is the last word of a text: there is no white space in it, only white space behind it,
and white space or nothing in front of it. -/
def IsLastWord (word cs : List Char) : Prop :=
  ∃ before after, cs = before ++ word ++ after ∧ word ≠ [] ∧
    (∀ c ∈ word, isBlank c = false) ∧ (∀ c ∈ after, isBlank c = true) ∧
    ∀ c ∈ before.getLast?, isBlank c = true

/-- Read backwards, the last word is the first one. -/
theorem IsLastWord.eq {word cs : List Char} (h : IsLastWord word cs) :
    word = ((cs.reverse.dropWhile isBlank).takeWhile fun c => !isBlank c).reverse := by
  obtain ⟨before, after, rfl, hne, hword, hafter, hbefore⟩ := h
  have hdrop : (word.reverse ++ before.reverse).dropWhile isBlank =
      word.reverse ++ before.reverse := by
    obtain ⟨c, more, hc⟩ := List.exists_cons_of_ne_nil (mt List.reverse_eq_nil_iff.1 hne)
    have hmem : c ∈ word := List.mem_reverse.1 (hc ▸ List.mem_cons_self)
    rw [hc, List.cons_append, List.dropWhile_cons_of_neg (by simp [hword c hmem])]
  have htake : before.reverse.takeWhile (fun c => !isBlank c) = [] := by
    cases hb : before.reverse with
    | nil => rfl
    | cons c more =>
      have hlast : before.getLast? = some c := by rw [← List.head?_reverse, hb, List.head?_cons]
      rw [List.takeWhile_cons_of_neg (by simp [hbefore c hlast])]
  rw [List.reverse_append, List.reverse_append,
    List.dropWhile_append_of_pos fun c hc => hafter c (List.mem_reverse.1 hc), hdrop,
    List.takeWhile_append_of_pos fun c hc => by simp [hword c (List.mem_reverse.1 hc)], htake,
    List.append_nil, List.reverse_reverse]

theorem IsLastWord.unique {word word' cs : List Char} (h : IsLastWord word cs)
    (h' : IsLastWord word' cs) : word = word' := by
  rw [h.eq, h'.eq]

/-- Anything may be put in front of a last word, if white space comes between. -/
theorem IsLastWord.behind {word cs : List Char} (h : IsLastWord word cs) (front : List Char)
    {c : Char} (hc : isBlank c = true) : IsLastWord word (front ++ c :: cs) := by
  obtain ⟨before, after, rfl, hne, hword, hafter, hbefore⟩ := h
  refine ⟨front ++ c :: before, after, by simp, hne, hword, hafter, fun b hb => ?_⟩
  rw [List.getLast?_append, List.getLast?_cons] at hb
  cases hlast : before.getLast? with
  | none =>
    rw [hlast] at hb
    obtain rfl : c = b := by simpa using hb
    exact hc
  | some b' =>
    rw [hlast] at hb
    obtain rfl : b' = b := by simpa using hb
    exact hbefore b' hlast

/-- There is no word only where there is nothing but white space. -/
theorem blank_of_wordsFrom_eq_nil {acc cs : List Char} (h : wordsFrom acc cs = []) :
    acc = [] ∧ ∀ c ∈ cs, isBlank c = true := by
  induction cs generalizing acc with
  | nil =>
    cases acc with
    | nil => simp
    | cons c acc => simp [wordsFrom] at h
  | cons c cs ih =>
    rw [wordsFrom] at h
    by_cases hc : isBlank c = true
    · rw [if_pos hc] at h
      cases acc with
      | nil => exact ⟨rfl, List.forall_mem_cons.2 ⟨hc, (ih h).2⟩⟩
      | cons b acc => simp at h
    · rw [if_neg hc] at h
      exact absurd (ih h).1 (List.cons_ne_nil _ _)

/-- A text that begins with a word and goes on with white space ends in that word. -/
theorem isLastWord_append {word after : List Char} (hne : word ≠ [])
    (hword : ∀ c ∈ word, isBlank c = false) (hafter : ∀ c ∈ after, isBlank c = true) :
    IsLastWord word (word ++ after) :=
  ⟨[], after, rfl, hne, hword, hafter, by simp⟩

/-- **The last of the words is the last word.** The word being read, which the accumulator holds
backwards, stands in front of what is left to read. -/
theorem isLastWord_wordsFrom {acc cs word : List Char} (hacc : ∀ c ∈ acc, isBlank c = false)
    (h : (wordsFrom acc cs).getLast? = some word) : IsLastWord word (acc.reverse ++ cs) := by
  have hword : ∀ c ∈ acc.reverse, isBlank c = false := fun c hc => hacc c (List.mem_reverse.1 hc)
  induction cs generalizing acc with
  | nil =>
    cases acc with
    | nil => simp [wordsFrom] at h
    | cons b acc =>
      obtain rfl : (b :: acc).reverse = word := by simpa [wordsFrom] using h
      exact isLastWord_append (by simp) hword (by simp)
  | cons c cs ih =>
    rw [wordsFrom] at h
    by_cases hc : isBlank c = true
    · rw [if_pos hc] at h
      have hlater (hl : (wordsFrom [] cs).getLast? = some word) :
          IsLastWord word (acc.reverse ++ c :: cs) :=
        (ih (by simp) hl (by simp)).behind acc.reverse hc
      cases acc with
      | nil => exact hlater h
      | cons b acc =>
        cases hrest : wordsFrom [] cs with
        | nil =>
          -- no word follows, so the one being read is the last
          obtain rfl : (b :: acc).reverse = word := by simpa [hrest] using h
          exact isLastWord_append (by simp) hword
            (List.forall_mem_cons.2 ⟨hc, (blank_of_wordsFrom_eq_nil hrest).2⟩)
        | cons next more =>
          refine hlater ?_
          rw [hrest] at h ⊢
          simpa using h
    · rw [if_neg hc] at h
      have hacc' : ∀ b ∈ c :: acc, isBlank b = false :=
        List.forall_mem_cons.2 ⟨by simpa using hc, hacc⟩
      have hlast := ih hacc' h fun b hb => hacc' b (List.mem_reverse.1 hb)
      simpa using hlast

theorem getLast?_words_eq_some_iff {cs word : List Char} :
    (words cs).getLast? = some word ↔ IsLastWord word cs := by
  constructor
  · exact fun h => isLastWord_wordsFrom (by simp) h
  · intro h
    cases hlast : (words cs).getLast? with
    | some word' => rw [h.unique (isLastWord_wordsFrom (by simp) hlast)]
    | none =>
      obtain ⟨before, after, rfl, hne, hword, -, -⟩ := h
      obtain ⟨c, more, rfl⟩ := List.exists_cons_of_ne_nil hne
      have hblank := (blank_of_wordsFrom_eq_nil (List.getLast?_eq_none_iff.1 hlast)).2 c (by simp)
      simp [hword c] at hblank

/-- Where there is something besides white space, there is a last word. -/
theorem exists_isLastWord {cs : List Char} {c : Char} (hc : c ∈ cs) (hblank : isBlank c = false) :
    ∃ word, IsLastWord word cs := by
  cases hlast : (words cs).getLast? with
  | some word => exact ⟨word, getLast?_words_eq_some_iff.1 hlast⟩
  | none =>
    have hall := (blank_of_wordsFrom_eq_nil (List.getLast?_eq_none_iff.1 hlast)).2
    rw [hall c hc] at hblank
    exact absurd hblank (by simp)

theorem IsLastWord.subset {word cs : List Char} (h : IsLastWord word cs) : word ⊆ cs := by
  obtain ⟨before, after, rfl, -⟩ := h
  intro c hc
  exact List.mem_append_left after (List.mem_append_right before hc)

end TableCatalog.Text
