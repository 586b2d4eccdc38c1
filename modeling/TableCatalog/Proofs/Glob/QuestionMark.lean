import TableCatalog.Proofs.Build.Environment
import TableCatalog.Proofs.Glob.Simple

/-!
# Question marks

A question mark takes one byte, and the specification says one character. The two cannot be told
apart on names of one byte a character, and there are patterns for which they cannot be told apart
on any name: in each gap either no question mark, or a single one beside a star, which only asks for
a run that is not empty.

All other patterns have a name where they differ. With two question marks in a gap it is a name with
one character of two bytes in their place: enough bytes and one character too few
(`exists_splitsBytes_not_characters`). With one question mark and no star it is a name with such a
character in the place of every question mark. Its characters can be split. Its bytes cannot, since
the gap takes a whole character of one byte, and the name has just as many characters other than the
long one as the pattern has literal ones (`count_lt_of_splitsBytes`).
-/

set_option autoImplicit false

namespace TableCatalog

namespace Glob

section Filled

variable {α : Type} {spell : Char → List α} {a z c : Char} {p q gap n : List Char}

/-- A shortest name along a pattern: nothing for a star, the same character for every question
mark. -/
def fill (a : Char) (p : List Char) : List Char :=
  (p.filter fun c => c ≠ '*').map fun c => if c = '?' then a else c

@[simp] theorem fill_nil : fill a [] = [] := rfl

@[simp] theorem fill_star : fill a ('*' :: p) = fill a p := rfl

@[simp] theorem fill_one : fill a ('?' :: p) = a :: fill a p := rfl

theorem fill_literal (hc : isWild c = false) : fill a (c :: p) = c :: fill a p := by
  have hne : c ≠ '*' ∧ c ≠ '?' := by simpa [isWild] using hc
  simp [fill, hne]

theorem fill_append : fill a (p ++ q) = fill a p ++ fill a q := by
  rw [fill, List.filter_append, List.map_append]
  rfl

theorem slash_not_mem_fill (ha : a ≠ '/') (hp : '/' ∉ p) : '/' ∉ fill a p := by
  intro hmem
  obtain ⟨c, hc, heq⟩ := List.mem_map.1 hmem
  split at heq
  · exact ha heq
  · exact hp (heq ▸ (List.mem_filter.1 hc).1)

/-- A character that is one letter can stand for the question marks. -/
theorem splits_fill {letter : α} (ha : spell a = [letter]) :
    Splits spell p ((fill a p).flatMap spell) := by
  induction p with
  | nil => exact .nil
  | cons c p ih =>
    cases hc : isWild c with
    | false =>
      rw [fill_literal hc, List.flatMap_cons, splits_literal_iff hc]
      exact ⟨_, rfl, ih⟩
    | true =>
      rcases isWild_iff.1 hc with rfl | rfl
      · exact .star [] ih
      · rw [fill_one, List.flatMap_cons, ha]
        exact .one letter ih

theorem splitsBytes_fill {byte : UInt8} (ha : String.utf8EncodeChar a = [byte]) :
    Splits String.utf8EncodeChar p (bytesOf (fill a p)) :=
  splits_fill ha

theorem splitsCharacters_fill : Splits (fun c => [c]) p (fill a p) := by
  have hfill : Splits (fun c => [c]) p ((fill a p).flatMap fun c => [c]) := splits_fill rfl
  rwa [List.flatMap_singleton'] at hfill

/-- No name along a pattern is shorter. -/
theorem length_fill_le (h : Splits (fun c => [c]) p n) : (fill a p).length ≤ n.length := by
  induction h with
  | nil => exact Nat.le_refl _
  | star run _ ih =>
    rw [fill_star, List.length_append]
    exact Nat.le_add_left_of_le ih
  | one letter _ ih => exact Nat.succ_le_succ ih
  | literal hstar hone _ ih =>
    rw [fill_literal (by simp [isWild, hstar, hone])]
    exact Nat.succ_le_succ ih

theorem length_fill_gap (h : ∀ c ∈ gap, isWild c = true) :
    (fill a gap).length = gap.count '?' := by
  induction gap with
  | nil => rfl
  | cons c gap ih =>
    have hrest := ih fun d hd => h d (List.mem_cons_of_mem c hd)
    rcases isWild_iff.1 (h c List.mem_cons_self) with rfl | rfl
    · simp [hrest]
    · simp [hrest]

/-! ## Two question marks -/

/-- **Two question marks in a gap take one character of two bytes.** -/
theorem exists_splitsBytes_not_characters (hgap : gap ∈ gaps p) (hcount : 2 ≤ gap.count '?')
    (hp : '/' ∉ p) :
    ∃ n, '/' ∉ n ∧ Splits String.utf8EncodeChar p (bytesOf n) ∧ ¬ Splits (fun c => [c]) p n := by
  have hwild := isWild_of_mem_gaps hgap
  obtain ⟨front, back, rfl⟩ := isInfix_of_mem_gaps hgap
  rw [List.mem_append, List.mem_append, not_or, not_or] at hp
  obtain ⟨⟨hfront, -⟩, hback⟩ := hp
  let run := List.replicate (gap.count '?' - 2) 'a' ++ ['é']
  refine ⟨fill 'a' front ++ run ++ fill 'a' back, ?noSlash, ?bytes, ?characters⟩
  case noSlash =>
    rw [List.mem_append, List.mem_append, not_or, not_or]
    refine ⟨⟨slash_not_mem_fill (by decide) hfront, ?_⟩, slash_not_mem_fill (by decide) hback⟩
    simp [run]
  case bytes =>
    have hletter : String.utf8EncodeChar 'a' = [97] := by decide
    have hlength : (bytesOf run).length = gap.count '?' := by
      have hone : ∀ c ∈ List.replicate (gap.count '?' - 2) 'a', c.utf8Size = 1 := by
        intro c hc
        rw [List.eq_of_mem_replicate hc]
        rfl
      have htwo : (bytesOf ['é']).length = 2 := by decide
      rw [bytesOf_append, List.length_append, length_bytesOf hone, htwo, List.length_replicate]
      omega
    rw [bytesOf_append, bytesOf_append]
    refine splits_append_iff.2 ⟨_, _, rfl, splits_append_iff.2 ⟨_, _, rfl, ?_, ?_⟩, ?_⟩
    · exact splitsBytes_fill hletter
    · rw [splits_gap_iff hwild, hlength]
      exact ⟨Nat.le_refl _, fun _ => rfl⟩
    · exact splitsBytes_fill hletter
  case characters =>
    intro h
    have hshort := length_fill_le (a := 'a') h
    rw [fill_append, fill_append] at hshort
    simp only [List.length_append, length_fill_gap hwild, run, List.length_replicate,
      List.length_singleton] at hshort
    omega

/-! ## One question mark -/

/-- A literal character of a pattern, and not `z`. -/
def isOther (z c : Char) : Bool := !isWild c && c != z

theorem isOther_literal (hc : isWild c = false) : isOther z c = (c != z) := by
  simp [isOther, hc]

theorem countP_isOther_gap (h : ∀ c ∈ gap, isWild c = true) : gap.countP (isOther z) = 0 := by
  apply List.countP_eq_zero.2
  intro c hc
  simp [isOther, h c hc]

theorem countP_fill : (fill z p).countP (· != z) = p.countP (isOther z) := by
  induction p with
  | nil => rfl
  | cons c p ih =>
    cases hc : isWild c with
    | false => rw [fill_literal hc, List.countP_cons, List.countP_cons, ih, isOther_literal hc]
    | true =>
      have hother : isOther z c = false := by simp [isOther, hc]
      rw [List.countP_cons, hother, ← ih]
      rcases isWild_iff.1 hc with rfl | rfl
      · simp
      · simp

/-- The literal characters of a pattern are in a name whose bytes can be split along it. -/
theorem count_le_of_splitsBytes (h : Splits String.utf8EncodeChar p (bytesOf n)) :
    p.countP (isOther z) ≤ n.countP (· != z) := by
  induction p using gap_induction generalizing n with
  | last gap hgap =>
    rw [countP_isOther_gap hgap]
    exact Nat.zero_le _
  | next gap c p hgap hc ih =>
    obtain ⟨run, m, hn, -, hm⟩ := (splits_gap_append_iff hgap hc).1 h
    obtain ⟨before, after, rfl, rfl, rfl⟩ := exists_of_bytesOf_eq hn
    have hafter := ih hm
    simp only [List.countP_append, List.countP_cons, countP_isOther_gap hgap, isOther_literal hc]
    omega

/-- What one byte is taken for is not a longer character. -/
theorem count_pos_of_fits (hz : 1 < z.utf8Size) (h : Fits ['?'] (bytesOf n).length) :
    0 < n.countP (· != z) := by
  have hlength : (bytesOf n).length = 1 := h.2 (by decide)
  cases n with
  | nil => cases hlength
  | cons c cs =>
    have hc : c ≠ z := by
      rintro rfl
      rw [bytesOf_cons, List.length_append, String.length_utf8EncodeChar] at hlength
      omega
    rw [List.countP_cons_of_pos (by simpa using hc)]
    exact Nat.succ_pos _

/-- Where a question mark stands alone in a gap, there is another such character besides. -/
theorem count_lt_of_splitsBytes (hz : 1 < z.utf8Size) (hgap : ['?'] ∈ gaps p)
    (h : Splits String.utf8EncodeChar p (bytesOf n)) :
    p.countP (isOther z) < n.countP (· != z) := by
  induction p using gap_induction generalizing n with
  | last gap hwild =>
    rw [gaps_eq_singleton hwild, List.mem_singleton] at hgap
    subst hgap
    rw [countP_isOther_gap hwild]
    exact count_pos_of_fits hz ((splits_gap_iff hwild).1 h)
  | next gap c p hwild hc ih =>
    obtain ⟨run, m, hn, hrun, hm⟩ := (splits_gap_append_iff hwild hc).1 h
    obtain ⟨before, after, rfl, rfl, rfl⟩ := exists_of_bytesOf_eq hn
    simp only [List.countP_append, List.countP_cons, countP_isOther_gap hwild, isOther_literal hc]
    rw [gaps_append_cons hwild hc, List.mem_cons] at hgap
    rcases hgap with rfl | hgap
    · have hbefore := count_pos_of_fits hz hrun
      have hafter := count_le_of_splitsBytes (z := z) hm
      omega
    · have hafter := ih hgap hm
      omega

/-- **One question mark without a star does not take a character of two bytes.** -/
theorem exists_splitsCharacters_not_bytes (hgap : ['?'] ∈ gaps p) (hp : '/' ∉ p) :
    ∃ n, '/' ∉ n ∧ Splits (fun c => [c]) p n ∧ ¬ Splits String.utf8EncodeChar p (bytesOf n) := by
  refine ⟨fill 'é' p, slash_not_mem_fill (by decide) hp, splitsCharacters_fill, ?_⟩
  intro h
  have hcount := count_lt_of_splitsBytes (z := 'é') (by decide) hgap h
  rw [countP_fill] at hcount
  exact Nat.lt_irrefl _ hcount

/-- A gap that is not counted alike has two question marks, or is a single one. -/
theorem two_le_count_or_eq (hwild : ∀ c ∈ gap, isWild c = true) (h : ¬ CountsAlike gap) :
    2 ≤ gap.count '?' ∨ gap = ['?'] := by
  rw [CountsAlike, not_or, not_and] at h
  obtain ⟨hzero, hstar⟩ := h
  by_cases htwo : 2 ≤ gap.count '?'
  · exact .inl htwo
  · have hone : gap.count '?' = 1 := by omega
    have hall : ∀ c ∈ gap, '?' = c := by
      intro c hc
      rcases isWild_iff.1 (hwild c hc) with rfl | rfl
      · exact absurd hc (hstar hone)
      · rfl
    rw [List.count_eq_length.2 hall] at hone
    obtain ⟨c, rfl⟩ := List.length_eq_one_iff.1 hone
    rw [hall c List.mem_cons_self]
    exact .inr rfl

/-- The two readings of a pattern are the same on every name only if each of its gaps is counted
alike. -/
theorem countsAlike_of_splits_iff (hp : '/' ∉ p)
    (h : ∀ n, '/' ∉ n →
      (Splits String.utf8EncodeChar p (bytesOf n) ↔ Splits (fun c => [c]) p n)) :
    ∀ gap ∈ gaps p, CountsAlike gap := by
  intro gap hgap
  by_contra hnot
  rcases two_le_count_or_eq (isWild_of_mem_gaps hgap) hnot with htwo | rfl
  · obtain ⟨n, hn, hbytes, hcharacters⟩ := exists_splitsBytes_not_characters hgap htwo hp
    exact hcharacters ((h n hn).1 hbytes)
  · obtain ⟨n, hn, hcharacters, hbytes⟩ := exists_splitsCharacters_not_bytes hgap hp
    exact hbytes ((h n hn).2 hcharacters)

end Filled

end Glob

/-- **When a question mark is a character.** A pattern of stars, question marks and literal
characters takes a byte for every question mark, in every name. On names of one byte a character
this is what the specification says, and on all names exactly if each gap between the literal
characters has no question mark or a single one beside a star. -/
theorem questionMark_accepts_iff {pattern : String} (h : Glob.IsSimple pattern.toList) :
    ∃ g, compilePattern pattern = .ok g ∧
      (∀ name : String, '/' ∉ name.toList →
        (g.accepts name = true ↔ Glob.SplitsBytes pattern name)) ∧
      (∀ name : String, '/' ∉ name.toList → (∀ c ∈ name.toList, c.utf8Size = 1) →
        (g.accepts name = true ↔ Glob.SplitsCharacters pattern name)) ∧
      ((∀ name : String, '/' ∉ name.toList →
          (g.accepts name = true ↔ Glob.SplitsCharacters pattern name)) ↔
        ∀ gap ∈ Glob.gaps pattern.toList, Glob.CountsAlike gap) := by
  obtain ⟨g, hparse, haccepts⟩ := Glob.exists_accepts_iff_splitsBytes h
  refine ⟨g, compilePattern_ok_iff.2 hparse, haccepts, ?ascii, ?alike, ?every⟩
  case ascii =>
    intro name hname hone
    rw [haccepts name hname]
    exact Glob.splits_bytes_iff_of_utf8Size hone
  case alike =>
    intro hall
    have hslash : '/' ∉ pattern.toList := fun hmem => h '/' hmem (by decide)
    apply Glob.countsAlike_of_splits_iff hslash
    intro n hn
    have hname : '/' ∉ (String.ofList n).toList := by rwa [String.toList_ofList]
    have hreadings := (haccepts _ hname).symm.trans (hall _ hname)
    rwa [Glob.SplitsBytes, Glob.SplitsCharacters, String.toList_ofList] at hreadings
  case every =>
    intro halike name hname
    rw [haccepts name hname]
    exact Glob.splits_bytes_iff_of_countsAlike halike

/-- A star makes a single question mark harmless, wherever it stands beside it. -/
theorem questionMark_accepts_iff_besideStar :
    Glob.IsSimple "T?*.md".toList ∧ ∃ g, compilePattern "T?*.md" = .ok g ∧
      ∀ name : String, '/' ∉ name.toList →
        (g.accepts name = true ↔ Glob.SplitsCharacters "T?*.md" name) := by
  have hsimple : Glob.IsSimple "T?*.md".toList := by decide
  obtain ⟨g, hg, -, -, halike⟩ := questionMark_accepts_iff hsimple
  exact ⟨hsimple, g, hg, halike.2 (by decide)⟩

/-- A question mark alone does not match `é`, which is one character. -/
theorem questionMark_accepts_accent :
    Glob.IsSimple "?".toList ∧ '/' ∉ "é".toList ∧ Glob.SplitsCharacters "?" "é" ∧
      ∃ g, compilePattern "?" = .ok g ∧ g.accepts "é" = false := by
  refine ⟨by decide, by decide, .one 'é' .nil, ⟨[.anyByte]⟩, rfl, by decide⟩

end TableCatalog
