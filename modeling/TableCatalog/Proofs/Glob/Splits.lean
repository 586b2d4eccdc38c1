import Mathlib.Data.List.Basic
import TableCatalog.Proofs.Glob.Bytes

/-!
# A name split along a pattern

What a pattern of stars, question marks and other characters is said to mean needs no matcher: the
name can be split so that a star gets any run, a question mark one letter, and every other character
itself. `Splits` is that sentence. It leaves open what a letter is, and this is the whole question:
with characters for letters it is what the specification says, and with bytes, and characters
spelled in UTF-8, it is what a matcher of bytes does.

The two readings are compared gap by gap. A gap is what stands between two literal characters of a
pattern, or at one of its ends: stars and question marks only. A run fits a gap or not by its length
alone (`splits_gap_iff`), and literal characters are found where they stand, since their bytes occur
nowhere else. So the readings agree as far as counting bytes and counting characters makes no
difference to the gaps (`splits_bytes_iff`). For some gaps it makes none whatever the run
(`CountsAlike`), and for some runs none whatever the gap.
-/

set_option autoImplicit false

namespace TableCatalog.Glob

/-- Split along a pattern: a run of letters for every star, one letter for every question mark, and
its own spelling for every other character. -/
inductive Splits {α : Type} (spell : Char → List α) : List Char → List α → Prop
  | nil : Splits spell [] []
  | star {p : List Char} {n : List α} (run : List α) : Splits spell p n →
      Splits spell ('*' :: p) (run ++ n)
  | one {p : List Char} {n : List α} (a : α) : Splits spell p n → Splits spell ('?' :: p) (a :: n)
  | literal {c : Char} {p : List Char} {n : List α} : c ≠ '*' → c ≠ '?' → Splits spell p n →
      Splits spell (c :: p) (spell c ++ n)

/-- A name split into characters, as the specification has it. -/
abbrev SplitsCharacters (pattern name : String) : Prop :=
  Splits (fun c => [c]) pattern.toList name.toList

/-- The bytes of a name split. -/
abbrev SplitsBytes (pattern name : String) : Prop :=
  Splits String.utf8EncodeChar pattern.toList (bytesOf name.toList)

/-- A star or a question mark. -/
def isWild (c : Char) : Bool := c = '*' || c = '?'

theorem isWild_iff {c : Char} : isWild c = true ↔ c = '*' ∨ c = '?' := by
  simp [isWild]

section Splitting

variable {α : Type} {spell : Char → List α} {p q gap : List Char} {n run : List α} {c : Char}

@[simp]
theorem splits_nil_iff : Splits spell [] n ↔ n = [] := by
  constructor
  · intro h
    cases h
    rfl
  · rintro rfl
    exact .nil

theorem splits_star_iff :
    Splits spell ('*' :: p) n ↔ ∃ run m, n = run ++ m ∧ Splits spell p m := by
  constructor
  · intro h
    cases h with
    | star run h => exact ⟨run, _, rfl, h⟩
    | literal hstar => exact absurd rfl hstar
  · rintro ⟨run, m, rfl, h⟩
    exact .star run h

theorem splits_one_iff : Splits spell ('?' :: p) n ↔ ∃ a m, n = a :: m ∧ Splits spell p m := by
  constructor
  · intro h
    cases h with
    | one a h => exact ⟨a, _, rfl, h⟩
    | literal _ hone => exact absurd rfl hone
  · rintro ⟨a, m, rfl, h⟩
    exact .one a h

theorem splits_literal_iff (hc : isWild c = false) :
    Splits spell (c :: p) n ↔ ∃ m, n = spell c ++ m ∧ Splits spell p m := by
  have hne : c ≠ '*' ∧ c ≠ '?' := by simpa [isWild] using hc
  constructor
  · intro h
    cases h with
    | star => exact absurd rfl hne.1
    | one => exact absurd rfl hne.2
    | literal _ _ h => exact ⟨_, rfl, h⟩
  · rintro ⟨m, rfl, h⟩
    exact .literal hne.1 hne.2 h

/-- Two patterns one behind the other split two parts of a name one behind the other. -/
theorem splits_append_iff :
    Splits spell (p ++ q) n ↔ ∃ a b, n = a ++ b ∧ Splits spell p a ∧ Splits spell q b := by
  constructor
  · intro h
    induction p generalizing n with
    | nil => exact ⟨[], n, rfl, .nil, h⟩
    | cons c p ih =>
      cases h with
      | star run h =>
        obtain ⟨a, b, rfl, ha, hb⟩ := ih h
        exact ⟨run ++ a, b, (List.append_assoc ..).symm, .star run ha, hb⟩
      | one letter h =>
        obtain ⟨a, b, rfl, ha, hb⟩ := ih h
        exact ⟨letter :: a, b, rfl, .one letter ha, hb⟩
      | literal hstar hone h =>
        obtain ⟨a, b, rfl, ha, hb⟩ := ih h
        exact ⟨spell c ++ a, b, (List.append_assoc ..).symm, .literal hstar hone ha, hb⟩
  · rintro ⟨a, b, rfl, ha, hb⟩
    induction ha with
    | nil => exact hb
    | star run _ ih =>
      rw [List.append_assoc]
      exact .star run ih
    | one letter _ ih => exact .one letter ih
    | literal hstar hone _ ih =>
      rw [List.append_assoc]
      exact .literal hstar hone ih

/-- What a pattern without wildcards splits is the pattern, spelled. -/
theorem splits_literals_iff (h : ∀ c ∈ p, isWild c = false) :
    Splits spell p n ↔ n = p.flatMap spell := by
  induction p generalizing n with
  | nil => simp
  | cons c p ih =>
    rw [splits_literal_iff (h c List.mem_cons_self)]
    simp [ih fun d hd => h d (List.mem_cons_of_mem c hd)]

/-! ## Gaps -/

/-- A run of this length fits a gap: there is a letter for every question mark, and others only if
there is a star. -/
def Fits (gap : List Char) (length : Nat) : Prop :=
  gap.count '?' ≤ length ∧ ('*' ∉ gap → length = gap.count '?')

@[simp]
theorem fits_nil_iff {length : Nat} : Fits [] length ↔ length = 0 := by
  simp [Fits]

theorem fits_star_iff {length : Nat} : Fits ('*' :: gap) length ↔ gap.count '?' ≤ length := by
  simp [Fits]

@[simp]
theorem fits_one_succ_iff {length : Nat} : Fits ('?' :: gap) (length + 1) ↔ Fits gap length := by
  simp [Fits]

@[simp]
theorem not_fits_one_zero : ¬ Fits ('?' :: gap) 0 := by
  simp [Fits]

/-- Whether a gap splits a run is a question of the run's length. -/
theorem splits_gap_iff (h : ∀ c ∈ gap, isWild c = true) :
    Splits spell gap run ↔ Fits gap run.length := by
  induction gap generalizing run with
  | nil => simp
  | cons c gap ih =>
    have hrest {m : List α} : Splits spell gap m ↔ Fits gap m.length :=
      ih fun d hd => h d (List.mem_cons_of_mem c hd)
    rcases isWild_iff.1 (h c List.mem_cons_self) with rfl | rfl
    · rw [splits_star_iff, fits_star_iff]
      constructor
      · rintro ⟨front, m, rfl, hm⟩
        rw [List.length_append]
        exact Nat.le_add_left_of_le (hrest.1 hm).1
      · intro hcount
        -- the star takes what the question marks behind it do not need
        have hsplit := List.take_append_drop (run.length - gap.count '?') run
        refine ⟨_, _, hsplit.symm, hrest.2 ?_⟩
        rw [List.length_drop, Nat.sub_sub_self hcount]
        exact ⟨Nat.le_refl _, fun _ => rfl⟩
    · rw [splits_one_iff]
      cases run with
      | nil => simp
      | cons a m => simp [hrest]

/-- A gap and the literal character behind it. -/
theorem splits_gap_append_iff (h : ∀ c ∈ gap, isWild c = true) (hc : isWild c = false) :
    Splits spell (gap ++ c :: p) n ↔
      ∃ run m, n = run ++ (spell c ++ m) ∧ Fits gap run.length ∧ Splits spell p m := by
  simp only [splits_append_iff, splits_gap_iff h, splits_literal_iff hc]
  constructor
  · rintro ⟨run, _, rfl, hrun, m, rfl, hm⟩
    exact ⟨run, m, rfl, hrun, hm⟩
  · rintro ⟨run, m, rfl, hrun, hm⟩
    exact ⟨run, _, rfl, hrun, m, rfl, hm⟩

end Splitting

/-- The gaps of a pattern: before its first literal character, between each two of them, and behind
the last one. -/
def gaps (p : List Char) : List (List Char) := p.splitOnP fun c => !isWild c

section Gaps

variable {p gap : List Char} {n : List Char} {c : Char}

theorem gaps_eq_singleton (h : ∀ c ∈ gap, isWild c = true) : gaps gap = [gap] := by
  apply List.splitOnP_eq_singleton
  intro d hd
  simp [h d hd]

theorem gaps_append_cons (h : ∀ c ∈ gap, isWild c = true) (hc : isWild c = false) :
    gaps (gap ++ c :: p) = gap :: gaps p := by
  apply List.splitOnP_append_cons_of_forall_mem
  · intro d hd
    simp [h d hd]
  · simp [hc]

/-- A pattern is a gap, or a gap, a literal character and a pattern. -/
@[elab_as_elim]
theorem gap_induction {motive : List Char → Prop}
    (last : ∀ gap, (∀ c ∈ gap, isWild c = true) → motive gap)
    (next : ∀ gap c p, (∀ c ∈ gap, isWild c = true) → isWild c = false → motive p →
      motive (gap ++ c :: p))
    (p : List Char) : motive p := by
  have hbehind (gap : List Char) (hgap : ∀ c ∈ gap, isWild c = true) : motive (gap ++ p) := by
    induction p generalizing gap with
    | nil =>
      rw [List.append_nil]
      exact last gap hgap
    | cons c p ih =>
      cases hc : isWild c with
      | false => exact next gap c p hgap hc (ih [] (by simp))
      | true =>
        rw [List.append_cons]
        apply ih
        intro d hd
        rcases List.mem_append.1 hd with hd | hd
        · exact hgap d hd
        · rw [List.mem_singleton.1 hd]
          exact hc
  exact hbehind [] (by simp)

/-- A gap stands in its pattern as it is. -/
theorem isInfix_of_mem_gaps (h : gap ∈ gaps p) : gap <:+: p := by
  induction p using gap_induction with
  | last first hfirst =>
    rw [gaps_eq_singleton hfirst, List.mem_singleton] at h
    exact h ▸ List.infix_refl gap
  | next first c p hfirst hc ih =>
    rw [gaps_append_cons hfirst hc, List.mem_cons] at h
    rcases h with rfl | h
    · exact ⟨[], c :: p, rfl⟩
    · obtain ⟨front, back, rfl⟩ := ih h
      exact ⟨first ++ c :: front, back, by simp⟩

theorem isWild_of_mem_gaps (h : gap ∈ gaps p) : ∀ c ∈ gap, isWild c = true := by
  induction p using gap_induction with
  | last first hfirst =>
    rw [gaps_eq_singleton hfirst, List.mem_singleton] at h
    rwa [h]
  | next first c p hfirst hc ih =>
    rw [gaps_append_cons hfirst hc, List.mem_cons] at h
    rcases h with rfl | h
    · exact hfirst
    · exact ih h

/-- **Splitting bytes is splitting characters** as far as the gaps do not tell them apart. -/
theorem splits_bytes_iff (h : ∀ gap ∈ gaps p, ∀ run, run ⊆ n →
    (Fits gap (bytesOf run).length ↔ Fits gap run.length)) :
    Splits String.utf8EncodeChar p (bytesOf n) ↔ Splits (fun c => [c]) p n := by
  induction p using gap_induction generalizing n with
  | last gap hgap =>
    rw [splits_gap_iff hgap, splits_gap_iff hgap]
    exact h gap (by simp [gaps_eq_singleton hgap]) n (List.Subset.refl n)
  | next gap c p hgap hc ih =>
    rw [splits_gap_append_iff hgap hc, splits_gap_append_iff hgap hc]
    simp only [gaps_append_cons hgap hc, List.forall_mem_cons] at h
    constructor
    · rintro ⟨run, m, hn, hrun, hm⟩
      obtain ⟨before, after, rfl, rfl, rfl⟩ := exists_of_bytesOf_eq hn
      refine ⟨before, after, rfl, ?_, ?_⟩
      · exact (h.1 before (by simp)).1 hrun
      · refine (ih fun gap hgap run hsub => h.2 gap hgap run ?_).1 hm
        exact List.Subset.trans hsub (by simp)
    · rintro ⟨before, after, rfl, hbefore, hafter⟩
      refine ⟨bytesOf before, bytesOf after, by simp, ?_, ?_⟩
      · exact (h.1 before (by simp)).2 hbefore
      · refine (ih fun gap hgap run hsub => h.2 gap hgap run ?_).2 hafter
        exact List.Subset.trans hsub (by simp)

/-- In this gap bytes may be counted for characters: there is no question mark in it, or a single
one, beside a star. -/
def CountsAlike (gap : List Char) : Prop :=
  gap.count '?' = 0 ∨ gap.count '?' = 1 ∧ '*' ∈ gap

instance (gap : List Char) : Decidable (CountsAlike gap) :=
  inferInstanceAs (Decidable (gap.count '?' = 0 ∨ gap.count '?' = 1 ∧ '*' ∈ gap))

/-- Such a gap only asks whether there is anything in a run. -/
theorem CountsAlike.fits_iff (h : CountsAlike gap) {run : List Char} :
    Fits gap (bytesOf run).length ↔ Fits gap run.length := by
  rcases h with hzero | ⟨hone, hstar⟩
  · simp only [Fits, hzero, Nat.zero_le, true_and, length_bytesOf_eq_zero_iff]
  · simp only [Fits, hone, hstar, not_true_eq_false, false_imp_iff, and_true,
      Nat.one_le_iff_ne_zero, ne_eq, length_bytesOf_eq_zero_iff]

theorem splits_bytes_iff_of_countsAlike (h : ∀ gap ∈ gaps p, CountsAlike gap) :
    Splits String.utf8EncodeChar p (bytesOf n) ↔ Splits (fun c => [c]) p n := by
  apply splits_bytes_iff
  intro gap hgap run _
  exact (h gap hgap).fits_iff

/-- With one byte a character there is nothing to tell apart. -/
theorem splits_bytes_iff_of_utf8Size (h : ∀ c ∈ n, c.utf8Size = 1) :
    Splits String.utf8EncodeChar p (bytesOf n) ↔ Splits (fun c => [c]) p n := by
  apply splits_bytes_iff
  intro gap _ run hrun
  rw [length_bytesOf fun c hc => h c (hrun hc)]

end Gaps

end TableCatalog.Glob
