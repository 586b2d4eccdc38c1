import TableCatalog.Text.Blank
import TableCatalog.Text.Lowercase

/-!
# What lower-casing cannot make

Lower-casing maps letters to letters, and the letters it makes within ASCII are the small ones. So
an ASCII character of the result that is no small letter stands where it stood before: no space,
bar, digit or hash comes out of any other character, whatever surrounds it. That is what a reader
needs who compares the lower case of a line with a fixed beginning.

The mapping of a text is not the mapping of its characters side by side, since a capital sigma looks
at its neighbours. `lowerFrom_append` cuts a text anywhere all the same; what it says of the front
is that every character there comes from one of the front's. And a beginning that is ASCII does not
see the neighbours at all (`prefix_lowerFrom_iff`), if it has no `i`: that one may be half of a
letter.

What has been lower-cased stays as it is (`lower_lower`), in whatever surroundings: neither of the
two exceptions is left, and no other character of it has a lower case besides itself. And a word
without a `k` is the lower case of ASCII texts only (`lowerFrom_eq_iff`).
-/

set_option autoImplicit false

namespace TableCatalog.Text

/-- An ASCII character of the runs' images is the `k` of the Kelvin sign. -/
theorem image_of_lowercaseRuns : ∀ r ∈ lowercaseRuns,
    r.first ≤ r.last ∧ ((r.first = r.last ∧ r.target = 'k'.toNat) ∨
      (0x80 ≤ r.target ∧ r.target + (r.last - r.first) < 0xD800) ∨
      (0xE000 ≤ r.target ∧ r.target + (r.last - r.first) < 0x110000)) := by
  decide +kernel

theorem toNat_ofNat {n : Nat} (h : n.isValidChar) : (Char.ofNat n).toNat = n := by
  rw [Char.ofNat, dif_pos h]
  rfl

theorem toLower_ascii : ∀ n < 128, (Char.ofNat n).toLower = Char.ofNat n ∨
    (Char.ofNat n).toLower.isLower = true := by
  decide

theorem bounds_of_isLower {c : Char} (h : c.isLower = true) :
    'a'.val ≤ c.val ∧ c.val ≤ 'z'.val := by
  have hbounds : (decide ('a'.val ≤ c.val) && decide (c.val ≤ 'z'.val)) = true := h
  rwa [Bool.and_eq_true, decide_eq_true_eq, decide_eq_true_eq] at hbounds

theorem toNat_of_isLower {c : Char} (h : c.isLower = true) : c.toNat < 0x80 := by
  have hlast : c.toNat ≤ 'z'.toNat := UInt32.le_iff_toNat_le.1 (bounds_of_isLower h).2
  exact Nat.lt_of_le_of_lt hlast (by decide)

/-- A code point is an image of the run. -/
def CaseRun.HasImage (r : CaseRun) (n : Nat) : Prop :=
  r.target ≤ n ∧ n ≤ r.target + (r.last - r.first) ∧ (n - r.target) % r.step = 0

/-- What a run maps to is the `k` or an image outside ASCII. -/
theorem CaseRun.image?_cases {r : CaseRun} (hr : r ∈ lowercaseRuns) {m n : Nat}
    (h : r.image? m = some n) :
    n = 'k'.toNat ∨ 0x80 ≤ n ∧ n.isValidChar ∧ r.HasImage n := by
  unfold image? at h
  split at h
  · next hin =>
    obtain ⟨hfirst, hlast, hstep⟩ := hin
    have hn := Option.some.inj h
    have hback : n - r.target = m - r.first := by omega
    unfold HasImage Nat.isValidChar
    rw [hback]
    obtain ⟨-, ⟨hone, hk⟩ | ⟨hlow, hhigh⟩ | ⟨hlow, hhigh⟩⟩ := image_of_lowercaseRuns r hr
    · left
      omega
    all_goals
      right
      exact ⟨by omega, by omega, by omega, by omega, hstep⟩
  · exact absurd h (by simp)

/-- The lower case of a character is the character, a small letter of ASCII or outside ASCII the
image of a run. -/
theorem lowerSimple_cases (c : Char) :
    lowerSimple c = c ∨ (lowerSimple c).isLower = true ∨
      0x80 ≤ (lowerSimple c).toNat ∧ ∃ r ∈ lowercaseRuns, r.HasImage (lowerSimple c).toNat := by
  unfold lowerSimple
  by_cases hc : c.toNat < 0x80
  · rw [if_pos hc]
    have hlower := toLower_ascii c.toNat hc
    rw [Char.ofNat_toNat] at hlower
    exact hlower.imp_right Or.inl
  · rw [if_neg hc]
    cases himage : lowercaseRuns.findSome? (·.image? c.toNat) with
    | none => exact Or.inl rfl
    | some n =>
      right
      dsimp only
      obtain ⟨r, hr, hn⟩ := List.exists_of_findSome?_eq_some himage
      rcases CaseRun.image?_cases hr hn with hk | ⟨hhigh, hvalid, hhas⟩
      · left
        rw [hk]
        decide
      · right
        rw [toNat_ofNat hvalid]
        exact ⟨hhigh, r, hr, hhas⟩

theorem lowerSimple_ascii {c : Char} (hascii : (lowerSimple c).toNat < 0x80)
    (hletter : (lowerSimple c).isLower = false) : lowerSimple c = c := by
  rcases lowerSimple_cases c with hself | hlower | ⟨hhigh, -⟩
  · exact hself
  · rw [hletter] at hlower
    exact absurd hlower (by simp)
  · omega

theorem lowerSigma_cases (before after : List Char) :
    lowerSigma before after = 'ς' ∨ lowerSigma before after = 'σ' := by
  unfold lowerSigma
  split
  · exact Or.inl rfl
  · exact Or.inr rfl

/-- What a character becomes: a letter of one of the two exceptions, or its own lower case. -/
theorem lowerChar_cases {before after : List Char} {c e : Char}
    (he : e ∈ lowerChar before c after) :
    (e = 'ς' ∨ e = 'σ' ∨ e = 'i' ∨ e = '\u0307') ∨ c ≠ 'Σ' ∧ c ≠ 'İ' ∧ e = lowerSimple c := by
  unfold lowerChar at he
  split at he
  · left
    obtain rfl := List.mem_singleton.1 he
    rcases lowerSigma_cases before after with hfinal | hinner
    · exact Or.inl hfinal
    · exact Or.inr (Or.inl hinner)
  · next hsigma =>
    split at he
    · left
      simp only [List.mem_cons, List.not_mem_nil, or_false] at he
      exact Or.inr (Or.inr he)
    · next hdotted =>
      right
      exact ⟨hsigma, hdotted, List.mem_singleton.1 he⟩

/-- **An ASCII character that is no small letter comes from itself.** -/
theorem lowerChar_ascii {before after : List Char} {c e : Char} (he : e ∈ lowerChar before c after)
    (hascii : e.toNat < 0x80) (hletter : e.isLower = false) : e = c := by
  rcases lowerChar_cases he with (rfl | rfl | rfl | rfl) | ⟨-, -, rfl⟩
  · exact absurd hascii (by decide)
  · exact absurd hascii (by decide)
  · exact absurd hletter (by decide)
  · exact absurd hascii (by decide)
  · exact lowerSimple_ascii hascii hletter

/-- The lower case of a text is that of a front of it, in its surroundings, and that of the rest. -/
theorem lowerFrom_append (before cs ds : List Char) :
    ∃ es, lowerFrom before (cs ++ ds) = es ++ lowerFrom (cs.reverse ++ before) ds ∧
      ∀ e ∈ es, e.toNat < 0x80 → e.isLower = false → e ∈ cs := by
  induction cs generalizing before with
  | nil => exact ⟨[], rfl, by simp⟩
  | cons c cs ih =>
    obtain ⟨es, hes, hfrom⟩ := ih (c :: before)
    refine ⟨lowerChar before c (cs ++ ds) ++ es, ?_, fun e he hascii hletter => ?_⟩
    · rw [List.cons_append, lowerFrom, hes, List.append_assoc, List.reverse_cons, List.append_assoc]
      rfl
    · rcases List.mem_append.1 he with hfirst | hlater
      · rw [lowerChar_ascii hfirst hascii hletter]
        exact List.mem_cons_self
      · exact List.mem_cons_of_mem c (hfrom e hlater hascii hletter)

/-! ## The beginning of a lower case -/

theorem lowerSimple_exceptions : lowerSimple 'Σ' = 'Σ' ∧ lowerSimple 'İ' = 'İ' := ⟨rfl, rfl⟩

/-- An ASCII character that is no `i`. -/
def isPlain (c : Char) : Bool := decide (c.toNat < 0x80) && c != 'i'

/-- Whether the lower case of a text begins with plain characters is seen from each character by
itself. -/
theorem prefix_lowerFrom_iff {lead : List Char} (hplain : lead.all isPlain = true)
    (before cs : List Char) :
    lead <+: lowerFrom before cs ↔ lead <+: cs.map lowerSimple := by
  induction cs generalizing lead before with
  | nil => rfl
  | cons c cs ih =>
    cases lead with
    | nil => exact iff_of_true (List.nil_prefix) (List.nil_prefix)
    | cons first lead =>
      rw [List.all_cons, isPlain, Bool.and_eq_true, Bool.and_eq_true, decide_eq_true_eq,
        bne_iff_ne] at hplain
      obtain ⟨⟨hfirst, hne⟩, hlead⟩ := hplain
      have hrest := ih hlead (c :: before)
      obtain ⟨hsigma, hdotted⟩ := lowerSimple_exceptions
      rw [lowerFrom, lowerChar, List.map_cons]
      -- a character with two forms, or with a form of two, is met by none of these
      split
      · next hc =>
        have hother : first ≠ lowerSigma before cs := by
          rintro rfl
          rcases lowerSigma_cases before cs with hsigma | hsigma <;>
            exact absurd (hsigma ▸ hfirst) (by decide)
        have hself : first ≠ lowerSimple c := by
          rw [hc, hsigma]
          rintro rfl
          exact absurd hfirst (by decide)
        simp [hother, hself]
      · split
        · next hc =>
          have hself : first ≠ lowerSimple c := by
            rw [hc, hdotted]
            rintro rfl
            exact absurd hfirst (by decide)
          simp [hne, hself]
        · rw [List.singleton_append, List.cons_prefix_cons, List.cons_prefix_cons, hrest]

/-- The code points of white space. -/
def blankCodes : List Nat :=
  [9, 10, 11, 12, 13, 0x20, 0x85, 0xA0, 0x1680, 0x2000, 0x2001, 0x2002, 0x2003, 0x2004, 0x2005,
    0x2006, 0x2007, 0x2008, 0x2009, 0x200A, 0x2028, 0x2029, 0x202F, 0x205F, 0x3000]

theorem toNat_mem_blankCodes {c : Char} (h : isBlank c = true) : c.toNat ∈ blankCodes := by
  simp only [isBlank, Bool.or_eq_true, Bool.and_eq_true, decide_eq_true_eq, beq_iff_eq] at h
  simp only [blankCodes, List.mem_cons, List.not_mem_nil, or_false]
  omega

theorem lowerSimple_blanks : ∀ n ∈ blankCodes, lowerSimple (Char.ofNat n) = Char.ofNat n := by
  decide

/-- White space has no other case. -/
theorem lowerSimple_of_isBlank {c : Char} (h : isBlank c = true) : lowerSimple c = c := by
  have hself := lowerSimple_blanks c.toNat (toNat_mem_blankCodes h)
  rwa [Char.ofNat_toNat] at hself

/-! ## Lower-casing twice

The images of the runs are compared with what the runs map: where two stretches meet, both of them
take every other code point, in turn. So no image has another lower case, and the two exceptions
give letters that have none either. -/

/-- No code point is an image of `r` and mapped by `q`. -/
def CaseRun.apart (r q : CaseRun) : Bool :=
  Nat.blt (r.target + (r.last - r.first)) q.first || Nat.blt q.last r.target ||
    ((r.first == r.last || r.step == 2) && q.step == 2 && (r.target + q.first) % 2 == 1)

theorem apart_lowercaseRuns : (lowercaseRuns.all fun r => lowercaseRuns.all r.apart) = true := by
  decide +kernel

theorem CaseRun.image?_of_apart {r q : CaseRun} {n : Nat} (h : r.apart q = true)
    (hn : r.HasImage n) : q.image? n = none := by
  obtain ⟨hlow, hhigh, hstep⟩ := hn
  unfold apart at h
  simp only [Bool.or_eq_true, Bool.and_eq_true, Nat.blt_eq, beq_iff_eq] at h
  unfold image?
  rw [if_neg]
  intro ⟨hfirst, hlast, hmod⟩
  rcases h with (hbelow | habove) | ⟨⟨hr, hq⟩, hodd⟩
  · omega
  · omega
  · rw [hq] at hmod
    rcases hr with hone | htwo
    · omega
    · rw [htwo] at hstep
      omega

theorem toLower_of_isLower {c : Char} (h : c.isLower = true) : c.toLower = c := by
  -- no character is both behind `a` and before `Z`
  refine dif_neg fun hcapital => ?_
  exact absurd (UInt32.le_trans (bounds_of_isLower h).1 hcapital.2) (by decide)

theorem lowerSimple_of_isLower {c : Char} (h : c.isLower = true) : lowerSimple c = c := by
  rw [lowerSimple, if_pos (toNat_of_isLower h), toLower_of_isLower h]

/-- The lower case of a character is its own lower case. -/
theorem lowerSimple_lowerSimple (c : Char) : lowerSimple (lowerSimple c) = lowerSimple c := by
  rcases lowerSimple_cases c with hself | hletter | ⟨hhigh, r, hr, hn⟩
  · rw [hself, hself]
  · exact lowerSimple_of_isLower hletter
  · have hnone : lowercaseRuns.findSome? (·.image? (lowerSimple c).toNat) = none := by
      rw [List.findSome?_eq_none_iff]
      intro q hq
      have hall := List.all_eq_true.1 apart_lowercaseRuns r hr
      exact CaseRun.image?_of_apart (List.all_eq_true.1 hall q hq) hn
    generalize lowerSimple c = e at hhigh hnone
    have hnot : ¬ e.toNat < 0x80 := by omega
    rw [lowerSimple, if_neg hnot, hnone]

/-- White space and the two characters with rules of their own: no other character becomes one. -/
def unmadeCodes : List Nat := 'İ'.toNat :: 'Σ'.toNat :: blankCodes

theorem image_ne_unmade : ∀ n ∈ unmadeCodes, (Char.ofNat n).isLower = false ∧
    (lowercaseRuns.all fun r =>
      Nat.blt n r.target || Nat.blt (r.target + (r.last - r.first)) n) = true := by
  decide

theorem eq_of_lowerSimple_unmade {c : Char} (h : (lowerSimple c).toNat ∈ unmadeCodes) :
    lowerSimple c = c := by
  obtain ⟨hnoLetter, hruns⟩ := image_ne_unmade _ h
  rw [Char.ofNat_toNat] at hnoLetter
  rcases lowerSimple_cases c with hself | hletter | ⟨-, r, hr, hlow, hhigh, -⟩
  · exact hself
  · rw [hletter] at hnoLetter
    exact absurd hnoLetter (by simp)
  · have hapart := List.all_eq_true.1 hruns r hr
    simp only [Bool.or_eq_true, Nat.blt_eq] at hapart
    omega

/-- A character that lower-casing leaves as it is, wherever it stands. -/
def IsLowered (c : Char) : Prop := c ≠ 'Σ' ∧ c ≠ 'İ' ∧ lowerSimple c = c

theorem lowerSimple_letters :
    lowerSimple 'ς' = 'ς' ∧ lowerSimple 'σ' = 'σ' ∧ lowerSimple 'i' = 'i' ∧
      lowerSimple '\u0307' = '\u0307' := ⟨rfl, rfl, rfl, rfl⟩

theorem isLowered_of_mem_lowerChar {before after : List Char} {c e : Char}
    (he : e ∈ lowerChar before c after) : IsLowered e := by
  obtain ⟨hfinal, hinner, hi, hdot⟩ := lowerSimple_letters
  rcases lowerChar_cases he with (rfl | rfl | rfl | rfl) | ⟨hsigma, hdotted, rfl⟩
  · exact ⟨by decide, by decide, hfinal⟩
  · exact ⟨by decide, by decide, hinner⟩
  · exact ⟨by decide, by decide, hi⟩
  · exact ⟨by decide, by decide, hdot⟩
  · -- only an exception could become one
    refine ⟨?_, ?_, lowerSimple_lowerSimple c⟩
    · intro heq
      have hself : lowerSimple c = c := eq_of_lowerSimple_unmade (by rw [heq]; decide)
      exact hsigma (hself.symm.trans heq)
    · intro heq
      have hself : lowerSimple c = c := eq_of_lowerSimple_unmade (by rw [heq]; decide)
      exact hdotted (hself.symm.trans heq)

/-- A character of a lower case is made of one character of the text. -/
theorem exists_of_mem_lowerFrom {before cs : List Char} {e : Char} (he : e ∈ lowerFrom before cs) :
    ∃ before' c after, c ∈ cs ∧ e ∈ lowerChar before' c after := by
  induction cs generalizing before with
  | nil => exact absurd he (by simp [lowerFrom])
  | cons c cs ih =>
    rw [lowerFrom, List.mem_append] at he
    rcases he with hfirst | hlater
    · exact ⟨before, c, cs, List.mem_cons_self, hfirst⟩
    · obtain ⟨before', d, after, hd, hmade⟩ := ih hlater
      exact ⟨before', d, after, List.mem_cons_of_mem c hd, hmade⟩

theorem lowerFrom_eq_self {cs : List Char} (h : ∀ c ∈ cs, IsLowered c) (before : List Char) :
    lowerFrom before cs = cs := by
  induction cs generalizing before with
  | nil => rfl
  | cons c cs ih =>
    obtain ⟨⟨hsigma, hdotted, hself⟩, hrest⟩ := List.forall_mem_cons.1 h
    rw [lowerFrom, lowerChar, if_neg hsigma, if_neg hdotted, hself, ih hrest,
      List.singleton_append]

/-- **The lower case of a text is its own lower case.** -/
theorem lower_lower (cs : List Char) : lower (lower cs) = lower cs := by
  apply lowerFrom_eq_self
  intro e he
  obtain ⟨before, c, after, -, hmade⟩ := exists_of_mem_lowerFrom he
  exact isLowered_of_mem_lowerChar hmade

/-- White space comes from itself. -/
theorem lowerChar_blank {before after : List Char} {c e : Char} (he : e ∈ lowerChar before c after)
    (hblank : isBlank e = true) : e = c := by
  rcases lowerChar_cases he with (rfl | rfl | rfl | rfl) | ⟨-, -, rfl⟩
  · exact absurd hblank (by decide)
  · exact absurd hblank (by decide)
  · exact absurd hblank (by decide)
  · exact absurd hblank (by decide)
  · apply eq_of_lowerSimple_unmade
    exact List.mem_cons_of_mem _ (List.mem_cons_of_mem _ (toNat_mem_blankCodes hblank))

/-- **Lower-casing makes neither white space nor an ASCII character that is no small letter.** -/
theorem mem_of_mem_lower {cs : List Char} {e : Char} (he : e ∈ lower cs)
    (hunmade : isBlank e = true ∨ e.toNat < 0x80 ∧ e.isLower = false) : e ∈ cs := by
  obtain ⟨before, c, after, hc, hmade⟩ := exists_of_mem_lowerFrom he
  rcases hunmade with hblank | ⟨hascii, hletter⟩
  · rw [lowerChar_blank hmade hblank]
    exact hc
  · rw [lowerChar_ascii hmade hascii hletter]
    exact hc

/-! ## Words of small letters

A word of small letters is the lower case of that word in any case, and of nothing else, if it has no
`k`: that one is the lower case of the Kelvin sign as well. An `i` may be half of a letter, but then
its dot is in the word too. -/

theorem lowerSimple_eq_k {c : Char} (hc : ¬ c.toNat < 0x80) (h : (lowerSimple c).toNat < 0x80) :
    lowerSimple c = 'k' := by
  rw [lowerSimple, if_neg hc] at h ⊢
  cases himage : lowercaseRuns.findSome? (·.image? c.toNat) with
  | none =>
    rw [himage] at h
    exact absurd h hc
  | some n =>
    rw [himage] at h
    dsimp only at h ⊢
    obtain ⟨r, hr, hn⟩ := List.exists_of_findSome?_eq_some himage
    rcases CaseRun.image?_cases hr hn with rfl | ⟨hhigh, hvalid, -⟩
    · rfl
    · rw [toNat_ofNat hvalid] at h
      omega

theorem toLower_of_not_ascii {c : Char} (hc : ¬ c.toNat < 0x80) : c.toLower = c := by
  refine dif_neg fun hcapital => ?_
  have hlast : c.toNat ≤ 'Z'.toNat := UInt32.le_iff_toNat_le.1 hcapital.2
  exact hc (Nat.lt_of_le_of_lt hlast (by decide))

/-- A small letter with one capital, that of ASCII. -/
def hasOneCapital (c : Char) : Bool := c.isLower && c != 'k'

theorem lowerSimple_eq_iff {c d : Char} (hd : hasOneCapital d = true) :
    lowerSimple c = d ↔ c.toLower = d := by
  rw [hasOneCapital, Bool.and_eq_true, bne_iff_ne] at hd
  obtain ⟨hletter, hk⟩ := hd
  have hascii := toNat_of_isLower hletter
  by_cases hc : c.toNat < 0x80
  · rw [lowerSimple, if_pos hc]
  · rw [toLower_of_not_ascii hc]
    constructor
    · rintro rfl
      exact absurd (lowerSimple_eq_k hc hascii) hk
    · rintro rfl
      exact absurd hascii hc

/-- **Which texts have a given word as their lower case**, in whatever surroundings: those that
differ from it in the case of ASCII letters. -/
theorem lowerFrom_eq_iff {word : List Char} (hword : ∀ d ∈ word, hasOneCapital d = true)
    (before cs : List Char) : lowerFrom before cs = word ↔ cs.map Char.toLower = word := by
  induction cs generalizing before word with
  | nil => rfl
  | cons c cs ih =>
    have hno {d : Char} (hd : hasOneCapital d = false) : d ∉ word := by
      intro hmem
      rw [hword d hmem] at hd
      exact absurd hd (by simp)
    rw [lowerFrom, lowerChar, List.map_cons]
    -- neither exception gives the word, and neither is in it
    split
    · next hc =>
      subst hc
      have hsigma : lowerSigma before cs ∉ word := by
        rcases lowerSigma_cases before cs with heq | heq <;> exact heq ▸ hno (by decide)
      have hcapital : 'Σ' ∉ word := hno (by decide)
      constructor
      · rintro rfl
        exact absurd List.mem_cons_self hsigma
      · rintro rfl
        exact absurd List.mem_cons_self hcapital
    · split
      · next hc =>
        subst hc
        have hdot : '\u0307' ∉ word := hno (by decide)
        have hcapital : 'İ' ∉ word := hno (by decide)
        constructor
        · rintro rfl
          exact absurd (List.mem_cons_of_mem 'i' List.mem_cons_self) hdot
        · rintro rfl
          exact absurd List.mem_cons_self hcapital
      · cases word with
        | nil => simp
        | cons d word =>
          obtain ⟨hd, hrest⟩ := List.forall_mem_cons.1 hword
          rw [List.singleton_append, List.cons.injEq, List.cons.injEq, lowerSimple_eq_iff hd,
            ih hrest]

end TableCatalog.Text
