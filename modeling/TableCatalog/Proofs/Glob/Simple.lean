import TableCatalog.Glob.Match
import TableCatalog.Proofs.Glob.Splits

/-!
# Patterns without classes, groups and escapes

A simple pattern is read one token a character: a star, one byte, or the character itself. The only
place where that could go wrong is two stars in a row, which mean directories if they fill a
component of the pattern. Without a slash they fill one only if they are the whole pattern, and then
they match everything (`parse_simple`).

Matching passes on what is left of a name. On names without a slash the tokens of a simple pattern
leave exactly what a split of the bytes leaves (`mem_restsOfAll_iff`), so such a name matches if and
only if its bytes can be split along the pattern (`exists_accepts_iff_splitsBytes`).
-/

set_option autoImplicit false

namespace TableCatalog.Glob

/-- The slash, and the characters that begin something longer than themselves. A closing bracket is
none of them: where no class is open it stands for itself. -/
def specials : List Char := ['[', '\x7b', '\x7d', '\\', '/']

/-- Nothing but stars, question marks and characters that stand for themselves. -/
def IsSimple (p : List Char) : Prop := ∀ c ∈ p, c ∉ specials

instance (p : List Char) : Decidable (IsSimple p) :=
  List.decidableBAll _ p

/-- What a character of a simple pattern is read as. -/
def tokenOf (c : Char) : Token :=
  if c = '*' then .star else if c = '?' then .anyByte else .ofChar c

theorem tokenOf_star : tokenOf '*' = .star := rfl

theorem eq_star_of_tokenOf {c : Char} (h : tokenOf c = .star) : c = '*' := by
  unfold tokenOf at h
  split at h
  · assumption
  · split at h <;> cases h

theorem eq_replicate_star {cs : List Char} {k : Nat}
    (h : cs.map tokenOf = List.replicate k .star) : cs = List.replicate k '*' := by
  obtain ⟨hlength, hall⟩ := List.eq_replicate_iff.1 h
  refine List.eq_replicate_iff.2 ⟨by simpa using hlength, ?_⟩
  intro c hc
  exact eq_star_of_tokenOf (hall _ (List.mem_map_of_mem hc))

/-! ## Reading -/

/-- How many stars have been seen and are not read yet. -/
def waiting : Mode → Option Nat
  | .plain => some 0
  | .star => some 1
  | .twoStars => some 2
  | _ => none

/-- The reader has gone through `done`: what it has pushed and the stars that wait are the tokens of
`done`, and no group is open. -/
structure HasRead (done : List Char) (m : Mode × State) : Prop where
  groups : m.2.groups = []
  previous : m.2.previous ≠ some '/'
  tokens : ∃ stars, waiting m.1 = some stars ∧
    done.map tokenOf = m.2.branch.reverse ++ List.replicate stars .star

section Reading

variable {done cs : List Char} {c : Char} {m : Mode × State} {s : State}

theorem HasRead.push {t : Token} (h : HasRead done (.plain, s)) (ht : tokenOf c = t)
    (hc : c ≠ '/') : HasRead (done ++ [c]) (.plain, s.push t c) where
  groups := h.groups
  previous := by simpa [State.push] using hc
  tokens := by
    obtain ⟨_, hzero, htokens⟩ := h.tokens
    cases hzero
    refine ⟨0, rfl, ?_⟩
    simpa [State.push, ht] using htokens

/-- A star that waits can be pushed. -/
theorem HasRead.settle_star (h : HasRead done (.star, s)) :
    HasRead done (.plain, s.push .star '*') where
  groups := h.groups
  previous := by simp [State.push]
  tokens := by
    obtain ⟨_, hone, htokens⟩ := h.tokens
    cases hone
    exact ⟨0, rfl, by simpa [State.push] using htokens⟩

theorem HasRead.settle_twoStars (h : HasRead done (.twoStars, s)) :
    HasRead done (.plain, s.pushTwoStars) where
  groups := h.groups
  previous := by simp [State.push, State.pushTwoStars]
  tokens := by
    obtain ⟨_, htwo, htokens⟩ := h.tokens
    cases htwo
    exact ⟨0, rfl, by simpa [State.push, State.pushTwoStars, List.replicate] using htokens⟩

/-- Without a slash or an open group no component begins behind a token. -/
theorem HasRead.componentStart (h : HasRead done m) : m.2.componentStart = false := by
  unfold State.componentStart
  split
  · next c hc =>
    have hslash : c ≠ '/' := fun heq => h.previous (heq ▸ hc)
    simp [hslash, h.groups]
  · rfl

theorem hasRead_plainStep (h : HasRead done (.plain, s)) (hc : c ∉ specials) :
    ∃ m, plainStep s c = .ok m ∧ HasRead (done ++ [c]) m := by
  simp only [specials, List.mem_cons, List.not_mem_nil, or_false, not_or] at hc
  obtain ⟨hbracket, hopen, hclose, hescape, hslash⟩ := hc
  unfold plainStep
  by_cases hone : c = '?'
  · subst hone
    rw [if_pos rfl]
    exact ⟨_, rfl, h.push rfl hslash⟩
  · rw [if_neg hone]
    by_cases hstar : c = '*'
    · subst hstar
      rw [if_pos rfl]
      refine ⟨_, rfl, h.groups, h.previous, 1, rfl, ?_⟩
      obtain ⟨_, hzero, htokens⟩ := h.tokens
      cases hzero
      simpa [tokenOf_star] using htokens
    · have htoken : tokenOf c = .ofChar c := by rw [tokenOf, if_neg hstar, if_neg hone]
      rw [if_neg hstar, if_neg hbracket, if_neg hopen, if_neg hclose]
      by_cases hcomma : c = ','
      · subst hcomma
        have hpush : s.comma = s.push (.ofChar ',') ',' := by
          have hgroups : s.groups = [] := h.groups
          simp only [State.comma, hgroups]
        rw [if_pos rfl, hpush]
        exact ⟨_, rfl, h.push htoken hslash⟩
      · rw [if_neg hcomma, if_neg hescape]
        exact ⟨_, rfl, h.push htoken hslash⟩

/-- One more character of a simple pattern is read. -/
theorem hasRead_step (h : HasRead done m) (hc : c ∉ specials) :
    ∃ m', step m c = .ok m' ∧ HasRead (done ++ [c]) m' := by
  obtain ⟨mode, s⟩ := m
  obtain ⟨stars, hstars, htokens⟩ := h.tokens
  cases mode with
  | plain => exact hasRead_plainStep h hc
  | star =>
    rw [step]
    by_cases hstar : c = '*'
    · subst hstar
      rw [if_pos rfl]
      cases hstars
      refine ⟨_, rfl, h.groups, h.previous, 2, rfl, ?_⟩
      rw [List.map_append, htokens]
      simp [tokenOf_star, List.replicate]
    · rw [if_neg hstar]
      exact hasRead_plainStep h.settle_star hc
  | twoStars =>
    have hslash : c ≠ '/' := by
      rintro rfl
      simp [specials] at hc
    have hstart : s.componentStart = false := h.componentStart
    have hplain : step (.twoStars, s) c = plainStep s.pushTwoStars c := by
      simp [step, twoStarsStep, hslash, hstart]
    rw [hplain]
    exact hasRead_plainStep h.settle_twoStars hc
  | escape | classStart | inClass k => cases hstars

/-- A simple pattern is read through. -/
theorem hasRead_foldlM (h : HasRead done m) (hcs : IsSimple cs) :
    ∃ m', cs.foldlM step m = .ok m' ∧ HasRead (done ++ cs) m' := by
  induction cs generalizing done m with
  | nil => exact ⟨m, rfl, by rwa [List.append_nil]⟩
  | cons c cs ih =>
    obtain ⟨m₁, hstep, h₁⟩ := hasRead_step h (hcs c List.mem_cons_self)
    obtain ⟨m₂, hrest, h₂⟩ := ih h₁ fun d hd => hcs d (List.mem_cons_of_mem c hd)
    refine ⟨m₂, ?_, ?_⟩
    · rw [List.foldlM_cons, hstep]
      exact hrest
    · rwa [List.append_assoc, List.singleton_append] at h₂

theorem hasRead_finish (h : HasRead done m) :
    ∃ s, finish m = .ok s ∧ s.groups = [] ∧
      (s.branch.reverse = done.map tokenOf ∨
        done = ['*', '*'] ∧ s.branch.reverse = [.leadingDirs]) := by
  have hplain {s : State} (hs : HasRead done (.plain, s)) :
      s.branch.reverse = done.map tokenOf := by
    obtain ⟨_, hzero, htokens⟩ := hs.tokens
    cases hzero
    simpa using htokens.symm
  obtain ⟨mode, s⟩ := m
  obtain ⟨stars, hstars, htokens⟩ := h.tokens
  cases mode with
  | plain => exact ⟨s, rfl, h.groups, .inl (hplain h)⟩
  | star => exact ⟨_, rfl, h.settle_star.groups, .inl (hplain h.settle_star)⟩
  | twoStars =>
    cases hstars
    have hstart : s.componentStart = false := h.componentStart
    cases hbranch : s.branch with
    | nil =>
      -- nothing but the two stars has been read
      have htwo : done = ['*', '*'] := by
        rw [hbranch, List.reverse_nil, List.nil_append] at htokens
        exact eq_replicate_star htokens
      refine ⟨s.push .leadingDirs '*', by simp [finish, hbranch], h.groups, .inr ⟨htwo, ?_⟩⟩
      simp [State.push, hbranch]
    | cons t ts =>
      refine ⟨s.pushTwoStars, ?_, h.settle_twoStars.groups, .inl (hplain h.settle_twoStars)⟩
      simp [finish, hbranch, hstart]
  | escape | classStart | inClass k => cases hstars

end Reading

/-- **How a simple pattern is read**: a token a character, but for two stars alone. -/
theorem parse_simple {pattern : String} (h : IsSimple pattern.toList) :
    ∃ g, parse pattern = .ok g ∧ (g.tokens = pattern.toList.map tokenOf ∨
      pattern.toList = ['*', '*'] ∧ g.tokens = [.leadingDirs]) := by
  have hstart : HasRead [] (.plain, ⟨[], [], none⟩) := ⟨rfl, by simp, 0, rfl, rfl⟩
  obtain ⟨m, hread, hm⟩ := hasRead_foldlM hstart h
  obtain ⟨s, hfinish, hgroups, htokens⟩ := hasRead_finish hm
  refine ⟨⟨s.branch.reverse⟩, ?_, htokens⟩
  simp [parse, hread, hfinish, hgroups, bind, Except.bind]

/-! ## Matching -/

section Matching

variable {c : Char} {p : List Char} {r n : List UInt8} {names : List (List UInt8)}

theorem mem_spread_iff {f : List UInt8 → List (List UInt8)} :
    r ∈ spread f names ↔ ∃ n ∈ names, r ∈ f n := by
  simp [spread]

theorem mem_afterRun_iff (hn : slash ∉ n) : r ∈ afterRun n ↔ ∃ run, n = run ++ r := by
  induction n with
  | nil => simp [afterRun]
  | cons b bs ih =>
    have hb : b ≠ slash := fun heq => hn (heq ▸ List.mem_cons_self)
    have hbs := ih fun hmem => hn (List.mem_cons_of_mem b hmem)
    rw [afterRun, if_neg hb, List.mem_cons, hbs]
    constructor
    · rintro (rfl | ⟨run, rfl⟩)
      · exact ⟨[], rfl⟩
      · exact ⟨b :: run, rfl⟩
    · rintro ⟨run, hrun⟩
      cases run with
      | nil => exact .inl hrun.symm
      | cons d run =>
        rw [List.cons_append, List.cons.injEq] at hrun
        exact .inr ⟨run, hrun.2⟩

theorem mem_afterByte_iff (hn : slash ∉ n) :
    r ∈ afterByte (fun b => b != slash) n ↔ ∃ b, n = b :: r := by
  cases n with
  | nil => simp [afterByte]
  | cons b bs =>
    have hb : b ≠ slash := fun heq => hn (heq ▸ List.mem_cons_self)
    rw [afterByte, if_pos (by simpa using hb), List.mem_singleton]
    simp [eq_comm]

theorem mem_afterBytes_iff {bytes : List UInt8} : r ∈ afterBytes bytes n ↔ n = bytes ++ r := by
  induction bytes generalizing n with
  | nil => simp [afterBytes, eq_comm]
  | cons b bytes ih =>
    cases n with
    | nil => simp [afterBytes]
    | cons d n =>
      by_cases h : b = d
      · simp [afterBytes, h, ih]
      · simp [afterBytes, h, Ne.symm h]

/-- What one token leaves is what one character of the pattern leaves. -/
theorem mem_rests_tokenOf_iff (hnames : ∀ n ∈ names, slash ∉ n) :
    r ∈ (tokenOf c).rests names ↔
      ∃ used, Splits String.utf8EncodeChar [c] used ∧ used ++ r ∈ names := by
  by_cases hstar : c = '*'
  · subst hstar
    rw [tokenOf_star, Token.rests, mem_spread_iff]
    simp only [splits_star_iff, splits_nil_iff]
    constructor
    · rintro ⟨n, hn, hr⟩
      obtain ⟨run, rfl⟩ := (mem_afterRun_iff (hnames n hn)).1 hr
      exact ⟨run, ⟨run, [], (List.append_nil run).symm, rfl⟩, hn⟩
    · rintro ⟨used, -, hn⟩
      exact ⟨_, hn, (mem_afterRun_iff (hnames _ hn)).2 ⟨used, rfl⟩⟩
  · by_cases hone : c = '?'
    · subst hone
      rw [tokenOf, if_neg hstar, if_pos rfl, Token.rests, mem_spread_iff]
      simp only [splits_one_iff, splits_nil_iff]
      constructor
      · rintro ⟨n, hn, hr⟩
        obtain ⟨b, rfl⟩ := (mem_afterByte_iff (hnames n hn)).1 hr
        exact ⟨[b], ⟨b, [], rfl, rfl⟩, hn⟩
      · rintro ⟨_, ⟨b, _, rfl, rfl⟩, hn⟩
        exact ⟨_, hn, (mem_afterByte_iff (hnames _ hn)).2 ⟨b, rfl⟩⟩
    · have hliteral : isWild c = false := by simp [isWild, hstar, hone]
      rw [tokenOf, if_neg hstar, if_neg hone, Token.ofChar, Token.rests, mem_spread_iff]
      simp only [splits_literal_iff hliteral, splits_nil_iff, mem_afterBytes_iff]
      constructor
      · rintro ⟨_, hn, rfl⟩
        exact ⟨_, ⟨[], (List.append_nil _).symm, rfl⟩, hn⟩
      · rintro ⟨_, ⟨_, rfl, rfl⟩, hn⟩
        rw [List.append_nil] at hn
        exact ⟨_, hn, rfl⟩

/-- **What a simple pattern leaves** of names without a slash is what a split of their bytes
leaves. -/
theorem mem_restsOfAll_iff (hnames : ∀ n ∈ names, slash ∉ n) :
    r ∈ restsOfAll (p.map tokenOf) names ↔
      ∃ used, Splits String.utf8EncodeChar p used ∧ used ++ r ∈ names := by
  induction p generalizing names with
  | nil => simp [restsOfAll]
  | cons c p ih =>
    have hrests : ∀ n ∈ (tokenOf c).rests names, slash ∉ n := by
      intro n hn hslash
      obtain ⟨used, -, hmem⟩ := (mem_rests_tokenOf_iff hnames).1 hn
      exact hnames _ hmem (List.mem_append_right used hslash)
    rw [List.map_cons, restsOfAll, ih hrests, ← List.singleton_append]
    simp only [mem_rests_tokenOf_iff hnames, splits_append_iff]
    constructor
    · rintro ⟨back, hback, front, hfront, hmem⟩
      exact ⟨front ++ back, ⟨front, back, rfl, hfront, hback⟩, by rwa [List.append_assoc]⟩
    · rintro ⟨_, ⟨front, back, rfl, hfront, hback⟩, hmem⟩
      rw [List.append_assoc] at hmem
      exact ⟨back, hback, front, hfront, hmem⟩

end Matching

/-- Directories come of two stars together only, never of one character. -/
theorem tokenOf_ne_leadingDirs {c : Char} : tokenOf c ≠ .leadingDirs := by
  unfold tokenOf
  split
  · exact nofun
  · split <;> exact nofun

theorem not_isEverything {g : Glob} {p : List Char} (h : g.tokens = p.map tokenOf) :
    g.isEverything = false := by
  unfold isEverything
  split
  · next hdirs =>
    have hmem : Token.leadingDirs ∈ p.map tokenOf := by
      rw [← h, hdirs]
      exact List.mem_cons_self
    obtain ⟨c, -, hc⟩ := List.mem_map.1 hmem
    exact absurd hc tokenOf_ne_leadingDirs
  · rfl

/-- **A simple pattern is a pattern, and a name without a slash matches it if its bytes can be split
along it.** -/
theorem exists_accepts_iff_splitsBytes {pattern : String} (h : IsSimple pattern.toList) :
    ∃ g, parse pattern = .ok g ∧ ∀ name : String, '/' ∉ name.toList →
      (g.accepts name = true ↔ SplitsBytes pattern name) := by
  obtain ⟨g, hparse, htokens⟩ := parse_simple h
  refine ⟨g, hparse, ?_⟩
  intro name hname
  rcases htokens with htokens | ⟨htwo, htokens⟩
  · have hslash : ∀ n ∈ [bytesOf name.toList], slash ∉ n := by
      intro n hn
      rw [List.mem_singleton.1 hn, slash_mem_bytesOf_iff]
      exact hname
    rw [accepts, not_isEverything htokens, Bool.false_or, List.contains_iff_mem, htokens,
      mem_restsOfAll_iff hslash]
    simp
  · -- two stars are a token of their own, which takes everything, and so do two runs
    have hsplits : SplitsBytes pattern name := by
      have hruns : Splits String.utf8EncodeChar ['*', '*'] (bytesOf name.toList ++ ([] ++ [])) :=
        .star (bytesOf name.toList) (.star [] .nil)
      rw [List.append_nil, List.append_nil] at hruns
      rwa [SplitsBytes, htwo]
    simp [accepts, isEverything, htokens, hsplits]

end TableCatalog.Glob
