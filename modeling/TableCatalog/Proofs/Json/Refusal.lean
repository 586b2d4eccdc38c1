import TableCatalog.Proofs.Json.Reader

/-!
# What the readers refuse

A reader of nested objects refuses every text to which the grammar gives no meaning of its shape:
what it returns is read from a value that stood at the cursor, behind nothing but space, and it
stops where that value ends. `Reader.Sound` says so of one reader; texts have it, and objects have
it if their values do.

A literal is where the two differ most. The grammar takes an escape in one step, and the reader a
character at a time. What it returns in the middle of an escape is followed to the escape's end:
four digits, and for the first half of a pair the second half, or else nothing is returned at all.

With what is accepted (`Reader.Accepts`) the readers are exact: `Reader.whole_ok_iff`. What is
complained about a refused text, and where, is the readers' own affair.
-/

set_option autoImplicit false

namespace TableCatalog.Json

/-! ## Readers that return something -/

theorem map_ok_iff {ε α β : Type} {x : Except ε α} {f : α → β} {b : β} :
    x.map f = .ok b ↔ ∃ a, x = .ok a ∧ f a = b := by
  cases x <;> simp [Except.map]

theorem bind_ok_iff {ε α β : Type} {x : Except ε α} {f : α → Except ε β} {b : β} :
    x >>= f = .ok b ↔ ∃ a, x = .ok a ∧ f a = .ok b := by
  cases x <;> simp [bind, Except.bind]

/-! ## Space -/

theorem space_skipFrom (t : List Char) (p : Place) : Space t (skipFrom p t).rest := by
  fun_induction skipFrom p t with
  | case1 p => exact .none
  | case2 p c cs hspace ih => exact .more hspace ih
  | case3 p c cs hspace => exact .none

theorem space_skipSpace (k : Cursor) : Space k.rest k.skipSpace.rest := space_skipFrom _ _

/-- Only space stands before what is left. -/
theorem space_of_skipSpace {k : Cursor} {u : List Char} (h : k.skipSpace.rest = u) :
    Space k.rest u := h ▸ space_skipSpace k

theorem rest_next {k : Cursor} {c : Char} {u : List Char} (h : k.rest = c :: u) :
    k.next.rest = u := by
  unfold Cursor.next
  rw [h]

/-! ## Literals -/

section Literal

variable {left : Nat} {lead : Option Nat} {done : List Char} {p : Place} {t : List Char}
  {cs : List Char} {k : Cursor}

/-- A unit with a character that is no digit is refused, at the latest when it is complete. -/
theorem literalFrom_brokenUnit :
    literalFrom (.unit left none lead) done p t ≠ .ok (cs, k) := by
  induction t generalizing left p with
  | nil => simp [literalFrom]
  | cons c t ih =>
    rw [literalFrom]
    simp only [Option.bind_none]
    split_ifs with hleft
    · exact ih
    · simp

theorem literalFrom_noDigit {c : Char} (hc : hexValue? c = none) (value : Option Nat) :
    literalFrom (.unit left value lead) done p (c :: t) ≠ .ok (cs, k) := by
  rw [literalFrom, hc]
  simp only [Option.map_none, Option.bind_fun_none]
  split_ifs with hleft
  · exact literalFrom_brokenUnit
  · simp

/-- One digit of a unit that is not the last one. -/
theorem digit_of_literalFrom {v : Nat}
    (h : literalFrom (.unit (left + 2) (some v) lead) done p t = .ok (cs, k)) :
    ∃ c d u, t = c :: u ∧ hexValue? c = some d ∧
      literalFrom (.unit (left + 1) (some (v * 16 + d)) lead) done (p.after c) u = .ok (cs, k) := by
  cases t with
  | nil => simp [literalFrom] at h
  | cons c u =>
    cases hc : hexValue? c with
    | none => exact absurd h (literalFrom_noDigit hc _)
    | some d => exact ⟨c, d, u, rfl, hc, literalFrom_digit hc left lead done p u ▸ h⟩

/-- A unit has four digits. -/
theorem digits_of_literalFrom
    (h : literalFrom (.unit 4 (some 0) lead) done p t = .ok (cs, k)) :
    ∃ a b c d n u, t = a :: b :: c :: d :: u ∧ unit? a b c d = some n := by
  obtain ⟨a, va, t, rfl, ha, h⟩ := digit_of_literalFrom h
  obtain ⟨b, vb, t, rfl, hb, h⟩ := digit_of_literalFrom h
  obtain ⟨c, vc, t, rfl, hc, h⟩ := digit_of_literalFrom h
  cases t with
  | nil => simp [literalFrom] at h
  | cons d u =>
    cases hd : hexValue? d with
    | none => exact absurd h (literalFrom_noDigit hd _)
    | some vd =>
      have hunit : unit? a b c d = some ((va * 16 + vb) * 256 + (vc * 16 + vd)) := by
        simp [unit?, ha, hb, hc, hd]
      exact ⟨a, b, c, d, _, u, rfl, hunit⟩

/-- A unit with no first half of a pair before it. -/
theorem unit_of_literalFrom
    (h : literalFrom (.unit 4 (some 0) none) done p t = .ok (cs, k)) :
    ∃ a b c d n u q, t = a :: b :: c :: d :: u ∧ unit? a b c d = some n ∧
      ((n < 0xD800 ∨ 0xDFFF < n) ∧
          literalFrom .plain (Char.ofNat n :: done) q u = .ok (cs, k) ∨
        (0xD800 ≤ n ∧ n ≤ 0xDBFF) ∧
          literalFrom (.pairBackslash n) done q u = .ok (cs, k)) := by
  obtain ⟨a, b, c, d, n, u, rfl, hunit⟩ := digits_of_literalFrom h
  obtain ⟨q, hq⟩ := literalFrom_unit hunit none done p u
  rw [hq, unitMeaning] at h
  refine ⟨a, b, c, d, n, u, q, rfl, hunit, ?_⟩
  split_ifs at h with htrail hlead
  · exact .inr ⟨hlead, h⟩
  · exact .inl ⟨by omega, h⟩

/-- Behind the first half of a pair stands the second half. -/
theorem pair_of_literalFrom {n : Nat}
    (h : literalFrom (.pairBackslash n) done p t = .ok (cs, k)) :
    ∃ a b c d n' u q, t = '\\' :: 'u' :: a :: b :: c :: d :: u ∧ unit? a b c d = some n' ∧
      (0xDC00 ≤ n' ∧ n' ≤ 0xDFFF) ∧
      literalFrom .plain (Char.ofNat (0x10000 + (n - 0xD800) * 0x400 + (n' - 0xDC00)) :: done) q u =
        .ok (cs, k) := by
  cases t with
  | nil => simp [literalFrom] at h
  | cons x t =>
    rw [literalFrom] at h
    split_ifs at h with hx
    cases t with
    | nil => simp [literalFrom] at h
    | cons y t =>
      rw [literalFrom] at h
      split_ifs at h with hy
      obtain ⟨a, b, c, d, n', u, rfl, hunit⟩ := digits_of_literalFrom h
      obtain ⟨q, hq⟩ := literalFrom_unit hunit (some n) done ((p.after x).after y) u
      rw [hq, unitMeaning] at h
      split_ifs at h with hrange
      have hsum : 0x10000 + (n - 0xD800) * 0x400 + (n' - 0xDC00) =
          (n - 0xD800) * 0x400 + (n' - 0xDC00) + 0x10000 := by omega
      rw [← hsum] at h
      exact ⟨a, b, c, d, n', u, q, by rw [hx, hy], hunit, hrange, h⟩

/-- An escape stands for one character, and the literal goes on behind it. -/
theorem escape_of_literalFrom (h : literalFrom .escape done p t = .ok (cs, k)) :
    ∃ x u q, u.length < t.length ∧ literalFrom .plain (x :: done) q u = .ok (cs, k) ∧
      ∀ cs' r, Chars u cs' r → Chars ('\\' :: t) (x :: cs') r := by
  cases t with
  | nil => simp [literalFrom] at h
  | cons y t =>
    rw [literalFrom] at h
    split_ifs at h with hunit
    · subst hunit
      obtain ⟨a, b, c, d, n, u, q, rfl, hn, ⟨hrange, h⟩ | ⟨hlead, h⟩⟩ := unit_of_literalFrom h
      · refine ⟨_, u, q, ?_, h, fun cs' r => .unit hn hrange⟩
        simp only [List.length_cons]
        omega
      · obtain ⟨a', b', c', d', n', u, q, rfl, hn', htrail, h⟩ := pair_of_literalFrom h
        refine ⟨_, u, q, ?_, h, fun cs' r => .pair hn hlead.1 hlead.2 hn' htrail.1 htrail.2⟩
        simp only [List.length_cons]
        omega
    · cases hletter : shortEscape? y with
      | none => simp [hletter] at h
      | some x =>
        rw [hletter] at h
        exact ⟨x, t, _, Nat.lt_succ_self _, h, fun cs' r => .letter hletter⟩

/-- What a reader of a literal returns is a literal of the grammar, behind what it had already. The
induction is on the length of the text, because an escape takes several characters at once. -/
theorem chars_of_literalFrom (h : literalFrom .plain done p t = .ok (cs, k)) :
    ∃ cs', cs = done.reverse ++ cs' ∧ Chars t cs' k.rest := by
  induction hn : t.length using Nat.strongRecOn generalizing t done p with
  | _ n ih =>
    subst hn
    cases t with
    | nil => simp [literalFrom] at h
    | cons x t =>
      rw [literalFrom] at h
      split_ifs at h with hquote hslash hplain
      · obtain ⟨rfl, rfl⟩ := Prod.mk.inj (Except.ok.inj h)
        exact ⟨[], (List.append_nil _).symm, hquote ▸ .close⟩
      · obtain ⟨y, u, q, hshorter, hrest, hescape⟩ := escape_of_literalFrom h
        obtain ⟨cs', rfl, hchars⟩ := ih _ (Nat.lt_succ_of_lt hshorter) hrest rfl
        exact ⟨y :: cs', by simp, hslash ▸ hescape _ _ hchars⟩
      · obtain ⟨cs', rfl, hchars⟩ := ih _ (Nat.lt_succ_self _) h rfl
        exact ⟨x :: cs', by simp, .plain hquote hslash (Nat.not_lt.1 hplain) hchars⟩

end Literal

theorem chars_of_literal {cs : List Char} {k k' : Cursor} (h : k.literal = .ok (cs, k')) :
    Chars k.rest cs k'.rest := by
  obtain ⟨cs', rfl, hchars⟩ := chars_of_literalFrom h
  exact hchars

/-! ## Values -/

/-- What a reader returns is read from a value that stands at the cursor, behind any space, and the
reader stops where that value ends. -/
def Reader.Sound {α : Type} (value : Reader α) (value? : Json → Option α) : Prop :=
  ∀ ⦃k k' : Cursor⦄ ⦃a : α⦄, value k = .ok (a, k') →
    ∃ x t, Space k.rest t ∧ Reads (.value x) t k'.rest ∧ value? x = some a

theorem sound_text : Reader.Sound Reader.text textOf? := by
  intro k k' a h
  rw [Reader.text] at h
  split at h
  · simp at h
  · next u hu =>
    obtain ⟨⟨cs, k''⟩, hliteral, hcs⟩ := map_ok_iff.1 h
    obtain ⟨rfl, rfl⟩ := Prod.mk.inj hcs
    have hchars := chars_of_literal hliteral
    rw [rest_next hu] at hchars
    exact ⟨.text (.ofList cs), '"' :: u, space_of_skipSpace hu, .text hchars, rfl⟩
  · simp at h

theorem colon_ok {k k' : Cursor} (h : colon k = .ok k') : Space k.rest (':' :: k'.rest) := by
  rw [colon] at h
  split at h
  · simp at h
  · next u hu =>
    obtain rfl := Except.ok.inj h
    rw [rest_next hu]
    exact space_of_skipSpace hu
  · simp at h

section Object

variable {α : Type} {value : Reader α} {value? : Json → Option α}

/-- A key that was found and the member that was read behind it. -/
theorem member_ok (hvalue : value.Sound value?) {k k₁ k' : Cursor} {key : String} {a : α}
    (hkey : keyAt k = .ok k₁) (h : member value k₁ = .ok (key, a, k')) :
    ∃ x, Reads (.member (key, x)) k.rest k'.rest ∧ value? x = some a := by
  unfold keyAt at hkey
  split at hkey
  · simp at hkey
  · next u hquote =>
    obtain rfl := Except.ok.inj hkey
    obtain ⟨⟨cs, k₂⟩, hliteral, h⟩ := bind_ok_iff.1 h
    obtain ⟨k₃, hcolon, h⟩ := bind_ok_iff.1 h
    obtain ⟨⟨b, k₄⟩, hb, h⟩ := bind_ok_iff.1 h
    obtain ⟨rfl, rfl, rfl⟩ : String.ofList cs = key ∧ b = a ∧ k₄ = k' := by
      simpa [pure, Except.pure] using h
    obtain ⟨x, t, hspace, hreads, hx⟩ := hvalue hb
    have hchars := chars_of_literal hliteral
    rw [rest_next hquote] at hchars
    rw [hquote]
    exact ⟨x, .member hchars (colon_ok hcolon) hspace hreads, hx⟩
  · simp at hkey
  · simp at hkey

/-- Members are read up to the closing brace, each behind a comma, and are written into the map in
their order. -/
theorem members_ok (hvalue : value.Sound value?) {fuel : Nat} {done m : OrderedMap String α}
    {k k' : Cursor} (h : members value fuel false done k = .ok (m, k')) :
    ∃ ms es, Reads (.members ms) k.rest k'.rest ∧ entries? value? ms = some es ∧
      m = es.foldl (fun acc e => acc.insert e.1 e.2) done := by
  induction fuel generalizing done k with
  | zero => simp [members] at h
  | succ fuel ih =>
    rw [members] at h
    dsimp only at h
    split at h
    · simp at h
    · next c u hu =>
      have hbehind := space_of_skipSpace hu
      by_cases hclose : c = '\x7d'
      · rw [if_pos hclose] at h
        obtain ⟨rfl, rfl⟩ := Prod.mk.inj (Except.ok.inj h)
        subst hclose
        rw [← rest_next hu] at hbehind
        exact ⟨[], [], .noMember hbehind, rfl, rfl⟩
      · rw [if_neg hclose, if_neg Bool.false_ne_true] at h
        by_cases hcomma : c = ','
        case neg =>
          rw [if_neg hcomma] at h
          simp [bind, Except.bind] at h
        rw [if_pos hcomma] at h
        subst hcomma
        obtain ⟨k₁, hkey, h⟩ := bind_ok_iff.1 h
        obtain ⟨⟨key, a, k₂⟩, hmember, h⟩ := bind_ok_iff.1 h
        obtain ⟨x, hreads, hx⟩ := member_ok hvalue hkey hmember
        obtain ⟨ms, es, hmembers, hentries, hm⟩ := ih h
        have hspace := space_skipSpace k.skipSpace.next
        rw [rest_next hu] at hspace
        exact ⟨(key, x) :: ms, (key, a) :: es, .nextMember hbehind hspace hreads hmembers,
          entries?_cons.2 ⟨a, es, hx, hentries, rfl⟩, hm⟩

/-- Objects are sound if their members' values are. -/
theorem Reader.Sound.object (hvalue : value.Sound value?) :
    Reader.Sound (Reader.object value) (mapOf? value?) := by
  intro k k' m h
  rw [Reader.object] at h
  split at h
  · simp at h
  · next t ht =>
    have hbefore := space_of_skipSpace ht
    rw [members] at h
    dsimp only at h
    split at h
    · simp at h
    · next c u hu =>
      have hopen := space_of_skipSpace hu
      rw [rest_next ht] at hopen
      by_cases hclose : c = '\x7d'
      · rw [if_pos hclose] at h
        obtain ⟨rfl, rfl⟩ := Prod.mk.inj (Except.ok.inj h)
        subst hclose
        rw [← rest_next hu] at hopen
        exact ⟨.object [], _, hbefore, .emptyObject hopen, rfl⟩
      · rw [if_neg hclose] at h
        obtain ⟨k₁, hkey, h⟩ := bind_ok_iff.1 h
        obtain ⟨⟨key, a, k₂⟩, hmember, h⟩ := bind_ok_iff.1 h
        obtain ⟨x, hreads, hx⟩ := member_ok hvalue hkey hmember
        obtain ⟨ms, es, hmembers, hentries, hm⟩ := members_ok hvalue h
        have hall := entries?_cons (m := (key, x)) |>.2 ⟨a, es, hx, hentries, rfl⟩
        rw [hu] at hreads
        refine ⟨.object ((key, x) :: ms), _, hbefore, .object hopen hreads hmembers, ?_⟩
        rw [mapOf?, ← entries?, hall, hm]
        rfl
  · simp at h

end Object

/-! ## Whole texts -/

/-- **A text is read as something just if it means that.** -/
theorem Reader.whole_ok_iff {α : Type} {value : Reader α} {value? : Json → Option α}
    (haccepts : value.Accepts value?) (hsound : value.Sound value?) {text : List Char} {a : α} :
    value.whole text = .ok a ↔ ∃ x, Means text x ∧ value? x = some a := by
  constructor
  · intro h
    obtain ⟨⟨b, k⟩, hb, h⟩ := bind_ok_iff.1 h
    dsimp only at h
    split at h
    · next hend =>
      obtain rfl := Except.ok.inj h
      obtain ⟨x, t, hspace, hreads, hx⟩ := hsound hb
      exact ⟨x, ⟨t, k.rest, hspace, hreads, space_of_skipSpace hend⟩, hx⟩
    · simp at h
  · rintro ⟨x, hmeans, hx⟩
    exact haccepts.whole hmeans hx

end TableCatalog.Json
