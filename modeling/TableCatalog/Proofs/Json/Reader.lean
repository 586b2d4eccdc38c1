import Mathlib.Tactic.SplitIfs
import TableCatalog.Json.Reader
import TableCatalog.Proofs.Document

/-!
# What the readers accept

A reader of nested objects accepts every text that the grammar gives a meaning of its shape, however
it is spaced and escaped, and returns what that meaning is read as. `Reader.Accepts` says so of one
reader; texts have it, and objects have it if their values do, so every shape has it.

The reader of an object counts its members against the characters that are left. It cannot run out,
because every phrase of the grammar takes at least one character (`Reads.length_lt`).

That a text without a meaning of the shape is refused is `Reader.Sound`, in the module behind this
one.
-/

set_option autoImplicit false

namespace TableCatalog.Json

/-! ## Every phrase takes something -/

theorem Space.length_le {t u : List Char} (h : Space t u) : u.length ≤ t.length := by
  induction h with
  | none => exact Nat.le_refl _
  | more _ _ ih => exact Nat.le_succ_of_le ih

theorem Chars.length_lt {t cs r : List Char} (h : Chars t cs r) : r.length < t.length := by
  induction h with
  | close => exact Nat.lt_succ_self _
  | plain _ _ _ _ ih => exact Nat.lt_succ_of_lt ih
  | letter _ _ ih => simp only [List.length_cons]; omega
  | unit _ _ _ ih => simp only [List.length_cons]; omega
  | pair _ _ _ _ _ _ _ ih => simp only [List.length_cons]; omega

theorem Reads.length_lt {p : Phrase} {t r : List Char} (h : Reads p t r) :
    r.length < t.length := by
  induction h with
  | text hchars => exact Nat.lt_succ_of_lt hchars.length_lt
  | emptyList hclose | emptyObject hclose =>
    have := hclose.length_le
    simp only [List.length_cons] at this ⊢
    omega
  | noItem hclose | noMember hclose => exact hclose.length_le
  | list hspace _ _ ih ihs | object hspace _ _ ih ihs =>
    have := hspace.length_le
    simp only [List.length_cons]
    omega
  | item hcomma hspace _ _ ih ihs | nextMember hcomma hspace _ _ ih ihs =>
    have := hcomma.length_le
    have := hspace.length_le
    simp only [List.length_cons] at *
    omega
  | member hkey hcolon hspace _ ih =>
    have := hkey.length_lt
    have := hcolon.length_le
    have := hspace.length_le
    simp only [List.length_cons] at *
    omega

/-! ## Literals -/

theorem utf8Size_of_hexValue? {c : Char} {v : Nat} (h : hexValue? c = some v) :
    c.utf8Size = 1 := by
  have hsmall : c.toNat ≤ 0x7f := by
    unfold hexValue? at h
    dsimp only at h
    split_ifs at h <;> omega
  exact Char.utf8Size_eq_one_iff.2 (UInt32.le_iff_toNat_le.2 hsmall)

/-- One digit of a unit that is not the last one. -/
theorem literalFrom_digit {c : Char} {v d : Nat} (hc : hexValue? c = some d) (left : Nat)
    (lead : Option Nat) (done : List Char) (p : Place) (cs : List Char) :
    literalFrom (.unit (left + 2) (some v) lead) done p (c :: cs) =
      literalFrom (.unit (left + 1) (some (v * 16 + d)) lead) done (p.after c) cs := by
  have hsize := utf8Size_of_hexValue? hc
  rw [literalFrom, hc]
  simp [hsize]

/-- The four digits of a unit, and what it means. -/
theorem literalFrom_unit {a b c d : Char} {n : Nat} (h : unit? a b c d = some n)
    (lead : Option Nat) (done : List Char) (p : Place) (cs : List Char) :
    ∃ q, literalFrom (.unit 4 (some 0) lead) done p (a :: b :: c :: d :: cs) =
      match unitMeaning lead n with
      | .char x => literalFrom .plain (x :: done) q cs
      | .lead l => literalFrom (.pairBackslash l) done q cs
      | .refused => .error ⟨.loneSurrogate, q⟩ := by
  unfold unit? at h
  simp only [Option.pure_def, Option.bind_eq_bind, Option.bind_eq_some_iff, Option.some.injEq] at h
  obtain ⟨va, ha, vb, hb, vc, hc, vd, hd, rfl⟩ := h
  have hsize := utf8Size_of_hexValue? hd
  have hvalue : (((0 * 16 + va) * 16 + vb) * 16 + vc) * 16 + vd =
      (va * 16 + vb) * 256 + (vc * 16 + vd) := by omega
  refine ⟨(((p.after a).after b).after c).after d, ?_⟩
  rw [literalFrom_digit ha, literalFrom_digit hb, literalFrom_digit hc, literalFrom, hd]
  cases hmeaning : unitMeaning lead ((va * 16 + vb) * 256 + (vc * 16 + vd)) <;>
    simp only [Option.bind_some, Option.map_some, hvalue, hsize, Nat.lt_irrefl, if_false, hmeaning]

theorem literalFrom_of_chars {t cs r : List Char} (h : Chars t cs r) (done : List Char)
    (p : Place) : ∃ q, literalFrom .plain done p t = .ok (done.reverse ++ cs, ⟨r, q⟩) := by
  induction h generalizing done p with
  | close =>
    rw [literalFrom, if_pos rfl, List.append_nil]
    exact ⟨_, rfl⟩
  | @plain x t cs r hquote hslash hplain _ ih =>
    obtain ⟨q, hq⟩ := ih (x :: done) (p.after x)
    refine ⟨q, ?_⟩
    rw [literalFrom, if_neg hquote, if_neg hslash, if_neg (Nat.not_lt.2 hplain), hq]
    simp
  | @letter x y t cs r hletter _ ih =>
    have hu : x ≠ 'u' := by
      rintro rfl
      simp [shortEscape?_u] at hletter
    obtain ⟨q, hq⟩ := ih (y :: done) ((p.after '\\').after x)
    refine ⟨q, ?_⟩
    rw [literalFrom, if_neg (by decide), if_pos rfl, literalFrom, if_neg hu, hletter]
    dsimp only
    rw [hq]
    simp
  | @unit a b c d n t cs r hunit hrange _ ih =>
    have hmeaning : unitMeaning none n = .char (Char.ofNat n) := by
      unfold unitMeaning
      rw [if_neg (by omega), if_neg (by omega)]
    obtain ⟨q, hq⟩ := literalFrom_unit hunit none done ((p.after '\\').after 'u') t
    obtain ⟨q', hq'⟩ := ih (Char.ofNat n :: done) q
    refine ⟨q', ?_⟩
    rw [literalFrom, if_neg (by decide), if_pos rfl, literalFrom, if_pos rfl, hq, hmeaning]
    dsimp only
    rw [hq']
    simp
  | @pair a b c d a' b' c' d' n n' t cs r hlead hlow hhigh htrail hlow' hhigh' _ ih =>
    have hfirst : unitMeaning none n = .lead n := by
      unfold unitMeaning
      rw [if_neg (by omega), if_pos ⟨hlow, hhigh⟩]
    have hsecond : unitMeaning (some n) n' =
        .char (Char.ofNat (0x10000 + (n - 0xD800) * 0x400 + (n' - 0xDC00))) := by
      have hsum : (n - 0xD800) * 0x400 + (n' - 0xDC00) + 0x10000 =
          0x10000 + (n - 0xD800) * 0x400 + (n' - 0xDC00) := by omega
      unfold unitMeaning
      dsimp only
      rw [if_pos ⟨hlow', hhigh'⟩, hsum]
    obtain ⟨q, hq⟩ := literalFrom_unit hlead none done ((p.after '\\').after 'u')
      ('\\' :: 'u' :: a' :: b' :: c' :: d' :: t)
    obtain ⟨q', hq'⟩ := literalFrom_unit htrail (some n) done ((q.after '\\').after 'u') t
    obtain ⟨q'', hq''⟩ := ih (Char.ofNat (0x10000 + (n - 0xD800) * 0x400 + (n' - 0xDC00)) :: done) q'
    refine ⟨q'', ?_⟩
    rw [literalFrom, if_neg (by decide), if_pos rfl, literalFrom, if_pos rfl, hq, hfirst]
    dsimp only
    rw [literalFrom, if_pos rfl, literalFrom, if_pos rfl, hq', hsecond]
    dsimp only
    rw [hq'']
    simp

/-- A literal of the grammar is read as its characters. -/
theorem literal_of_chars {k : Cursor} {cs r : List Char} (h : Chars k.rest cs r) :
    ∃ q, k.literal = .ok (cs, ⟨r, q⟩) := literalFrom_of_chars h [] k.place

/-! ## Space -/

theorem skipFrom_of_space {t u : List Char} {c : Char} (h : Space t (c :: u))
    (hc : isSpace c = false) (p : Place) : ∃ q, skipFrom p t = ⟨c :: u, q⟩ := by
  generalize hv : c :: u = v at h
  induction h generalizing p with
  | none =>
    subst hv
    refine ⟨p, ?_⟩
    rw [skipFrom, hc]
    rfl
  | more hspace _ ih =>
    rw [skipFrom, if_pos hspace]
    exact ih _ hv

theorem skipSpace_of_space {k : Cursor} {u : List Char} {c : Char} (h : Space k.rest (c :: u))
    (hc : isSpace c = false) : ∃ q, k.skipSpace = ⟨c :: u, q⟩ := skipFrom_of_space h hc k.place

theorem skipSpace_of_end {k : Cursor} (h : Space k.rest []) : k.skipSpace.rest = [] := by
  obtain ⟨t, p⟩ := k
  unfold Cursor.skipSpace
  dsimp only at h ⊢
  generalize hv : ([] : List Char) = v at h
  induction h generalizing p with
  | none => subst hv; rfl
  | more hspace _ ih =>
    rw [skipFrom, if_pos hspace]
    exact ih _ hv

/-! ## Values -/

/-- A reader accepts every value that is read as something, behind any space, and reads it so. -/
def Reader.Accepts {α : Type} (value : Reader α) (value? : Json → Option α) : Prop :=
  ∀ ⦃x : Json⦄ ⦃a : α⦄ ⦃t r : List Char⦄ (k : Cursor), Space k.rest t → Reads (.value x) t r →
    value? x = some a → ∃ q, value k = .ok (a, ⟨r, q⟩)

theorem accepts_text : Reader.Accepts Reader.text textOf? := by
  intro x a t r k hspace hreads hx
  cases hreads with
  | @text t cs _ hchars =>
    obtain rfl := Option.some.inj hx
    obtain ⟨q, hq⟩ := skipSpace_of_space hspace (by decide)
    obtain ⟨q', hq'⟩ := literal_of_chars (k := ⟨t, q.after '"'⟩) hchars
    refine ⟨q', ?_⟩
    rw [Reader.text, hq]
    dsimp only [Cursor.next]
    rw [hq']
    rfl
  | _ => simp [textOf?] at hx

theorem colon_of_space {k : Cursor} {u : List Char} (h : Space k.rest (':' :: u)) :
    ∃ q, colon k = .ok ⟨u, q⟩ := by
  obtain ⟨q, hq⟩ := skipSpace_of_space h (by decide)
  rw [colon, hq]
  exact ⟨_, rfl⟩

section Object

variable {α : Type} {value : Reader α} {value? : Json → Option α}

/-- A member whose opening quote is at the cursor. -/
theorem member_of_reads (hvalue : value.Accepts value?) {m : String × Json} {a : α}
    {t r : List Char} (hreads : Reads (.member m) t r) (hm : value? m.2 = some a) (p : Place) :
    (∃ u, t = '"' :: u) ∧ ∃ q, member value ⟨t, p⟩ = .ok (m.1, a, ⟨r, q⟩) := by
  cases hreads with
  | @member x t key _ _ _ _ hkey hcolon hspace hx =>
    obtain ⟨q, hq⟩ := literal_of_chars (k := ⟨t, p.after '"'⟩) hkey
    obtain ⟨q', hq'⟩ := colon_of_space (k := ⟨_, q⟩) hcolon
    obtain ⟨q'', hq''⟩ := hvalue ⟨_, q'⟩ hspace hx hm
    refine ⟨⟨_, rfl⟩, q'', ?_⟩
    simp only [member, Cursor.next, hq, hq', hq'', bind, Except.bind, pure, Except.pure]

/-- The members of an object as entries of a map. -/
def entries? (value? : Json → Option α) (ms : List (String × Json)) : Option (List (String × α)) :=
  ms.mapM fun m => (value? m.2).map fun a => (m.1, a)

theorem entries?_cons {m : String × Json} {ms : List (String × Json)} {es : List (String × α)} :
    entries? value? (m :: ms) = some es ↔
      ∃ a rest, value? m.2 = some a ∧ entries? value? ms = some rest ∧ es = (m.1, a) :: rest := by
  unfold entries?
  rw [List.mapM_cons]
  simp only [Option.pure_def, Option.bind_eq_bind, Option.bind_eq_some_iff, Option.map_eq_some_iff,
    Option.some.injEq]
  constructor
  · rintro ⟨_, ⟨a, ha, rfl⟩, rest, hrest, rfl⟩
    exact ⟨a, rest, ha, hrest, rfl⟩
  · rintro ⟨a, rest, ha, hrest, rfl⟩
    exact ⟨_, ⟨a, ha, rfl⟩, rest, hrest, rfl⟩

/-- Members are read and written into the map, up to the closing brace, with fuel for every
character that is left. -/
theorem members_of_reads (hvalue : value.Accepts value?) {ms : List (String × Json)}
    {es : List (String × α)} {t r : List Char} (hreads : Reads (.members ms) t r)
    (hms : entries? value? ms = some es) {fuel : Nat} (hfuel : t.length ≤ fuel)
    (done : OrderedMap String α) (p : Place) :
    ∃ q, members value fuel false done ⟨t, p⟩ =
      .ok (es.foldl (fun acc e => acc.insert e.1 e.2) done, ⟨r, q⟩) := by
  induction ms generalizing es t fuel done p with
  | nil =>
    cases hreads with
    | noMember hclose =>
      obtain rfl : es = [] := (Option.some.inj hms).symm
      have hlength := hclose.length_le
      obtain ⟨fuel, rfl⟩ : ∃ n, fuel = n + 1 := ⟨fuel - 1, by simp at hlength; omega⟩
      obtain ⟨q, hq⟩ := skipSpace_of_space (k := ⟨t, p⟩) hclose (by decide)
      refine ⟨q.after '\x7d', ?_⟩
      rw [members, hq]
      rfl
  | cons m ms ih =>
    cases hreads with
    | @nextMember _ _ _ u v w _ hcomma hspace hm hrest =>
      obtain ⟨a, rest, ha, hentries, rfl⟩ := entries?_cons.1 hms
      have hlength := hcomma.length_le
      have hshorter := hspace.length_le
      have hleft := hm.length_lt
      obtain ⟨fuel, rfl⟩ : ∃ n, fuel = n + 1 := ⟨fuel - 1, by simp at hlength; omega⟩
      obtain ⟨q, hq⟩ := skipSpace_of_space (k := ⟨t, p⟩) hcomma (by decide)
      obtain ⟨⟨v, rfl⟩, -⟩ := member_of_reads hvalue hm ha p
      obtain ⟨q₁, hq₁⟩ := skipSpace_of_space (k := ⟨u, q.after ','⟩) hspace (by decide)
      obtain ⟨-, q₂, hq₂⟩ := member_of_reads hvalue hm ha q₁
      have hfuel : w.length ≤ fuel := by simp at hlength; omega
      obtain ⟨q₃, hq₃⟩ := ih hrest hentries hfuel (done.insert m.1 a) q₂
      refine ⟨q₃, ?_⟩
      rw [members, hq]
      simp [Cursor.next, hq₁, keyAt, hq₂, hq₃, bind, Except.bind]

/-- Objects are accepted if their members' values are. -/
theorem Reader.Accepts.object (hvalue : value.Accepts value?) :
    Reader.Accepts (Reader.object value) (mapOf? value?) := by
  intro x a t r k hspace hreads hx
  cases hreads with
  | @emptyObject t _ hclose =>
    obtain rfl := Option.some.inj hx
    obtain ⟨q, hq⟩ := skipSpace_of_space hspace (by decide)
    obtain ⟨q₁, hq₁⟩ := skipSpace_of_space (k := ⟨t, q.after '\x7b'⟩) hclose (by decide)
    refine ⟨q₁.after '\x7d', ?_⟩
    simp [Reader.object, hq, Cursor.next, members, hq₁, OrderedMap.ofList]
  | @object m ms t u v _ hopen hm hrest =>
    obtain ⟨es, hes, rfl⟩ := Option.map_eq_some_iff.1 hx
    obtain ⟨b, rest, hb, hentries, rfl⟩ := entries?_cons.1 hes
    have hlength := hopen.length_le
    have hleft := hm.length_lt
    obtain ⟨q, hq⟩ := skipSpace_of_space hspace (by decide)
    obtain ⟨⟨u, rfl⟩, -⟩ := member_of_reads hvalue hm hb q
    obtain ⟨q₁, hq₁⟩ := skipSpace_of_space (k := ⟨t, q.after '\x7b'⟩) hopen (by decide)
    obtain ⟨-, q₂, hq₂⟩ := member_of_reads hvalue hm hb q₁
    have hfuel : v.length ≤ t.length := by omega
    obtain ⟨q₃, hq₃⟩ := members_of_reads hvalue hrest hentries hfuel
      (OrderedMap.empty.insert m.1 b) q₂
    refine ⟨q₃, ?_⟩
    rw [Reader.object, hq]
    simp [Cursor.next, members, hq₁, keyAt, hq₂, hq₃, bind, Except.bind, OrderedMap.ofList]
  | _ => simp [mapOf?] at hx

end Object

/-! ## Whole texts -/

/-- **A text that means something of a shape is read as that.** -/
theorem Reader.Accepts.whole {α : Type} {value : Reader α} {value? : Json → Option α}
    (hvalue : value.Accepts value?) {text : List Char} {x : Json} {a : α} (hmeans : Means text x)
    (hx : value? x = some a) : value.whole text = .ok a := by
  obtain ⟨t, r, hspace, hreads, hend⟩ := hmeans
  obtain ⟨q, hq⟩ := hvalue (.ofText text) hspace hreads hx
  have hnothing := skipSpace_of_end (k := ⟨r, q⟩) hend
  simp [Reader.whole, hq, hnothing, bind, Except.bind]

end TableCatalog.Json
