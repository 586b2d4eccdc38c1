import TableCatalog.Glob.Token
import TableCatalog.Proofs.Text.ByteOrder

/-!
# Where characters begin in bytes

Names are matched byte by byte, and the bytes of a character must not be found where the character
is not. They are not: the first byte of a character can be told from its other bytes, and no
character's bytes are the beginning of another's. So the bytes of a character that occur in a text
occur there as that character, and what is in front of them and behind them is whole characters too
(`exists_of_bytesOf_eq`).

A single byte has no such place of its own. What is said here is of whole characters only.
-/

set_option autoImplicit false

namespace TableCatalog.Glob

@[simp] theorem bytesOf_nil : bytesOf [] = [] := rfl

@[simp]
theorem bytesOf_cons (c : Char) (cs : List Char) :
    bytesOf (c :: cs) = String.utf8EncodeChar c ++ bytesOf cs := rfl

@[simp]
theorem bytesOf_append (cs ds : List Char) : bytesOf (cs ++ ds) = bytesOf cs ++ bytesOf ds :=
  List.flatMap_append

theorem bytesOf_eq_nil_iff {cs : List Char} : bytesOf cs = [] ↔ cs = [] := by
  cases cs <;> simp [String.utf8EncodeChar_ne_nil]

theorem length_bytesOf_eq_zero_iff {cs : List Char} : (bytesOf cs).length = 0 ↔ cs.length = 0 := by
  rw [List.length_eq_zero_iff, List.length_eq_zero_iff, bytesOf_eq_nil_iff]

/-- Where every character is one byte, there are as many of the one as of the other. -/
theorem length_bytesOf {cs : List Char} (h : ∀ c ∈ cs, c.utf8Size = 1) :
    (bytesOf cs).length = cs.length := by
  induction cs with
  | nil => rfl
  | cons c cs ih =>
    rw [bytesOf_cons, List.length_append, String.length_utf8EncodeChar, h c List.mem_cons_self,
      ih fun d hd => h d (List.mem_cons_of_mem c hd), List.length_cons, Nat.add_comm]

/-! ## One character -/

/-- A character has one first byte, in front of all its others. -/
theorem isUTF8FirstByte_of_encode {c : Char} {b : UInt8} {bs : List UInt8}
    (h : String.utf8EncodeChar c = b :: bs) :
    b.IsUTF8FirstByte ∧ ∀ b' ∈ bs, ¬ b'.IsUTF8FirstByte := by
  have hfirst {i : Nat} (hi : i < (b :: bs).length) : (b :: bs)[i].IsUTF8FirstByte ↔ i = 0 := by
    have hc := @UInt8.isUTF8FirstByte_getElem_utf8EncodeChar c i (h ▸ hi)
    simpa only [h] using hc
  constructor
  · exact (hfirst (Nat.succ_pos _)).2 rfl
  · intro b' hb'
    obtain ⟨i, hi, rfl⟩ := List.getElem_of_mem hb'
    intro hbyte
    have hzero := (hfirst (Nat.succ_lt_succ hi)).1 hbyte
    cases hzero

/-- A character is determined by the bytes it begins, and so is what comes behind it. -/
theorem eq_of_encode_append_eq {c d : Char} {u v : List UInt8}
    (h : String.utf8EncodeChar c ++ u = String.utf8EncodeChar d ++ v) : c = d ∧ u = v := by
  rcases Std.lt_trichotomy c d with hlt | rfl | hlt
  · have hbytes := (Text.precedes_utf8EncodeChar hlt).append_lt u v
    rw [h] at hbytes
    exact absurd hbytes (List.lt_irrefl _)
  · exact ⟨rfl, List.append_cancel_left h⟩
  · have hbytes := (Text.precedes_utf8EncodeChar hlt).append_lt v u
    rw [h] at hbytes
    exact absurd hbytes (List.lt_irrefl _)

/-! ## Texts -/

/-- **The bytes of a character stand for it wherever they occur.** -/
theorem exists_of_bytesOf_eq {cs : List Char} {c : Char} {front back : List UInt8}
    (h : bytesOf cs = front ++ (String.utf8EncodeChar c ++ back)) :
    ∃ before after, cs = before ++ c :: after ∧ bytesOf before = front ∧ bytesOf after = back := by
  induction cs generalizing front with
  | nil => simp at h
  | cons d ds ih =>
    rw [bytesOf_cons, List.append_eq_append_iff] at h
    rcases h with ⟨front', rfl, hrest⟩ | ⟨more, hd, hc⟩
    · obtain ⟨before, after, rfl, rfl, rfl⟩ := ih hrest
      exact ⟨d :: before, after, rfl, rfl, rfl⟩
    · cases front with
      | nil =>
        rw [List.nil_append] at hd
        rw [← hd] at hc
        obtain ⟨rfl, rfl⟩ := eq_of_encode_append_eq hc
        exact ⟨[], ds, rfl, rfl, rfl⟩
      | cons f fs =>
        cases more with
        | nil =>
          -- the first character ends where the cut is
          have hrest : bytesOf ds = [] ++ (String.utf8EncodeChar c ++ back) := hc.symm
          obtain ⟨before, after, rfl, hbefore, rfl⟩ := ih hrest
          obtain rfl := bytesOf_eq_nil_iff.1 hbefore
          refine ⟨[d], after, rfl, ?_, rfl⟩
          rw [bytesOf_cons, bytesOf_nil, hd, List.append_nil, List.append_nil]
        | cons b bs =>
          -- the cut is inside it, and no character begins there
          obtain ⟨b', bs', hb'⟩ :=
            List.exists_cons_of_ne_nil (String.utf8EncodeChar_ne_nil (c := c))
          rw [hb', List.cons_append, List.cons_append, List.cons.injEq] at hc
          have hfirst := (isUTF8FirstByte_of_encode hb').1
          have hinside := (isUTF8FirstByte_of_encode hd).2 b (by simp)
          rw [hc.1] at hfirst
          exact absurd hfirst hinside

/-- The slash is a byte of a name only as a character of it. -/
theorem slash_mem_bytesOf_iff {cs : List Char} : slash ∈ bytesOf cs ↔ '/' ∈ cs := by
  have hslash : String.utf8EncodeChar '/' = [slash] := by decide
  constructor
  · intro h
    obtain ⟨front, back, hcut⟩ := List.append_of_mem h
    obtain ⟨before, after, rfl, -⟩ := exists_of_bytesOf_eq (c := '/') (by rw [hslash]; exact hcut)
    exact List.mem_append_right before List.mem_cons_self
  · intro h
    exact List.mem_flatMap.2 ⟨'/', h, by rw [hslash]; exact List.mem_singleton_self slash⟩

end TableCatalog.Glob
