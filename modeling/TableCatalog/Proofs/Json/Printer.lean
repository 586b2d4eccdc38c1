import Mathlib.Tactic.SplitIfs
import TableCatalog.Proofs.Json.Grammar

/-!
# Printed values are read back

What the printer writes for a value is that value to a reader of the format, whatever follows it and
however far it is indented. That is `ReadsBack`, and it is closed under the three ways in which the
catalog builds values: a text, a list and an object of values that are read back.
-/

set_option autoImplicit false

namespace TableCatalog.Json

/-! ## Literals -/

theorem unit?_control : ∀ n < 0x20,
    unit? '0' '0' (hexDigit (n / 16)) (hexDigit (n % 16)) = some n := by
  decide

/-- A character is escaped by a letter that the reader knows, by its number or not at all. -/
theorem escapeChar_cases (x : Char) :
    (∃ y, escapeChar x = ['\\', y] ∧ shortEscape? y = some x) ∨
      (x.toNat < 0x20 ∧ escapeChar x =
        ['\\', 'u', '0', '0', hexDigit (x.toNat / 16), hexDigit (x.toNat % 16)]) ∨
      x ≠ '"' ∧ x ≠ '\\' ∧ 0x20 ≤ x.toNat ∧ escapeChar x = [x] := by
  unfold escapeChar
  split_ifs with hquote hslash hline hreturn htab hback hfeed hcontrol
  case pos | pos | pos | pos | pos | pos | pos =>
    subst x
    exact Or.inl ⟨_, rfl, by decide⟩
  · exact Or.inr (Or.inl ⟨hcontrol, rfl⟩)
  · exact Or.inr (Or.inr ⟨hquote, hslash, by omega, rfl⟩)

/-- Every character is escaped so that it is read as itself. -/
theorem chars_escapeChar (x : Char) {t cs r : List Char} (h : Chars t cs r) :
    Chars (escapeChar x ++ t) (x :: cs) r := by
  obtain ⟨y, hx, hletter⟩ | ⟨hcontrol, hx⟩ | ⟨hquote, hslash, hplain, hx⟩ := escapeChar_cases x
  · rw [hx]
    exact .letter hletter h
  · have hunit := Chars.unit (unit?_control x.toNat hcontrol) (Or.inl (by omega)) h
    rw [Char.ofNat_toNat] at hunit
    rw [hx]
    exact hunit
  · rw [hx]
    exact .plain hquote hslash hplain h

theorem chars_literal (cs r : List Char) : Chars (cs.flatMap escapeChar ++ '"' :: r) cs r := by
  induction cs with
  | nil => exact .close
  | cons c cs ih =>
    rw [List.flatMap_cons, List.append_assoc]
    exact chars_escapeChar c ih

/-! ## Values -/

theorem space_newline (level : Nat) (t : List Char) : Space (newline level ++ t) t := by
  have hspaces : ∀ n, Space (List.replicate n ' ' ++ t) t := by
    intro n
    induction n with
    | zero => exact .none
    | succ n ih => exact .more rfl ih
  exact .more rfl (hspaces (2 * level))

/-- Printed at any indentation and in front of anything, a value is read as itself. -/
def ReadsBack (x : Json) : Prop :=
  ∀ level r, Reads (.value x) (prettyAt level x ++ r) r

theorem readsBack_text (s : String) : ReadsBack (.text s) := by
  intro level r
  have hread := Reads.text (chars_literal s.toList r)
  rw [String.ofList_toList] at hread
  simpa [prettyAt, literal] using hread

theorem reads_prettyItems {xs : List Json} (h : ∀ x ∈ xs, ReadsBack x) (level : Nat)
    (t r : List Char) (hclose : Space t (']' :: r)) :
    Reads (.items xs) (prettyItems level xs ++ t) r := by
  induction xs with
  | nil => exact .noItem hclose
  | cons x xs ih =>
    have hrest := ih fun y hy => h y (List.mem_cons_of_mem x hy)
    have hx := h x List.mem_cons_self level (prettyItems level xs ++ t)
    have hitem := Reads.item (.none (t := ',' :: _)) (space_newline level _) hx hrest
    simpa [prettyItems] using hitem

theorem readsBack_list {xs : List Json} (h : ∀ x ∈ xs, ReadsBack x) : ReadsBack (.list xs) := by
  intro level r
  cases xs with
  | nil => exact .emptyList .none
  | cons x xs =>
    have hrest := reads_prettyItems (fun y hy => h y (List.mem_cons_of_mem x hy)) (level + 1)
      (newline level ++ ']' :: r) r (space_newline level _)
    have hx := h x List.mem_cons_self (level + 1)
      (prettyItems (level + 1) xs ++ (newline level ++ ']' :: r))
    simpa [prettyAt] using Reads.list (space_newline (level + 1) _) hx hrest

theorem reads_prettyMember {m : String × Json} (h : ReadsBack m.2) (level : Nat) (r : List Char) :
    Reads (.member m) (prettyMember level m ++ r) r := by
  obtain ⟨key, x⟩ := m
  have hkey := chars_literal key.toList (':' :: ' ' :: (prettyAt level x ++ r))
  have hmember := Reads.member hkey .none (.more rfl .none) (h level r)
  rw [String.ofList_toList] at hmember
  simpa [prettyMember, literal] using hmember

theorem reads_prettyMembers {ms : List (String × Json)} (h : ∀ m ∈ ms, ReadsBack m.2) (level : Nat)
    (t r : List Char) (hclose : Space t ('\x7d' :: r)) :
    Reads (.members ms) (prettyMembers level ms ++ t) r := by
  induction ms with
  | nil => exact .noMember hclose
  | cons m ms ih =>
    have hrest := ih fun n hn => h n (List.mem_cons_of_mem m hn)
    have hm := reads_prettyMember (h m List.mem_cons_self) level (prettyMembers level ms ++ t)
    have hnext := Reads.nextMember (.none (t := ',' :: _)) (space_newline level _) hm hrest
    simpa [prettyMembers] using hnext

theorem readsBack_object {ms : List (String × Json)} (h : ∀ m ∈ ms, ReadsBack m.2) :
    ReadsBack (.object ms) := by
  intro level r
  cases ms with
  | nil => exact .emptyObject .none
  | cons m ms =>
    have hrest := reads_prettyMembers (fun n hn => h n (List.mem_cons_of_mem m hn)) (level + 1)
      (newline level ++ '\x7d' :: r) r (space_newline level _)
    have hm := reads_prettyMember (h m List.mem_cons_self) (level + 1)
      (prettyMembers (level + 1) ms ++ (newline level ++ '\x7d' :: r))
    simpa [prettyAt] using Reads.object (space_newline (level + 1) _) hm hrest

/-- A value that is read back is what its text means, with a line break at the end. -/
theorem ReadsBack.means {x : Json} (h : ReadsBack x) :
    Means (String.ofList (x.pretty ++ ['\n'])).toList x := by
  rw [String.toList_ofList]
  exact ⟨_, ['\n'], .none, h 0 ['\n'], .more rfl .none⟩

end TableCatalog.Json
