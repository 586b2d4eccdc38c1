import Mathlib.Data.Option.Basic
import TableCatalog.Json.Cursor
import TableCatalog.Json.Printer

/-!
# What a JSON text means

The grammar of JSON as a relation between a text, what it means and what is left behind it. A
literal is read by `Chars`, with every escape the format knows and any character from U+0020 on; a
value, what stands behind the first item of a list, a member, and what stands behind the first
member of an object are the four phrases that `Reads` reads. The members of an object come in the
order of the text. Numbers and the three words are left out: they begin with characters that no
text, list or object begins with, so they take no meaning away from one and give none to one.

The grammar leaves no choice. A phrase and its end are determined by the text (`Reads.unique`), so
`Means` is a partial function: what one reader of the format makes of a text, every other makes of
it too.
-/

set_option autoImplicit false

namespace TableCatalog.Json

/-! ## The grammar -/

/-- Some of the space at the beginning of a text is passed over. -/
inductive Space : List Char → List Char → Prop
  | none {t : List Char} : Space t t
  | more {c : Char} {t u : List Char} : isSpace c = true → Space t u → Space (c :: t) u

/-- The number that four hexadecimal digits spell. -/
def unit? (a b c d : Char) : Option Nat := do
  return ((← hexValue? a) * 16 + (← hexValue? b)) * 256 + ((← hexValue? c) * 16 + (← hexValue? d))

/-- The characters of a literal whose opening quote has been passed, up to its closing quote. -/
inductive Chars : List Char → List Char → List Char → Prop
  | close {r : List Char} : Chars ('"' :: r) [] r
  | plain {x : Char} {t cs r : List Char} : x ≠ '"' → x ≠ '\\' → 0x20 ≤ x.toNat →
      Chars t cs r → Chars (x :: t) (x :: cs) r
  | letter {x y : Char} {t cs r : List Char} : shortEscape? x = some y →
      Chars t cs r → Chars ('\\' :: x :: t) (y :: cs) r
  | unit {a b c d : Char} {n : Nat} {t cs r : List Char} : unit? a b c d = some n →
      n < 0xD800 ∨ 0xDFFF < n →
      Chars t cs r → Chars ('\\' :: 'u' :: a :: b :: c :: d :: t) (Char.ofNat n :: cs) r
  | pair {a b c d a' b' c' d' : Char} {n n' : Nat} {t cs r : List Char} :
      unit? a b c d = some n → 0xD800 ≤ n → n ≤ 0xDBFF →
      unit? a' b' c' d' = some n' → 0xDC00 ≤ n' → n' ≤ 0xDFFF →
      Chars t cs r →
      Chars ('\\' :: 'u' :: a :: b :: c :: d :: '\\' :: 'u' :: a' :: b' :: c' :: d' :: t)
        (Char.ofNat (0x10000 + (n - 0xD800) * 0x400 + (n' - 0xDC00)) :: cs) r

/-- A part of a JSON text and what it means. -/
inductive Phrase where
  | value (x : Json)
  | items (xs : List Json)
  | member (m : String × Json)
  | members (ms : List (String × Json))

/-- What part of a text a phrase is. -/
inductive Phrase.Kind
  | value
  | items
  | member
  | members
deriving DecidableEq

def Phrase.kind : Phrase → Phrase.Kind
  | .value _ => .value
  | .items _ => .items
  | .member _ => .member
  | .members _ => .members

/-- A phrase stands at the beginning of a text, and a rest is left behind it. -/
inductive Reads : Phrase → List Char → List Char → Prop
  | text {t cs r : List Char} : Chars t cs r → Reads (.value (.text (.ofList cs))) ('"' :: t) r
  | emptyList {t r : List Char} : Space t (']' :: r) → Reads (.value (.list [])) ('[' :: t) r
  | list {x : Json} {xs : List Json} {t u v r : List Char} : Space t u → Reads (.value x) u v →
      Reads (.items xs) v r → Reads (.value (.list (x :: xs))) ('[' :: t) r
  | noItem {t r : List Char} : Space t (']' :: r) → Reads (.items []) t r
  | item {x : Json} {xs : List Json} {t u v w r : List Char} : Space t (',' :: u) → Space u v →
      Reads (.value x) v w → Reads (.items xs) w r → Reads (.items (x :: xs)) t r
  | emptyObject {t r : List Char} : Space t ('\x7d' :: r) →
      Reads (.value (.object [])) ('\x7b' :: t) r
  | object {m : String × Json} {ms : List (String × Json)} {t u v r : List Char} : Space t u →
      Reads (.member m) u v → Reads (.members ms) v r →
      Reads (.value (.object (m :: ms))) ('\x7b' :: t) r
  | noMember {t r : List Char} : Space t ('\x7d' :: r) → Reads (.members []) t r
  | nextMember {m : String × Json} {ms : List (String × Json)} {t u v w r : List Char} :
      Space t (',' :: u) → Space u v → Reads (.member m) v w → Reads (.members ms) w r →
      Reads (.members (m :: ms)) t r
  | member {x : Json} {t key u v w r : List Char} : Chars t key u → Space u (':' :: v) →
      Space v w → Reads (.value x) w r → Reads (.member (.ofList key, x)) ('"' :: t) r

/-- A whole text is one value, with nothing but space around it. -/
def Means (text : List Char) (x : Json) : Prop :=
  ∃ t r, Space text t ∧ Reads (.value x) t r ∧ Space r []

/-! ## The grammar leaves no choice -/

theorem Space.unique {t u u' : List Char} {c c' : Char} (h : Space t (c :: u))
    (h' : Space t (c' :: u')) (hc : isSpace c = false) (hc' : isSpace c' = false) :
    c = c' ∧ u = u' := by
  generalize hv : c :: u = v at h
  induction h with
  | none =>
    subst hv
    cases h' with
    | none => exact ⟨rfl, rfl⟩
    | more hspace _ =>
      rw [hc] at hspace
      exact absurd hspace (by simp)
  | more hspace _ ih =>
    cases h' with
    | none =>
      rw [hc'] at hspace
      exact absurd hspace (by simp)
    | more _ h' => exact ih h' hv

theorem shortEscape?_u : shortEscape? 'u' = none := by decide

theorem Chars.unique {t cs cs' r r' : List Char} (h : Chars t cs r) (h' : Chars t cs' r') :
    cs = cs' ∧ r = r' := by
  induction h generalizing cs' with
  | close =>
    cases h' with
    | close => exact ⟨rfl, rfl⟩
    | plain hquote => exact absurd rfl hquote
  | plain hquote hslash _ _ ih =>
    cases h' with
    | close => exact absurd rfl hquote
    | plain _ _ _ h' =>
      obtain ⟨rfl, hr⟩ := ih h'
      exact ⟨rfl, hr⟩
    | letter => exact absurd rfl hslash
    | unit => exact absurd rfl hslash
    | pair => exact absurd rfl hslash
  | letter hletter _ ih =>
    cases h' with
    | plain _ hslash => exact absurd rfl hslash
    | letter hletter' h' =>
      obtain ⟨rfl, hr⟩ := ih h'
      obtain rfl := Option.some.inj (hletter.symm.trans hletter')
      exact ⟨rfl, hr⟩
    | unit => exact absurd hletter (by simp [shortEscape?_u])
    | pair => exact absurd hletter (by simp [shortEscape?_u])
  | unit hunit hrange _ ih =>
    cases h' with
    | plain _ hslash => exact absurd rfl hslash
    | letter hletter => exact absurd hletter (by simp [shortEscape?_u])
    | unit hunit' _ h' =>
      obtain ⟨rfl, hr⟩ := ih h'
      obtain rfl := Option.some.inj (hunit.symm.trans hunit')
      exact ⟨rfl, hr⟩
    | pair hunit' hlow hhigh =>
      obtain rfl := Option.some.inj (hunit.symm.trans hunit')
      omega
  | pair hlead hlow hhigh htrail _ _ _ ih =>
    cases h' with
    | plain _ hslash => exact absurd rfl hslash
    | letter hletter => exact absurd hletter (by simp [shortEscape?_u])
    | unit hunit hrange =>
      obtain rfl := Option.some.inj (hlead.symm.trans hunit)
      omega
    | pair hlead' _ _ htrail' _ _ h' =>
      obtain ⟨rfl, hr⟩ := ih h'
      obtain rfl := Option.some.inj (hlead.symm.trans hlead')
      obtain rfl := Option.some.inj (htrail.symm.trans htrail')
      exact ⟨rfl, hr⟩

/-- A value begins with one of three characters, and none of them is space or closes a list. -/
theorem Reads.value_head {x : Json} {t r : List Char} (h : Reads (.value x) t r) :
    ∃ c u, t = c :: u ∧ isSpace c = false ∧ c ≠ ']' := by
  cases h with
  | text => exact ⟨_, _, rfl, by decide, by decide⟩
  | emptyList => exact ⟨_, _, rfl, by decide, by decide⟩
  | list => exact ⟨_, _, rfl, by decide, by decide⟩
  | emptyObject => exact ⟨_, _, rfl, by decide, by decide⟩
  | object => exact ⟨_, _, rfl, by decide, by decide⟩

theorem Reads.member_head {m : String × Json} {t r : List Char} (h : Reads (.member m) t r) :
    ∃ u, t = '"' :: u := by
  cases h with
  | member => exact ⟨_, rfl⟩

/-- Two values behind the same space begin at the same place. -/
theorem Space.value_unique {t u u' r r' : List Char} {x x' : Json} (h : Space t u)
    (hx : Reads (.value x) u r) (h' : Space t u') (hx' : Reads (.value x') u' r') : u = u' := by
  obtain ⟨c, v, rfl, hc, -⟩ := hx.value_head
  obtain ⟨c', v', rfl, hc', -⟩ := hx'.value_head
  obtain ⟨rfl, rfl⟩ := h.unique h' hc hc'
  rfl

theorem Space.member_unique {t u u' r r' : List Char} {m m' : String × Json} (h : Space t u)
    (hm : Reads (.member m) u r) (h' : Space t u') (hm' : Reads (.member m') u' r') : u = u' := by
  obtain ⟨v, rfl⟩ := hm.member_head
  obtain ⟨v', rfl⟩ := hm'.member_head
  obtain ⟨-, rfl⟩ := h.unique h' (by decide) (by decide)
  rfl

/-- **A phrase is determined by the text it begins**, and so is the place where it ends. -/
theorem Reads.unique {p p' : Phrase} {t r r' : List Char} (h : Reads p t r) (h' : Reads p' t r')
    (hkind : p.kind = p'.kind) : p = p' ∧ r = r' := by
  induction h generalizing p' r' with
  | text hchars =>
    cases h' with
    | text hchars' =>
      obtain ⟨rfl, rfl⟩ := hchars.unique hchars'
      exact ⟨rfl, rfl⟩
    | _ => cases hkind
  | emptyList hclose =>
    cases h' with
    | emptyList hclose' =>
      obtain ⟨-, rfl⟩ := hclose.unique hclose' (by decide) (by decide)
      exact ⟨rfl, rfl⟩
    | list hspace hx =>
      obtain ⟨c, u, rfl, hc, hne⟩ := hx.value_head
      exact absurd (hclose.unique hspace (by decide) hc).1.symm hne
    | _ => cases hkind
  | list hspace hx _ ihx ihxs =>
    cases h' with
    | emptyList hclose =>
      obtain ⟨c, u, rfl, hc, hne⟩ := hx.value_head
      exact absurd (hclose.unique hspace (by decide) hc).1.symm hne
    | list hspace' hx' hxs' =>
      obtain rfl := hspace.value_unique hx hspace' hx'
      obtain ⟨hvalue, rfl⟩ := ihx hx' rfl
      obtain ⟨hitems, rfl⟩ := ihxs hxs' rfl
      cases hvalue
      cases hitems
      exact ⟨rfl, rfl⟩
    | _ => cases hkind
  | noItem hclose =>
    cases h' with
    | noItem hclose' =>
      obtain ⟨-, rfl⟩ := hclose.unique hclose' (by decide) (by decide)
      exact ⟨rfl, rfl⟩
    | item hcomma => exact absurd (hclose.unique hcomma (by decide) (by decide)).1 (by decide)
    | _ => cases hkind
  | item hcomma hspace hx _ ihx ihxs =>
    cases h' with
    | noItem hclose => exact absurd (hclose.unique hcomma (by decide) (by decide)).1 (by decide)
    | item hcomma' hspace' hx' hxs' =>
      obtain ⟨-, rfl⟩ := hcomma.unique hcomma' (by decide) (by decide)
      obtain rfl := hspace.value_unique hx hspace' hx'
      obtain ⟨hvalue, rfl⟩ := ihx hx' rfl
      obtain ⟨hitems, rfl⟩ := ihxs hxs' rfl
      cases hvalue
      cases hitems
      exact ⟨rfl, rfl⟩
    | _ => cases hkind
  | emptyObject hclose =>
    cases h' with
    | emptyObject hclose' =>
      obtain ⟨-, rfl⟩ := hclose.unique hclose' (by decide) (by decide)
      exact ⟨rfl, rfl⟩
    | object hspace hm =>
      obtain ⟨u, rfl⟩ := hm.member_head
      exact absurd (hclose.unique hspace (by decide) (by decide)).1 (by decide)
    | _ => cases hkind
  | object hspace hm _ ihm ihms =>
    cases h' with
    | emptyObject hclose =>
      obtain ⟨u, rfl⟩ := hm.member_head
      exact absurd (hclose.unique hspace (by decide) (by decide)).1 (by decide)
    | object hspace' hm' hms' =>
      obtain rfl := hspace.member_unique hm hspace' hm'
      obtain ⟨hmember, rfl⟩ := ihm hm' rfl
      obtain ⟨hmembers, rfl⟩ := ihms hms' rfl
      cases hmember
      cases hmembers
      exact ⟨rfl, rfl⟩
    | _ => cases hkind
  | noMember hclose =>
    cases h' with
    | noMember hclose' =>
      obtain ⟨-, rfl⟩ := hclose.unique hclose' (by decide) (by decide)
      exact ⟨rfl, rfl⟩
    | nextMember hcomma =>
      exact absurd (hclose.unique hcomma (by decide) (by decide)).1 (by decide)
    | _ => cases hkind
  | nextMember hcomma hspace hm _ ihm ihms =>
    cases h' with
    | noMember hclose => exact absurd (hclose.unique hcomma (by decide) (by decide)).1 (by decide)
    | nextMember hcomma' hspace' hm' hms' =>
      obtain ⟨-, rfl⟩ := hcomma.unique hcomma' (by decide) (by decide)
      obtain rfl := hspace.member_unique hm hspace' hm'
      obtain ⟨hmember, rfl⟩ := ihm hm' rfl
      obtain ⟨hmembers, rfl⟩ := ihms hms' rfl
      cases hmember
      cases hmembers
      exact ⟨rfl, rfl⟩
    | _ => cases hkind
  | member hkey hcolon hspace hx ihx =>
    cases h' with
    | member hkey' hcolon' hspace' hx' =>
      obtain ⟨rfl, rfl⟩ := hkey.unique hkey'
      obtain ⟨-, rfl⟩ := hcolon.unique hcolon' (by decide) (by decide)
      obtain rfl := hspace.value_unique hx hspace' hx'
      obtain ⟨hvalue, rfl⟩ := ihx hx' rfl
      cases hvalue
      exact ⟨rfl, rfl⟩
    | _ => cases hkind

theorem Means.unique {text : List Char} {x x' : Json} (h : Means text x) (h' : Means text x') :
    x = x' := by
  obtain ⟨t, r, hspace, hx, -⟩ := h
  obtain ⟨t', r', hspace', hx', -⟩ := h'
  obtain rfl := hspace.value_unique hx hspace' hx'
  obtain ⟨hvalue, -⟩ := hx.unique hx' rfl
  cases hvalue
  rfl

end TableCatalog.Json
