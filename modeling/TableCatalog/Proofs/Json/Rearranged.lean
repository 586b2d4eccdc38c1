import TableCatalog.Proofs.Document
import TableCatalog.Proofs.Json.Reader

/-!
# Members in another order

The order of the members of an object seems to be of no account, and for what a map answers it is
not, as long as no name comes twice. Of several members of one name the last one counts, and so
members of one name have to keep their order. `Rearranged` allows everything else, in every object of
a value at once: for each name it compares the members of that name, one after the other.

What a value is read as depends on its members name by name, so a rearranged value is read as
something that differs in its orders only (`Keeps`).
-/

set_option autoImplicit false

namespace TableCatalog

universe u v

/-- The values that a list of entries gives to a key, one after the other. -/
def valuesOf {κ : Type u} {α : Type v} [DecidableEq κ] (es : List (κ × α)) (k : κ) : List α :=
  (es.filter fun e => e.1 = k).map Prod.snd

section ValuesOf

variable {κ : Type u} {α : Type v} [DecidableEq κ]

theorem valuesOf_cons (e : κ × α) (es : List (κ × α)) (k : κ) :
    valuesOf (e :: es) k = if e.1 = k then e.2 :: valuesOf es k else valuesOf es k := by
  unfold valuesOf
  by_cases h : e.1 = k <;> simp [h]

/-- The last value of a key is the one that stays. -/
theorem OrderedMap.get?_ofList_eq_getLast? (es : List (κ × α)) (k : κ) :
    (OrderedMap.ofList es).get? k = (valuesOf es k).getLast? := by
  rw [OrderedMap.get?_ofList]
  induction es with
  | nil => rfl
  | cons e es ih =>
    obtain ⟨l, a⟩ := e
    rw [List.reverse_cons, List.lookup_append, ih, valuesOf_cons, List.lookup_cons,
      List.lookup_nil]
    by_cases h : l = k
    · have h' : (k == l) = true := by simpa using h.symm
      rw [if_pos h, h', List.getLast?_cons]
      cases (valuesOf es k).getLast? <;> rfl
    · have h' : (k == l) = false := by simpa using fun hk => h hk.symm
      rw [if_neg h, h', Option.or_none]

end ValuesOf

namespace Json

/-- The same value but for the order of members that have different names. -/
inductive Rearranged : Json → Json → Prop
  | text (s : String) : Rearranged (.text s) (.text s)
  | count (n : Nat) : Rearranged (.count n) (.count n)
  | list {xs ys : List Json} (items : List.Forall₂ Rearranged xs ys) :
    Rearranged (.list xs) (.list ys)
  /-- Name by name the values are the same but for their orders. -/
  | object {ms ns : List (String × Json)}
    (members : ∀ name, List.Forall₂ Rearranged (valuesOf ms name) (valuesOf ns name)) :
    Rearranged (.object ms) (.object ns)

/-- What a rearranged value is read as is related to what the value is read as. -/
def Keeps {α : Type} (value? : Json → Option α) (R : α → α → Prop) : Prop :=
  ∀ ⦃x y : Json⦄ ⦃a : α⦄, Rearranged x y → value? x = some a → ∃ b, value? y = some b ∧ R a b

theorem keeps_text : Keeps textOf? Eq := by
  rintro x y a hxy hx
  cases hxy with
  | text s => exact ⟨a, hx, rfl⟩
  | count | list | object => simp [textOf?] at hx

section Object

variable {α : Type} {value? : Json → Option α} {R : α → α → Prop}

theorem valuesOf_entries? {ms : List (String × Json)} {es : List (String × α)}
    (h : entries? value? ms = some es) (name : String) :
    List.Forall₂ (fun x a => value? x = some a) (valuesOf ms name) (valuesOf es name) := by
  induction ms generalizing es with
  | nil =>
    obtain rfl : es = [] := (Option.some.inj h).symm
    exact .nil
  | cons m ms ih =>
    obtain ⟨a, rest, ha, hrest, rfl⟩ := entries?_cons.1 h
    rw [valuesOf_cons, valuesOf_cons]
    by_cases hname : m.1 = name
    · rw [if_pos hname, if_pos hname]
      exact .cons ha (ih hrest)
    · rw [if_neg hname, if_neg hname]
      exact ih hrest

/-- Members can be read if those of each name can. -/
theorem exists_entries? {ms : List (String × Json)}
    (h : ∀ name, ∃ as : List α,
      List.Forall₂ (fun x a => value? x = some a) (valuesOf ms name) as) :
    ∃ es, entries? value? ms = some es := by
  induction ms with
  | nil => exact ⟨[], rfl⟩
  | cons m ms ih =>
    obtain ⟨as, has⟩ := h m.1
    rw [valuesOf_cons, if_pos rfl] at has
    obtain ⟨a, _, ha, -, -⟩ := List.forall₂_cons_left_iff.1 has
    obtain ⟨es, hes⟩ := ih fun name => by
      obtain ⟨as, has⟩ := h name
      rw [valuesOf_cons] at has
      -- the first member may be one of the name, and then it is left out
      by_cases hname : m.1 = name
      · rw [if_pos hname] at has
        obtain ⟨_, as', -, has', -⟩ := List.forall₂_cons_left_iff.1 has
        exact ⟨as', has'⟩
      · rw [if_neg hname] at has
        exact ⟨as, has⟩
    refine ⟨(m.1, a) :: es, ?_⟩
    unfold entries? at hes ⊢
    rw [List.mapM_cons, ha, hes]
    rfl

/-- Values that are rearranged one by one are read as things that are related one by one. -/
theorem Keeps.forall₂ (hvalue : Keeps value? R) {xs ys : List Json} {as : List α}
    (hxy : List.Forall₂ Rearranged xs ys)
    (hx : List.Forall₂ (fun x a => value? x = some a) xs as) :
    ∃ bs, List.Forall₂ (fun y b => value? y = some b) ys bs ∧ List.Forall₂ R as bs := by
  induction hxy generalizing as with
  | nil =>
    cases hx
    exact ⟨[], .nil, .nil⟩
  | cons hfirst _ ih =>
    cases hx with
    | cons ha has =>
      obtain ⟨bs, hbs, hrel⟩ := ih has
      obtain ⟨b, hb, hab⟩ := hvalue hfirst ha
      exact ⟨b :: bs, .cons hb hbs, .cons hab hrel⟩

theorem rel_getLast? {as bs : List α} (h : List.Forall₂ R as bs) :
    Option.Rel R as.getLast? bs.getLast? := by
  have hhead {as bs : List α} (h : List.Forall₂ R as bs) : Option.Rel R as.head? bs.head? := by
    cases h with
    | nil => exact .none
    | cons hab _ => exact .some hab
  rw [← List.head?_reverse, ← List.head?_reverse]
  exact hhead (List.forall₂_reverse_iff.2 h)

theorem rel_cases {β : Type} {S : α → β → Prop} {a? : Option α} {b? : Option β}
    (h : Option.Rel S a? b?) :
    a? = none ∧ b? = none ∨ ∃ a b, a? = some a ∧ b? = some b ∧ S a b := by
  cases h with
  | none => exact .inl ⟨rfl, rfl⟩
  | some hab => exact .inr ⟨_, _, rfl, rfl, hab⟩

/-- **An object is read as a map, and a rearranged one as a map that answers alike.** -/
theorem Keeps.object (hvalue : Keeps value? R) :
    Keeps (mapOf? value?) fun m n => ∀ k, Option.Rel R (m.get? k) (n.get? k) := by
  rintro x y m hxy hx
  cases hxy with
  | text | count | list => simp [mapOf?] at hx
  | @object ms ns hmembers =>
    obtain ⟨es, hes, rfl⟩ := Option.map_eq_some_iff.1 hx
    have hrelated (name : String) := hvalue.forall₂ (hmembers name) (valuesOf_entries? hes name)
    obtain ⟨fs, hfs⟩ := exists_entries? fun name =>
      (hrelated name).imp fun _ hbs => hbs.1
    refine ⟨.ofList fs, Option.map_eq_some_iff.2 ⟨fs, hfs, rfl⟩, fun k => ?_⟩
    obtain ⟨bs, hbs, hrel⟩ := hrelated k
    obtain rfl : bs = valuesOf fs k := List.right_unique_forall₂'
      (fun _ _ _ hb hb' => Option.some.inj (hb.symm.trans hb')) hbs (valuesOf_entries? hfs k)
    rw [OrderedMap.get?_ofList_eq_getLast?, OrderedMap.get?_ofList_eq_getLast?]
    exact rel_getLast? hrel

end Object

end Json

end TableCatalog
