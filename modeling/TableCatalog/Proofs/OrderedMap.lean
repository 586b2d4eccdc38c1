import Mathlib.Data.List.Basic
import Mathlib.Data.List.Forall2
import Mathlib.Data.List.Induction
import Mathlib.Data.List.Nodup
import TableCatalog.OrderedMap.Basic

/-!
# First position, last value

An ordered map answers two questions, `keys` and `get?`, and they determine it
(`eq_of_keys_of_get?`). So every law of a map is a pair: one equation for the order and one for the
values. For writing a list of entries they are

    keys    what was there and what was written, each key at its first place
    get?    the last entry written for the key, else what was there

and `overlay` and `ofList` are that list of writes with the entries taken from elsewhere. "Each at
its first place" is `List.eraseDups`, whose algebra comes first.
-/

set_option autoImplicit false

namespace TableCatalog

universe u v w

/-! ## Each at its first place -/

section FirstPlace

variable {κ : Type u} [DecidableEq κ]

theorem nodup_eraseDups : ∀ ks : List κ, ks.eraseDups.Nodup
  | [] => by simp
  | k :: ks => by
    rw [List.eraseDups_cons, List.nodup_cons]
    refine ⟨?_, nodup_eraseDups _⟩
    intro hk
    have hk' : k ∈ ks.filter fun b => !b == k := List.mem_eraseDups.1 hk
    simp at hk'
termination_by ks => ks.length
decreasing_by exact Nat.lt_succ_of_le (List.length_filter_le _ _)

theorem eraseDups_of_nodup {ks : List κ} (h : ks.Nodup) : ks.eraseDups = ks := by
  induction ks with
  | nil => rfl
  | cons k ks ih =>
    obtain ⟨hk, hks⟩ := List.nodup_cons.1 h
    have hf : ks.filter (fun b => !b == k) = ks :=
      List.filter_eq_self.2 fun b hb => by
        have : b ≠ k := fun hbk => hk (hbk ▸ hb)
        simp [this]
    rw [List.eraseDups_cons, hf, ih hks]

theorem eraseDups_eraseDups_append (ks ls : List κ) :
    (ks.eraseDups ++ ls).eraseDups = (ks ++ ls).eraseDups := by
  have hrem : ls.removeAll ks.eraseDups = ls.removeAll ks := by
    unfold List.removeAll
    refine List.filter_congr fun b _ => ?_
    simp [List.mem_eraseDups]
  rw [List.eraseDups_append, List.eraseDups_append, eraseDups_of_nodup (nodup_eraseDups ks), hrem]

/-- Keys that are there already add nothing. -/
theorem eraseDups_append_of_subset {ks ls : List κ} (h : ∀ l ∈ ls, l ∈ ks) :
    (ks ++ ls).eraseDups = ks.eraseDups := by
  have hnone : ls.removeAll ks = [] := by
    unfold List.removeAll
    exact List.filter_eq_nil_iff.2 fun l hl => by simpa using h l hl
  rw [List.eraseDups_append, hnone, List.eraseDups_nil, List.append_nil]

/-- Behind different keys come the keys of a second list that are new. -/
theorem eraseDups_append_of_nodup {ks ls : List κ} (hks : ks.Nodup) (hls : ls.Nodup) :
    (ks ++ ls).eraseDups = ks ++ ls.filter fun l => l ∉ ks := by
  have hnew : ls.removeAll ks = ls.filter fun l => l ∉ ks := by
    unfold List.removeAll
    exact List.filter_congr fun l _ => by simp
  rw [List.eraseDups_append, eraseDups_of_nodup hks, hnew, eraseDups_of_nodup (hls.filter _)]

/-- Different keys keep their places when more keys come behind them. -/
theorem prefix_eraseDups_append {ks : List κ} (h : ks.Nodup) (ls : List κ) :
    ks <+: (ks ++ ls).eraseDups := by
  rw [List.eraseDups_append, eraseDups_of_nodup h]
  exact List.prefix_append ks _

/-- One more key goes to the end if it is new. -/
theorem eraseDups_concat (ks : List κ) (k : κ) :
    (ks ++ [k]).eraseDups = if k ∈ ks then ks.eraseDups else ks.eraseDups ++ [k] := by
  rw [List.eraseDups_append]
  by_cases h : k ∈ ks <;> simp [List.removeAll, h, List.eraseDups_cons]

theorem eraseDups_append_eraseDups (ks ls : List κ) :
    (ks ++ ls.eraseDups).eraseDups = (ks ++ ls).eraseDups := by
  induction ls using List.reverseRecOn with
  | nil => rw [List.eraseDups_nil]
  | append_singleton ls l ih =>
    rw [eraseDups_concat, ← List.append_assoc, eraseDups_concat]
    by_cases hl : l ∈ ls
    · rw [if_pos hl, if_pos (List.mem_append_right _ hl), ih]
    · rw [if_neg hl, ← List.append_assoc, eraseDups_concat, ih]
      simp only [List.mem_append, List.mem_eraseDups]

theorem filter_eraseDups (p : κ → Bool) (ks : List κ) :
    ks.eraseDups.filter p = (ks.filter p).eraseDups := by
  induction ks using List.reverseRecOn with
  | nil => rfl
  | append_singleton ks k ih =>
    rw [eraseDups_concat, List.filter_append]
    by_cases hp : p k = true
    · rw [List.filter_cons_of_pos hp, List.filter_nil, eraseDups_concat, ← ih]
      by_cases hk : k ∈ ks
      · rw [if_pos hk, if_pos (List.mem_filter.2 ⟨hk, hp⟩)]
      · rw [if_neg hk, if_neg fun h => hk (List.mem_filter.1 h).1, List.filter_append,
          List.filter_cons_of_pos hp, List.filter_nil]
    · rw [List.filter_cons_of_neg hp, List.filter_nil, List.append_nil, ← ih]
      by_cases hk : k ∈ ks
      · rw [if_pos hk]
      · rw [if_neg hk, List.filter_append, List.filter_cons_of_neg hp, List.filter_nil,
          List.append_nil]

end FirstPlace

namespace OrderedMap

variable {κ : Type u} {α : Type v} [DecidableEq κ]

/-! ## The two questions -/

omit [DecidableEq κ] in
theorem nodup_keys (m : OrderedMap κ α) : m.keys.Nodup := m.nodupKeys

theorem get?_eq_lookup (m : OrderedMap κ α) (k : κ) : m.get? k = m.toList.lookup k := by
  unfold get?
  generalize m.toList = es
  induction es with
  | nil => rfl
  | cons e es ih =>
    obtain ⟨l, b⟩ := e
    rw [List.lookup_cons, List.find?_cons]
    by_cases h : l = k
    · simp [h]
    · have h' : (k == l) = false := by simpa using fun hk => h hk.symm
      simp only [h, h', decide_false]
      exact ih

/-- Where no key occurs twice, looking one up finds its only entry. -/
theorem lookup_eq_some_iff_mem {es : List (κ × α)} (hes : (es.map Prod.fst).Nodup) {k : κ} {a : α} :
    es.lookup k = some a ↔ (k, a) ∈ es := by
  induction es with
  | nil => simp
  | cons e es ih =>
    obtain ⟨l, b⟩ := e
    obtain ⟨hl, hes'⟩ := List.nodup_cons.1 hes
    rw [List.lookup_cons, List.mem_cons, Prod.mk.injEq]
    by_cases h : k = l
    · subst h
      have hno : (k, a) ∉ es := fun hm => hl (List.mem_map.2 ⟨_, hm, rfl⟩)
      simp [hno, eq_comm]
    · have h' : (k == l) = false := by simpa using h
      simp [h, h', ih hes']

theorem get?_eq_some_iff {m : OrderedMap κ α} {k : κ} {a : α} :
    m.get? k = some a ↔ (k, a) ∈ m.toList := by
  rw [get?_eq_lookup, lookup_eq_some_iff_mem m.nodupKeys]

/-- The order of the entries has no part in what a key stands for. -/
theorem get?_eq_of_perm {m n : OrderedMap κ α} (h : m.toList.Perm n.toList) (k : κ) :
    m.get? k = n.get? k := by
  refine Option.ext fun a => ?_
  rw [get?_eq_some_iff, get?_eq_some_iff, h.mem_iff]

theorem mem_keys_iff {m : OrderedMap κ α} {k : κ} : k ∈ m.keys ↔ ∃ a, m.get? k = some a := by
  simp [keys, get?_eq_some_iff]

@[simp] theorem get?_empty (k : κ) : (empty : OrderedMap κ α).get? k = none := rfl

omit [DecidableEq κ] in
@[simp] theorem keys_empty : (empty : OrderedMap κ α).keys = [] := rfl

/-- The entries are the keys, each with its value. -/
theorem toList_eq (m : OrderedMap κ α) :
    m.toList = m.keys.filterMap fun k => (m.get? k).map fun a => (k, a) := by
  have hself : m.toList.filterMap (fun e => (m.get? e.1).map fun a => (e.1, a)) =
      m.toList.filterMap some := by
    refine List.filterMap_congr fun e he => ?_
    rw [get?_eq_some_iff.2 he]
    rfl
  rw [keys, List.filterMap_map]
  exact (hself.trans List.filterMap_some).symm

/-- A map is determined by its keys, in order, and the value of each. -/
theorem eq_of_keys_of_get? {m n : OrderedMap κ α} (hk : m.keys = n.keys)
    (hg : ∀ k, m.get? k = n.get? k) : m = n := by
  refine OrderedMap.ext ?_
  rw [toList_eq m, toList_eq n, hk]
  simp only [hg]

/-! ## Writing -/

theorem keys_insert (m : OrderedMap κ α) (k : κ) (a : α) :
    (m.insert k a).keys = (m.keys ++ [k]).eraseDups := by
  rw [eraseDups_concat, eraseDups_of_nodup m.nodup_keys]
  exact map_fst_put k a m.toList

theorem get?_insert (m : OrderedMap κ α) (k l : κ) (a : α) :
    (m.insert k a).get? l = if k = l then some a else m.get? l := by
  unfold get?
  rw [toList_insert]
  generalize m.toList = es
  induction es with
  | nil => by_cases h : k = l <;> simp [put, h]
  | cons e es ih =>
    rw [put]
    -- the entry that is written may or may not be the one that is asked for
    by_cases hek : e.1 = k
    · by_cases hkl : k = l <;> simp [hek, hkl]
    · rw [if_neg hek, List.find?_cons, List.find?_cons]
      by_cases hel : e.1 = l
      · have hkl : k ≠ l := fun h => hek (hel.trans h.symm)
        simp [hel, hkl]
      · simp only [hel, decide_false]
        exact ih

/-- Writing entries one after the other adds the new keys in the order of the writes. -/
theorem keys_foldl_insert (es : List (κ × α)) (m : OrderedMap κ α) :
    (es.foldl (fun acc e => acc.insert e.1 e.2) m).keys =
      (m.keys ++ es.map Prod.fst).eraseDups := by
  induction es generalizing m with
  | nil => simp [eraseDups_of_nodup m.nodup_keys]
  | cons e es ih =>
    rw [List.foldl_cons, ih, keys_insert, eraseDups_eraseDups_append, List.map_cons,
      List.append_assoc, List.singleton_append]

/-- Of several entries written for a key the last one stays. -/
theorem get?_foldl_insert (es : List (κ × α)) (m : OrderedMap κ α) (k : κ) :
    (es.foldl (fun acc e => acc.insert e.1 e.2) m).get? k =
      (es.reverse.lookup k).or (m.get? k) := by
  induction es generalizing m with
  | nil => rfl
  | cons e es ih =>
    obtain ⟨l, b⟩ := e
    rw [List.foldl_cons, ih, get?_insert, List.reverse_cons, List.lookup_append, Option.or_assoc,
      List.lookup_cons, List.lookup_nil]
    congr 1
    by_cases h : l = k
    · simp [h]
    · have h' : (k == l) = false := by simpa using fun hk => h hk.symm
      simp [h, h']

/-- In a map's own list every entry is the last one of its key. -/
theorem lookup_reverse_toList (m : OrderedMap κ α) (k : κ) :
    m.toList.reverse.lookup k = m.get? k := by
  have hrev : (m.toList.reverse.map Prod.fst).Nodup := by
    rw [List.map_reverse]
    exact List.nodup_reverse.2 m.nodupKeys
  refine Option.ext fun a => ?_
  rw [lookup_eq_some_iff_mem hrev, List.mem_reverse, get?_eq_some_iff]

theorem keys_overlay (m n : OrderedMap κ α) :
    (m.overlay n).keys = (m.keys ++ n.keys).eraseDups := keys_foldl_insert n.toList m

theorem get?_overlay (m n : OrderedMap κ α) (k : κ) :
    (m.overlay n).get? k = (n.get? k).or (m.get? k) := by
  rw [overlay, get?_foldl_insert, lookup_reverse_toList]

theorem keys_ofList (es : List (κ × α)) :
    (ofList es).keys = (es.map Prod.fst).eraseDups := by
  rw [ofList, keys_foldl_insert, keys_empty, List.nil_append]

theorem get?_ofList (es : List (κ × α)) (k : κ) :
    (ofList es).get? k = es.reverse.lookup k := by
  rw [ofList, get?_foldl_insert, get?_empty, Option.or_none]

theorem get?_singleton (k l : κ) (a : α) :
    (ofList [(k, a)]).get? l = if k = l then some a else none := get?_insert empty k l a

theorem ofList_toList (m : OrderedMap κ α) : ofList m.toList = m := by
  refine eq_of_keys_of_get? ?_ fun k => ?_
  · rw [keys_ofList]
    exact eraseDups_of_nodup m.nodupKeys
  · rw [get?_ofList, lookup_reverse_toList]

/-- What has been written is among what was to be written. -/
theorem mem_of_mem_toList_ofList {es : List (κ × α)} {e : κ × α} (h : e ∈ (ofList es).toList) :
    e ∈ es := by
  have hlast : es.reverse.lookup e.1 = some e.2 := by
    rw [← get?_ofList]
    exact get?_eq_some_iff.2 h
  obtain ⟨later, earlier, hsplit, -⟩ := List.lookup_eq_some_iff.1 hlast
  rw [← List.mem_reverse, hsplit]
  exact List.mem_append_right later List.mem_cons_self

theorem empty_overlay (m : OrderedMap κ α) : empty.overlay m = m := ofList_toList m

/-- Writing two lists is laying the map of the second over the map of the first. -/
theorem ofList_append (es fs : List (κ × α)) :
    ofList (es ++ fs) = (ofList es).overlay (ofList fs) := by
  refine eq_of_keys_of_get? ?_ fun k => ?_
  · rw [keys_overlay, keys_ofList, keys_ofList, keys_ofList, eraseDups_eraseDups_append,
      eraseDups_append_eraseDups, List.map_append]
  · rw [get?_overlay, get?_ofList, get?_ofList, get?_ofList, List.reverse_append,
      List.lookup_append]

/-- Of three maps laid over each other it does not matter which two are put together first. -/
theorem overlay_overlay (m n o : OrderedMap κ α) :
    (m.overlay n).overlay o = m.overlay (n.overlay o) := by
  refine eq_of_keys_of_get? ?_ fun k => ?_
  · rw [keys_overlay, keys_overlay, keys_overlay, keys_overlay, eraseDups_eraseDups_append,
      eraseDups_append_eraseDups, List.append_assoc]
  · rw [get?_overlay, get?_overlay, get?_overlay, get?_overlay, Option.or_assoc]

/-- No key is moved: the new ones come behind those that were there. -/
theorem keys_prefix_overlay (m n : OrderedMap κ α) : m.keys <+: (m.overlay n).keys := by
  rw [keys_overlay]
  exact prefix_eraseDups_append m.nodup_keys _

theorem toList_insert_of_not_mem {m : OrderedMap κ α} {k : κ} (h : k ∉ m.keys) (a : α) :
    (m.insert k a).toList = m.toList ++ [(k, a)] := by
  rw [toList_insert]
  rw [keys] at h
  generalize m.toList = es at h ⊢
  induction es with
  | nil => rfl
  | cons e es ih =>
    rw [List.map_cons, List.mem_cons, not_or] at h
    rw [put, if_neg (Ne.symm h.1), ih h.2, List.cons_append]

/-! ## Keeping some of the keys -/

theorem filter_put (keep : κ → Bool) (k : κ) (a : α) (es : List (κ × α)) :
    (put k a es).filter (fun e => keep e.1) =
      if keep k = true then put k a (es.filter fun e => keep e.1)
      else es.filter fun e => keep e.1 := by
  induction es with
  | nil => by_cases hk : keep k = true <;> simp [put, hk]
  | cons e es ih =>
    by_cases hek : e.1 = k
    · subst hek
      by_cases hk : keep e.1 = true <;> simp [put, hk]
    · rw [put, if_neg hek, List.filter_cons, List.filter_cons, ih]
      by_cases he : keep e.1 = true
      · rw [if_pos he, if_pos he, put, if_neg hek]
        split <;> rfl
      · rw [if_neg he, if_neg he]

/-- Leaving out keys before writing is leaving them out afterwards. -/
theorem toList_foldl_insert_filter (keep : κ → Bool) (es : List (κ × α)) {m n : OrderedMap κ α}
    (h : n.toList = m.toList.filter fun e => keep e.1) :
    ((es.filter fun e => keep e.1).foldl (fun acc e => acc.insert e.1 e.2) n).toList =
      (es.foldl (fun acc e => acc.insert e.1 e.2) m).toList.filter fun e => keep e.1 := by
  induction es generalizing m n with
  | nil => exact h
  | cons e es ih =>
    have hput := filter_put keep e.1 e.2 m.toList
    rw [List.filter_cons, List.foldl_cons]
    by_cases he : keep e.1 = true
    · rw [if_pos he] at hput ⊢
      exact ih (by rw [toList_insert, toList_insert, hput, h])
    · rw [if_neg he] at hput ⊢
      exact ih (by rw [toList_insert, hput, h])

/-! ## Changing values -/

/-- Change every value in the light of its key, keeping keys and order. -/
def mapEntries {β : Type w} (f : κ → α → β) (m : OrderedMap κ α) : OrderedMap κ β :=
  ⟨m.toList.map fun e => (e.1, f e.1 e.2), by simpa [Function.comp_def] using m.nodupKeys⟩

omit [DecidableEq κ] in
theorem keys_mapEntries {β : Type w} (f : κ → α → β) (m : OrderedMap κ α) :
    (m.mapEntries f).keys = m.keys := by
  simp [keys, mapEntries]

theorem get?_mapEntries {β : Type w} (f : κ → α → β) (m : OrderedMap κ α) (k : κ) :
    (m.mapEntries f).get? k = (m.get? k).map (f k) := by
  refine Option.ext fun b => ?_
  simp only [get?_eq_some_iff, mapEntries, List.mem_map, Prod.mk.injEq, Option.map_eq_some_iff]
  constructor
  · rintro ⟨⟨l, a⟩, hmem, rfl, rfl⟩
    exact ⟨a, hmem, rfl⟩
  · rintro ⟨a, hmem, rfl⟩
    exact ⟨(k, a), hmem, rfl, rfl⟩

theorem get?_mapValues {β : Type w} (f : α → β) (m : OrderedMap κ α) (k : κ) :
    (m.mapValues f).get? k = (m.get? k).map f := get?_mapEntries (fun _ => f) m k

omit [DecidableEq κ] in
theorem mapEntries_self (m : OrderedMap κ α) : m.mapEntries (fun _ a => a) = m :=
  OrderedMap.ext (List.map_id m.toList)

/-- The first entry of a key is found in a changed list as it is in the list, if it is changed. -/
theorem lookup_of_forall₂ {β : Type w} {f : α → β} {k : κ} {found : Option α} {es : List (κ × α)}
    {es' : List (κ × β)} (h : List.Forall₂ (fun e e' => e'.1 = e.1 ∧
      (e.1 = k → found = some e.2 → e'.2 = f e.2)) es es') (hfound : es.lookup k = found) :
    es'.lookup k = found.map f := by
  induction h with
  | nil => rw [← hfound]; rfl
  | @cons e e' es es' he _ ih =>
    obtain ⟨l, a⟩ := e
    obtain ⟨l', b⟩ := e'
    obtain ⟨rfl, hb⟩ : l' = l ∧ (l = k → found = some a → b = f a) := he
    rw [List.lookup_cons] at hfound ⊢
    by_cases hk : k = l'
    · subst hk
      simp only [beq_self_eq_true] at hfound ⊢
      rw [hb rfl hfound.symm, ← hfound, Option.map_some]
    · have hk' : (k == l') = false := by simpa using hk
      rw [hk'] at hfound ⊢
      exact ih hfound

/-- Writing changed entries gives the changed map, if those that stay are changed as it says. Of
the entries that are written over nothing is asked. -/
theorem ofList_eq_mapEntries {β : Type w} {f : κ → α → β} {es : List (κ × α)}
    {es' : List (κ × β)} (h : List.Forall₂ (fun e e' => e'.1 = e.1 ∧
      ((ofList es).get? e.1 = some e.2 → e'.2 = f e.1 e.2)) es es') :
    ofList es' = (ofList es).mapEntries f := by
  have hkeys : es'.map Prod.fst = es.map Prod.fst := by
    generalize ofList es = m at h
    induction h with
    | nil => rfl
    | cons he _ ih => rw [List.map_cons, List.map_cons, he.1, ih]
  refine eq_of_keys_of_get? ?_ fun k => ?_
  · rw [keys_mapEntries, keys_ofList, keys_ofList, hkeys]
  · rw [get?_mapEntries, get?_ofList es']
    -- the last entry of the key decides on both sides, so the search starts from the end
    refine lookup_of_forall₂ ((List.forall₂_reverse_iff.2 h).imp fun e e' he => ⟨he.1, ?_⟩)
      (get?_ofList es k).symm
    rintro rfl
    exact he.2

/-! ## Several overlays -/

theorem keys_foldl_overlay (ns : List (OrderedMap κ α)) (m : OrderedMap κ α) :
    (ns.foldl overlay m).keys = (m.keys ++ ns.flatMap keys).eraseDups := by
  induction ns generalizing m with
  | nil => simp [eraseDups_of_nodup m.nodup_keys]
  | cons n ns ih =>
    rw [List.foldl_cons, ih, keys_overlay, eraseDups_eraseDups_append, List.flatMap_cons,
      List.append_assoc]

/-- Of several maps laid over each other the last one that has the key decides. -/
theorem get?_foldl_overlay (ns : List (OrderedMap κ α)) (m : OrderedMap κ α) (k : κ) :
    (ns.foldl overlay m).get? k = (ns.reverse.findSome? (·.get? k)).or (m.get? k) := by
  induction ns generalizing m with
  | nil => rfl
  | cons n ns ih =>
    rw [List.foldl_cons, ih, get?_overlay, List.reverse_cons, List.findSome?_append,
      Option.or_assoc]
    simp

end OrderedMap

end TableCatalog
