import TableCatalog.Proofs.Json.Printer
import TableCatalog.Proofs.OrderedMap
import TableCatalog.Schema

/-!
# A document is determined by its text

A document is read from what its text means as JSON: an object is a map from the names of its
members, in their order, to what their values are read as. `Decodes` is the two steps together, text
to value and value to document. The text of a document decodes to it and to no other one, so no two
documents share a text.
-/

set_option autoImplicit false

namespace TableCatalog

/-! ## From values to documents -/

namespace Json

def textOf? : Json → Option String
  | .text s => some s
  | _ => none

theorem textOf?_text (s : String) : textOf? (.text s) = some s := rfl

def listOf? {α : Type} (item? : Json → Option α) : Json → Option (List α)
  | .list xs => xs.mapM item?
  | _ => none

/-- An object as a map. A name that comes again keeps its place and takes the later value. -/
def mapOf? {α : Type} (value? : Json → Option α) : Json → Option (OrderedMap String α)
  | .object ms => (ms.mapM fun m => (value? m.2).map fun a => (m.1, a)).map .ofList
  | _ => none

/-- The value of a member. -/
def member? (name : String) : Json → Option Json
  | .object ms => ms.lookup name
  | _ => none

theorem mapM_map_of_some {α β : Type} {f : α → β} {g : β → Option α} {xs : List α}
    (h : ∀ x ∈ xs, g (f x) = some x) : (xs.map f).mapM g = some xs := by
  induction xs with
  | nil => rfl
  | cons x xs ih =>
    have hrest := ih fun y hy => h y (List.mem_cons_of_mem x hy)
    rw [List.map_cons, List.mapM_cons, h x List.mem_cons_self, hrest]
    rfl

theorem mapOf?_object {α : Type} {value? : Json → Option α} {value : α → Json}
    (h : ∀ a, value? (value a) = some a) (m : OrderedMap String α) :
    mapOf? value? (.object (m.toList.map fun e => (e.1, value e.2))) = some m := by
  have hentries : (m.toList.map fun e => (e.1, value e.2)).mapM
      (fun m => (value? m.2).map fun a => (m.1, a)) = some m.toList := by
    refine mapM_map_of_some fun e _ => ?_
    rw [h, Option.map_some]
  rw [mapOf?, hentries, Option.map_some, OrderedMap.ofList_toList]

end Json

open Json

def Columns.ofJson? : Json → Option Columns := mapOf? textOf?

def Tables.ofJson? : Json → Option Tables := mapOf? Columns.ofJson?

def EnvironmentSchema.ofJson? (x : Json) : Option EnvironmentSchema := do
  let tables ← Tables.ofJson? (← x.member? "tables")
  let magicFunctions ← listOf? textOf? (← x.member? "magic_functions")
  return ⟨tables, magicFunctions⟩

def Document.ofJson? : Json → Option Document := mapOf? EnvironmentSchema.ofJson?

theorem Columns.ofJson?_toJson (columns : Columns) :
    Columns.ofJson? columns.toJson = some columns :=
  mapOf?_object textOf?_text columns

theorem Tables.ofJson?_toJson (tables : Tables) : Tables.ofJson? tables.toJson = some tables :=
  mapOf?_object Columns.ofJson?_toJson tables

theorem EnvironmentSchema.ofJson?_toJson (s : EnvironmentSchema) :
    EnvironmentSchema.ofJson? s.toJson = some s := by
  have htables : s.toJson.member? "tables" = some s.tables.toJson := rfl
  have hmagic : s.toJson.member? "magic_functions" = some (.list (s.magicFunctions.map .text)) :=
    rfl
  have hnames : (s.magicFunctions.map Json.text).mapM textOf? = some s.magicFunctions :=
    mapM_map_of_some fun name _ => textOf?_text name
  simp [EnvironmentSchema.ofJson?, htables, hmagic, Tables.ofJson?_toJson, listOf?, hnames]

theorem Document.ofJson?_toJson (d : Document) : Document.ofJson? d.toJson = some d :=
  mapOf?_object EnvironmentSchema.ofJson?_toJson d

/-! ## The text of a document -/

theorem Columns.readsBack (columns : Columns) : ReadsBack columns.toJson := by
  refine readsBack_object fun m hm => ?_
  obtain ⟨c, -, rfl⟩ := List.mem_map.1 hm
  exact readsBack_text c.2

theorem Tables.readsBack (tables : Tables) : ReadsBack tables.toJson := by
  refine readsBack_object fun m hm => ?_
  obtain ⟨t, -, rfl⟩ := List.mem_map.1 hm
  exact Columns.readsBack t.2

theorem EnvironmentSchema.readsBack (s : EnvironmentSchema) : ReadsBack s.toJson := by
  have hmagic : ReadsBack (.list (s.magicFunctions.map .text)) := by
    refine readsBack_list fun x hx => ?_
    obtain ⟨name, -, rfl⟩ := List.mem_map.1 hx
    exact readsBack_text name
  refine readsBack_object fun m hm => ?_
  rcases List.mem_cons.1 hm with rfl | hm
  · exact Tables.readsBack s.tables
  · obtain rfl := List.mem_singleton.1 hm
    exact hmagic

theorem Document.readsBack (d : Document) : ReadsBack d.toJson := by
  refine readsBack_object fun m hm => ?_
  obtain ⟨e, -, rfl⟩ := List.mem_map.1 hm
  exact EnvironmentSchema.readsBack e.2

namespace Document

/-- A text means a JSON value, and a document is read from that value. -/
def Decodes (text : String) (d : Document) : Prop :=
  ∃ x, Means text.toList x ∧ Document.ofJson? x = some d

theorem Decodes.unique {text : String} {d d' : Document} (h : Decodes text d)
    (h' : Decodes text d') : d = d' := by
  obtain ⟨x, hx, hd⟩ := h
  obtain ⟨x', hx', hd'⟩ := h'
  obtain rfl := hx.unique hx'
  exact Option.some.inj (hd.symm.trans hd')

theorem decodes_render (d : Document) : Decodes d.render d :=
  ⟨d.toJson, d.readsBack.means, d.ofJson?_toJson⟩

/-- The written form ends with the bracket of its object. -/
theorem getLast?_pretty (d : Document) : d.toJson.pretty.getLast? = some '\x7d' := by
  unfold toJson pretty
  cases d.toList.map fun e => (e.1, e.2.toJson) with
  | nil => rfl
  | cons m ms =>
    rw [prettyAt]
    exact List.getLast?_concat

/-- **A document is determined by its text.** The text is one JSON value and one line break, and it
decodes to the document and to no other, whatever the names and types are and in whatever order they
stand. -/
theorem render_value_and_decodes_iff (d : Document) :
    (∃ value, d.render.toList = value ++ ['\n'] ∧ value.getLast? = some '\x7d' ∧
      Reads (.value d.toJson) value []) ∧
    (∀ d', Decodes d.render d' ↔ d' = d) ∧ ∀ d' : Document, d'.render = d.render → d' = d := by
  refine ⟨⟨d.toJson.pretty, ?_, d.getLast?_pretty, ?_⟩, fun d' => ⟨?_, ?_⟩, fun d' h => ?_⟩
  · rw [render, String.toList_ofList]
  · have hvalue := d.readsBack 0 []
    rwa [List.append_nil] at hvalue
  · exact fun h => h.unique d.decodes_render
  · rintro rfl
    exact d'.decodes_render
  · exact (h ▸ d'.decodes_render).unique d.decodes_render

end Document

end TableCatalog
