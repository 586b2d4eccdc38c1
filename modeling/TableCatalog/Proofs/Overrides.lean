import TableCatalog.Overrides
import TableCatalog.Proofs.Json.Refusal

/-!
# What an override file says

The text of an override file is read as what it means: any JSON text of environments, tables,
columns and types, however it is laid out, and so the text that `Overrides.render` writes. Every
other text is refused, and only such texts are complained about (`Overrides.complaint`). Reading
undoes writing, with every order and whatever the names and types are.
-/

set_option autoImplicit false

namespace TableCatalog.Overrides

open Json

/-- The environments that a JSON value gives, each with its tables. -/
def environmentsOf? : Json → Option (OrderedMap String Tables) := mapOf? Tables.ofJson?

/-- Environments with their tables as a JSON value. -/
def environmentsJson (environments : OrderedMap String Tables) : Json :=
  .object (environments.toList.map fun e => (e.1, Tables.toJson e.2))

theorem environmentsOf?_environmentsJson (environments : OrderedMap String Tables) :
    environmentsOf? (environmentsJson environments) = some environments :=
  mapOf?_object Tables.ofJson?_toJson environments

theorem accepts_reader : Reader.Accepts reader environmentsOf? := accepts_text.object.object.object

theorem sound_reader : Reader.Sound reader environmentsOf? := sound_text.object.object.object

/-- A text is an object of objects of objects of texts, and gives these environments. -/
def Says (text : String) (environments : OrderedMap String Tables) : Prop :=
  ∃ x, Means text.toList x ∧ environmentsOf? x = some environments

section Text

variable {text : String} {environments : OrderedMap String Tables}

theorem whole_ok_iff : reader.whole text.toList = .ok environments ↔ Says text environments :=
  Reader.whole_ok_iff accepts_reader sound_reader

/-- Whether a text is an object of objects of objects of texts is found out by reading it. -/
instance (text : String) : Decidable (∃ environments, Says text environments) :=
  match h : reader.whole text.toList with
  | .ok environments => .isTrue ⟨environments, whole_ok_iff.1 h⟩
  | .error _ => .isFalse fun ⟨_, hsays⟩ => by simp [whole_ok_iff.2 hsays] at h

/-- What the reader complains about in a text that is no such object. -/
def complaint (h : ¬ ∃ environments, Says text environments) : Complaint :=
  match hread : reader.whole text.toList with
  | .ok environments => absurd ⟨environments, whole_ok_iff.1 hread⟩ h
  | .error complaint => complaint

/-- **An override file is read as what its text means**, and nothing else is. -/
theorem ofJson_ok_iff {path : Path} {o : Overrides} :
    ofJson text path = .ok o ↔ o.path = path ∧ Says text o.environments := by
  rw [← whole_ok_iff, ofJson]
  cases reader.whole text.toList with
  | ok environments =>
    obtain ⟨environments', path'⟩ := o
    simp only [Except.ok.injEq, mk.injEq]
    exact ⟨fun ⟨h, h'⟩ => ⟨h'.symm, h⟩, fun ⟨h, h'⟩ => ⟨h', h.symm⟩⟩
  | error complaint => simp

theorem ofJson_of_says (h : Says text environments) (path : Path) :
    ofJson text path = .ok ⟨environments, path⟩ := ofJson_ok_iff.2 ⟨rfl, h⟩

theorem ofJson_of_not_says (h : ¬ ∃ environments, Says text environments) (path : Path) :
    ofJson text path = .error (.badOverrides path (complaint h)) := by
  unfold ofJson complaint
  split
  · next environments hread => exact absurd ⟨environments, whole_ok_iff.1 hread⟩ h
  · next hread =>
    split
    · next hread' => simp [hread] at hread'
    · next hread' =>
      rw [hread] at hread'
      rw [Except.error.inj hread']

end Text

theorem ofJson_of_means {text : String} {x : Json} {environments : OrderedMap String Tables}
    (hmeans : Means text.toList x) (hx : environmentsOf? x = some environments) (path : Path) :
    ofJson text path = .ok ⟨environments, path⟩ := ofJson_of_says ⟨x, hmeans, hx⟩ path

theorem readsBack_environmentsJson (environments : OrderedMap String Tables) :
    ReadsBack (environmentsJson environments) := by
  apply readsBack_object
  intro m hm
  obtain ⟨e, -, rfl⟩ := List.mem_map.1 hm
  exact Tables.readsBack e.2

theorem means_render (environments : OrderedMap String Tables) :
    Means (render environments).toList (environmentsJson environments) :=
  (readsBack_environmentsJson environments).means

/-- **Reading undoes writing.** -/
theorem ofJson_render (environments : OrderedMap String Tables) (path : Path) :
    ofJson (render environments) path = .ok ⟨environments, path⟩ :=
  ofJson_of_means (means_render environments) (environmentsOf?_environmentsJson environments) path

section Entries

variable {o : Overrides} {name : String} {tables : Tables} {err : CatalogError}

theorem tablesFor_ok_iff :
    o.tablesFor name = .ok tables ↔ (name, tables) ∈ o.environments.toList := by
  rw [← OrderedMap.get?_eq_some_iff, tablesFor]
  cases o.environments.get? name <;> simp

theorem tablesFor_error_iff :
    o.tablesFor name = .error err ↔
      name ∉ o.environments.keys ∧ err = .missingOverrides o.path name := by
  rw [OrderedMap.mem_keys_iff, tablesFor]
  cases o.environments.get? name <;> simp [eq_comm]

end Entries

theorem load_of_readText {t : FileTree} {path : Path} {environments : OrderedMap String Tables}
    (h : t.readText path = .ok (render environments)) : load t path = .ok ⟨environments, path⟩ := by
  rw [load, h]
  exact ofJson_render environments path

/-- **What is written is found again.** The text of environments with their tables is their JSON
value over several lines, and a line break. It is read whatever the path, and then every
environment that was written has the tables it had, in their order and with their columns in
theirs, and every other name is reported as missing. -/
theorem tablesFor_ofJson_render (environments : OrderedMap String Tables) (path : Path) :
    ((render environments).toList = (environmentsJson environments).pretty ++ ['\n'] ∧
      Reads (.value (environmentsJson environments)) (environmentsJson environments).pretty []) ∧
    ∃ o, ofJson (render environments) path = .ok o ∧
      (∀ name tables, o.tablesFor name = .ok tables ↔ (name, tables) ∈ environments.toList) ∧
      ∀ name err, o.tablesFor name = .error err ↔
        name ∉ environments.keys ∧ err = .missingOverrides path name := by
  constructor
  · have hvalue := readsBack_environmentsJson environments 0 []
    rw [List.append_nil] at hvalue
    exact ⟨String.toList_ofList, hvalue⟩
  · exact ⟨_, ofJson_render environments path, fun name tables => tablesFor_ok_iff,
      fun name err => tablesFor_error_iff⟩

end TableCatalog.Overrides
