import TableCatalog.ColumnType
import TableCatalog.Proofs.Text.Lowercase

/-!
# The normal form of a column type

`ColumnType.normalize` lower-cases a spelling and writes `long` for `bigint`. The result is its own
normal form: lower-casing has nothing left to do (`Text.lower_lower`), and `bigint` cannot come back,
since it would have to be a lower case, and then it is written `long`. Nor does anything get into a
type that was not in the spelling, small letters apart.

So only a spelling out of ASCII letters can be read as a scalar type: a name of one has no `k`, the
one letter that another alphabet has a capital for (`Text.lowerFrom_eq_iff`).
-/

set_option autoImplicit false

namespace TableCatalog.ColumnType

open Text

/-- A type is the lower case of its spelling, or that lower case is `bigint` and the type `long`. -/
theorem normalize_cases (spelling : String) :
    lower spelling.toList = "bigint".toList ∧ normalize spelling = "long" ∨
      lower spelling.toList ≠ "bigint".toList ∧
        (normalize spelling).toList = lower spelling.toList := by
  unfold normalize
  dsimp only
  split
  · next hbigint =>
    left
    rw [← hbigint, String.toList_ofList]
    exact ⟨rfl, rfl⟩
  · next hother =>
    right
    refine ⟨?_, String.toList_ofList⟩
    intro hbigint
    rw [hbigint, String.ofList_toList] at hother
    exact hother rfl

theorem lower_normalize (spelling : String) :
    lower (normalize spelling).toList = (normalize spelling).toList := by
  rcases normalize_cases spelling with ⟨-, hlong⟩ | ⟨-, hlower⟩
  · rw [hlong]
    rfl
  · rw [hlower, lower_lower]

theorem normalize_ne_bigint (spelling : String) : normalize spelling ≠ "bigint" := by
  intro hbigint
  rcases normalize_cases spelling with ⟨-, hlong⟩ | ⟨hother, hlower⟩
  · rw [hlong] at hbigint
    exact absurd hbigint (by decide)
  · rw [hbigint] at hlower
    exact hother hlower.symm

/-- **Normalizing a type again changes nothing.** -/
theorem normalize_normalize (spelling : String) :
    normalize (normalize spelling) = normalize spelling := by
  rcases normalize_cases (normalize spelling) with ⟨hbigint, -⟩ | ⟨-, hlower⟩
  · rw [lower_normalize, String.toList_inj] at hbigint
    exact absurd hbigint (normalize_ne_bigint spelling)
  · rw [lower_normalize, String.toList_inj] at hlower
    exact hlower

/-- Besides small letters a type has nothing in ASCII, and no white space, that its spelling has
not. -/
theorem mem_of_mem_normalize {spelling : String} {e : Char} (he : e ∈ (normalize spelling).toList)
    (hunmade : isBlank e = true ∨ e.toNat < 0x80 ∧ e.isLower = false) : e ∈ spelling.toList := by
  rcases normalize_cases spelling with ⟨-, hlong⟩ | ⟨-, hlower⟩
  · have hletters : ("long".toList.all fun c => !isBlank c && c.isLower) = true := by decide
    rw [hlong] at he
    have hletter := List.all_eq_true.1 hletters e he
    rw [Bool.and_eq_true, Bool.not_eq_true'] at hletter
    simp [hletter.1, hletter.2] at hunmade
  · rw [hlower] at he
    exact mem_of_mem_lower he hunmade

/-! ## Spellings of the scalar types -/

theorem isScalar_iff {type : ColumnType} : type.isScalar = true ↔ type ∈ scalars := by
  rw [isScalar, List.contains_iff_mem]

/-- The same text but for the case of the letters from `A` to `Z`. -/
def SameButCase (text text' : String) : Prop := text.toLower = text'.toLower

/-- The names that are read as scalar types: those of the types, and one more for `long`. -/
def readNames : List String := "bigint" :: scalars

theorem hasOneCapital_of_mem {name : String} (hname : name ∈ readNames) :
    ∀ c ∈ name.toList, hasOneCapital c = true := by
  have hall : (readNames.all fun name => name.toList.all hasOneCapital) = true := by
    rfl
  exact List.all_eq_true.1 (List.all_eq_true.1 hall name hname)

theorem toList_toLower (text : String) : text.toLower.toList = text.toList.map Char.toLower :=
  String.toList_map ..

theorem toLower_of_mem_readNames {name : String} (hname : name ∈ readNames) :
    name.toLower = name := by
  have hletter (c : Char) (hc : c ∈ name.toList) : c.toLower = c := by
    have hcapital := hasOneCapital_of_mem hname c hc
    rw [hasOneCapital, Bool.and_eq_true] at hcapital
    exact toLower_of_isLower hcapital.1
  rw [← String.toList_inj, toList_toLower, List.map_congr_left hletter, List.map_id']

theorem sameButCase_iff {spelling name : String} (hname : name ∈ readNames) :
    SameButCase spelling name ↔ lower spelling.toList = name.toList := by
  rw [SameButCase, toLower_of_mem_readNames hname, lower,
    lowerFrom_eq_iff (hasOneCapital_of_mem hname), ← String.toList_inj, toList_toLower]

theorem normalize_eq_iff {spelling : String} {type : ColumnType} (htype : type ∈ scalars) :
    normalize spelling = type ↔
      SameButCase spelling type ∨ type = "long" ∧ SameButCase spelling "bigint" := by
  rw [sameButCase_iff (List.mem_cons_of_mem "bigint" htype), sameButCase_iff List.mem_cons_self]
  have hne : "bigint" ≠ type := by
    rintro rfl
    exact absurd htype (by decide)
  rcases normalize_cases spelling with ⟨hbigint, hlong⟩ | ⟨-, hlower⟩
  · rw [hlong, hbigint, String.toList_inj]
    simp [hne, eq_comm]
  · rw [← hlower, String.toList_inj, String.toList_inj]
    simp [normalize_ne_bigint]

theorem isAlpha_of_toLower {c : Char} (h : c.toLower.isLower = true) : c.isAlpha = true := by
  have halpha : c.isUpper = true ∨ c.isLower = true := by
    by_cases hcapital : c.val ≥ 'A'.val ∧ c.val ≤ 'Z'.val
    · exact Or.inl (decide_eq_true hcapital)
    · have hself : c.toLower = c := dif_neg hcapital
      exact Or.inr (hself ▸ h)
  exact Bool.or_eq_true_iff.2 halpha

theorem SameButCase.isAlpha {spelling name : String} (h : SameButCase spelling name)
    (hname : name ∈ readNames) {c : Char} (hc : c ∈ spelling.toList) : c.isAlpha = true := by
  have hmem : c.toLower ∈ name.toList := by
    rw [← toLower_of_mem_readNames hname, ← (h : spelling.toLower = name.toLower), toList_toLower]
    exact List.mem_map_of_mem hc
  have hletter := hasOneCapital_of_mem hname _ hmem
  rw [hasOneCapital, Bool.and_eq_true] at hletter
  exact isAlpha_of_toLower hletter.1

/-- **What is read as a scalar type**: the name of one or `bigint`, in any case of its ASCII
letters, and nothing that holds any other character. -/
theorem isScalar_normalize_iff (spelling : String) :
    ((normalize spelling).isScalar = true ↔
        ∃ name ∈ "bigint" :: scalars, SameButCase spelling name) ∧
      (normalize spelling = "long" ↔
        SameButCase spelling "long" ∨ SameButCase spelling "bigint") ∧
      ((normalize spelling).isScalar = true → ∀ c ∈ spelling.toList, c.isAlpha = true) := by
  have hlong : "long" ∈ scalars := by decide
  have hread : (normalize spelling).isScalar = true ↔
      ∃ name ∈ readNames, SameButCase spelling name := by
    simp only [isScalar_iff, readNames, List.mem_cons, exists_eq_or_imp]
    constructor
    · intro hscalar
      rcases (normalize_eq_iff hscalar).1 rfl with hsame | ⟨-, hbigint⟩
      · exact Or.inr ⟨_, hscalar, hsame⟩
      · exact Or.inl hbigint
    · rintro (hbigint | ⟨type, htype, hsame⟩)
      · rw [(normalize_eq_iff hlong).2 (Or.inr ⟨rfl, hbigint⟩)]
        exact hlong
      · rw [(normalize_eq_iff htype).2 (Or.inl hsame)]
        exact htype
  refine ⟨hread, ?_, ?_⟩
  · rw [normalize_eq_iff hlong]
    simp
  · intro hscalar c hc
    obtain ⟨name, hname, hsame⟩ := hread.1 hscalar
    exact hsame.isAlpha hname hc

/-- A dotted capital is no `I`, although its lower case begins with an `i`. -/
example : (normalize "BIGINT", normalize "B\u0130GINT") = ("long", "bi\u0307gint") := by
  rfl

end TableCatalog.ColumnType
