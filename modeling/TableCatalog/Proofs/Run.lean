import TableCatalog.Proofs.FileTree.Append
import TableCatalog.Run

/-!
# What a run can see of its own log

A run changes its world in one way only: it notes entries. `World.noted w es` is the world `w` after
the entries `es`, and every run ends in such a world (`Run.OnlyNotes`).

Noting an entry may write a line, and a line may go to a file of the tree. So the files of
`w.noted es` are those of `w` with something appended to one of them, and the lemmas below carry the
questions of `Proofs.FileTree.Append` over: which directories there are, what is in them and which
paths can be read is the same in every world of a run, and a file reads as it did when the run
began, unless the log goes into it (`World.LogsInto`).
-/

set_option autoImplicit false

namespace TableCatalog

namespace World

/-- A world after some entries have been noted. -/
def noted (w : World) (es : List Log.Entry) : World := es.foldl World.note w

/-- The log of `w` is written to the file that a path leads to. -/
def LogsInto (w : World) (path : Path) : Prop :=
  ∃ place, w.logger.sink = .file place ∧ w.files.location? path = some place

/-- What the file at `path` may read as while a run that began in `w` is under way: the text that
it held at the beginning, with something behind it only if the log goes there. -/
def Holds (w : World) (path : Path) (text : String) : Prop :=
  ∃ held added, w.files.readText path = .ok held ∧ text = held ++ added ∧
    (¬ w.LogsInto path → added = "")

/-! ## One entry -/

@[simp] theorem logger_note (w : World) (e : Log.Entry) : (w.note e).logger = w.logger := by
  unfold note writeLine
  dsimp only
  split
  · split <;> rfl
  · rfl

/-- Noted is noted, whether or not a line is written. -/
theorem entries_note (w : World) (e : Log.Entry) : (w.note e).entries = w.entries ++ [e] := by
  unfold note writeLine
  dsimp only
  split
  · split <;> rfl
  · rfl

/-- An entry leaves the files alone, or adds a text to the file that the log goes to. -/
theorem files_note (w : World) (e : Log.Entry) :
    (w.note e).files = w.files ∨
      ∃ place text, w.logger.sink = .file place ∧
        (w.note e).files = w.files.append place text := by
  unfold note writeLine
  dsimp only
  split
  · next text _ =>
    split
    · exact Or.inl rfl
    · exact Or.inl rfl
    · next place hs => exact Or.inr ⟨place, text, hs, rfl⟩
  · exact Or.inl rfl

/-! ## Several entries -/

@[simp] theorem noted_nil (w : World) : w.noted [] = w := rfl

theorem noted_cons (w : World) (e : Log.Entry) (es : List Log.Entry) :
    w.noted (e :: es) = (w.note e).noted es := rfl

theorem noted_append (w : World) (es es' : List Log.Entry) :
    w.noted (es ++ es') = (w.noted es).noted es' := List.foldl_append

@[simp] theorem logger_noted (w : World) (es : List Log.Entry) :
    (w.noted es).logger = w.logger := by
  induction es generalizing w with
  | nil => rfl
  | cons e es ih => rw [noted_cons, ih, logger_note]

@[simp] theorem entries_noted (w : World) (es : List Log.Entry) :
    (w.noted es).entries = w.entries ++ es := by
  induction es generalizing w with
  | nil => exact (List.append_nil _).symm
  | cons e es ih => rw [noted_cons, ih, entries_note, List.append_assoc, List.singleton_append]

/-- A question about files whose answer no append changes has one answer throughout a run. -/
theorem files_noted_congr {β : Type} (ask : FileTree → β)
    (hask : ∀ t place text, ask (t.append place text) = ask t) (w : World) (es : List Log.Entry) :
    ask (w.noted es).files = ask w.files := by
  induction es generalizing w with
  | nil => rfl
  | cons e es ih =>
    rw [noted_cons, ih]
    rcases files_note w e with h | ⟨place, text, -, h⟩
    · rw [h]
    · rw [h, hask]

variable (w : World) (es : List Log.Entry)

theorem isFile_noted : (w.noted es).files.isFile = w.files.isFile :=
  files_noted_congr (·.isFile) (fun t p s => funext fun path => t.isFile_append p s path) w es

theorem list_noted (path : Path) : (w.noted es).files.list path = w.files.list path :=
  files_noted_congr (·.list path) (fun t p s => t.list_append p s path) w es

theorem location?_noted (path : Path) :
    (w.noted es).files.location? path = w.files.location? path :=
  files_noted_congr (·.location? path) (fun t p s => t.location?_append p s path) w es

theorem target_noted (path : Path) : (w.noted es).files.target path = w.files.target path :=
  files_noted_congr (·.target path) (fun t p s => t.target_append p s path) w es

theorem current_noted : (w.noted es).files.current = w.files.current :=
  files_noted_congr (·.current) (fun t p s => t.current_append p s) w es

/-- A log leaves alone what stands elsewhere. -/
theorem node?_noted {place : Location} (hne : w.logger.sink ≠ .file place) :
    (w.noted es).files.node? place = w.files.node? place := by
  induction es generalizing w with
  | nil => rfl
  | cons e es ih =>
    have hnote : (w.note e).files.node? place = w.files.node? place := by
      rcases files_note w e with h | ⟨at_, text, hsink, h⟩
      · rw [h]
      · have hat : ¬ at_ = place := fun heq => hne (heq ▸ hsink)
        rw [h, FileTree.node?, FileTree.get?_append]
        simp [hat, FileTree.node?]
    rw [noted_cons, ih _ (by rwa [logger_note]), hnote]

theorem logsInto_noted (path : Path) : (w.noted es).LogsInto path ↔ w.LogsInto path := by
  unfold LogsInto
  rw [logger_noted, location?_noted]

/-- **What a file reads as in a later world of a run**: nothing is lost, and nothing is added unless
the log goes there. -/
theorem readText_noted (path : Path) :
    ∃ added, (w.noted es).files.readText path = (w.files.readText path).map (· ++ added) ∧
      (¬ w.LogsInto path → added = "") := by
  induction es generalizing w with
  | nil =>
    refine ⟨"", ?_, fun _ => rfl⟩
    cases h : w.files.readText path <;> simp [h, Except.map]
  | cons e es ih =>
    obtain ⟨later, hlater, hnone⟩ := ih (w.note e)
    have hinto : (w.note e).LogsInto path ↔ w.LogsInto path := logsInto_noted w [e] path
    rw [hinto] at hnone
    rw [noted_cons, hlater]
    -- one entry adds at most one text, and only to the file the log goes to
    rcases files_note w e with h | ⟨place, text, hsink, h⟩
    · exact ⟨later, by rw [h], hnone⟩
    · rw [h, FileTree.readText_append]
      by_cases hp : w.files.location? path = some place
      · refine ⟨text ++ later, ?_, fun hno => absurd ⟨place, hsink, hp⟩ hno⟩
        cases w.files.readText path <;> simp [Except.map, hp, String.append_assoc]
      · refine ⟨later, ?_, hnone⟩
        cases w.files.readText path <;> simp [Except.map, hp]

theorem readText_noted_eq {path : Path} (hno : ¬ w.LogsInto path) :
    (w.noted es).files.readText path = w.files.readText path := by
  obtain ⟨added, h, hnone⟩ := readText_noted w es path
  rw [h, hnone hno]
  cases w.files.readText path <;> simp [Except.map]

theorem readText_noted_error {path : Path} {fault : IoFault} :
    (w.noted es).files.readText path = .error fault ↔ w.files.readText path = .error fault := by
  obtain ⟨added, h, -⟩ := readText_noted w es path
  rw [h]
  cases w.files.readText path <;> simp [Except.map]

variable {w es}

theorem holds_of_readText {path : Path} {text : String} (h : w.files.readText path = .ok text) :
    w.Holds path text := ⟨text, "", h, String.append_empty.symm, fun _ => rfl⟩

/-- What a file may read as later in a run, it may read as in the whole of it. -/
theorem Holds.of_noted {path : Path} {text : String} (h : (w.noted es).Holds path text) :
    w.Holds path text := by
  obtain ⟨held, added, hheld, rfl, hadded⟩ := h
  obtain ⟨before, hread, hbefore⟩ := readText_noted w es path
  rw [logsInto_noted] at hadded
  rw [hheld] at hread
  cases hw : w.files.readText path with
  | error fault => rw [hw] at hread; simp [Except.map] at hread
  | ok first =>
    rw [hw] at hread
    simp only [Except.map, Except.ok.injEq] at hread
    refine ⟨first, before ++ added, hw, by rw [hread, String.append_assoc], fun hno => ?_⟩
    rw [hbefore hno, hadded hno, String.append_empty]

/-- A file that the log does not go into can only read as it does. -/
theorem Holds.eq {path : Path} {text : String} (h : w.Holds path text)
    (hno : ¬ w.LogsInto path) : w.files.readText path = .ok text := by
  obtain ⟨held, added, hread, htext, hnone⟩ := h
  rw [hread, htext, hnone hno, String.append_empty]

/-- A world in which nothing is written logs into no file. -/
theorem not_logsInto_quiet (files : FileTree) (path : Path) : ¬ (quiet files).LogsInto path := by
  rintro ⟨place, hsink, -⟩
  exact Log.Sink.noConfusion hsink

end World

namespace Run

variable {α β : Type}

@[simp] theorem look_apply (f : FileTree → Except CatalogError α) (w : World) :
    look f w = (f w.files, w) := rfl

@[simp] theorem note_apply (scopes : List Log.Scope) (n : Log.Notice) (w : World) :
    note scopes n w = (.ok (), w.note ⟨scopes, n⟩) := rfl

theorem note_bind (scopes : List Log.Scope) (n : Log.Notice) (f : Unit → Run α) (w : World) :
    (note scopes n >>= f) w = f () (w.noted [⟨scopes, n⟩]) := rfl

theorem noteAll_apply (scopes : List Log.Scope) (ns : List Log.Notice) (w : World) :
    noteAll scopes ns w = (.ok (), w.noted (ns.map fun n => ⟨scopes, n⟩)) := by
  induction ns generalizing w with
  | nil => rfl
  | cons n ns ih =>
    rw [noteAll, bind_apply, note_apply]
    exact ih _

/-! ## Taking a run apart -/

theorem bind_eq_ok {x : Run α} {f : α → Run β} {w : World} {b : β} :
    ((x >>= f) w).1 = .ok b ↔ ∃ a, (x w).1 = .ok a ∧ (f a (x w).2).1 = .ok b := by
  rw [bind_apply]
  obtain ⟨r, w'⟩ := x w
  cases r <;> simp

/-- Both halves of a run at once: what it gives, and the world that it leaves. -/
theorem bind_eq_ok_mk {x : Run α} {f : α → Run β} {w w' : World} {b : β} :
    (x >>= f) w = (.ok b, w') ↔ ∃ a v, x w = (.ok a, v) ∧ f a v = (.ok b, w') := by
  rw [bind_apply]
  obtain ⟨r, v⟩ := x w
  cases r <;> simp

theorem bind_eq_error {x : Run α} {f : α → Run β} {w : World} {err : CatalogError} :
    ((x >>= f) w).1 = .error err ↔
      (x w).1 = .error err ∨ ∃ a, (x w).1 = .ok a ∧ (f a (x w).2).1 = .error err := by
  rw [bind_apply]
  obtain ⟨r, w'⟩ := x w
  cases r <;> simp

/-! ## What stops a run -/

/-- `faults` are what may stop a computation, in the order in which it would meet them: it fails if
there is one, and the first one is its error. -/
def Reports (r : Except CatalogError α) (faults : List CatalogError) : Prop :=
  ∀ err, r = .error err ↔ faults.head? = some err

theorem Reports.ok (a : α) : Reports (.ok a : Except CatalogError α) [] := fun _ => by simp

theorem Reports.error (err : CatalogError) (more : List CatalogError) :
    Reports (.error err : Except CatalogError α) (err :: more) := fun _ => by simp

theorem Reports.map {r : Except CatalogError α} {faults : List CatalogError} (h : Reports r faults)
    (f : α → β) : Reports (r.map f) faults := by
  intro err
  rw [← h err]
  cases r <;> simp [Except.map]

/-- Nothing stops a computation that has a result, and the other way round. -/
theorem Reports.ok_iff {r : Except CatalogError α} {faults : List CatalogError}
    (h : Reports r faults) : (∃ a, r = .ok a) ↔ faults = [] := by
  cases r with
  | ok a =>
    have hnone : faults.head? = none := by
      refine Option.eq_none_iff_forall_ne_some.2 fun err herr => ?_
      simp [← h err] at herr
    simpa using hnone
  | error err =>
    have hsome : faults.head? = some err := (h err).1 rfl
    constructor
    · rintro ⟨a, ha⟩
      simp at ha
    · rintro rfl
      simp at hsome

/-- **One run after the other**: what stops the second counts behind what stops the first. -/
theorem Reports.bind {x : Run α} {f : α → Run β} {w : World} {faults faults' : List CatalogError}
    (hx : Reports (x w).1 faults)
    (hf : ∀ a, (x w).1 = .ok a → Reports (f a (x w).2).1 faults') :
    Reports ((x >>= f) w).1 (faults ++ faults') := by
  intro err
  rw [bind_eq_error, List.head?_append]
  cases hr : (x w).1 with
  | error err' =>
    rw [hr] at hx
    rw [(hx err').1 rfl]
    simp
  | ok a =>
    -- the first run got through, so nothing stands in front of what stops the second
    obtain rfl : faults = [] := hx.ok_iff.1 ⟨a, hr⟩
    simpa using hf a hr err

/-! ## Runs that only note -/

/-- A run that does nothing to a world but note things in it. -/
def OnlyNotes (x : Run α) : Prop := ∀ w, ∃ es, (x w).2 = w.noted es

theorem OnlyNotes.pure (a : α) : OnlyNotes (Pure.pure a) := fun _ => ⟨[], rfl⟩

theorem OnlyNotes.ofExcept (r : Except CatalogError α) : OnlyNotes (ofExcept r) :=
  fun _ => ⟨[], rfl⟩

theorem OnlyNotes.look (f : FileTree → Except CatalogError α) : OnlyNotes (look f) :=
  fun _ => ⟨[], rfl⟩

theorem OnlyNotes.note (scopes : List Log.Scope) (n : Log.Notice) : OnlyNotes (note scopes n) :=
  fun _ => ⟨[⟨scopes, n⟩], rfl⟩

theorem OnlyNotes.bind {x : Run α} {f : α → Run β} (hx : OnlyNotes x)
    (hf : ∀ a, OnlyNotes (f a)) : OnlyNotes (x >>= f) := by
  intro w
  obtain ⟨es, hes⟩ := hx w
  rw [bind_apply]
  cases hr : x w with
  | mk r w' =>
    rw [hr] at hes
    cases r with
    | error err => exact ⟨es, hes⟩
    | ok a =>
      obtain ⟨es', hes'⟩ := hf a w'
      exact ⟨es ++ es', by rw [World.noted_append, ← hes]; exact hes'⟩

end Run

end TableCatalog
