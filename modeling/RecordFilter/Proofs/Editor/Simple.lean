import RecordFilter.Proofs.Editor.Reserved

/-!
# What a simple edit gives the list

A simple filter that is set is in the payload that the list is given, and one that is taken out is
not, unless the editor carries a reserved key of the same name: reserved keys are set last, and they
win (`simple_edits_run`).  The editor carries such a key if it holds the tags, or if it was reserved
when the list was last read.  A catalog that is set later may list a field of that name, and its
filter is accepted, but it never gets to the list (`setSimpleFilter_assignee`).
-/

namespace RecordFilter

namespace Request

variable {e after : Editor} {name : String} {given : Payload}

/-- Where a filter is set, the answer is what is applied then. -/
lemma eq_applied_of_run_setSimpleFilter {op : Operator} {value : Value}
    (h : (setSimpleFilter name op value).run e = .ok given after) :
    given = after.state.applied := by
  simp only [setSimpleFilter, run_bind_eq_ok_iff, run_applying_eq_ok_iff] at h
  obtain ⟨_, _, -, _, _, -, _, _, -, _, _, -, _, _, -, heq, rfl⟩ := h
  exact heq.symm

/-- Where a filter is taken out, the answer is what is applied then. -/
lemma eq_applied_of_run_removeSimpleFilter
    (h : (removeSimpleFilter name).run e = .ok given after) : given = after.state.applied := by
  simp only [removeSimpleFilter, run_bind_eq_ok_iff, run_get_eq_ok_iff] at h
  obtain ⟨_, _, -, _, _, ⟨rfl, rfl⟩, hrun⟩ := h
  split_ifs at hrun with hthere
  · simp only [run_bind_eq_ok_iff, run_applying_eq_ok_iff] at hrun
    obtain ⟨_, _, -, heq, rfl⟩ := hrun
    exact heq.symm
  · obtain ⟨rfl, rfl⟩ := run_pure_eq_ok_iff.1 hrun
    rfl

end Request

namespace Editor

variable {e after : Editor} {events : List Event} {name : String} {given : Payload}

/-! ### What is given -/

/-- What the list is given under a key where simple filters are applied: the reserved key if there
is one, and else the filter. -/
lemma get?_applied_applySimple {simple : SimpleFilters} (hnames : simple.names.Nodup)
    (key : String) :
    (e.withSimple simple).applySimple.state.applied.get? key =
      (e.state.reserved.get? key).or ((simple.get? key).map (e.context.encodeEntry key)) :=
  congrFun (e.get?_simplePayload_withSimple hnames) key

/-- A filter that is set is given to the list, unless a reserved key shadows it. -/
lemma get?_of_run_setSimpleFilter (hnames : e.state.simple.names.Nodup) {op : Operator}
    {value : Value} (h : (Request.setSimpleFilter name op value).run e = .ok given after) :
    given.get? name =
      (e.state.reserved.get? name).or (some (e.context.encodeEntry name ⟨op, value⟩)) := by
  obtain rfl := Request.eq_applied_of_run_setSimpleFilter h
  cases Request.run_setSimpleFilter_eq_ok_iff.1 ⟨_, h⟩ with
  | edit hmode hedit => cases hedit
  | setSimpleFilter hmode hfield hoffer hcomplete =>
    have hinserted := (Refilters.insert hfield hcomplete).names_nodup hnames
    rw [get?_applied_applySimple hinserted, SimpleFilters.get?_insert, if_pos rfl, Option.map_some]

/-- A filter that is taken out is not given to the list, unless a reserved key stands for it. -/
lemma get?_of_run_removeSimpleFilter (hnames : e.state.simple.names.Nodup)
    (hthere : e.state.simple.contains name = true)
    (h : (Request.removeSimpleFilter name).run e = .ok given after) :
    given.get? name = e.state.reserved.get? name := by
  obtain rfl := Request.eq_applied_of_run_removeSimpleFilter h
  cases Request.run_removeSimpleFilter_eq_ok_iff.1 ⟨_, h⟩ with
  | edit hmode hedit => cases hedit
  | removeSimpleFilter hmode _ =>
    have herased := (Refilters.erase (e := e) name).names_nodup hnames
    rw [get?_applied_applySimple herased, SimpleFilters.get?_erase hnames, if_pos rfl,
      Option.map_none, Option.or_none]
  | removeNoFilter hmode hmissing => simp [hmissing] at hthere

/-! ### Which reserved keys are carried along -/

/-- The catalog that the list was last read with in a run, if it had been read with another one
before. -/
def readWith (e : Editor) (before : Catalog) : List Event → Catalog
  | [] => before
  | event :: rest =>
    (e.step event).readWith (if event = .hydrate then e.context.catalog else before) rest

/-- A reserved key may come from the list that was read with a catalog, or it holds the tags. -/
def MayCarry (e : Editor) (read : Catalog) (key : String) : Prop :=
  key = e.context.settings.tagsKey ∨
    Context.isReserved ⟨read, e.context.settings⟩ key = true ∧
      key ≠ e.context.settings.advancedKey

/-- After an event the reserved keys may come from the list as it was last read. -/
lemma mayCarry_step {read : Catalog} (event : Event)
    (h : ∀ key, e.state.reserved.get? key ≠ none → e.MayCarry read key) (key : String)
    (hkey : (e.step event).state.reserved.get? key ≠ none) :
    (e.step event).MayCarry (if event = .hydrate then e.context.catalog else read) key := by
  rw [MayCarry, settings_step]
  by_cases htags : key = e.context.settings.tagsKey
  · exact .inl htags
  by_cases hread : event = .hydrate
  · subst hread
    obtain ⟨raw, hraw⟩ := Option.ne_none_iff_exists'.1 hkey
    rw [if_pos rfl]
    exact .inr ((e.get?_reserved_hydrate key raw).1 hraw).2
  · rw [get?_reserved_step hread htags] at hkey
    rw [if_neg hread]
    exact h key hkey

/-- After a run the reserved keys may come from the list as it was last read. -/
lemma mayCarry_run {read : Catalog}
    (h : ∀ key, e.state.reserved.get? key ≠ none → e.MayCarry read key) (key : String)
    (hkey : (e.run events).state.reserved.get? key ≠ none) :
    (e.run events).MayCarry (e.readWith read events) key := by
  induction events generalizing e read with
  | nil => exact h key hkey
  | cons event rest ih => exact ih (mayCarry_step event h) hkey

/-- When an editor is opened, the reserved keys come from its list. -/
lemma mayCarry_opened (list : RecordList) (ctx : Context) (key : String)
    (hkey : (opened list ctx).state.reserved.get? key ≠ none) :
    (opened list ctx).MayCarry ctx.catalog key := by
  obtain ⟨raw, hraw⟩ := Option.ne_none_iff_exists'.1 hkey
  rw [MayCarry, opened, context_hydrate]
  exact .inr ((get?_reserved_hydrate _ key raw).1 hraw).2

/-- **What simple edits give the list.**  After every run, where a simple filter is set and
answered, the payload has the filter under the name of its field, unless the editor carries a
reserved key of that name, whose value it then has.  Where a filter that was there is taken out,
the payload has nothing under the name, again unless there is such a reserved key.  A reserved key
that is carried along is the tags key, or it was reserved in the catalog that the list was last
read with. -/
theorem simple_edits_run (list : RecordList) (ctx : Context) (events : List Event) :
    let e := (opened list ctx).run events
    let read : Context := ⟨(opened list ctx).readWith ctx.catalog events, ctx.settings⟩
    (∀ name op value given after,
      (Request.setSimpleFilter name op value).run e = .ok given after →
        given.get? name =
          (e.state.reserved.get? name).or (some (e.context.encodeEntry name ⟨op, value⟩))) ∧
      (∀ name given after, e.state.simple.contains name = true →
        (Request.removeSimpleFilter name).run e = .ok given after →
          given.get? name = e.state.reserved.get? name) ∧
      ∀ name, e.state.reserved.get? name ≠ none →
        name = ctx.settings.tagsKey ∨
          read.isReserved name = true ∧ name ≠ ctx.settings.advancedKey := by
  have hnames := (invariant_fitsMode.run list ctx events fun _ _ _ _ h => h).names_nodup
  have hsettings : ((opened list ctx).run events).context.settings = ctx.settings := by
    rw [settings_run, opened, context_hydrate]
  refine ⟨fun name op value given after h => get?_of_run_setSimpleFilter hnames h,
    fun name given after hthere h => get?_of_run_removeSimpleFilter hnames hthere h,
    fun name hname => ?_⟩
  have hcarry := mayCarry_run (mayCarry_opened list ctx) name hname
  rwa [MayCarry, hsettings] at hcarry

/-- A list that is filtered by its assignees and by a key that nobody knows. -/
def assigneeList : RecordList :=
  ⟨.ofList [("_assign", .array [.string "LIKE", .string "%ann%"]), ("_seen", .string "yes")],
    none, none, []⟩

/-- A catalog that lists the assignees. -/
def assigneeCatalog : Catalog :=
  ⟨[.named "_assign" .link]⟩

/-- The editor of `assigneeList` that is given the catalog before it reads the list. -/
def listedEditor : Editor :=
  opened assigneeList ⟨assigneeCatalog, .standard⟩

/-- The editor of `assigneeList` that is given the catalog after it has read the list. -/
def unlistedEditor : Editor :=
  (opened assigneeList ⟨.empty, .standard⟩).run [.setCatalog assigneeCatalog]

/-- `simple_edits_run` where the filter of the assignees was read as a filter: the new one is given
to the list. -/
theorem simple_edits_run_listedEditor :
    ∃ given after,
      (Request.setSimpleFilter "_assign" .like (.text "bob")).run listedEditor = .ok given after ∧
        given.get? "_assign" =
          (listedEditor.state.reserved.get? "_assign").or
            (some (listedEditor.context.encodeEntry "_assign" ⟨.like, .text "bob"⟩)) ∧
        given.get? "_assign" = some (.array [.string "LIKE", .string "%bob%"]) := by
  refine ⟨_, _, rfl, ?_, by decide⟩
  exact (simple_edits_run assigneeList ⟨assigneeCatalog, .standard⟩ []).1 "_assign" .like
    (.text "bob") _ _ rfl

/-- A filter of the assignees that is set in simple mode does not get to the list if they were not
listed when the list was read: the payload keeps the value that was read then, and it keeps it even
when the filter is taken out again. -/
theorem setSimpleFilter_assignee :
    unlistedEditor.state.mode = .simple ∧
      ∃ given after,
        (Request.setSimpleFilter "_assign" .like (.text "bob")).run unlistedEditor =
            .ok given after ∧
          given.get? "_assign" ≠
            some (unlistedEditor.context.encodeEntry "_assign" ⟨.like, .text "bob"⟩) ∧
          given.get? "_assign" = some (.array [.string "LIKE", .string "%ann%"]) ∧
          after.state.simple.contains "_assign" = true ∧
          ∃ left final,
            (Request.removeSimpleFilter "_assign").run after = .ok left final ∧
              left.get? "_assign" = some (.array [.string "LIKE", .string "%ann%"]) := by
  refine ⟨by decide, _, _, rfl, by decide, by decide, by decide, _, _, rfl, by decide⟩

end Editor

end RecordFilter
