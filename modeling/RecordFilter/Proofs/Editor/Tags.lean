import RecordFilter.Proofs.Editor.Run
import RecordFilter.Proofs.InOrder
import RecordFilter.Proofs.Text.Blank

/-!
# Selecting tags

Texts select tags: blank texts select nothing, every other text selects what is left of it after
trimming, and a tag stands where it is selected first.  `Selects` says so of a list of tags, and
there is one such list (`Selects.unique`), which is the one that is computed
(`selects_selectedTags`).

Selecting tags sets the tags key of what is applied and of the reserved keys, and nothing else.
So the last selection wins, whatever the payloads hold and in either mode, and to select what is
stored already changes nothing (`setTags_exact`).
-/

namespace RecordFilter

/-! ### The tags that are selected -/

/-- Some tags are what some texts select: the texts that are not blank, trimmed, and each tag once,
in the order in which the texts name them first. -/
structure Selects (texts tags : List String) : Prop where
  mem_iff : ∀ tag, tag ∈ tags ↔
    ∃ text ∈ texts, Text.isBlankText text = false ∧ Text.trim text = tag
  ordered : tags.Pairwise fun earlier later =>
    (texts.map Text.trim).idxOf earlier < (texts.map Text.trim).idxOf later

namespace Selects

variable {texts tags others : List String} {tag text : String}

/-- A tag is selected just if it is left of a text and is not empty. -/
lemma mem_iff_mem_map (h : Selects texts tags) :
    tag ∈ tags ↔ tag ∈ texts.map Text.trim ∧ tag ≠ "" := by
  rw [h.mem_iff, List.mem_map]
  constructor
  · rintro ⟨text, hmem, hblank, rfl⟩
    exact ⟨⟨text, hmem, rfl⟩, Text.trim_ne_empty_iff.2 hblank⟩
  · rintro ⟨⟨text, hmem, rfl⟩, hempty⟩
    exact ⟨text, hmem, Text.trim_ne_empty_iff.1 hempty, rfl⟩

/-- The tags stand in the order in which the texts name them first. -/
lemma inOrder (h : Selects texts tags) : InOrder (texts.map Text.trim) id tags :=
  h.ordered

/-- The texts name the tags that are selected. -/
lemma mem_map (h : Selects texts tags) : ∀ tag ∈ tags, id tag ∈ texts.map Text.trim :=
  fun _ hmem => (h.mem_iff_mem_map.1 hmem).1

/-- The tags that are selected are trimmed. -/
lemma trim_eq (h : Selects texts tags) (hmem : tag ∈ tags) : Text.trim tag = tag := by
  obtain ⟨text, -, -, rfl⟩ := (h.mem_iff tag).1 hmem
  exact Text.trim_trim text

/-- One more text leaves the order of the tags that are selected before it. -/
lemma ordered_concat (h : Selects texts tags) (text : String) :
    InOrder ((texts ++ [text]).map Text.trim) id tags := by
  rw [List.map_append]
  exact h.inOrder.append h.mem_map _

/-- There is one list of tags that some texts select. -/
lemma unique (h : Selects texts tags) (hothers : Selects texts others) : tags = others :=
  h.inOrder.eq_of_mem_iff hothers.inOrder fun tag => by rw [h.mem_iff, hothers.mem_iff]

/-- Tags that are selected select themselves. -/
lemma self (h : Selects texts tags) : Selects tags tags := by
  have htrim : tags.map Text.trim = tags :=
    (List.map_congr_left fun _ hmem => h.trim_eq hmem).trans (List.map_id tags)
  refine ⟨fun tag => ⟨fun hmem => ⟨tag, hmem, ?_, h.trim_eq hmem⟩, ?_⟩, ?_⟩
  · have hne : tag ≠ "" := (h.mem_iff_mem_map.1 hmem).2
    rwa [← h.trim_eq hmem, Text.trim_ne_empty_iff] at hne
  · rintro ⟨text, hmem, -, rfl⟩
    rwa [h.trim_eq hmem]
  · rw [htrim, List.pairwise_iff_getElem]
    intro i j hi hj hij
    rwa [h.inOrder.nodup.idxOf_getElem i hi, h.inOrder.nodup.idxOf_getElem j hj]

/-- A text that is blank or names a selected tag selects nothing more. -/
lemma concat_of_known (h : Selects texts tags)
    (hknown : Text.trim text = "" ∨ Text.trim text ∈ tags) : Selects (texts ++ [text]) tags := by
  refine ⟨fun tag => ?_, h.ordered_concat text⟩
  rw [h.mem_iff]
  constructor
  · rintro ⟨named, hmem, hnamed⟩
    exact ⟨named, List.mem_append_left _ hmem, hnamed⟩
  · rintro ⟨named, hmem, hblank, rfl⟩
    rcases List.mem_append.1 hmem with hmem | hlast
    · exact ⟨named, hmem, hblank, rfl⟩
    · obtain rfl := List.mem_singleton.1 hlast
      rcases hknown with hempty | hselected
      · exact absurd hempty (Text.trim_ne_empty_iff.2 hblank)
      · exact (h.mem_iff _).1 hselected

/-- A text that is not blank and names a new tag selects it behind the others. -/
lemma concat_of_new (h : Selects texts tags) (hempty : Text.trim text ≠ "")
    (hnew : Text.trim text ∉ tags) : Selects (texts ++ [text]) (tags ++ [Text.trim text]) := by
  have hfirst : Text.trim text ∉ texts.map Text.trim := fun hmem =>
    hnew (h.mem_iff_mem_map.2 ⟨hmem, hempty⟩)
  refine ⟨fun tag => ?_, ?_⟩
  · have hblank : Text.isBlankText text = false := Text.trim_ne_empty_iff.1 hempty
    rw [List.mem_append, List.mem_singleton, @eq_comm _ tag, h.mem_iff]
    simp only [List.mem_append, List.mem_singleton, or_and_right, exists_or, exists_eq_left,
      hblank, true_and]
  · rw [List.map_append]
    exact h.inOrder.concat h.mem_map hfirst

end Selects

/-- **The tags that are computed are those that are selected.** -/
theorem selects_selectedTags (texts : List String) :
    Selects texts (Editor.selectedTags texts) := by
  induction texts using List.reverseRecOn with
  | nil => exact ⟨fun tag => by simp [Editor.selectedTags], List.Pairwise.nil⟩
  | append_singleton texts text ih =>
    rw [Editor.selectedTags, List.map_append, List.foldl_append, List.map_singleton,
      List.foldl_cons, List.foldl_nil, ← Editor.selectedTags]
    split_ifs with hknown
    · exact ih.concat_of_known hknown
    · rw [not_or] at hknown
      exact ih.concat_of_new hknown.1 hknown.2

/-- A blank text and a tag that is there already select nothing. -/
example :
    Editor.selectedTags [" urgent", "", "late ", "urgent", "\u3000"] = ["urgent", "late"] := by
  decide

/-! ### What is stored -/

/-- What the tags key holds of some tags: their list, or nothing if there are none. -/
def storedTags (tags : List String) : Option Json :=
  if tags = [] then none else some (Json.ofStrings tags)

/-- A payload holds some tags beside what another payload holds: they stand under the tags key,
and what stands under every other key is what stands there in the other payload. -/
def Payload.Retags (key : String) (tags : List String) (before after : Payload) : Prop :=
  ∀ k, after.get? k = if k = key then storedTags tags else before.get? k

/-- Two states are the same where a payload is a map: their payloads may differ in the order of
the keys. -/
structure FilterState.SameMaps (s t : FilterState) : Prop where
  mode : s.mode = t.mode
  tree : s.tree = t.tree
  appliedTree : s.appliedTree = t.appliedTree
  simple : s.simple = t.simple
  reserved : ∀ key, s.reserved.get? key = t.reserved.get? key
  applied : ∀ key, s.applied.get? key = t.applied.get? key

/-- The tags that a payload is given last are those that it holds. -/
lemma Payload.Retags.get?_eq {key : String} {tags more : List String}
    {before middle after direct : Payload} (hfirst : before.Retags key tags middle)
    (hsecond : middle.Retags key more after) (hdirect : before.Retags key more direct)
    (k : String) : after.get? k = direct.get? k := by
  rw [hsecond k, hdirect k]
  split_ifs with hkey
  · rfl
  · rw [hfirst k, if_neg hkey]

namespace Editor

variable (e : Editor) (texts tags : List String)

/-- Some tags are all that is stored under the tags key. -/
def Stores : Prop :=
  e.state.applied.get? e.context.settings.tagsKey = storedTags tags ∧
    e.state.reserved.get? e.context.settings.tagsKey = storedTags tags

/-- The state of an editor after some tags have been selected: what is applied and the reserved
keys hold the tags beside what they held before, and all else is as it was. -/
structure Retags (after : FilterState) : Prop where
  applied : e.state.applied.Retags e.context.settings.tagsKey tags after.applied
  reserved : e.state.reserved.Retags e.context.settings.tagsKey tags after.reserved
  mode : after.mode = e.state.mode
  tree : after.tree = e.state.tree
  appliedTree : after.appliedTree = e.state.appliedTree
  simple : after.simple = e.state.simple

/-- A payload is given other tags. -/
lemma retags_payloadWithTags (payload : Payload) :
    payload.Retags e.context.settings.tagsKey tags (e.payloadWithTags tags payload) :=
  e.get?_payloadWithTags tags payload

/-- A payload is left as it is just if it holds the tags that it is given. -/
lemma payloadWithTags_eq_self_iff (payload : Payload) :
    e.payloadWithTags tags payload = payload ↔
      payload.get? e.context.settings.tagsKey = storedTags tags := by
  constructor
  · intro heq
    have hkey := e.get?_payloadWithTags tags payload e.context.settings.tagsKey
    rwa [heq, if_pos rfl] at hkey
  · intro hstored
    rw [Payload.eq_iff_entries_eq, payloadWithTags]
    rw [storedTags] at hstored
    split_ifs at hstored ⊢
    · exact Ordered.swapErase_of_get?_eq_none hstored
    · exact Ordered.insert_of_get?_eq_some hstored

/-- After texts have been selected from, the tags that they select are stored. -/
lemma retags_setTags : e.Retags (selectedTags texts) (e.setTags texts).state where
  applied := e.retags_payloadWithTags _ _
  reserved := e.retags_payloadWithTags _ _
  mode := rfl
  tree := rfl
  appliedTree := rfl
  simple := rfl

/-- The tags that have been selected are stored. -/
lemma stores_setTags : (e.setTags texts).Stores (selectedTags texts) :=
  ⟨((e.retags_setTags texts).applied _).trans (if_pos rfl),
    ((e.retags_setTags texts).reserved _).trans (if_pos rfl)⟩

/-- To select from other texts afterwards is to select from them alone, except for the order of the
keys. -/
lemma sameMaps_setTags_setTags (more : List String) :
    ((e.setTags texts).setTags more).state.SameMaps (e.setTags more).state :=
  have hfirst := e.retags_setTags texts
  have hsecond := (e.setTags texts).retags_setTags more
  have hdirect := e.retags_setTags more
  { mode := rfl
    tree := rfl
    appliedTree := rfl
    simple := rfl
    reserved := hfirst.reserved.get?_eq hsecond.reserved hdirect.reserved
    applied := hfirst.applied.get?_eq hsecond.applied hdirect.applied }

/-- Tags that have been selected select themselves. -/
lemma selectedTags_selectedTags : selectedTags (selectedTags texts) = selectedTags texts :=
  (selects_selectedTags _).unique (selects_selectedTags texts).self

/-- To select what is stored changes nothing, and all else changes the state. -/
lemma state_setTags_eq_self_iff :
    (e.setTags texts).state = e.state ↔ e.Stores (selectedTags texts) := by
  rw [Stores, ← payloadWithTags_eq_self_iff, ← payloadWithTags_eq_self_iff]
  constructor
  · intro heq
    exact ⟨congrArg FilterState.applied heq, congrArg FilterState.reserved heq⟩
  · rintro ⟨happlied, hreserved⟩
    change FilterState.mk _ _ _ _ (e.payloadWithTags _ e.state.reserved)
      (e.payloadWithTags _ e.state.applied) = _
    rw [happlied, hreserved]
    rfl

/-- **Selecting tags sets one key, and the last selection wins.**  Texts select the tags that are
left of them after trimming, without the empty one and each in its first place.  In whatever state
and mode the editor is, it answers with what is applied then.  What is applied and the reserved keys
hold the tags under the tags key, or nothing there if there are none, and under every other key what
they held before; the mode, the trees and the simple filters stay.  If other texts are selected from
afterwards, the state is what they alone lead to, except for the order of the keys.  The state stays
as it is just if the selected tags are what is stored already, as they are if they are selected
again. -/
theorem setTags_exact :
    ∃ tags payload, Selects texts tags ∧
      (Request.setTags texts).run e = .ok payload (e.setTags texts) ∧
      (e.setTags texts).state.applied = payload ∧
      e.Retags tags (e.setTags texts).state ∧
      (∀ more, ((e.setTags texts).setTags more).state.SameMaps (e.setTags more).state) ∧
      ((e.setTags texts).state = e.state ↔ e.Stores tags) ∧
      ((e.setTags texts).setTags tags).state = (e.setTags texts).state := by
  refine ⟨selectedTags texts, _, selects_selectedTags texts,
    Request.run_applying_eq_ok_iff.2 ⟨rfl, rfl⟩, rfl, e.retags_setTags texts,
    e.sameMaps_setTags_setTags texts, e.state_setTags_eq_self_iff texts, ?_⟩
  have hstored : (e.setTags texts).Stores (selectedTags (selectedTags texts)) := by
    rw [selectedTags_selectedTags]
    exact e.stores_setTags texts
  exact ((e.setTags texts).state_setTags_eq_self_iff (selectedTags texts)).2 hstored

end Editor

end RecordFilter
