import Mathlib.Data.List.Forall2
import Mathlib.Data.List.Nodup
import VolumeSync.Json
import VolumeSync.Proofs.FiniteMaps
import VolumeSync.Proofs.JsonText

-- Records that read back: a record in which no field stands twice gives
-- each known field its value, and every plain value that is written as a
-- field is read as what it was.

namespace VolumeSync

namespace Json

/-! ## Lists -/

section Lists

variable {α β : Type} {read : α → Option β} {xs : List α} {ys : List β}

/-- A list is read item by item. -/
theorem mapM_eq_some_iff :
    xs.mapM read = some ys ↔ List.Forall₂ (fun x y => read x = some y) xs ys := by
  induction xs generalizing ys with
  | nil => simp [eq_comm]
  | cons x xs ih =>
    rw [List.mapM_cons, List.forall₂_cons_left_iff]
    simp only [Option.bind_eq_bind, Option.bind_eq_some_iff, Option.pure_def, Option.some.injEq, ih]
    constructor
    · rintro ⟨y, hy, ys, hys, rfl⟩
      exact ⟨y, ys, hy, hys, rfl⟩
    · rintro ⟨y, ys, hy, hys, rfl⟩
      exact ⟨y, hy, ys, hys, rfl⟩

/-- A list of items that are each written in one way is read as what was
written. -/
theorem mapM_eq_some_iff_map {write : β → α} (h : ∀ x y, read x = some y ↔ x = write y) :
    xs.mapM read = some ys ↔ xs = ys.map write := by
  simp only [mapM_eq_some_iff, h]
  rw [← List.forall₂_map_right_iff (R := (· = ·)), List.forall₂_eq_eq_eq]

end Lists

/-! ## Plain values -/

theorem text?_eq_some_iff {value : Json} {s : String} :
    value.text? = some s ↔ value = ofText s := by
  cases value <;> simp [text?, ofText]

theorem word?_eq_some_iff {value : Json} {n : Int64} : value.word? = some n ↔ value = ofWord n := by
  cases value with
  | int value => rw [word?, word64?_eq_some_iff, ofWord, int.injEq, eq_comm]
  | _ => simp [word?, ofWord]

theorem texts?_eq_some_iff {value : Json} {items : List String} :
    value.texts? = some items ↔ value = ofTexts items := by
  cases value with
  | list values =>
    rw [texts?, mapM_eq_some_iff_map fun value s => text?_eq_some_iff, ofTexts, list.injEq]
  | _ => simp [texts?, ofTexts]

theorem entry?_eq_some_iff {member : Literal × Json} {e : String × String} :
    entry? member = some e ↔ member = (some e.1, ofText e.2) := by
  obtain ⟨key, value⟩ := member
  obtain ⟨k, s⟩ := e
  simp [ entry?, Option.bind_eq_some_iff, text?_eq_some_iff]

/-- An object of texts is a map; of a repeated key the last text counts. -/
theorem map?_eq_some_iff {value : Json} {m : Keyed String} :
    value.map? = some m ↔ ∃ entries : List (String × String),
      value = record (entries.map fun e => (e.1, ofText e.2)) ∧ Keyed.ofList entries = m := by
  cases value with
  | object members =>
    rw [map?, Option.map_eq_some_iff]
    refine exists_congr fun entries => and_congr_left' ?_
    rw [mapM_eq_some_iff_map fun member e => entry?_eq_some_iff, record, List.map_map, object.injEq]
    rfl
  | _ => simp [map?, record]

@[simp] theorem text?_ofText (s : String) : (ofText s).text? = some s := rfl

@[simp] theorem word?_ofWord (n : Int64) : (ofWord n).word? = some n := word?_eq_some_iff.mpr rfl

@[simp] theorem texts?_ofTexts (items : List String) : (ofTexts items).texts? = some items :=
  texts?_eq_some_iff.mpr rfl

@[simp] theorem map?_ofMap (m : Keyed String) : (ofMap m).map? = some m :=
  map?_eq_some_iff.mpr ⟨m.entries, rfl, m.ofList_entries⟩

@[simp] theorem optional?_ofText? (s : Option String) :
    optional? text? (some (ofText? s)) = some s := by
  cases s <;> rfl

/-- A field that is null when there is nothing to write reads back as what
was there, unless the value itself is written as null. -/
theorem optional?_getD_null {α : Type} {write : α → Json} {read : Json → Option α}
    (hread : ∀ a, read (write a) = some a) (hnull : ∀ a, write a ≠ .null) (value : Option α) :
    optional? read (some ((value.map write).getD .null)) = some value := by
  rcases value with _ | a
  · rfl
  · simp only [Option.map_some, Option.getD_some, optional?]
    have hvalue : (write a).nullable? read = (read (write a)).map some := by
      have hne := hnull a
      cases hw : write a with
      | null => exact absurd hw hne
      | _ => rfl
    rw [hvalue, hread, Option.map_some]

/-! ## Fields -/

theorem valuesOf_record {fields : List (String × Json)} (h : (fields.map (·.1)).Nodup)
    (key : String) :
    valuesOf key (fields.map fun f => (some f.1, f.2)) = (fields.lookup key).toList := by
  induction fields with
  | nil => rfl
  | cons field rest ih =>
    obtain ⟨name, value⟩ := field
    obtain ⟨hnotin, hrest⟩ := List.nodup_cons.mp h
    have ih := ih hrest
    unfold valuesOf at ih ⊢
    by_cases hname : name = key
    · have hnone : rest.lookup key = none := by
        refine List.lookup_eq_none_iff.mpr fun x hx => ?_
        have hne : key ≠ x.1 := by
          rintro rfl
          exact hnotin (List.mem_map.mpr ⟨x, hx, hname.symm ▸ rfl⟩)
        simpa using hne
      rw [hnone] at ih
      simp [hname, ih]
    · have hne : (key == name) = false := by simpa using Ne.symm hname
      simp [hname, ih, List.lookup_cons, hne]

/-- A record in which no field stands twice gives each known field the value
that stands under it, if one does. -/
theorem fields?_record {fields : List (String × Json)} (h : (fields.map (·.1)).Nodup)
    (known : List String) :
    (record fields).fields? known = some (known.map fun key => fields.lookup key) := by
  have hkeys :
      (fields.map fun f => ((some f.1 : Literal), f.2)).all (fun m => m.1.isSome) = true := by
    simp
  have hmember : ∀ key, member? (fields.map fun f => (some f.1, f.2)) key =
      some (fields.lookup key) := by
    intro key
    rw [member?, valuesOf_record h]
    rcases fields.lookup key with _ | value
    · rfl
    · rfl
  rw [record, fields?, if_pos hkeys]
  induction known with
  | nil => rfl
  | cons key rest ih =>
    rw [List.mapM_cons, hmember, ih]
    rfl

/-- A record that is read for its own fields gives their values in order. -/
theorem fields?_record_self {fields : List (String × Json)} (h : (fields.map (·.1)).Nodup) :
    (record fields).fields? (fields.map (·.1)) = some (fields.map fun f => some f.2) := by
  rw [fields?_record h, List.map_map]
  refine congrArg some (List.map_congr_left fun field hfield => ?_)
  rw [Function.comp_apply]
  induction fields with
  | nil => cases hfield
  | cons first rest ih =>
    obtain ⟨hnotin, hrest⟩ := List.nodup_cons.mp h
    rw [List.lookup_cons]
    rcases List.mem_cons.mp hfield with rfl | hfield
    · rw [BEq.rfl]
    · have hne : field.1 ≠ first.1 := fun heq => hnotin (List.mem_map.mpr ⟨field, hfield, heq⟩)
      rw [beq_eq_false_iff_ne.mpr hne, ih hrest hfield]

/-! ## Legible records -/

theorem legible_ofText? (s : Option String) : Legible (ofText? s) := by
  rcases s with _ | s
  · exact .null
  · exact .str _

theorem legible_ofTexts (items : List String) : Legible (ofTexts items) := by
  refine .list fun item hitem => ?_
  obtain ⟨s, _, rfl⟩ := List.mem_map.mp hitem
  exact .str _

theorem legible_record {fields : List (String × Json)} (h : ∀ f ∈ fields, Legible f.2) :
    Legible (record fields) := by
  refine .object fun member hmember => ?_
  obtain ⟨f, hf, rfl⟩ := List.mem_map.mp hmember
  exact h f hf

theorem legible_ofMap (m : Keyed String) : Legible (ofMap m) := by
  refine legible_record fun f hf => ?_
  obtain ⟨e, _, rfl⟩ := List.mem_map.mp hf
  exact .str _

end Json

end VolumeSync
