import Mathlib.Data.List.Induction
import Mathlib.Data.List.Nodup
import VolumeSync.Keyed

-- Maps by what a look-up sees. A map is known by the values under its keys,
-- and one that is made of a list of entries gives for each key what was put
-- under it last. Its entries stand in the order of their keys, so putting them
-- one behind another makes the map again.

namespace VolumeSync

/-- What is looked up is in the list. -/
theorem mem_of_lookup {α β : Type} [BEq α] [LawfulBEq α] {key : α} {value : β}
    {entries : List (α × β)} (h : entries.lookup key = some value) : (key, value) ∈ entries := by
  obtain ⟨before, after, rfl, _⟩ := List.lookup_eq_some_iff.mp h
  exact List.mem_append_right _ List.mem_cons_self

namespace Keyed

variable {α : Type}

/-! ## Keys -/

/-- The keys, in order. -/
def keys (m : Keyed α) : List String := m.entries.map (·.1)

theorem mem_keys (m : Keyed α) (key : String) : key ∈ m.keys ↔ (m.find? key).isSome := by
  simp [keys, find?, List.find?_isSome]

theorem nodup_keys (m : Keyed α) : m.keys.Nodup := by
  have h : m.entries.Pairwise fun a b => a.1 < b.1 := m.ascending
  refine List.pairwise_map.mpr (h.imp fun hlt heq => ?_)
  rw [heq] at hlt
  exact String.lt_irrefl _ hlt

theorem length_keys (m : Keyed α) : m.keys.length = m.size := List.length_map _

theorem mem_entries_iff (m : Keyed α) (key : String) (value : α) :
    (key, value) ∈ m.entries ↔ m.find? key = some value := by
  unfold find?
  rw [Option.map_eq_some_iff]
  constructor
  · intro h
    have hsome : (m.entries.find? fun e => e.1 == key).isSome := by
      rw [List.find?_isSome]
      exact ⟨(key, value), h, beq_self_eq_true key⟩
    obtain ⟨e, he⟩ := Option.isSome_iff_exists.mp hsome
    have hkey : e.1 = key := by simpa using List.find?_some he
    have hsame := List.inj_on_of_nodup_map m.nodup_keys (List.mem_of_find?_eq_some he) h hkey
    exact ⟨e, he, by rw [hsame]⟩
  · rintro ⟨e, he, rfl⟩
    have hkey : e.1 = key := by simpa using List.find?_some he
    rw [← hkey]
    exact List.mem_of_find?_eq_some he

/-- Maps that give the same for every key are the same. -/
theorem ext_find? {m n : Keyed α} (h : ∀ key, m.find? key = n.find? key) : m = n := by
  have hmem : ∀ e, e ∈ m.entries ↔ e ∈ n.entries := by
    rintro ⟨key, value⟩
    rw [mem_entries_iff, mem_entries_iff, h]
  have hperm : m.entries.Perm n.entries :=
    (List.perm_ext_iff_of_nodup (List.Nodup.of_map _ m.nodup_keys)
      (List.Nodup.of_map _ n.nodup_keys)).mpr hmem
  refine ext (hperm.eq_of_pairwise ?_ m.ascending n.ascending)
  intro a b _ _ hab hba
  exact absurd (String.lt_trans hab hba) (String.lt_irrefl _)

/-! ## Maps from entries -/

theorem ofList_snoc (entries : List (String × α)) (e : String × α) :
    ofList (entries ++ [e]) = (ofList entries).insert e.1 e.2 := by
  rw [ofList, List.foldl_append]
  rfl

/-- Of two entries of one key the later counts. -/
theorem find?_ofList (entries : List (String × α)) (key : String) :
    (ofList entries).find? key = entries.reverse.lookup key := by
  induction entries using List.reverseRecOn with
  | nil => rfl
  | append_singleton entries e ih =>
    rw [ofList_snoc, find?_insert, ih, List.reverse_append, List.reverse_singleton,
      List.singleton_append, List.lookup_cons]
    by_cases hkey : e.1 = key
    · rw [if_pos hkey, hkey, BEq.rfl]
    · rw [if_neg hkey, beq_eq_false_iff_ne.mpr (Ne.symm hkey)]

/-- A key above all others comes last. -/
theorem insertEntry_of_forall_lt {key : String} {value : α} {entries : List (String × α)}
    (h : ∀ e ∈ entries, e.1 < key) :
    insertEntry key value entries = entries ++ [(key, value)] := by
  induction entries with
  | nil => rfl
  | cons e rest ih =>
    have hlt : e.1 < key := h e List.mem_cons_self
    have hnot : ¬ key < e.1 := fun hgt => String.lt_irrefl key (String.lt_trans hgt hlt)
    rw [insertEntry, if_neg hnot, if_pos hlt, ih fun x hx => h x (List.mem_cons_of_mem _ hx)]
    rfl

/-- The entries of a map make the map again. -/
theorem ofList_entries (m : Keyed α) : ofList m.entries = m := by
  obtain ⟨entries, h⟩ := m
  apply ext
  dsimp only
  induction entries using List.reverseRecOn with
  | nil => rfl
  | append_singleton entries e ih =>
    obtain ⟨hbefore, _, hlast⟩ := List.pairwise_append.mp h
    have hentries : (ofList (entries ++ [e])).entries =
        insertEntry e.1 e.2 (ofList entries).entries := by
      rw [ofList_snoc]
      rfl
    rw [hentries, ih hbefore, insertEntry_of_forall_lt fun x hx => hlast x hx e List.mem_cons_self]

end Keyed

end VolumeSync
