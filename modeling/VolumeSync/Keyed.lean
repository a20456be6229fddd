-- Maps from text keys, kept as a list in strictly ascending order of the
-- keys. Two maps with the same entries are the same value, so a map read
-- back from its written form can be compared by equality.

namespace VolumeSync

/-- The keys of the list ascend strictly. -/
def Ascending {α : Type} (entries : List (String × α)) : Prop :=
  entries.Pairwise fun a b => a.1 < b.1

/-- A finite map from text keys. -/
structure Keyed (α : Type) where
  entries : List (String × α)
  ascending : Ascending entries

namespace Keyed

variable {α : Type}

@[ext] theorem ext {m n : Keyed α} (h : m.entries = n.entries) : m = n := by
  cases m; cases n; simp_all

instance [DecidableEq α] : DecidableEq (Keyed α) := fun m n =>
  if h : m.entries = n.entries then isTrue (ext h)
  else isFalse fun e => h (e ▸ rfl)

/-! ## Lists of entries -/

/-- The list with the value put under the key, at its place in the order. -/
def insertEntry (key : String) (value : α) : List (String × α) → List (String × α)
  | [] => [(key, value)]
  | (k, v) :: rest =>
    if key < k then (key, value) :: (k, v) :: rest
    else if k < key then (k, v) :: insertEntry key value rest
    else (key, value) :: rest

/-- The list without the entry of the key. -/
def eraseEntry (key : String) (entries : List (String × α)) : List (String × α) :=
  entries.filter fun e => !(e.1 == key)

theorem mem_insertEntry {key : String} {value : α} {entries : List (String × α)}
    {e : String × α} (h : e ∈ insertEntry key value entries) :
    e = (key, value) ∨ e ∈ entries := by
  induction entries with
  | nil => simpa [insertEntry] using h
  | cons x rest ih =>
    simp only [insertEntry] at h
    split at h
    · simpa using h
    · split at h
      · rcases List.mem_cons.mp h with h | h
        · exact .inr (by simp [h])
        · exact (ih h).imp_right (List.mem_cons_of_mem _)
      · exact (List.mem_cons.mp h).imp_right (List.mem_cons_of_mem _)

theorem ascending_insertEntry {key : String} {value : α} {entries : List (String × α)}
    (h : Ascending entries) : Ascending (insertEntry key value entries) := by
  induction entries with
  | nil => simp [insertEntry, Ascending]
  | cons x rest ih =>
    obtain ⟨first, tail⟩ := List.pairwise_cons.mp h
    simp only [insertEntry]
    split
    · rename_i before
      refine List.pairwise_cons.mpr ⟨fun e he => ?_, h⟩
      rcases List.mem_cons.mp he with rfl | he
      · exact before
      · exact String.lt_trans before (first e he)
    · split
      · rename_i after
        refine List.pairwise_cons.mpr ⟨fun e he => ?_, ih tail⟩
        rcases mem_insertEntry he with rfl | he
        · exact after
        · exact first e he
      · rename_i notBefore notAfter
        have same : key = x.1 :=
          String.le_antisymm (String.not_lt.mp notAfter) (String.not_lt.mp notBefore)
        refine List.pairwise_cons.mpr ⟨fun e he => ?_, tail⟩
        simpa [same] using first e he

/-! ## The operations -/

/-- The map without entries. -/
def empty : Keyed α := ⟨[], List.Pairwise.nil⟩

/-- The value under the key. -/
def find? (m : Keyed α) (key : String) : Option α :=
  (m.entries.find? fun e => e.1 == key).map (·.2)

/-- The map with the value put under the key, in place of an earlier one. -/
def insert (m : Keyed α) (key : String) (value : α) : Keyed α :=
  ⟨insertEntry key value m.entries, ascending_insertEntry m.ascending⟩

/-- The map without the key. -/
def erase (m : Keyed α) (key : String) : Keyed α :=
  ⟨eraseEntry key m.entries, m.ascending.sublist List.filter_sublist⟩

/-- The number of keys. -/
def size (m : Keyed α) : Nat := m.entries.length

/-- The map has no key. -/
def isEmpty (m : Keyed α) : Bool := m.entries.isEmpty

/-- The map of a list of entries; of two entries of one key the later
wins. -/
def ofList (entries : List (String × α)) : Keyed α :=
  entries.foldl (fun m e => m.insert e.1 e.2) empty

instance : Inhabited (Keyed α) := ⟨empty⟩

/-! ## What a look-up sees -/

@[simp] theorem find?_empty (key : String) : (empty : Keyed α).find? key = none := rfl

theorem find?_insertEntry (key k : String) (value : α) (entries : List (String × α)) :
    ((insertEntry key value entries).find? fun e => e.1 == k).map (·.2) =
      if key = k then some value else (entries.find? fun e => e.1 == k).map (·.2) := by
  induction entries with
  | nil => by_cases hk : key = k <;> simp [insertEntry, hk]
  | cons x rest ih =>
    simp only [insertEntry]
    split
    · by_cases hk : key = k <;> simp [hk]
    · split
      · rename_i after
        by_cases hx : x.1 = k
        · have apart : ¬ key = k := fun h => String.lt_irrefl key (by rwa [hx, ← h] at after)
          simp [hx, apart]
        · simpa [hx] using ih
      · rename_i notBefore notAfter
        have same : key = x.1 :=
          String.le_antisymm (String.not_lt.mp notAfter) (String.not_lt.mp notBefore)
        by_cases hk : key = k
        · simp [hk]
        · have : ¬ x.1 = k := fun h => hk (same.trans h)
          simp [hk, this]

/-- After putting a value under a key, that key gives it and every other
key gives what it gave before. -/
@[simp] theorem find?_insert (m : Keyed α) (key k : String) (value : α) :
    (m.insert key value).find? k = if key = k then some value else m.find? k :=
  find?_insertEntry key k value m.entries

/-- After erasing a key, that key gives nothing and every other key gives
what it gave before. -/
@[simp] theorem find?_erase (m : Keyed α) (key k : String) :
    (m.erase key).find? k = if key = k then none else m.find? k := by
  obtain ⟨entries, h⟩ := m
  simp only [find?, erase, eraseEntry]
  clear h
  induction entries with
  | nil => simp
  | cons x rest ih =>
    by_cases hx : x.1 = key
    · by_cases hk : key = k <;> simp_all
    · by_cases hk : x.1 = k
      · have apart : ¬ k = key := fun h => hx (hk.trans h)
        simp [hk, apart, eq_comm (a := key)]
      · simpa [hx, hk] using ih

end Keyed

end VolumeSync
