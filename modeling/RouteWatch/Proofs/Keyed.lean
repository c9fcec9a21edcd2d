/-
Looking up a key against the entries that a map was built from. Entries with
distinct keys answer a key exactly with the value listed under it, whatever
their order, and of entries that are put in one after the other the last one
of a key is what is found.
-/
import RouteWatch.Keyed

namespace RouteWatch

theorem KeysIncrease.nodup_keys {entries : List (Text × α)} (h : KeysIncrease entries) :
    (entries.map (·.1)).Nodup := by
  rw [List.nodup_iff_pairwise_ne, List.pairwise_map]
  refine h.imp ?_
  rintro a b hab heq
  exact List.lt_irrefl _ (heq ▸ hab)

theorem mem_of_valueOf? {key : Text} {value : α} {entries : List (Text × α)}
    (h : valueOf? key entries = some value) : (key, value) ∈ entries := by
  induction entries with
  | nil => simp [valueOf?] at h
  | cons first rest ih =>
    obtain ⟨k, v⟩ := first
    rw [valueOf?] at h
    split at h
    · rename_i hk
      simp [hk, Option.some.inj h]
    · simp [ih h]

/-- Entries with distinct keys answer what they list. -/
theorem valueOf?_eq_some {entries : List (Text × α)} (hn : (entries.map (·.1)).Nodup)
    {key : Text} {value : α} : valueOf? key entries = some value ↔ (key, value) ∈ entries := by
  constructor
  · exact mem_of_valueOf?
  · intro h
    induction entries with
    | nil => simp at h
    | cons first rest ih =>
      obtain ⟨k, v⟩ := first
      simp only [List.map_cons, List.nodup_cons, List.mem_map] at hn
      simp only [List.mem_cons, Prod.mk.injEq] at h
      rcases h with ⟨rfl, rfl⟩ | h
      · simp [valueOf?]
      · have hne : k ≠ key := by
          rintro rfl
          exact hn.1 ⟨(k, value), h, rfl⟩
        simp [valueOf?, hne, ih hn.2 h]

theorem valueOf?_append (key : Text) (a b : List (Text × α)) :
    valueOf? key (a ++ b) = (valueOf? key a).or (valueOf? key b) := by
  induction a with
  | nil => simp [valueOf?]
  | cons first a ih =>
    obtain ⟨k, v⟩ := first
    by_cases hk : k = key <;> simp [valueOf?, hk, ih]

theorem valueOf?_reverse {entries : List (Text × α)} (hn : (entries.map (·.1)).Nodup)
    (key : Text) : valueOf? key entries.reverse = valueOf? key entries := by
  have hn' : (entries.reverse.map (·.1)).Nodup := by
    rw [List.map_reverse, List.nodup_iff_pairwise_ne, List.pairwise_reverse]
    exact (List.nodup_iff_pairwise_ne.1 hn).imp Ne.symm
  ext value
  rw [valueOf?_eq_some hn', valueOf?_eq_some hn, List.mem_reverse]

/-- The order of entries with distinct keys does not matter. -/
theorem valueOf?_perm {a b : List (Text × α)} (h : a.Perm b) (hn : (a.map (·.1)).Nodup)
    (key : Text) : valueOf? key a = valueOf? key b := by
  ext value
  rw [valueOf?_eq_some hn, valueOf?_eq_some ((h.map _).nodup hn), h.mem_iff]

theorem valueOf?_filter (p : Text → Bool) (key : Text) (entries : List (Text × α)) :
    valueOf? key (entries.filter (p ·.1)) = if p key then valueOf? key entries else none := by
  induction entries with
  | nil => simp [valueOf?]
  | cons first rest ih =>
    obtain ⟨k, v⟩ := first
    by_cases hk : k = key
    · subst hk
      cases hp : p k <;> simp [valueOf?, hp, ih]
    · cases hp : p k <;> simp [valueOf?, hp, hk, ih]

theorem valueOf?_map (f : α → β) (key : Text) (entries : List (Text × α)) :
    valueOf? key (entries.map fun entry => (entry.1, f entry.2)) =
      (valueOf? key entries).map f := by
  induction entries with
  | nil => rfl
  | cons first rest ih =>
    obtain ⟨k, v⟩ := first
    by_cases hk : k = key <;> simp [valueOf?, hk, ih]

/-- Keys that all have the same value answer with it. -/
theorem valueOf?_map_pair (key : Text) (keys : List Text) (value : α) :
    valueOf? key (keys.map (·, value)) = if key ∈ keys then some value else none := by
  induction keys with
  | nil => rfl
  | cons k keys ih =>
    by_cases hk : k = key
    · simp [valueOf?, hk]
    · simp [valueOf?, hk, ih, Ne.symm hk]

namespace Keyed

theorem get?_eq_some {m : Keyed α} {key : Text} {value : α} :
    m.get? key = some value ↔ (key, value) ∈ m.entries :=
  valueOf?_eq_some m.increasing.nodup_keys

theorem size_ne_zero {m : Keyed α} : m.size ≠ 0 ↔ ∃ key value, m.get? key = some value := by
  simp only [size, get?_eq_some]
  cases m.entries with
  | nil => simp
  | cons entry entries =>
    exact ⟨fun _ => ⟨entry.1, entry.2, List.mem_cons_self⟩, fun _ => by simp⟩

theorem mem_keys {m : Keyed α} {key : Text} : key ∈ m.keys ↔ (m.get? key).isSome = true := by
  rw [keys, List.mem_map, Option.isSome_iff_exists]
  constructor
  · rintro ⟨⟨k, value⟩, hmem, rfl⟩
    exact ⟨value, get?_eq_some.2 hmem⟩
  · rintro ⟨value, hvalue⟩
    exact ⟨(key, value), get?_eq_some.1 hvalue, rfl⟩

theorem nodup_keys (m : Keyed α) : m.keys.Nodup := m.increasing.nodup_keys

theorem length_keys (m : Keyed α) : m.keys.length = m.size := List.length_map _

theorem keys_eq_nil {m : Keyed α} : m.keys = [] ↔ m.size = 0 := by
  rw [← length_keys, List.length_eq_zero_iff]

/-- The keys of a map that another one does not have. -/
def keysNotIn (m other : Keyed α) : List Text := m.keys.filter fun key => (other.get? key).isNone

theorem mem_keysNotIn {m other : Keyed α} {key : Text} :
    key ∈ m.keysNotIn other ↔ (m.get? key).isSome = true ∧ other.get? key = none := by
  rw [keysNotIn, List.mem_filter, mem_keys, Option.isNone_iff_eq_none]

theorem nodup_keysNotIn (m other : Keyed α) : (m.keysNotIn other).Nodup :=
  m.nodup_keys.sublist List.filter_sublist

/-- The keys of both maps are the same from either side, so the sizes differ as the keys do that
only one of them has. -/
theorem size_add_length_keysNotIn (a b : Keyed α) :
    a.size + (b.keysNotIn a).length = b.size + (a.keysNotIn b).length := by
  have hsplit : ∀ m other : Keyed α, m.size =
      (m.keysNotIn other).length + (m.keys.filter fun key => (other.get? key).isSome).length := by
    intro m other
    have hnot : (fun key => decide ¬(other.get? key).isNone = true) =
        fun key => (other.get? key).isSome := by
      funext key
      cases other.get? key <;> rfl
    rw [← length_keys, List.length_eq_countP_add_countP fun key => (other.get? key).isNone, hnot,
      List.countP_eq_length_filter, List.countP_eq_length_filter, keysNotIn]
  have hboth : (a.keys.filter fun key => (b.get? key).isSome).Perm
      (b.keys.filter fun key => (a.get? key).isSome) := by
    rw [List.perm_ext_iff_of_nodup (a.nodup_keys.sublist List.filter_sublist)
      (b.nodup_keys.sublist List.filter_sublist)]
    intro key
    rw [List.mem_filter, List.mem_filter, mem_keys, mem_keys, and_comm]
  have ha := hsplit a b
  have hb := hsplit b a
  have hlength := hboth.length_eq
  omega

/-- The map without one key. -/
def erase (m : Keyed α) (key : Text) : Keyed α :=
  ⟨m.entries.filter (·.1 ≠ key), m.increasing.filter _⟩

@[simp] theorem get?_erase (m : Keyed α) (key other : Text) :
    (m.erase key).get? other = if other = key then none else m.get? other := by
  rw [get?, erase, valueOf?_filter (· ≠ key)]
  by_cases h : other = key
  · simp [h]
  · simp [h, get?]

/-- The entries with one key are that of its value alone. -/
theorem filter_entries_eq {m : Keyed α} {key : Text} {value : α} (h : m.get? key = some value) :
    m.entries.filter (·.1 = key) = [(key, value)] := by
  have hnodup : m.entries.Nodup := by
    rw [List.nodup_iff_pairwise_ne]
    refine m.increasing.imp ?_
    rintro a _ hlt rfl
    exact List.lt_irrefl a.1 hlt
  refine List.perm_singleton.1 ((List.perm_ext_iff_of_nodup ?_ (by simp)).2 fun entry => ?_)
  · exact hnodup.sublist List.filter_sublist
  · rw [List.mem_filter, List.mem_singleton, decide_eq_true_eq]
    constructor
    · rintro ⟨hmem, rfl⟩
      exact Prod.ext rfl (Option.some.inj ((get?_eq_some.2 hmem).symm.trans h))
    · rintro rfl
      exact ⟨get?_eq_some.1 h, rfl⟩

/-- A map has one key more than without it. -/
theorem size_erase {m : Keyed α} {key : Text} {value : α} (h : m.get? key = some value) :
    (m.erase key).size + 1 = m.size := by
  have hone : m.entries.countP (·.1 = key) = 1 := by
    rw [List.countP_eq_length_filter, filter_entries_eq h, List.length_singleton]
  have hall := m.entries.length_eq_countP_add_countP fun entry => entry.1 = key
  simp only [decide_eq_true_eq] at hall
  rw [size, size, erase, ← List.countP_eq_length_filter, hall, hone, Nat.add_comm]

@[simp] theorem get?_filter (m : Keyed α) (keep : α → Bool) (key : Text) :
    (m.filter keep).get? key = (m.get? key).filter keep := by
  ext value
  rw [Option.filter_eq_some_iff, get?_eq_some, get?_eq_some, filter, List.mem_filter]

/-- Of the entries put in one after the other, the last one of a key is found. -/
theorem get?_foldl_insert (entries : List (Text × α)) (m : Keyed α) (key : Text) :
    (entries.foldl (fun m entry => m.insert entry.1 entry.2) m).get? key =
      (valueOf? key entries.reverse).or (m.get? key) := by
  induction entries generalizing m with
  | nil => simp [valueOf?]
  | cons first rest ih =>
    obtain ⟨k, v⟩ := first
    rw [List.foldl_cons, ih, List.reverse_cons, valueOf?_append, Option.or_assoc]
    by_cases hk : key = k
    · subst hk
      simp [valueOf?]
    · rw [get?_insert_other m v hk]
      simp [valueOf?, Ne.symm hk]

/-- The map of entries with distinct keys answers what they list. -/
theorem get?_ofList {entries : List (Text × α)} (hn : (entries.map (·.1)).Nodup) (key : Text) :
    (ofList entries).get? key = valueOf? key entries := by
  rw [ofList, get?_foldl_insert, get?_empty, Option.or_none, valueOf?_reverse hn]

/-- A map is that of its own entries. -/
theorem ofList_entries (m : Keyed α) : ofList m.entries = m :=
  ext_get? fun key => get?_ofList m.nodup_keys key

/-- Entries with distinct keys make one map in whatever order they are put in. -/
theorem ofList_perm {a b : List (Text × α)} (h : a.Perm b) (hn : (a.map (·.1)).Nodup) :
    ofList a = ofList b := by
  refine ext_get? fun key => ?_
  rw [get?_ofList hn, get?_ofList ((h.map _).nodup hn), valueOf?_perm h hn]

theorem length_insertEntry_le (key : Text) (value : α) (entries : List (Text × α)) :
    (insertEntry key value entries).length ≤ entries.length + 1 := by
  induction entries with
  | nil => simp [insertEntry]
  | cons first rest ih =>
    obtain ⟨k, v⟩ := first
    rw [insertEntry]
    split
    · simp
    · split
      · simp
      · simp only [List.length_cons]
        omega

/-- A map has at most as many keys as there were entries. -/
theorem size_ofList_le (entries : List (Text × α)) : (ofList entries).size ≤ entries.length := by
  have hfold : ∀ (entries : List (Text × α)) (m : Keyed α),
      (entries.foldl (fun m entry => m.insert entry.1 entry.2) m).size ≤
        m.size + entries.length := by
    intro entries
    induction entries with
    | nil => simp
    | cons first rest ih =>
      intro m
      have hrest := ih (m.insert first.1 first.2)
      have hfirst : (m.insert first.1 first.2).size ≤ m.size + 1 :=
        length_insertEntry_le first.1 first.2 m.entries
      simp only [List.foldl_cons, List.length_cons]
      omega
  calc (ofList entries).size ≤ (∅ : Keyed α).size + entries.length := hfold entries ∅
    _ = entries.length := Nat.zero_add _

end Keyed
end RouteWatch
