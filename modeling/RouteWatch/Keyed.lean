/-
Finite maps with text keys, kept as a list in strictly increasing key order
(the order of the keys' code points, which is also that of their UTF-8
bytes). The order is part of the type, so two maps are equal exactly when
they answer every key alike: `Keyed.ext_get?`.
-/
import RouteWatch.Text.Basic

namespace RouteWatch

/-- The keys of the entries increase strictly. -/
def KeysIncrease (entries : List (Text × α)) : Prop :=
  entries.Pairwise fun a b => a.1 < b.1

/-- Puts an entry in its place, over one with the same key. -/
def insertEntry (key : Text) (value : α) : List (Text × α) → List (Text × α)
  | [] => [(key, value)]
  | (k, v) :: rest =>
    if key < k then (key, value) :: (k, v) :: rest
    else if key = k then (key, value) :: rest
    else (k, v) :: insertEntry key value rest

/-- Puts an entry in its place, and answers the value that it replaces there. -/
def exchangeEntry (key : Text) (value : α) : List (Text × α) → Option α × List (Text × α)
  | [] => (none, [(key, value)])
  | (k, v) :: rest =>
    if key < k then (none, (key, value) :: (k, v) :: rest)
    else if key = k then (some v, (key, value) :: rest)
    else
      let (old, rest) := exchangeEntry key value rest
      (old, (k, v) :: rest)

/-- The value of the first entry with this key. -/
def valueOf? (key : Text) : List (Text × α) → Option α
  | [] => none
  | (k, v) :: rest => if k = key then some v else valueOf? key rest

theorem mem_insertEntry {key : Text} {value : α} {entry : Text × α} {entries : List (Text × α)}
    (h : entry ∈ insertEntry key value entries) : entry = (key, value) ∨ entry ∈ entries := by
  induction entries with
  | nil => simpa [insertEntry] using h
  | cons first rest ih =>
    obtain ⟨k, v⟩ := first
    rw [insertEntry] at h
    split at h
    · simpa using h
    · split at h
      · rw [List.mem_cons] at h
        rcases h with h | h
        · exact .inl h
        · exact .inr (by simp [h])
      · rw [List.mem_cons] at h
        rcases h with h | h
        · exact .inr (by simp [h])
        · rcases ih h with h | h
          · exact .inl h
          · exact .inr (by simp [h])

theorem keysIncrease_insertEntry (key : Text) (value : α) {entries : List (Text × α)}
    (h : KeysIncrease entries) : KeysIncrease (insertEntry key value entries) := by
  induction entries with
  | nil => simp [insertEntry, KeysIncrease]
  | cons first rest ih =>
    obtain ⟨k, v⟩ := first
    rw [KeysIncrease, List.pairwise_cons] at h
    rw [insertEntry, KeysIncrease]
    split
    · rename_i hlt
      rw [List.pairwise_cons]
      refine ⟨fun b hb => ?_, List.pairwise_cons.2 h⟩
      rw [List.mem_cons] at hb
      rcases hb with rfl | hb
      · exact hlt
      · exact List.lt_trans hlt (h.1 b hb)
    · split
      · rename_i heq
        subst heq
        exact List.pairwise_cons.2 h
      · rename_i hlt hne
        rw [List.pairwise_cons]
        refine ⟨fun b hb => ?_, ih h.2⟩
        rcases mem_insertEntry hb with rfl | hb
        · rcases Std.lt_trichotomy key k with hk | hk | hk
          · exact absurd hk hlt
          · exact absurd hk hne
          · exact hk
        · exact h.1 b hb

theorem valueOf?_insertEntry_self (key : Text) (value : α) (entries : List (Text × α)) :
    valueOf? key (insertEntry key value entries) = some value := by
  induction entries with
  | nil => simp [insertEntry, valueOf?]
  | cons first rest ih =>
    obtain ⟨k, v⟩ := first
    rw [insertEntry]
    split
    · simp [valueOf?]
    · split
      · simp [valueOf?]
      · rename_i _ hne
        simp [valueOf?, Ne.symm hne, ih]

theorem valueOf?_insertEntry_other {key other : Text} (value : α) (entries : List (Text × α))
    (hne : other ≠ key) :
    valueOf? other (insertEntry key value entries) = valueOf? other entries := by
  induction entries with
  | nil => simp [insertEntry, valueOf?, Ne.symm hne]
  | cons first rest ih =>
    obtain ⟨k, v⟩ := first
    rw [insertEntry]
    split
    · simp [valueOf?, Ne.symm hne]
    · split
      · rename_i heq
        subst heq
        simp [valueOf?, Ne.symm hne]
      · by_cases hk : k = other <;> simp [valueOf?, hk, ih]

theorem valueOf?_eq_none_of_lt {key : Text} {entries : List (Text × α)}
    (h : ∀ entry ∈ entries, key < entry.1) : valueOf? key entries = none := by
  induction entries with
  | nil => rfl
  | cons first rest ih =>
    obtain ⟨k, v⟩ := first
    have hk : k ≠ key := by
      rintro rfl
      exact List.lt_irrefl _ (h (k, v) (by simp))
    simp only [valueOf?, hk, if_false]
    exact ih fun entry hentry => h entry (by simp [hentry])

/-- A key that is smaller than the first one is not found. -/
theorem valueOf?_eq_none_of_lt_first {key k : Text} {v : α} {rest : List (Text × α)}
    (h : KeysIncrease ((k, v) :: rest)) (hlt : key < k) :
    valueOf? key ((k, v) :: rest) = none := by
  rw [KeysIncrease, List.pairwise_cons] at h
  refine valueOf?_eq_none_of_lt fun entry hentry => ?_
  rw [List.mem_cons] at hentry
  rcases hentry with rfl | hentry
  · exact hlt
  · exact List.lt_trans hlt (h.1 entry hentry)

theorem exchangeEntry_snd (key : Text) (value : α) (entries : List (Text × α)) :
    (exchangeEntry key value entries).2 = insertEntry key value entries := by
  induction entries with
  | nil => rfl
  | cons first rest ih =>
    obtain ⟨k, v⟩ := first
    simp only [exchangeEntry, insertEntry, ← ih, apply_ite Prod.snd]

/-- What is replaced is what was found before. The search ends where the key has its place, as no
entry behind it can have the key. -/
theorem exchangeEntry_fst {entries : List (Text × α)} (h : KeysIncrease entries) (key : Text)
    (value : α) : (exchangeEntry key value entries).1 = valueOf? key entries := by
  induction entries with
  | nil => rfl
  | cons first rest ih =>
    obtain ⟨k, v⟩ := first
    have hrest : KeysIncrease rest := (List.pairwise_cons.1 h).2
    rw [exchangeEntry]
    split
    · rename_i hlt
      rw [valueOf?_eq_none_of_lt_first h hlt]
    · split
      · rename_i heq
        simp [valueOf?, heq]
      · rename_i hne
        simp [valueOf?, Ne.symm hne, ih hrest]

/-- Sorted entries are determined by what they answer. -/
theorem eq_of_valueOf?_eq {a b : List (Text × α)} (ha : KeysIncrease a) (hb : KeysIncrease b)
    (h : ∀ key, valueOf? key a = valueOf? key b) : a = b := by
  induction a generalizing b with
  | nil =>
    cases b with
    | nil => rfl
    | cons first rest => simpa [valueOf?] using h first.1
  | cons first rest ih =>
    obtain ⟨k, v⟩ := first
    cases b with
    | nil => simpa [valueOf?] using h k
    | cons first' rest' =>
      obtain ⟨k', v'⟩ := first'
      have hk : k = k' := by
        rcases Std.lt_trichotomy k k' with hlt | heq | hlt
        · have := h k
          rw [valueOf?_eq_none_of_lt_first hb hlt] at this
          simp [valueOf?] at this
        · exact heq
        · have := h k'
          rw [valueOf?_eq_none_of_lt_first ha hlt] at this
          simp [valueOf?] at this
      rw [KeysIncrease, List.pairwise_cons] at ha hb
      subst hk
      have hv : v = v' := by simpa [valueOf?] using h k
      subst hv
      rw [ih ha.2 hb.2 fun key => ?_]
      by_cases hkey : k = key
      · subst hkey
        rw [valueOf?_eq_none_of_lt ha.1, valueOf?_eq_none_of_lt hb.1]
      · simpa [valueOf?, hkey] using h key

/-- A finite map with text keys. -/
structure Keyed (α : Type) where
  entries : List (Text × α)
  increasing : KeysIncrease entries
  deriving DecidableEq

namespace Keyed

instance : EmptyCollection (Keyed α) := ⟨⟨[], List.Pairwise.nil⟩⟩
instance : Inhabited (Keyed α) := ⟨∅⟩

/-- The value of a key. -/
def get? (m : Keyed α) (key : Text) : Option α := valueOf? key m.entries

/-- The map with one more entry, or another value for a key it has. -/
def insert (m : Keyed α) (key : Text) (value : α) : Keyed α :=
  ⟨insertEntry key value m.entries, keysIncrease_insertEntry key value m.increasing⟩

/-- The map after an insertion, and the value that it replaced. -/
def exchange (m : Keyed α) (key : Text) (value : α) : Option α × Keyed α :=
  let entries := exchangeEntry key value m.entries
  (entries.1, ⟨entries.2, exchangeEntry_snd key value m.entries ▸
    keysIncrease_insertEntry key value m.increasing⟩)

/-- The entries that pass a test on their value. -/
def filter (keep : α → Bool) (m : Keyed α) : Keyed α :=
  ⟨m.entries.filter (keep ·.2), m.increasing.filter _⟩

/-- The keys in order. -/
def keys (m : Keyed α) : List Text := m.entries.map (·.1)

/-- The number of keys. -/
def size (m : Keyed α) : Nat := m.entries.length

/-- The map of a list of entries, of which the last one counts for its key. -/
def ofList (entries : List (Text × α)) : Keyed α :=
  entries.foldl (fun m entry => m.insert entry.1 entry.2) ∅

theorem ext_get? {a b : Keyed α} (h : ∀ key, a.get? key = b.get? key) : a = b := by
  obtain ⟨as, ha⟩ := a
  obtain ⟨bs, hb⟩ := b
  have : as = bs := eq_of_valueOf?_eq ha hb h
  subst this
  rfl

@[simp] theorem get?_empty (key : Text) : (∅ : Keyed α).get? key = none := rfl

@[simp] theorem get?_insert_self (m : Keyed α) (key : Text) (value : α) :
    (m.insert key value).get? key = some value :=
  valueOf?_insertEntry_self key value m.entries

theorem exchange_eq (m : Keyed α) (key : Text) (value : α) :
    m.exchange key value = (m.get? key, m.insert key value) := by
  refine Prod.ext (exchangeEntry_fst m.increasing key value) ?_
  simp only [exchange, insert, exchangeEntry_snd]

theorem get?_insert_other (m : Keyed α) {key other : Text} (value : α) (hne : other ≠ key) :
    (m.insert key value).get? other = m.get? other :=
  valueOf?_insertEntry_other value m.entries hne

end Keyed
end RouteWatch
