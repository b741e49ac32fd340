/-! Finite maps as lists of entries with distinct keys, in order of first insertion.
Replacing a value keeps the entry's place. The view is `get?`. -/

namespace ComponentHost

structure Table (κ ν : Type) [DecidableEq κ] where
  entries : List (κ × ν)
  keys_nodup : (entries.map Prod.fst).Nodup

namespace Table

variable {κ ν : Type} [DecidableEq κ]

def empty : Table κ ν := ⟨[], List.nodup_nil⟩

instance : Inhabited (Table κ ν) := ⟨empty⟩

@[ext] theorem ext {t u : Table κ ν} (h : t.entries = u.entries) : t = u := by
  cases t; cases u; cases h; rfl

def keys (t : Table κ ν) : List κ := t.entries.map Prod.fst

def size (t : Table κ ν) : Nat := t.entries.length

def get? (t : Table κ ν) (k : κ) : Option ν :=
  (t.entries.find? (·.1 == k)).map Prod.snd

def contains (t : Table κ ν) (k : κ) : Bool := (t.get? k).isSome

theorem get?_eq_none_iff {t : Table κ ν} {k : κ} : t.get? k = none ↔ k ∉ t.keys := by
  simp only [get?, keys, Option.map_eq_none_iff, List.find?_eq_none, List.mem_map, not_exists,
    not_and, beq_iff_eq]

theorem mem_keys_iff {t : Table κ ν} {k : κ} : k ∈ t.keys ↔ t.contains k = true := by
  have := get?_eq_none_iff (t := t) (k := k)
  rw [contains, Option.isSome_iff_ne_none, Ne, this, Classical.not_not]

theorem find?_eq_some_of_mem {l : List (κ × ν)} (nodup : (l.map Prod.fst).Nodup)
    {k : κ} {v : ν} (mem : (k, v) ∈ l) : l.find? (·.1 == k) = some (k, v) := by
  induction l with
  | nil => cases mem
  | cons e l ih =>
    obtain ⟨head, tail⟩ := List.nodup_cons.mp nodup
    rcases List.mem_cons.mp mem with rfl | mem
    · simp
    · have : e.1 ≠ k := fun h => head (h ▸ List.mem_map.mpr ⟨_, mem, rfl⟩)
      simp [this, ih tail mem]

theorem get?_eq_some_iff {t : Table κ ν} {k : κ} {v : ν} :
    t.get? k = some v ↔ (k, v) ∈ t.entries := by
  constructor
  · intro h
    obtain ⟨e, he, rfl⟩ := Option.map_eq_some_iff.mp h
    have key := List.find?_some he
    have mem := List.mem_of_find?_eq_some he
    rw [← (show e.1 = k by simpa using key)]
    exact mem
  · intro mem
    rw [get?, find?_eq_some_of_mem t.keys_nodup mem]
    rfl

def erase (t : Table κ ν) (k : κ) : Table κ ν where
  entries := t.entries.filter (·.1 != k)
  keys_nodup := t.keys_nodup.sublist (List.filter_sublist.map _)

def replace (t : Table κ ν) (k : κ) (v : ν) : Table κ ν where
  entries := t.entries.map fun e => if e.1 = k then (k, v) else e
  keys_nodup := by
    have : (t.entries.map fun e => if e.1 = k then (k, v) else e).map Prod.fst =
        t.entries.map Prod.fst := by
      rw [List.map_map]
      refine List.map_congr_left fun e _ => ?_
      by_cases h : e.1 = k <;> simp [h]
    rw [this]
    exact t.keys_nodup

def push (t : Table κ ν) (k : κ) (v : ν) (fresh : t.contains k = false) : Table κ ν where
  entries := t.entries ++ [(k, v)]
  keys_nodup := by
    have : k ∉ t.keys := by rw [mem_keys_iff, fresh]; exact Bool.false_ne_true
    rw [List.map_append, List.nodup_append]
    refine ⟨t.keys_nodup, by simp, ?_⟩
    intro a ha b hb
    simp only [List.map_cons, List.map_nil, List.mem_singleton] at hb
    subst hb
    rintro rfl
    exact this ha

def insert (t : Table κ ν) (k : κ) (v : ν) : Table κ ν :=
  if h : t.contains k then t.replace k v else t.push k v (by simpa using h)

@[simp] theorem get?_empty (k : κ) : (empty : Table κ ν).get? k = none := rfl

@[simp] theorem size_empty : (empty : Table κ ν).size = 0 := rfl

theorem get?_erase (t : Table κ ν) (k j : κ) :
    (t.erase k).get? j = if j = k then none else t.get? j := by
  by_cases h : j = k
  · subst h
    rw [if_pos rfl, get?_eq_none_iff]
    simp [keys, erase]
  · rw [if_neg h]
    apply Option.ext
    intro v
    simp [get?_eq_some_iff, erase, h]

@[simp] theorem get?_erase_self (t : Table κ ν) (k : κ) : (t.erase k).get? k = none := by
  simp [get?_erase]

theorem get?_erase_of_ne (t : Table κ ν) {k j : κ} (h : j ≠ k) :
    (t.erase k).get? j = t.get? j := by
  simp [get?_erase, h]

theorem get?_insert (t : Table κ ν) (k : κ) (v : ν) (j : κ) :
    (t.insert k v).get? j = if j = k then some v else t.get? j := by
  unfold insert
  split
  case isTrue present =>
    apply Option.ext
    intro w
    obtain ⟨old, hold⟩ := Option.isSome_iff_exists.mp present
    have stored := get?_eq_some_iff.mp hold
    by_cases h : j = k
    · subst h
      simp only [get?_eq_some_iff, replace, List.mem_map, if_pos, Option.some.injEq]
      constructor
      · rintro ⟨e, _, he⟩
        by_cases hk : e.1 = j
        · rw [if_pos hk] at he
          exact (Prod.mk.inj he).2
        · rw [if_neg hk] at he
          exact absurd (congrArg Prod.fst he) hk
      · rintro rfl
        exact ⟨(j, old), stored, if_pos rfl⟩
    · simp only [get?_eq_some_iff, replace, List.mem_map, if_neg h]
      constructor
      · rintro ⟨e, mem, he⟩
        by_cases hk : e.1 = k
        · rw [if_pos hk] at he
          exact absurd (congrArg Prod.fst he).symm h
        · rw [if_neg hk] at he
          exact he ▸ mem
      · intro mem
        exact ⟨(j, w), mem, if_neg h⟩
  case isFalse absent =>
    have fresh : t.get? k = none := by simpa [contains] using absent
    apply Option.ext
    intro w
    rw [get?_eq_some_iff]
    by_cases h : j = k
    · subst h
      have : (j, w) ∉ t.entries := fun mem => by
        rw [get?_eq_some_iff.mpr mem] at fresh; cases fresh
      simp [push, this, eq_comm]
    · simp [get?_eq_some_iff, push, h]

@[simp] theorem get?_insert_self (t : Table κ ν) (k : κ) (v : ν) :
    (t.insert k v).get? k = some v := by
  simp [get?_insert]

theorem get?_insert_of_ne (t : Table κ ν) {k j : κ} (v : ν) (h : j ≠ k) :
    (t.insert k v).get? j = t.get? j := by
  simp [get?_insert, h]

theorem size_insert_of_contains {t : Table κ ν} {k : κ} (v : ν) (h : t.contains k = true) :
    (t.insert k v).size = t.size := by
  simp [insert, h, replace, size]

theorem size_insert_of_not_contains {t : Table κ ν} {k : κ} (v : ν)
    (h : t.contains k = false) : (t.insert k v).size = t.size + 1 := by
  simp [insert, h, push, size]

theorem erase_of_not_contains {t : Table κ ν} {k : κ} (h : t.contains k = false) :
    t.erase k = t := by
  have : k ∉ t.keys := by rw [mem_keys_iff, h]; exact Bool.false_ne_true
  apply ext
  refine List.filter_eq_self.mpr fun e he => ?_
  have : e.1 ≠ k := fun hk => this (hk ▸ List.mem_map.mpr ⟨e, he, rfl⟩)
  simpa using this

theorem length_filter_key {l : List (κ × ν)} (nodup : (l.map Prod.fst).Nodup) {k : κ}
    (mem : k ∈ l.map Prod.fst) : (l.filter (·.1 != k)).length + 1 = l.length := by
  induction l with
  | nil => cases mem
  | cons e l ih =>
    obtain ⟨head, tail⟩ := List.nodup_cons.mp nodup
    by_cases h : e.1 = k
    · have : l.filter (·.1 != k) = l := List.filter_eq_self.mpr fun x hx => by
        have : x.1 ≠ k := fun hk => head (by rw [h, ← hk]; exact List.mem_map.mpr ⟨x, hx, rfl⟩)
        simpa using this
      simp [h, this]
    · have : k ∈ l.map Prod.fst := by
        rcases List.mem_cons.mp mem with rfl | mem
        · exact absurd rfl h
        · exact mem
      simp [h, ← ih tail this]

theorem size_erase_of_contains {t : Table κ ν} {k : κ} (h : t.contains k = true) :
    (t.erase k).size + 1 = t.size :=
  length_filter_key t.keys_nodup (mem_keys_iff.mpr h)

end Table

end ComponentHost
