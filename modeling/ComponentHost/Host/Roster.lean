import ComponentHost.Component
import ComponentHost.Host.Error
import ComponentHost.Table

/-! Which components there are: at most one under each id. -/

namespace ComponentHost

abbrev Roster (α : Type) := Table ComponentId α

namespace Roster

variable {α : Type}

def register (r : Roster α) (id : ComponentId) (a : α) : Except RosterError (Roster α) :=
  if r.contains id then .error (.taken id.name) else .ok (r.insert id a)

def unregister (r : Roster α) (id : ComponentId) : Except RosterError (Roster α) :=
  if r.contains id then .ok (r.erase id) else .error (.notFound id.name)

def lookup (r : Roster α) (id : ComponentId) : Except RosterError α :=
  match r.get? id with
  | some a => .ok a
  | none => .error (.notFound id.name)

def ids (r : Roster α) : List ComponentId :=
  (NameSet.ofList (r.keys.map ComponentId.name)).names.map ComponentId.mk

theorem lookup_register {r s : Roster α} {id : ComponentId} {a : α}
    (h : r.register id a = .ok s) : s.lookup id = .ok a := by
  unfold register at h
  split at h
  · cases h
  · cases h
    simp [lookup]

theorem mem_ids {r : Roster α} {id : ComponentId} : id ∈ r.ids ↔ r.contains id = true := by
  rw [← Table.mem_keys_iff]
  unfold ids
  rw [List.mem_map]
  constructor
  · rintro ⟨name, mem, rfl⟩
    obtain ⟨other, found, rfl⟩ := List.mem_map.mp (NameSet.mem_ofList.mp mem)
    exact found
  · intro mem
    exact ⟨id.name, NameSet.mem_ofList.mpr (List.mem_map.mpr ⟨id, mem, rfl⟩), rfl⟩

end Roster

end ComponentHost
