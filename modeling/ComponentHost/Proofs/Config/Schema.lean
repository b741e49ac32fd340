import ComponentHost.Config.Schema
import ComponentHost.NameSet
import Mathlib.Data.List.Sort

/-! What reading asks of a shape: that the keys of each record are distinct, and that whole numbers
have at most the 64 bits that a reader takes. A set of names is known by its members. -/

namespace ComponentHost

namespace NameSet

theorem eq_of_mem_iff {s t : NameSet} (same : ∀ name, name ∈ s.names ↔ name ∈ t.names) : s = t := by
  obtain ⟨l, ascending⟩ := s
  obtain ⟨l', ascending'⟩ := t
  cases ascending.eq_of_mem_iff ascending' same
  rfl

theorem ofList_names (s : NameSet) : ofList s.names = s := eq_of_mem_iff fun _ => mem_ofList

end NameSet

def Fields.keys : Fields → List String
  | .nil => []
  | .cons key _ _ rest => key :: rest.keys

mutual

def Schema.legible : Schema → Bool
  | .boolean | .text | .optionalText => true
  | .unsigned bits _ => bits ≤ 64
  | .list element => element.legible
  | .record _ fields => fields.legible

def Fields.legible : Fields → Bool
  | .nil => true
  | .cons key schema _ rest => schema.legible && !rest.keys.contains key && rest.legible

end

namespace Fields

theorem legible_cons {key : String} {schema : Schema} {fallback : Fallback} {rest : Fields}
    (h : (Fields.cons key schema fallback rest).legible = true) :
    schema.legible = true ∧ key ∉ rest.keys ∧ rest.legible = true := by
  simp only [legible, Bool.and_eq_true, Bool.not_eq_true', List.contains_eq_mem,
    decide_eq_false_iff_not] at h
  exact ⟨h.1.1, h.1.2, h.2⟩

theorem nodup_keys : {f : Fields} → f.legible = true → f.keys.Nodup
  | .nil, _ => List.nodup_nil
  | .cons _ _ _ _, h =>
    have ⟨_, fresh, rest⟩ := legible_cons h
    List.nodup_cons.mpr ⟨fresh, nodup_keys rest⟩

def full : (f : Fields) → f.Carrier → f.Draft
  | .nil, _ => ()
  | .cons _ _ _ rest, (v, vs) => (some v, rest.full vs)

theorem complete_full : (f : Fields) → (vs : f.Carrier) → f.complete (f.full vs) = .ok vs
  | .nil, _ => rfl
  | .cons _ _ _ rest, (_, vs) => by simp [complete, full, rest.complete_full vs]

end Fields

end ComponentHost
