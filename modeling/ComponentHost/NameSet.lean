/-! Finite sets of names, kept in ascending order. Names compare by code points,
which is also the order of their UTF-8 bytes. -/

namespace ComponentHost

structure NameSet where
  names : List String
  ascending : names.Pairwise (· < ·)
deriving DecidableEq

namespace NameSet

def empty : NameSet := ⟨[], .nil⟩

instance : Inhabited NameSet := ⟨empty⟩

def contains (s : NameSet) (name : String) : Bool := s.names.contains name

def size (s : NameSet) : Nat := s.names.length

def insertInto (name : String) : List String → List String
  | [] => [name]
  | x :: rest =>
    if name < x then name :: x :: rest
    else if x < name then x :: insertInto name rest
    else x :: rest

theorem mem_insertInto {name other : String} {l : List String} :
    other ∈ insertInto name l ↔ other = name ∨ other ∈ l := by
  induction l with
  | nil => simp [insertInto]
  | cons x rest ih =>
    unfold insertInto
    split
    · simp
    · split
      · simp only [List.mem_cons, ih]
        grind
      · have : x = name := String.le_antisymm (by grind) (by grind)
        subst this
        simp

theorem pairwise_insertInto (name : String) {l : List String} (h : l.Pairwise (· < ·)) :
    (insertInto name l).Pairwise (· < ·) := by
  induction l with
  | nil => simp [insertInto]
  | cons x rest ih =>
    obtain ⟨head, tail⟩ := List.pairwise_cons.mp h
    unfold insertInto
    split
    case isTrue less =>
      refine List.pairwise_cons.mpr ⟨fun y hy => ?_, h⟩
      rcases List.mem_cons.mp hy with rfl | hy
      · exact less
      · exact String.lt_trans less (head y hy)
    case isFalse =>
      split
      case isTrue more =>
        refine List.pairwise_cons.mpr ⟨fun y hy => ?_, ih tail⟩
        rcases mem_insertInto.mp hy with rfl | hy
        · exact more
        · exact head y hy
      case isFalse => exact h

def insert (s : NameSet) (name : String) : NameSet :=
  ⟨insertInto name s.names, pairwise_insertInto name s.ascending⟩

def ofList (names : List String) : NameSet := names.foldl insert empty

@[simp] theorem mem_insert {s : NameSet} {name other : String} :
    other ∈ (s.insert name).names ↔ other = name ∨ other ∈ s.names :=
  mem_insertInto

theorem mem_ofList {names : List String} {name : String} :
    name ∈ (ofList names).names ↔ name ∈ names := by
  suffices ∀ s : NameSet, name ∈ (names.foldl insert s).names ↔ name ∈ s.names ∨ name ∈ names by
    exact (this empty).trans ⟨fun h => h.resolve_left (by simp [empty]), .inr⟩
  induction names with
  | nil => simp
  | cons x rest ih =>
    intro s
    simp only [List.foldl_cons, ih, mem_insert, List.mem_cons]
    grind

end NameSet

end ComponentHost
