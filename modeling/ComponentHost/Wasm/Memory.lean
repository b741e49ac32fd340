import Std.Data.TreeMap
import ComponentHost.Wasm.Module

/-! Memories and tables. A memory is bytes by address, a table references to functions by index;
what was never written is zero, or refers to nothing. Whoever reaches beyond the size changes
nothing. -/

namespace ComponentHost.Wasm

structure Memory where
  pages : Nat := 0
  limit : Nat := 0
  written : Std.TreeMap Nat UInt8 := {}

namespace Memory

def size (m : Memory) : Nat := m.pages * pageSize

def byte (m : Memory) (address : Nat) : UInt8 := m.written.getD address 0

def holds (m : Memory) (address count : Nat) : Except Trap Unit :=
  if m.size < address + count then .error .outOfBounds else .ok ()

def slice (m : Memory) (address count : Nat) : Except Trap Bytes := do
  m.holds address count
  return (List.range count).map fun i => m.byte (address + i)

def put (m : Memory) (address : Nat) : Bytes → Memory
  | [] => m
  | b :: bs => put { m with written := m.written.insert address b } (address + 1) bs

def replace (m : Memory) (address : Nat) (bytes : Bytes) : Except Trap Memory := do
  m.holds address bytes.length
  return m.put address bytes

def read (m : Memory) (address count : Nat) : Except Trap Nat := do
  return (← m.slice address count).foldr (fun b n => n * 256 + b.toNat) 0

def write (m : Memory) (address count n : Nat) : Except Trap Memory :=
  m.replace address (littleEndian count n)

def grow? (m : Memory) (more : Nat) : Option Memory :=
  if m.pages + more ≤ maxPages ∧ (m.pages + more) * pageSize ≤ m.limit then
    some { m with pages := m.pages + more }
  else none

end Memory

structure RefTable where
  size : Nat := 0
  limit : Nat := 0
  entries : Std.TreeMap Nat Nat := {}

namespace RefTable

def holds (t : RefTable) (index count : Nat) : Except Trap Unit :=
  if t.size < index + count then .error .outOfTable else .ok ()

def get (t : RefTable) (index : Nat) : Except Trap (Option Nat) := do
  t.holds index 1
  return t.entries[index]?

def slice (t : RefTable) (index count : Nat) : Except Trap (List (Option Nat)) := do
  t.holds index count
  return (List.range count).map fun i => t.entries[index + i]?

def put (t : RefTable) (index : Nat) : List (Option Nat) → RefTable
  | [] => t
  | r :: rs =>
    let entries :=
      match r with
      | some f => t.entries.insert index f
      | none => t.entries.erase index
    put { t with entries } (index + 1) rs

def replace (t : RefTable) (index : Nat) (rs : List (Option Nat)) : Except Trap RefTable := do
  t.holds index rs.length
  return t.put index rs

def grow? (t : RefTable) (more : Nat) (r : Option Nat) : Option RefTable :=
  if t.size + more ≤ t.limit then
    let grown := { t with size := t.size + more }
    some (if r.isNone then grown else grown.put t.size (List.replicate more r))
  else none

end RefTable

end ComponentHost.Wasm
