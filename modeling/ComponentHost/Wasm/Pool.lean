import ComponentHost.Config.Basic
import ComponentHost.Text.Digit
import ComponentHost.Wasm.Module

/-! Pools of instances. A pool sets room aside for all the instances that it may ever hold at once,
so what it can hold is bounded beforehand: each instance has one memory and one table. -/

namespace ComponentHost.Wasm

structure Pool where
  slots : Nat
  memoryLimit : Nat
deriving DecidableEq

inductive PoolFault
  | memoryLimit (bytes : Nat)
  | unaddressable
  | unavailable (bytes : Nat)
deriving DecidableEq

namespace Pool

def ofConfig? (c : EngineConfig) : Option Pool :=
  if c.poolingAllocator then
    some ⟨c.maxInstances.toNat, c.instanceMemoryMb.toNat * 2 ^ 20⟩
  else none

def reservation : Nat := 2 ^ 32

/-- The address space that is kept empty behind each memory and in front of all. -/
def gap : Nat := 2 ^ 25

def size (p : Pool) : Nat := gap + p.slots * (reservation + gap)

def addressSpace : Nat := 2 ^ 47

def fault? (p : Pool) : Option PoolFault :=
  if reservation < p.memoryLimit then some (.memoryLimit p.memoryLimit)
  else if 2 ^ 64 ≤ p.size then some .unaddressable
  else if addressSpace ≤ p.size then some (.unavailable p.size)
  else none

def maxElements : Nat := 20000

/-- Whether the instances of a module have a place in a pool. -/
def fits (p : Pool) (m : Module) : Bool :=
  m.memories.length ≤ 1 && m.tables.length ≤ 1 &&
    m.memories.all (fun b => b.min * pageSize ≤ p.memoryLimit) &&
    m.tables.all fun t => t.bounds.min ≤ maxElements

end Pool

namespace PoolFault

def hex (n : Nat) : String := "0x" ++ Text.hexText 1 n

def message : PoolFault → String
  | memoryLimit bytes =>
    "maximum memory size of " ++ hex bytes ++
      " bytes exceeds the configured memory reservation of " ++ hex Pool.reservation ++ " bytes"
  | unaddressable => "total size of memory reservation exceeds addressable memory"
  | unavailable bytes => "mmap failed to reserve " ++ hex bytes ++ " bytes"

end PoolFault

end ComponentHost.Wasm
