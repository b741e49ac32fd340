import ComponentHost.Wasm.Types

/-! Readers of the binary format: each takes bytes from the front and leaves the rest. Numbers
come in groups of seven bits, the lowest first, each but the last with its high bit set. -/

namespace ComponentHost.Wasm

abbrev Reader := StateT Bytes Option

namespace Reader

def fail {α : Type} : Reader α := fun _ => none

def byte : Reader UInt8
  | [] => none
  | b :: rest => some (b, rest)

def exactly (b : UInt8) : Reader Unit := do
  if (← byte) = b then pure () else fail

def take (count : Nat) : Reader Bytes := fun bytes =>
  if bytes.length < count then none else some (bytes.splitAt count)

/-- Runs a reader on the next so many bytes, all of which it has to take. -/
def within {α : Type} (size : Nat) (r : Reader α) : Reader α := do
  match r (← take size) with
  | some (a, []) => pure a
  | _ => fail

def many {α : Type} (r : Reader α) : Nat → Reader (List α)
  | 0 => pure []
  | n + 1 => do
    let a ← r
    return a :: (← many r n)

def readNatural : (bits : Nat) → Bytes → Option (Nat × Bytes)
  | _, [] => none
  | bits, b :: rest =>
    let low := b.toNat % 128
    if 2 ^ bits ≤ low then none
    else if b.toNat < 128 then some (low, rest)
    else if bits ≤ 7 then none
    else (readNatural (bits - 7) rest).map fun (n, rest) => (low + 128 * n, rest)

def readInteger : (bits : Nat) → Bytes → Option (Int × Bytes)
  | _, [] => none
  | bits, b :: rest =>
    let low := b.toNat % 128
    if b.toNat < 128 then
      let n : Int := if low < 64 then low else low - 128
      if -2 ^ (bits - 1) ≤ n ∧ n < 2 ^ (bits - 1) then some (n, rest) else none
    else if bits ≤ 7 then none
    else (readInteger (bits - 7) rest).map fun (n, rest) => (low + 128 * n, rest)

def index : Reader Nat := readNatural 32

def integer (bits : Nat) : Reader Int := readInteger bits

def vector {α : Type} (r : Reader α) : Reader (List α) := do many r (← index)

def name : Reader String := do
  match String.fromUTF8? (ByteArray.mk (← take (← index)).toArray) with
  | some s => pure s
  | none => fail

def littleEndianNat (bytes : Bytes) : Nat := bytes.foldr (fun b n => b.toNat + 256 * n) 0

def fixed (size : Nat) : Reader Nat := do return littleEndianNat (← take size)

def coded {α : Type} (table : List (UInt8 × α)) : Reader α := do
  match table.lookup (← byte) with
  | some a => pure a
  | none => fail

theorem readNatural_lt {bits n : Nat} {bytes rest : Bytes}
    (h : readNatural bits bytes = some (n, rest)) : n < 2 ^ bits := by
  induction bytes generalizing bits n rest with
  | nil => simp [readNatural] at h
  | cons b tail ih =>
    simp only [readNatural] at h
    by_cases fits : 2 ^ bits ≤ b.toNat % 128
    · simp [fits] at h
    by_cases last : b.toNat < 128
    · simp only [fits, last, if_true, if_false, Option.some.injEq, Prod.mk.injEq] at h
      omega
    by_cases wide : bits ≤ 7
    · simp [fits, last, wide] at h
    simp only [fits, last, wide, if_false, Option.map_eq_some_iff, Prod.mk.injEq, Prod.exists] at h
    obtain ⟨m, _, found, rfl, _⟩ := h
    have bound := ih found
    have parts : 2 ^ bits = 128 * 2 ^ (bits - 7) := by
      rw [show (128 : Nat) = 2 ^ 7 by rfl, ← Nat.pow_add]
      congr 1
      omega
    have low : b.toNat % 128 < 128 := Nat.mod_lt _ (by decide)
    omega

end Reader

end ComponentHost.Wasm
