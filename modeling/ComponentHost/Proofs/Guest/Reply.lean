import ComponentHost.Proofs.Host.Actor.HookWork

/-! What a component answers a request. The guest's handler is called with the length of the
payload, and if its first result is an i32, the answer is that number in four bytes; in every other
case the answer says that the request could not be processed, and why. -/

namespace ComponentHost

section Bytes

def leastFirst : Bytes → Nat
  | [] => 0
  | b :: bs => b.toNat + 256 * leastFirst bs

def twosComplement (bs : Bytes) : Int := Int.bmod (leastFirst bs) (256 ^ bs.length)

theorem leastFirst_littleEndian (n : UInt32) : leastFirst (littleEndian n) = n.toNat := by
  have bound := n.toNat_lt
  simp only [littleEndian, leastFirst, UInt32.toNat_toUInt8, UInt32.toNat_shiftRight]
  simp [Nat.shiftRight_eq_div_pow]
  omega

theorem length_littleEndian (n : UInt32) : (littleEndian n).length = 4 := rfl

theorem twosComplement_littleEndian (n : UInt32) :
    twosComplement (littleEndian n) = n.toInt32.toInt := by
  have width : 256 ^ (littleEndian n).length = 2 ^ 32 := by rw [length_littleEndian]
  rw [twosComplement, leastFirst_littleEndian, width]
  exact (BitVec.toInt_eq_toNat_bmod n.toBitVec).symm

example : twosComplement [0xfe, 0xff, 0xff, 0xff] = -2 := by decide

end Bytes

namespace Component

variable {c : Component} {hook : Hook} {earlier : Nat} {payload : Bytes}

/-- The guest has a handler for requests, and that comes to an outcome when it is called, after
`earlier` calls, with the length of a payload or the greatest number there is. -/
def Handles (c : Component) (earlier : Nat) (payload : Bytes) (outcome : Outcome) : Prop :=
  c.program.exports.contains "handle-request" = true ∧ ∃ length : UInt32,
    length.toNat = min payload.length (2 ^ 31 - 1) ∧
      (c.limitedRun earlier "handle-request" [.i32 length]).verdict = .settled outcome

inductive Replies (c : Component) (earlier : Nat) (payload : Bytes) : Reply → Prop
  | missing (absent : c.program.exports.contains "handle-request" = false) :
    Replies c earlier payload
      (.error (.processingFailed (c.id.name ++ " has no handle-request export")))
  | value {bits : UInt32} {rest : List Value} {fuel : FuelUse} {bytes : Bytes}
    (handles : c.Handles earlier payload (.ok (⟨.i32 bits :: rest⟩, fuel)))
    (four : bytes.length = 4) (same : twosComplement bytes = bits.toInt32.toInt) :
    Replies c earlier payload (.ok bytes)
  | other {output : Output} {fuel : FuelUse}
    (handles : c.Handles earlier payload (.ok (output, fuel)))
    (none : ∀ bits rest, output.values ≠ .i32 bits :: rest) :
    Replies c earlier payload (.error (.processingFailed "handle-request did not return an i32"))
  | failed {failure : CallFailure} (handles : c.Handles earlier payload (.error failure)) :
    Replies c earlier payload (.error (.processingFailed failure.message))

theorem toNat_ofLength (n : Nat) :
    (UInt32.ofNat (min n (2 ^ 31 - 1))).toNat = min n (2 ^ 31 - 1) := by
  rw [UInt32.toNat_ofNat']
  exact Nat.mod_eq_of_lt (by omega)

theorem replies_of_missing (absent : c.program.exports.contains "handle-request" = false) :
    c.Replies earlier payload (c.reply none) := by
  rw [reply, String.append_assoc, String.append_assoc]
  exact .missing absent

theorem replies_of_handles {outcome : Outcome} (handles : c.Handles earlier payload outcome) :
    c.Replies earlier payload (c.reply (some outcome)) := by
  cases outcome with
  | error failure => exact .failed handles
  | ok result =>
    obtain ⟨⟨values⟩, fuel⟩ := result
    match values with
    | .i32 bits :: rest => exact .value handles rfl (twosComplement_littleEndian bits)
    | [] | .i64 _ :: _ | .f32 _ :: _ | .f64 _ :: _ => exact .other handles nofun

end Component

end ComponentHost
