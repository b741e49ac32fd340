import ComponentHost.Wasm.Binary.Reader
import ComponentHost.Wasm.Code

/-! Types and code in the binary format. -/

namespace ComponentHost.Wasm

structure Reader.Context where
  types : List FuncType := []
  /-- Whether it was said how many segments of bytes there are; only then may code use them. -/
  dataCounted : Bool := false

namespace Reader

def valueType : Reader ValueType := do
  let code ← byte
  match ValueType.coded.lookup code with
  | some t => pure t
  | none =>
    if code = 0x63 then
      exactly 0x70
      pure .funcref
    else fail

def referenceType : Reader ValueType := do
  let t ← valueType
  if t.isReference then pure t else fail

def funcType : Reader FuncType := do
  exactly 0x60
  return ⟨← vector valueType, ← vector valueType⟩

def typeAt (types : List FuncType) (x : Nat) : Reader FuncType :=
  match types[x]? with
  | some t => pure t
  | none => fail

def beginsType (b : UInt8) : Bool := 0x40 ≤ b && b < 0x80

def blockType (types : List FuncType) : Reader FuncType := fun bytes =>
  match bytes with
  | [] => none
  | b :: rest =>
    if b = 0x40 then some ({}, rest)
    else if beginsType b then do
      let (t, rest) ← valueType bytes
      some (⟨[], [t]⟩, rest)
    else do
      let (x, rest) ← integer 33 bytes
      if x < 0 then none else typeAt types x.toNat rest

/-- Where an access to so many bytes goes: behind the power of two to which it is aligned, in which
a further bit tells that the memory is named. -/
def place (size : Nat) : Reader Place := do
  let flags ← index
  let named := flags / 64 % 2 = 1
  let align := if named then flags - 64 else flags
  let memory ← if named then index else pure 0
  if align < 64 ∧ 2 ^ align ≤ size then return ⟨memory, ← index⟩ else fail

def access (a : Access) : Reader Mark := do return .plain (a.instr (← place a.size))

def withIndex (instr : Nat → Instr) : Reader Mark := do return .plain (instr (← index))

def withIndices (instr : Nat → Nat → Instr) : Reader Mark := do
  return .plain (instr (← index) (← index))

def withData (c : Context) (mark : Reader Mark) : Reader Mark :=
  if c.dataCounted then mark else fail

def indirect (c : Context) (instr : Nat → FuncType → Instr) : Reader Mark := do
  let type ← typeAt c.types (← index)
  return .plain (instr (← index) type)

def bulkMark (c : Context) (code : Nat) : Reader Mark := do
  match code with
  | 8 => withData c (withIndices fun segment memory => .memoryInit memory segment)
  | 9 => withData c (withIndex .dataDrop)
  | 10 => withIndices .memoryCopy
  | 11 => withIndex .memoryFill
  | 12 => withIndices fun segment table => .tableInit table segment
  | 13 => withIndex .elemDrop
  | 14 => withIndices .tableCopy
  | 15 => withIndex .tableGrow
  | 16 => withIndex .tableSize
  | 17 => withIndex .tableFill
  | code =>
    match Op.saturating[code]? with
    | some (_, op) => return .plain (.numeric op)
    | none => fail

def laneIndex : Reader Nat := do return (← byte).toNat

def vectorMark (code : Nat) : Reader Mark :=
  match Access.codedVector? code, Access.codedLane? code with
  | some a, _ => access a
  | none, some (size, instr) => do return .plain (instr (← place size) (← laneIndex))
  | none, none =>
    match VectorOp.coded? code, VectorOp.codedLane? code with
    | some op, _ => pure (.plain (.vector op))
    | none, some op => do return .plain (.vector (op (← laneIndex)))
    | none, none => do
      if code = 12 then return .plain (.const (.v128 (.ofNat 128 (← fixed 16))))
      else if code = 13 then return .plain (.vector (.shuffle (← many laneIndex 16)))
      else fail

def operation (code : Nat) : Reader Mark :=
  match Access.coded? code, Op.coded? code with
  | some a, _ => access a
  | none, some op => pure (.plain (.numeric op))
  | none, none => fail

def mark (c : Context) : Reader Mark := do
  match (← byte).toNat with
  | 0x00 => return .plain .unreachable
  | 0x01 => return .plain .nop
  | 0x02 => return .block (← blockType c.types)
  | 0x03 => return .loop (← blockType c.types)
  | 0x04 => return .choice (← blockType c.types)
  | 0x05 => return .otherwise
  | 0x0b => return .close
  | 0x0c => withIndex .branch
  | 0x0d => withIndex .branchIf
  | 0x0e => return .plain (.branchTable (← vector index) (← index))
  | 0x0f => return .plain .exit
  | 0x10 => withIndex .call
  | 0x11 => indirect c .callIndirect
  | 0x12 => withIndex .tailCall
  | 0x13 => indirect c .tailCallIndirect
  | 0x1a => return .plain .drop
  | 0x1b => return .plain (.select none)
  | 0x1c =>
    exactly 1
    return .plain (.select (some (← valueType)))
  | 0x20 => withIndex .localGet
  | 0x21 => withIndex .localSet
  | 0x22 => withIndex .localTee
  | 0x23 => withIndex .globalGet
  | 0x24 => withIndex .globalSet
  | 0x25 => withIndex .tableGet
  | 0x26 => withIndex .tableSet
  | 0x3f => withIndex .memorySize
  | 0x40 => withIndex .memoryGrow
  | 0x41 => return .plain (.const (.i32 (.ofInt 32 (← integer 32))))
  | 0x42 => return .plain (.const (.i64 (.ofInt 64 (← integer 64))))
  | 0x43 => return .plain (.const (.f32 (.ofNat 32 (← fixed 4))))
  | 0x44 => return .plain (.const (.f64 (.ofNat 64 (← fixed 8))))
  | 0xd0 =>
    exactly 0x70
    return .plain (.const (.func none))
  | 0xd1 => return .plain .isNull
  | 0xd2 => withIndex .reference
  | 0xfc => bulkMark c (← index)
  | 0xfd => vectorMark (← index)
  | code => operation code

def depthAfter (depth : Nat) : Mark → Nat
  | .block _ | .loop _ | .choice _ => depth + 1
  | .close => depth - 1
  | _ => depth

def marks (c : Context) : (fuel depth : Nat) → Reader (List Mark)
  | 0, _ => fail
  | fuel + 1, depth => do
    let m ← mark c
    match m, depth with
    | .close, 0 => return []
    | m, depth => return m :: (← marks c fuel (depthAfter depth m))

def code (c : Context) : Reader (List Instr) := fun bytes => do
  let (ms, rest) ← marks c bytes.length 0 bytes
  some (← Mark.nest ms, rest)

def maxLocals : Nat := 50000

-- An empty sum is Lean's own zero, whatever else is imported.
attribute [local instance (2000)] Zero.ofOfNat0 in
def locals : Reader (List ValueType) := do
  let groups ← vector do return (← index, ← valueType)
  if (groups.map Prod.fst).sum ≤ maxLocals then
    return groups.flatMap fun (n, t) => List.replicate n t
  else fail

def body (c : Context) : Reader (List ValueType × List Instr) := do
  within (← index) do return (← locals, ← code c)

end Reader

end ComponentHost.Wasm
