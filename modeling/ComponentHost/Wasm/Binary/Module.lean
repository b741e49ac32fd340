import ComponentHost.Wasm.Binary.Code
import ComponentHost.Wasm.Validity

/-! Modules in the binary format: a header, then sections in a fixed order. Sections of custom
content may stand anywhere. -/

namespace ComponentHost.Wasm

namespace Reader

def bounds : Reader Bounds := do
  match ← byte with
  | 0x00 => return ⟨← index, none⟩
  | 0x01 => return ⟨← index, some (← index)⟩
  | _ => fail

def tableType : Reader TableType := do return ⟨← referenceType, ← bounds⟩

def globalType : Reader GlobalType := do
  return ⟨← valueType, ← coded [(0x00, false), (0x01, true)]⟩

def importKind (types : List FuncType) : Reader ImportKind := do
  match ← byte with
  | 0x00 => return .func (← typeAt types (← index))
  | 0x01 => return .table (← tableType)
  | 0x02 => return .memory (← bounds)
  | 0x03 => return .global (← globalType)
  | _ => fail

def space : Reader Space := coded [(0x00, .func), (0x01, .table), (0x02, .memory), (0x03, .global)]

def segmentMode (c : Context) (flags : Nat) : Reader SegmentMode := do
  match flags % 4 with
  | 0 => return .active 0 (← code c)
  | 1 => return .passive
  | 2 => return .active (← index) (← code c)
  | _ => return .declared

/-- A segment of references: the third bit of its flags tells whether they are code. Their kind is
given unless the segment is of the plainest sort. -/
def elem (c : Context) : Reader Elem := do
  let flags ← index
  if 8 ≤ flags then fail
  let mode ← segmentMode c flags
  if 4 ≤ flags then
    if flags % 4 ≠ 0 then let _ ← referenceType
    return ⟨← vector (code c), mode⟩
  else
    if flags % 4 ≠ 0 then exactly 0
    return ⟨(← vector index).map fun f => [.reference f], mode⟩

def data (c : Context) : Reader Data := do
  let flags ← index
  if 3 ≤ flags then fail
  let mode ← segmentMode c flags
  return ⟨← take (← index), mode⟩

structure Parts where
  signatures : List FuncType := []
  bodies : List (List ValueType × List Instr) := []
  dataCount : Option Nat := none
  module : Module := {}

def Parts.context (p : Parts) : Context := ⟨p.module.types, p.dataCount.isSome⟩

def content (p : Parts) (id : UInt8) : Reader Parts := do
  let m := p.module
  match id with
  | 1 => return { p with module := { m with types := ← vector funcType } }
  | 2 =>
    let imports ← vector do return ⟨← name, ← name, ← importKind m.types⟩
    return { p with module := { m with imports } }
  | 3 => return { p with signatures := ← vector do typeAt m.types (← index) }
  | 4 => return { p with module := { m with tables := ← vector tableType } }
  | 5 => return { p with module := { m with memories := ← vector bounds } }
  | 6 =>
    let globals ← vector do return ⟨← globalType, ← code p.context⟩
    return { p with module := { m with globals } }
  | 7 =>
    let exports ← vector do return ⟨← name, ← space, ← index⟩
    return { p with module := { m with exports } }
  | 8 => return { p with module := { m with start := some (← index) } }
  | 9 => return { p with module := { m with elems := ← vector (elem p.context) } }
  | 10 => return { p with bodies := ← vector (body p.context) }
  | 11 => return { p with module := { m with data := ← vector (data p.context) } }
  | 12 => return { p with dataCount := some (← index) }
  | _ => fail

def sectionOrder : List UInt8 := [1, 2, 3, 4, 5, 6, 7, 8, 9, 12, 10, 11]

def sections : Nat → (order : List UInt8) → Parts → Bytes → Option Parts
  | 0, _, _, _ => none
  | _ + 1, _, p, [] => some p
  | fuel + 1, order, p, id :: bytes => do
    let (size, bytes) ← index bytes
    let (inside, rest) ← take size bytes
    if id = 0 then
      let (custom, _) ← name inside
      if Module.nameOk custom then sections fuel order p rest else none
    else if order.contains id then
      match ← content p id inside with
      | (p, []) => sections fuel ((order.dropWhile (· ≠ id)).tail) p rest
      | _ => none
    else none

end Reader

namespace Module

def magic : Bytes := [0x00, 0x61, 0x73, 0x6d]

def version : Bytes := [0x01, 0x00, 0x00, 0x00]

def ofParts? (p : Reader.Parts) : Option Module :=
  if p.signatures.length = p.bodies.length ∧
      p.dataCount.all (· = p.module.data.length) then
    some { p.module with
      funcs := (p.signatures.zip p.bodies).map fun (type, locals, body) => ⟨type, locals, body⟩ }
  else none

/-- The module that bytes encode, if they are well formed and the module is valid. -/
def ofBytes? (bytes : Bytes) : Option Module := do
  if bytes.take 8 = magic ++ version then
    let m ← ofParts? (← Reader.sections bytes.length Reader.sectionOrder {} (bytes.drop 8))
    if m.valid then some m else none
  else none

end Module

end ComponentHost.Wasm
