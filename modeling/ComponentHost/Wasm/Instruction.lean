import ComponentHost.Wasm.VectorCodes

/-! The instructions. Control is structured; a branch names a block by how many blocks lie between.
Functions, tables and memories go by their indices. -/

namespace ComponentHost.Wasm

structure Load where
  type : ValueType
  size : Nat
  signed : Bool := false
deriving DecidableEq

structure Store where
  type : ValueType
  size : Nat
deriving DecidableEq

inductive VectorLoad
  | widen (lane : Nat) (signed : Bool)
  | splat (lane : Nat)
  | lone (lane : Nat)
deriving DecidableEq

structure Place where
  memory : Nat := 0
  offset : Nat := 0
deriving DecidableEq

inductive Instr
  | unreachable
  | nop
  | drop
  | select (type : Option ValueType)
  | block (type : FuncType) (body : List Instr)
  | loop (type : FuncType) (body : List Instr)
  | choice (type : FuncType) (yes no : List Instr)
  | branch (depth : Nat)
  | branchIf (depth : Nat)
  | branchTable (depths : List Nat) (otherwise : Nat)
  | exit
  | call (function : Nat)
  | callIndirect (table : Nat) (type : FuncType)
  /-- Leaves the function and calls another in its place. -/
  | tailCall (function : Nat)
  | tailCallIndirect (table : Nat) (type : FuncType)
  | localGet (x : Nat)
  | localSet (x : Nat)
  | localTee (x : Nat)
  | globalGet (x : Nat)
  | globalSet (x : Nat)
  | const (d : Datum)
  | reference (function : Nat)
  | isNull
  | numeric (op : Op)
  | vector (op : VectorOp)
  | load (l : Load) (p : Place)
  | store (s : Store) (p : Place)
  | loadVector (l : VectorLoad) (p : Place)
  | loadLane (lane : Nat) (p : Place) (index : Nat)
  | storeLane (lane : Nat) (p : Place) (index : Nat)
  | memorySize (memory : Nat)
  | memoryGrow (memory : Nat)
  | memoryFill (memory : Nat)
  | memoryCopy (target source : Nat)
  | memoryInit (memory segment : Nat)
  | dataDrop (segment : Nat)
  | tableGet (table : Nat)
  | tableSet (table : Nat)
  | tableSize (table : Nat)
  | tableGrow (table : Nat)
  | tableFill (table : Nat)
  | tableCopy (target source : Nat)
  | tableInit (table segment : Nat)
  | elemDrop (segment : Nat)

namespace Load

/-- How values are read, with the names in the text format, in the order of the codes. -/
def table : List (String × Load) :=
  [("i32.load", ⟨.i32, 4, false⟩), ("i64.load", ⟨.i64, 8, false⟩), ("f32.load", ⟨.f32, 4, false⟩),
    ("f64.load", ⟨.f64, 8, false⟩), ("i32.load8_s", ⟨.i32, 1, true⟩),
    ("i32.load8_u", ⟨.i32, 1, false⟩), ("i32.load16_s", ⟨.i32, 2, true⟩),
    ("i32.load16_u", ⟨.i32, 2, false⟩), ("i64.load8_s", ⟨.i64, 1, true⟩),
    ("i64.load8_u", ⟨.i64, 1, false⟩), ("i64.load16_s", ⟨.i64, 2, true⟩),
    ("i64.load16_u", ⟨.i64, 2, false⟩), ("i64.load32_s", ⟨.i64, 4, true⟩),
    ("i64.load32_u", ⟨.i64, 4, false⟩)]

def firstCode : Nat := 0x28

end Load

namespace Store

def table : List (String × Store) :=
  [("i32.store", ⟨.i32, 4⟩), ("i64.store", ⟨.i64, 8⟩), ("f32.store", ⟨.f32, 4⟩),
    ("f64.store", ⟨.f64, 8⟩), ("i32.store8", ⟨.i32, 1⟩), ("i32.store16", ⟨.i32, 2⟩),
    ("i64.store8", ⟨.i64, 1⟩), ("i64.store16", ⟨.i64, 2⟩), ("i64.store32", ⟨.i64, 4⟩)]

def firstCode : Nat := 0x36

end Store

structure Access where
  size : Nat
  instr : Place → Instr

namespace Access

def table : List (String × Access) :=
  (Load.table.map fun (name, l) => (name, ⟨l.size, .load l⟩)) ++
    Store.table.map fun (name, s) => (name, ⟨s.size, .store s⟩)

def vectorTable : List (Nat × String × Access) :=
  [(0, "v128.load", ⟨16, .load ⟨.v128, 16, false⟩⟩),
    (1, "v128.load8x8_s", ⟨8, .loadVector (.widen 8 true)⟩),
    (2, "v128.load8x8_u", ⟨8, .loadVector (.widen 8 false)⟩),
    (3, "v128.load16x4_s", ⟨8, .loadVector (.widen 16 true)⟩),
    (4, "v128.load16x4_u", ⟨8, .loadVector (.widen 16 false)⟩),
    (5, "v128.load32x2_s", ⟨8, .loadVector (.widen 32 true)⟩),
    (6, "v128.load32x2_u", ⟨8, .loadVector (.widen 32 false)⟩),
    (7, "v128.load8_splat", ⟨1, .loadVector (.splat 8)⟩),
    (8, "v128.load16_splat", ⟨2, .loadVector (.splat 16)⟩),
    (9, "v128.load32_splat", ⟨4, .loadVector (.splat 32)⟩),
    (10, "v128.load64_splat", ⟨8, .loadVector (.splat 64)⟩),
    (11, "v128.store", ⟨16, .store ⟨.v128, 16⟩⟩),
    (92, "v128.load32_zero", ⟨4, .loadVector (.lone 32)⟩),
    (93, "v128.load64_zero", ⟨8, .loadVector (.lone 64)⟩)]

def laneTable : List (Nat × String × Nat × (Place → Nat → Instr)) :=
  [(84, "v128.load8_lane", 1, .loadLane 8), (85, "v128.load16_lane", 2, .loadLane 16),
    (86, "v128.load32_lane", 4, .loadLane 32), (87, "v128.load64_lane", 8, .loadLane 64),
    (88, "v128.store8_lane", 1, .storeLane 8), (89, "v128.store16_lane", 2, .storeLane 16),
    (90, "v128.store32_lane", 4, .storeLane 32), (91, "v128.store64_lane", 8, .storeLane 64)]

def coded? (code : Nat) : Option Access :=
  if code < Load.firstCode then none else (table[code - Load.firstCode]?).map Prod.snd

def codedVector? (code : Nat) : Option Access :=
  (vectorTable.find? (·.1 = code)).map (·.2.2)

def codedLane? (code : Nat) : Option (Nat × (Place → Nat → Instr)) :=
  (laneTable.find? (·.1 = code)).map (·.2.2)

def named? (name : String) : Option Access :=
  (table ++ vectorTable.map Prod.snd).lookup name

def namedLane? (name : String) : Option (Nat × (Place → Nat → Instr)) :=
  (laneTable.map Prod.snd).lookup name

example : Load.firstCode + Load.table.length = Store.firstCode := by decide

end Access

end ComponentHost.Wasm
