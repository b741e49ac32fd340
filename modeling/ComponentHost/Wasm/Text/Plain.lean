import ComponentHost.Wasm.Text.Types

/-! Instructions of the text format that are no blocks: a word with what belongs to it. -/

namespace ComponentHost.Wasm.Tree

def bare : List (String × Instr) :=
  [("unreachable", .unreachable), ("nop", .nop), ("drop", .drop), ("return", .exit),
    ("ref.is_null", .isNull)]

def naming : List (String × (Names → List (Option String)) × (Nat → Instr)) :=
  [("call", Names.funcs, .call), ("return_call", Names.funcs, .tailCall),
    ("ref.func", Names.funcs, .reference), ("global.get", Names.globals, .globalGet),
    ("global.set", Names.globals, .globalSet), ("data.drop", Names.data, .dataDrop),
    ("elem.drop", Names.elems, .elemDrop)]

def acting : List (String × (Names → List (Option String)) × (Nat → Instr)) :=
  [("table.get", Names.tables, .tableGet), ("table.set", Names.tables, .tableSet),
    ("table.size", Names.tables, .tableSize), ("table.grow", Names.tables, .tableGrow),
    ("table.fill", Names.tables, .tableFill), ("memory.size", Names.memories, .memorySize),
    ("memory.grow", Names.memories, .memoryGrow), ("memory.fill", Names.memories, .memoryFill)]

def onLocals : List (String × (Nat → Instr)) :=
  [("local.get", .localGet), ("local.set", .localSet), ("local.tee", .localTee)]

def branches : List (String × (Nat → Instr)) := [("br", .branch), ("br_if", .branchIf)]

/-- A variable; parameters without names stand before all that has one. -/
def onLocal (n : Names) (instr : Nat → Instr) : Reader (Draft Mark) := do
  let w ← takeWord
  let x ← Names.index? n.locals w
  return ⟨[], fun s => some (.plain (instr (if Names.isName w then x + s.unnamed else x)))⟩

def copying (names : List (Option String)) (instr : Nat → Nat → Instr) : Reader Instr := do
  match ← optionalIndex names with
  | some target => return instr target (← index names)
  | none => return instr 0 0

def initializing (names segments : List (Option String)) (instr : Nat → Nat → Instr) :
    Reader Instr := do
  let first ← takeWord
  match ← optionalIndex segments with
  | some segment => return instr (← Names.index? names first) segment
  | none => return instr 0 (← Names.index? segments first)

def branchTable (labels : List (Option String)) : Reader Instr := do
  let first ← index labels
  let rest ← further (← get).length
  return .branchTable ((first :: rest).dropLast) ((first :: rest).getLastD 0)
where
  further : Nat → Reader (List Nat)
    | 0 => pure []
    | fuel + 1 => do
      match ← optionalIndex labels with
      | some x => return x :: (← further fuel)
      | none => return []

def selectTypes : List Tree → Option (Option (List ValueType) × List Tree)
  | .list (.word "result" :: ts) :: rest => do
    let first ← ts.mapM valueType?
    let (more, rest) ← selectTypes rest
    some (some (first ++ more.getD []), rest)
  | ts => some (none, ts)

def choosing : Reader Instr := fun ts => do
  match ← selectTypes ts with
  | (none, ts) => some (.select none, ts)
  | (some [t], ts) => some (.select (some t), ts)
  | _ => none

def indirect (n : Names) (instr : Nat → FuncType → Instr) : Reader (Draft Mark) := do
  let before ← optionalIndex n.tables
  let type ← namelessType n
  let table ← if before.isSome then pure before else optionalIndex n.tables
  return type.draft fun t => .plain (instr (table.getD 0) t)

def after? (mark w : String) : Option String :=
  if mark.toList.isPrefixOf w.toList then some (String.ofList (w.toList.drop mark.length)) else none

def setting (mark : String) : Reader (Option Nat) := do
  match ← wordIf fun w => (after? mark w).isSome with
  | some w => return some (← (after? mark w).bind Literal.index?)
  | none => return none

def place (n : Names) (size : Nat) : Reader Place := do
  let memory ← optionalIndex n.memories
  let offset ← setting "offset="
  let align ← setting "align="
  if align.all fun a => a ≠ 0 && size % a = 0 then return ⟨memory.getD 0, offset.getD 0⟩
  else fail

def lane : Reader Nat := do Literal.index? (← takeWord)

/-- Whether a place comes next rather than the index of a lane: a number alone is the lane's. -/
def beginsPlace : List Tree → Bool
  | .word a :: .word b :: _ =>
    !isInteger a || isInteger b || (after? "offset=" b).isSome || (after? "align=" b).isSome
  | .word a :: _ => !isInteger a
  | _ => true

def laneAccess (n : Names) (size : Nat) (instr : Place → Nat → Instr) : Reader Instr := do
  let p ← if beginsPlace (← get) then place n size else pure {}
  return instr p (← lane)

def many {α : Type} (r : Reader α) : Nat → Reader (List α)
  | 0 => pure []
  | count + 1 => do
    let a ← r
    return a :: (← many r count)

def literal {α : Type} (literal? : String → Option α) : Reader α := do literal? (← takeWord)

def vector : Reader Vector128 := do
  match ← takeWord with
  | "i8x16" => return .ofLanes (← many (literal (Literal.int? 8)) 16)
  | "i16x8" => return .ofLanes (← many (literal (Literal.int? 16)) 8)
  | "i32x4" => return .ofLanes (← many (literal (Literal.int? 32)) 4)
  | "i64x2" => return .ofLanes (← many (literal (Literal.int? 64)) 2)
  | "f32x4" => return .ofLanes (← many (literal (Literal.float? .w32)) 4)
  | "f64x2" => return .ofLanes (← many (literal (Literal.float? .w64)) 2)
  | _ => fail

def special (n : Names) (labels : List (Option String)) (w : String) : Reader Instr := do
  match w with
  | "br_table" => branchTable labels
  | "select" => choosing
  | "table.copy" => copying n.tables .tableCopy
  | "memory.copy" => copying n.memories .memoryCopy
  | "table.init" => initializing n.tables n.elems .tableInit
  | "memory.init" => initializing n.memories n.data .memoryInit
  | "i32.const" => return .const (.i32 (← literal (Literal.int? 32)))
  | "i64.const" => return .const (.i64 (← literal (Literal.int? 64)))
  | "f32.const" => return .const (.f32 (← literal (Literal.float? .w32)))
  | "f64.const" => return .const (.f64 (← literal (Literal.float? .w64)))
  | "v128.const" => return .const (.v128 (← vector))
  | "i8x16.shuffle" => return .vector (.shuffle (← many lane 16))
  | "ref.null" => if (← takeWord) = "func" then return .const (.func none) else fail
  | _ => fail

def operation (n : Names) (labels : List (Option String)) (w : String) : Reader Instr :=
  match Op.named? w, Access.named? w, Access.namedLane? w with
  | some op, _, _ => pure (.numeric op)
  | none, some a, _ => do return a.instr (← place n a.size)
  | none, none, some (size, instr) => laneAccess n size instr
  | none, none, none =>
    match VectorOp.named? w, VectorOp.namedLane? w with
    | some op, _ => pure (.vector op)
    | none, some op => do return .vector (op (← lane))
    | none, none => special n labels w

def instruction (n : Names) (labels : List (Option String)) (w : String) : Reader Instr :=
  match bare.lookup w, naming.lookup w, acting.lookup w, branches.lookup w with
  | some i, _, _, _ => pure i
  | none, some (names, instr), _, _ => do return instr (← index (names n))
  | none, none, some (names, instr), _ => do return instr ((← optionalIndex (names n)).getD 0)
  | none, none, none, some instr => do return instr (← index labels)
  | none, none, none, none => operation n labels w

def plain (n : Names) (labels : List (Option String)) (w : String) : Reader (Draft Mark) :=
  match w, onLocals.lookup w with
  | _, some instr => onLocal n instr
  | "call_indirect", none => indirect n .callIndirect
  | "return_call_indirect", none => indirect n .tailCallIndirect
  | w, none => do return pure (.plain (← instruction n labels w))

end ComponentHost.Wasm.Tree
