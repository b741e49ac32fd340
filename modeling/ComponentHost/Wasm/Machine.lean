import ComponentHost.Wasm.Memory

/-! The running of guest code under a fuel budget. Entering a function costs one, as does each
instruction but a few; the budget is looked at only where a function is entered and where a loop
begins anew, and so is the time since the guest last yielded. What was used is put on the account
there, around calls, and where code gives up; a guest that traps is charged what stands there. -/

namespace ComponentHost.Wasm

structure Terms where
  maxFuel : Nat
  yieldInterval : Nat
  patient : Bool := true

structure Machine where
  globals : List Datum := []
  memories : List Memory := []
  tables : List RefTable := []
  elems : List (List (Option Nat)) := []
  data : List Bytes := []
  used : Nat := 0
  charged : Nat := 0
  /-- What was used when the guest last yielded. -/
  yielded : Nat := 0
  yields : Nat := 0

namespace Machine

def spend (m : Machine) (fuel : Nat) : Machine := { m with used := m.used + fuel }

def charge (m : Machine) : Machine := { m with charged := m.used }

/-- Looks at the budget, and yields if it is time to. -/
def look (t : Terms) (m : Machine) : Except Trap Machine :=
  if t.maxFuel ≤ m.used then .error .outOfFuel
  else
    let m := m.charge
    if t.yieldInterval ≤ m.used - m.yielded then
      if !t.patient then .error .abandoned
      else .ok { m with yielded := m.used, yields := m.yields + 1 }
    else .ok m

def item {α : Type} (items : List α) (index : Nat) : Except Trap α :=
  match items[index]? with
  | some a => .ok a
  | none => .error .unsupported

def memory (m : Machine) (index : Nat) : Except Trap Memory := item m.memories index

def table (m : Machine) (index : Nat) : Except Trap RefTable := item m.tables index

def setMemory (m : Machine) (index : Nat) (memory : Memory) : Machine :=
  { m with memories := m.memories.set index memory }

def setTable (m : Machine) (index : Nat) (table : RefTable) : Machine :=
  { m with tables := m.tables.set index table }

def initMemory (m : Machine) (index segment target source count : Nat) : Except Trap Machine := do
  let bytes := m.data.getD segment []
  if bytes.length < source + count then throw .outOfBounds
  let memory ← (← m.memory index).replace target ((bytes.drop source).take count)
  return m.setMemory index memory

def dropData (m : Machine) (segment : Nat) : Machine := { m with data := m.data.set segment [] }

def initTable (m : Machine) (index segment target source count : Nat) : Except Trap Machine := do
  let refs := m.elems.getD segment []
  if refs.length < source + count then throw .outOfTable
  let table ← (← m.table index).replace target ((refs.drop source).take count)
  return m.setTable index table

def dropElem (m : Machine) (segment : Nat) : Machine := { m with elems := m.elems.set segment [] }

end Machine

def Instr.cost : Instr → Nat
  | unreachable | nop | drop | block .. | loop .. | exit => 0
  | _ => 1

def VectorLoad.size : VectorLoad → Nat
  | widen _ _ => 8
  | splat lane | lone lane => lane / 8

def VectorLoad.make (l : VectorLoad) (n : Nat) : Vector128 :=
  match l with
  | widen lane signed =>
    let narrow := VectorOp.half lane false (BitVec.ofNat 128 n)
    Vector128.ofLanes (narrow.map (VectorOp.widened signed))
  | splat lane => Vector128.ofLanes (List.replicate (128 / lane) (BitVec.ofNat lane n))
  | lone _ => BitVec.ofNat 128 n

def Load.make (l : Load) (n : Nat) : Datum :=
  if l.signed then
    scalarOfBits l.type (BitVec.ofInt 64 (BitVec.ofNat (8 * l.size) n).toInt).toNat
  else scalarOfBits l.type n

namespace Machine

abbrev Effect := Except Trap (List Datum × List Datum × Machine)

def onMemory (m : Machine) : Instr → List Datum → Except Trap (List Datum × Machine)
  | .load l p, .i32 address :: stack => do
    let n ← (← m.memory p.memory).read (address.toNat + p.offset) l.size
    .ok (l.make n :: stack, m)
  | .store w p, d :: .i32 address :: stack => do
    let memory ← (← m.memory p.memory).write (address.toNat + p.offset) w.size (scalarBits d)
    .ok (stack, m.setMemory p.memory memory)
  | .loadVector l p, .i32 address :: stack => do
    let n ← (← m.memory p.memory).read (address.toNat + p.offset) l.size
    .ok (.v128 (l.make n) :: stack, m)
  | .loadLane lane p index, .v128 v :: .i32 address :: stack => do
    let n ← (← m.memory p.memory).read (address.toNat + p.offset) (lane / 8)
    let lanes := (Vector128.lanes lane v).set index (BitVec.ofNat lane n)
    .ok (.v128 (Vector128.ofLanes lanes) :: stack, m)
  | .storeLane lane p index, .v128 v :: .i32 address :: stack => do
    let n := ((Vector128.lanes lane v).getD index 0).toNat
    let memory ← (← m.memory p.memory).write (address.toNat + p.offset) (lane / 8) n
    .ok (stack, m.setMemory p.memory memory)
  | .memorySize x, stack => do .ok (.i32 (.ofNat 32 (← m.memory x).pages) :: stack, m)
  | .memoryGrow x, .i32 more :: stack => do
    let memory ← m.memory x
    match memory.grow? more.toNat with
    | some grown => .ok (.i32 (.ofNat 32 memory.pages) :: stack, m.setMemory x grown)
    | none => .ok (.i32 (BitVec.allOnes 32) :: stack, m)
  | .memoryFill x, .i32 count :: .i32 b :: .i32 address :: stack => do
    let memory ← m.memory x
    memory.holds address.toNat count.toNat
    let memory := memory.put address.toNat (List.replicate count.toNat (UInt8.ofNat b.toNat))
    .ok (stack, m.setMemory x memory)
  | .memoryCopy x y, .i32 count :: .i32 source :: .i32 target :: stack => do
    let bytes ← (← m.memory y).slice source.toNat count.toNat
    .ok (stack, m.setMemory x (← (← m.memory x).replace target.toNat bytes))
  | .memoryInit x segment, .i32 count :: .i32 source :: .i32 target :: stack => do
    .ok (stack, ← m.initMemory x segment target.toNat source.toNat count.toNat)
  | .dataDrop segment, stack => .ok (stack, m.dropData segment)
  | _, _ => .error .unsupported

def onTable (m : Machine) : Instr → List Datum → Except Trap (List Datum × Machine)
  | .tableGet x, .i32 index :: stack => do
    .ok (.func (← (← m.table x).get index.toNat) :: stack, m)
  | .tableSet x, .func r :: .i32 index :: stack => do
    .ok (stack, m.setTable x (← (← m.table x).replace index.toNat [r]))
  | .tableSize x, stack => do .ok (.i32 (.ofNat 32 (← m.table x).size) :: stack, m)
  | .tableGrow x, .i32 more :: .func r :: stack => do
    let table ← m.table x
    match table.grow? more.toNat r with
    | some grown => .ok (.i32 (.ofNat 32 table.size) :: stack, m.setTable x grown)
    | none => .ok (.i32 (BitVec.allOnes 32) :: stack, m)
  | .tableFill x, .i32 count :: .func r :: .i32 index :: stack => do
    let table ← m.table x
    table.holds index.toNat count.toNat
    .ok (stack, m.setTable x (table.put index.toNat (List.replicate count.toNat r)))
  | .tableCopy x y, .i32 count :: .i32 source :: .i32 target :: stack => do
    let refs ← (← m.table y).slice source.toNat count.toNat
    .ok (stack, m.setTable x (← (← m.table x).replace target.toNat refs))
  | .tableInit x segment, .i32 count :: .i32 source :: .i32 target :: stack => do
    .ok (stack, ← m.initTable x segment target.toNat source.toNat count.toNat)
  | .elemDrop segment, stack => .ok (stack, m.dropElem segment)
  | i, stack => m.onMemory i stack

def simple (m : Machine) (locals : List Datum) : Instr → List Datum → Effect
  | .nop, stack => .ok (stack, locals, m)
  | .drop, _ :: stack => .ok (stack, locals, m)
  | .select _, .i32 c :: b :: a :: stack => .ok ((if c = 0 then b else a) :: stack, locals, m)
  | .localGet x, stack => do .ok ((← item locals x) :: stack, locals, m)
  | .localSet x, d :: stack => .ok (stack, locals.set x d, m)
  | .localTee x, d :: stack => .ok (d :: stack, locals.set x d, m)
  | .globalGet x, stack => do .ok ((← item m.globals x) :: stack, locals, m)
  | .globalSet x, d :: stack => .ok (stack, locals, { m with globals := m.globals.set x d })
  | .const d, stack => .ok (d :: stack, locals, m)
  | .reference f, stack => .ok (.func (some f) :: stack, locals, m)
  | .isNull, .func r :: stack => .ok (.ofBool r.isNone :: stack, locals, m)
  | .numeric op, stack => do
    let count := op.operands.length
    .ok ((← op.apply (stack.take count).reverse) :: stack.drop count, locals, m)
  | .vector op, stack => do
    let count := op.operands.length
    .ok ((← op.apply (stack.take count).reverse) :: stack.drop count, locals, m)
  | i, stack => do
    let (stack, m) ← m.onTable i stack
    .ok (stack, locals, m)

end Machine

/-- What is left to do behind a block or a call, on the operands below its own. -/
inductive Pending
  | block (results : Nat) (below : List Datum) (rest : List Instr)
  | loop (type : FuncType) (body : List Instr) (below : List Datum) (rest : List Instr)
  | call (results : Nat) (below locals : List Datum) (rest : List Instr)

/-- A guest at some point of its run: the code ahead, the operands of the block with the last one
first, and what is pending with the innermost first. -/
structure Activity where
  code : List Instr
  stack : List Datum := []
  locals : List Datum
  pending : List Pending := []
  calls : Nat := 1
  machine : Machine

inductive Progress
  | going (a : Activity)
  | done (stack : List Datum) (m : Machine)
  | stopped (trap : Trap) (m : Machine)

def maxCalls : Nat := 16384

namespace Activity

def behind (a : Activity) (results : Nat) (below : List Datum) (rest : List Instr)
    (pending : List Pending) : Progress :=
  .going { a with code := rest, stack := a.stack.take results ++ below, pending }

def outermost : List Pending → List Pending
  | .block .. :: pending | .loop .. :: pending => outermost pending
  | pending => pending

def leave (a : Activity) : Progress :=
  match outermost a.pending with
  | .call results below locals rest :: pending =>
    { a with locals, calls := a.calls - 1, machine := a.machine.charge }.behind results below rest
      pending
  | _ => .done a.stack a.machine.charge

def enterBlock (a : Activity) (type : FuncType) (body : List Instr) : Progress :=
  let params := type.params.length
  .going { a with
    code := body, stack := a.stack.take params
    pending := .block type.results.length (a.stack.drop params) a.code :: a.pending }

def enterLoop (t : Terms) (a : Activity) (type : FuncType) (body : List Instr)
    (below : List Datum) (rest : List Instr) : Progress :=
  match a.machine.look t with
  | .error trap => .stopped trap a.machine
  | .ok machine =>
    .going { a with
      code := body, stack := a.stack.take type.params.length
      pending := .loop type body below rest :: a.pending, machine }

def branch (t : Terms) (a : Activity) (depth : Nat) : Progress :=
  match depth, a.pending with
  | 0, .block results below rest :: pending => a.behind results below rest pending
  | 0, .loop type body below rest :: pending =>
    { a with pending }.enterLoop t type body below rest
  | depth + 1, .block .. :: pending | depth + 1, .loop .. :: pending =>
    { a with pending }.branch t depth
  | _, _ => a.leave

def enter (code : Module) (t : Terms) (a : Activity) (function : Nat) (args : List Datum) :
    Progress :=
  match code.funcs[function - code.funcImports.length]? with
  | none => .stopped .unsupported a.machine
  | some f =>
    if function < code.funcImports.length then .stopped .unsupported a.machine
    else if maxCalls < a.calls then .stopped .callsExhausted a.machine
    else
      let machine := a.machine.spend 1
      match machine.look t with
      | .error trap => .stopped trap machine
      | .ok machine =>
        .going { a with
          code := f.body, stack := [], locals := args.reverse ++ f.locals.map Datum.zero, machine }

def call (code : Module) (t : Terms) (a : Activity) (function : Nat) : Progress :=
  let type := (code.funcTypes[function]?).getD {}
  let params := type.params.length
  let back : Pending := .call type.results.length (a.stack.drop params) a.locals a.code
  { a with pending := back :: a.pending, calls := a.calls + 1, machine := a.machine.charge }.enter
    code t function (a.stack.take params)

def tailCall (code : Module) (t : Terms) (a : Activity) (function : Nat) : Progress :=
  let params := ((code.funcTypes[function]?).getD {}).params.length
  { a with pending := outermost a.pending, machine := a.machine.charge }.enter code t function
    (a.stack.take params)

def referred (code : Module) (m : Machine) (table : Nat) (type : FuncType) (index : Nat) :
    Except Trap Nat := do
  match ← (← m.table table).get index with
  | none => throw .noElement
  | some f => if code.funcTypes[f]? = some type then return f else throw .wrongSignature

def indirect (code : Module) (a : Activity) (table : Nat) (type : FuncType)
    (go : Activity → Nat → Progress) : Progress :=
  match a.stack with
  | .i32 index :: stack =>
    match referred code a.machine table type index.toNat with
    | .ok f => go { a with stack } f
    | .error trap => .stopped trap a.machine.charge
  | _ => .stopped .unsupported a.machine

def run (code : Module) (t : Terms) (a : Activity) : Instr → Progress
  | .unreachable => .stopped .unreachable a.machine.charge
  | .exit => a.leave
  | .branch depth => a.branch t depth
  | .branchIf depth =>
    match a.stack with
    | .i32 c :: stack => if c = 0 then .going { a with stack } else { a with stack }.branch t depth
    | _ => .stopped .unsupported a.machine
  | .branchTable depths otherwise =>
    match a.stack with
    | .i32 c :: stack => { a with stack }.branch t (depths.getD c.toNat otherwise)
    | _ => .stopped .unsupported a.machine
  | .block type body => a.enterBlock type body
  | .choice type yes no =>
    match a.stack with
    | .i32 c :: stack => { a with stack }.enterBlock type (if c = 0 then no else yes)
    | _ => .stopped .unsupported a.machine
  | .loop type body => a.enterLoop t type body (a.stack.drop type.params.length) a.code
  | .call function => a.call code t function
  | .callIndirect table type => a.indirect code table type fun a f => a.call code t f
  | .tailCall function => a.tailCall code t function
  | .tailCallIndirect table type => a.indirect code table type fun a f => a.tailCall code t f
  | i =>
    match a.machine.simple a.locals i a.stack with
    | .ok (stack, locals, machine) => .going { a with stack, locals, machine }
    | .error trap => .stopped trap a.machine

def step (code : Module) (t : Terms) (a : Activity) : Progress :=
  match a.code, a.pending with
  | i :: rest, _ => { a with code := rest, machine := a.machine.spend i.cost }.run code t i
  | [], .block results below rest :: pending => a.behind results below rest pending
  | [], .loop type _ below rest :: pending => a.behind type.results.length below rest pending
  | [], _ => a.leave

def runFor (code : Module) (t : Terms) : Nat → Activity → Except (Trap × Machine)
    (List Datum × Machine)
  | 0, a => .error (.outOfFuel, a.machine)
  | steps + 1, a =>
    match a.step code t with
    | .going a => runFor code t steps a
    | .done stack m => .ok (stack, m)
    | .stopped trap m => .error (trap, m)

end Activity

mutual

def Instr.nodes : Instr → Nat
  | .block _ body | .loop _ body => nodesOf body + 2
  | .choice _ yes no => nodesOf yes + nodesOf no + 2
  | _ => 1

def nodesOf : List Instr → Nat
  | [] => 0
  | i :: is => i.nodes + nodesOf is

end

namespace Module

-- An empty sum is Lean's own zero, whatever else is imported.
attribute [local instance (2000)] Zero.ofOfNat0 in
/-- How many steps it takes at most to pass each place in the code once. -/
def nodes (code : Module) : Nat := (code.funcs.map fun f => nodesOf f.body + 1).sum

/-- As many steps as a budget can pay for. Behind each thing that is paid, every place in the code
of a function is passed at most once; and behind each look at the budget, of which there are no more
than it can pay for, as much can be spent as the code costs. -/
def steps (code : Module) (maxFuel : Nat) : Nat := (maxFuel + 2) * (code.nodes + 2) ^ 2

def invoke (code : Module) (t : Terms) (function : Nat) (args : List Datum) (m : Machine) :
    Except (Trap × Machine) (List Datum × Machine) :=
  let start : Activity := { code := [], locals := [], machine := m }
  match start.enter code t function args.reverse with
  | .going a => do
    let (stack, m) ← a.runFor code t (code.steps t.maxFuel)
    let results := ((code.funcTypes[function]?).getD {}).results.length
    .ok ((stack.take results).reverse, m)
  | .done stack m => .ok (stack, m)
  | .stopped trap m => .error (trap, m)

end Module

end ComponentHost.Wasm
