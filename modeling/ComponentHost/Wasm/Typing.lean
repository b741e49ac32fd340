import ComponentHost.Wasm.Module

/-! Which code is well typed. The types of the operands are followed from instruction to
instruction; behind one that never goes on, any operands may be assumed. -/

namespace ComponentHost.Wasm

/-- The types of the operands at a point, the last pushed first. An unknown type stands for any. -/
structure Operands where
  known : List (Option ValueType) := []
  unbounded : Bool := false

namespace Operands

def push (o : Operands) (t : Option ValueType) : Operands := { o with known := t :: o.known }

def pushAll (o : Operands) (ts : List ValueType) : Operands :=
  ts.foldl (fun o t => o.push (some t)) o

def popAny (o : Operands) : Option (Option ValueType × Operands) :=
  match o.known with
  | t :: rest => some (t, { o with known := rest })
  | [] => if o.unbounded then some (none, o) else none

def pop (o : Operands) (t : ValueType) : Option Operands := do
  let (found, o) ← o.popAny
  if found.all (· = t) then some o else none

def popAll (o : Operands) (ts : List ValueType) : Option Operands :=
  ts.reverse.foldlM pop o

def lost : Operands := ⟨[], true⟩

def endsWith (o : Operands) (results : List ValueType) : Bool :=
  match o.popAll results with
  | some o => o.known.isEmpty
  | none => false

end Operands

structure Scope where
  funcs : List FuncType
  globals : List GlobalType
  tables : Nat
  memories : Nat
  elems : Nat
  data : Nat
  referable : List Nat
  locals : List ValueType := []
  labels : List (List ValueType) := []
  results : List ValueType := []

namespace Scope

def within (s : Scope) (label : List ValueType) : Scope := { s with labels := label :: s.labels }

end Scope

def unifies (a b : Option ValueType) : Bool :=
  match a, b with
  | some a, some b => a = b
  | _, _ => true

def checkSelect (o : Operands) : Option Operands := do
  let o ← o.pop .i32
  let (a, o) ← o.popAny
  let (b, o) ← o.popAny
  let t := a.or b
  if unifies a b ∧ !t.any ValueType.isReference then some (o.push t) else none

structure Signature where
  takes : List ValueType := []
  gives : List ValueType := []

def given (condition : Bool) (takes gives : List ValueType) : Option Signature :=
  if condition then some ⟨takes, gives⟩ else none

def signature? (s : Scope) : Instr → Option Signature
  | .nop => some {}
  | .select (some t) => some ⟨[t, t, .i32], [t]⟩
  | .call f => (s.funcs[f]?).map fun t => ⟨t.params, t.results⟩
  | .callIndirect table t => given (table < s.tables) (t.params ++ [.i32]) t.results
  | .localGet x => (s.locals[x]?).map fun t => ⟨[], [t]⟩
  | .localSet x => (s.locals[x]?).map fun t => ⟨[t], []⟩
  | .localTee x => (s.locals[x]?).map fun t => ⟨[t], [t]⟩
  | .globalGet x => (s.globals[x]?).map fun g => ⟨[], [g.type]⟩
  | .globalSet x => (s.globals[x]?).bind fun g => given g.mutable [g.type] []
  | .const d => some ⟨[], [d.type]⟩
  | .reference f => given (f < s.funcs.length && s.referable.contains f) [] [.funcref]
  | .isNull => some ⟨[.funcref], [.i32]⟩
  | .numeric op => some ⟨op.operands, [op.result]⟩
  | .vector op => given op.lanesExist op.operands [op.result]
  | .load l p => given (p.memory < s.memories) [.i32] [l.type]
  | .store w p => given (p.memory < s.memories) [.i32, w.type] []
  | .loadVector _ p => given (p.memory < s.memories) [.i32] [.v128]
  | .loadLane lane p i => given (p.memory < s.memories && i < 128 / lane) [.i32, .v128] [.v128]
  | .storeLane lane p i => given (p.memory < s.memories && i < 128 / lane) [.i32, .v128] []
  | .memorySize m => given (m < s.memories) [] [.i32]
  | .memoryGrow m => given (m < s.memories) [.i32] [.i32]
  | .memoryFill m => given (m < s.memories) [.i32, .i32, .i32] []
  | .memoryCopy m m' => given (m < s.memories && m' < s.memories) [.i32, .i32, .i32] []
  | .memoryInit m d => given (m < s.memories && d < s.data) [.i32, .i32, .i32] []
  | .dataDrop d => given (d < s.data) [] []
  | .tableGet t => given (t < s.tables) [.i32] [.funcref]
  | .tableSet t => given (t < s.tables) [.i32, .funcref] []
  | .tableSize t => given (t < s.tables) [] [.i32]
  | .tableGrow t => given (t < s.tables) [.funcref, .i32] [.i32]
  | .tableFill t => given (t < s.tables) [.i32, .funcref, .i32] []
  | .tableCopy t t' => given (t < s.tables && t' < s.tables) [.i32, .i32, .i32] []
  | .tableInit t e => given (t < s.tables && e < s.elems) [.i32, .i32, .i32] []
  | .elemDrop e => given (e < s.elems) [] []
  | _ => none

mutual

def check (s : Scope) : Instr → Operands → Option Operands
  | .unreachable, _ => some .lost
  | .drop, o => o.popAny.map Prod.snd
  | .select none, o => checkSelect o
  | .block type body, o => do
    let o ← o.popAll type.params
    let inner ← checkAll (s.within type.results) body (Operands.pushAll {} type.params)
    if inner.endsWith type.results then some (o.pushAll type.results) else none
  | .loop type body, o => do
    let o ← o.popAll type.params
    let inner ← checkAll (s.within type.params) body (Operands.pushAll {} type.params)
    if inner.endsWith type.results then some (o.pushAll type.results) else none
  | .choice type yes no, o => do
    let o ← o.pop .i32
    let o ← o.popAll type.params
    let first ← checkAll (s.within type.results) yes (Operands.pushAll {} type.params)
    let second ← checkAll (s.within type.results) no (Operands.pushAll {} type.params)
    if first.endsWith type.results ∧ second.endsWith type.results then
      some (o.pushAll type.results)
    else none
  | .branch depth, o => do
    let _ ← o.popAll (← s.labels[depth]?)
    some .lost
  | .branchIf depth, o => do
    let label ← s.labels[depth]?
    let o ← (← o.pop .i32).popAll label
    some (o.pushAll label)
  | .branchTable depths otherwise, o => do
    let o ← o.pop .i32
    let label ← s.labels[otherwise]?
    let labels ← depths.mapM fun depth => s.labels[depth]?
    if labels.all (fun l => l.length = label.length && (o.popAll l).isSome) then
      let _ ← o.popAll label
      some .lost
    else none
  | .exit, o => do
    let _ ← o.popAll s.results
    some .lost
  | .tailCall function, o => do
    let type ← s.funcs[function]?
    let _ ← o.popAll type.params
    if type.results = s.results then some .lost else none
  | .tailCallIndirect table type, o => do
    let _ ← (← o.pop .i32).popAll type.params
    if table < s.tables ∧ type.results = s.results then some .lost else none
  | i, o => do
    let t ← signature? s i
    some ((← o.popAll t.takes).pushAll t.gives)

def checkAll (s : Scope) : List Instr → Operands → Option Operands
  | [], o => some o
  | i :: is, o => do checkAll s is (← check s i o)

end

end ComponentHost.Wasm
