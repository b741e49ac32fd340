import ComponentHost.Wasm.Instruction

/-! Modules: what they take from outside, what they define, and what they offer. Imports come first
in each index space. -/

namespace ComponentHost.Wasm

structure Bounds where
  min : Nat
  max : Option Nat := none
deriving DecidableEq

structure GlobalType where
  type : ValueType
  mutable : Bool := false
deriving DecidableEq

structure TableType where
  type : ValueType
  bounds : Bounds
deriving DecidableEq

inductive ImportKind
  | func (type : FuncType)
  | table (type : TableType)
  | memory (bounds : Bounds)
  | global (type : GlobalType)
deriving DecidableEq

structure Import where
  source : String
  name : String
  kind : ImportKind
deriving DecidableEq

structure Func where
  type : FuncType
  locals : List ValueType := []
  body : List Instr

structure Global where
  type : GlobalType
  init : List Instr

inductive Space
  | func
  | table
  | memory
  | global
deriving DecidableEq

structure Export where
  name : String
  space : Space
  index : Nat
deriving DecidableEq

/-- When a segment takes effect: when an instruction says so, before the start at an offset into a
memory or a table, or never. -/
inductive SegmentMode
  | passive
  | active (index : Nat) (offset : List Instr)
  | declared

structure Data where
  bytes : Bytes
  mode : SegmentMode

/-- References that tables are filled with, each of them constant code. -/
structure Elem where
  inits : List (List Instr)
  mode : SegmentMode

structure Module where
  types : List FuncType := []
  imports : List Import := []
  funcs : List Func := []
  tables : List TableType := []
  memories : List Bounds := []
  globals : List Global := []
  exports : List Export := []
  start : Option Nat := none
  elems : List Elem := []
  data : List Data := []

namespace Module

def funcImports (m : Module) : List FuncType :=
  m.imports.filterMap fun i =>
    match i.kind with
    | .func type => some type
    | _ => none

def globalImports (m : Module) : List GlobalType :=
  m.imports.filterMap fun i =>
    match i.kind with
    | .global type => some type
    | _ => none

def tableImports (m : Module) : List TableType :=
  m.imports.filterMap fun i =>
    match i.kind with
    | .table type => some type
    | _ => none

def memoryImports (m : Module) : List Bounds :=
  m.imports.filterMap fun i =>
    match i.kind with
    | .memory bounds => some bounds
    | _ => none

def funcTypes (m : Module) : List FuncType := m.funcImports ++ m.funcs.map Func.type

def globalTypes (m : Module) : List GlobalType := m.globalImports ++ m.globals.map Global.type

def tableTypes (m : Module) : List TableType := m.tableImports ++ m.tables

def memoryBounds (m : Module) : List Bounds := m.memoryImports ++ m.memories

def count (m : Module) : Space → Nat
  | .func => m.funcTypes.length
  | .table => m.tableTypes.length
  | .memory => m.memoryBounds.length
  | .global => m.globalTypes.length

def exportedFunc? (m : Module) (name : String) : Option Nat :=
  (m.exports.find? fun e => e.name = name ∧ e.space = .func).map Export.index

def funcExports (m : Module) : List String :=
  (m.exports.filter fun e => e.space = .func).map Export.name

end Module

def maxPages : Nat := 65536

def pageSize : Nat := 65536

end ComponentHost.Wasm
