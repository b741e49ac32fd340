import ComponentHost.Wasm.Binary.Module
import ComponentHost.Wasm.Text.Part

/-! Modules in the text format: a list of fields, with or without a list around it. -/

namespace ComponentHost.Wasm

structure Tally where
  funcs : Nat := 0
  tables : Nat := 0
  memories : Nat := 0
  globals : Nat := 0

namespace Tally

def count (t : Tally) : Space → Nat
  | .func => t.funcs
  | .table => t.tables
  | .memory => t.memories
  | .global => t.globals

def add (t : Tally) : Space → Tally
  | .func => { t with funcs := t.funcs + 1 }
  | .table => { t with tables := t.tables + 1 }
  | .memory => { t with memories := t.memories + 1 }
  | .global => { t with globals := t.globals + 1 }

end Tally

namespace Names

def allDistinct (n : Names) : Bool :=
  [n.types, n.funcs, n.tables, n.memories, n.globals, n.elems, n.data].all distinct

end Names

namespace Field

def parts (n : Names) : Tally → List Field → (before : List (Draft Module)) →
    Option (List (Draft Module))
  | _, [], before => some before.reverse
  | t, f :: fs, before =>
    let (index, t) :=
      match f with
      | item i => (t.count i.space, t.add i.space)
      | _ => (0, t)
    match f.part? n index with
    | some part => parts n t fs (part :: before)
    | none => none

def startsOnce (fields : List Field) : Bool :=
  (fields.filter fun
    | start _ => true
    | _ => false).length ≤ 1

/-- The types that a module declares, and behind them those that are spelled out, each once. -/
def declare (types spelled : List FuncType) : List FuncType :=
  spelled.foldl (fun types t => if types.contains t then types else types ++ [t]) types

end Field

namespace Module

def append (m m' : Module) : Module where
  types := m.types ++ m'.types
  imports := m.imports ++ m'.imports
  funcs := m.funcs ++ m'.funcs
  tables := m.tables ++ m'.tables
  memories := m.memories ++ m'.memories
  globals := m.globals ++ m'.globals
  exports := m.exports ++ m'.exports
  start := m.start.or m'.start
  elems := m.elems ++ m'.elems
  data := m.data ++ m'.data

def ofFields? (fields : List Field) : Option Module := do
  let n := Field.names fields
  if n.allDistinct ∧ Field.importsFirst fields ∧ Field.startsOnce fields then
    let parts := Draft.all (← Field.parts n {} fields [])
    let types := Field.declare (Field.types fields) parts.spelled
    some { (← parts.settle ⟨types, 0⟩).foldr append {} with types }
  else none

/-- The module that a text writes, if the text is well formed and the module is valid. The text may
give the bytes of the binary format. -/
def ofText? (text : String) : Option Module := do
  match ← Tree.ofText? text with
  | [.list (.word "module" :: ts)] =>
    let (_, ts) ← Tree.titledName ts
    match ts with
    | .word "binary" :: ts => ofBytes? (← Tree.strings? ts).flatten
    | ts => checked (← ts.mapM Tree.field?)
  | ts => checked (← ts.mapM Tree.field?)
where
  checked (fields : List Field) : Option Module := do
    let m ← ofFields? fields
    if m.valid then some m else none

end Module

end ComponentHost.Wasm
