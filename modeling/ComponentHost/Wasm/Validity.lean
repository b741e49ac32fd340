import ComponentHost.Wasm.Typing

/-! Which modules are valid: code is well typed, what is referred to exists, and there is not too
much of anything. -/

namespace ComponentHost.Wasm

structure Capacity where
  params : Nat := 1000
  results : Nat := 1000
  locals : Nat := 50000
  tables : Nat := 100
  memories : Nat := 100
  elems : Nat := 100000
  data : Nat := 100000
  others : Nat := 1000000
  name : Nat := 100000
  references : Nat := 10000000

def capacity : Capacity := {}

namespace FuncType

def fits (t : FuncType) : Bool :=
  t.params.length ≤ capacity.params && t.results.length ≤ capacity.results

end FuncType

namespace Module

def referenced (m : Module) : List Nat :=
  let inits := (m.globals.map Global.init).flatten ++ (m.elems.map Elem.inits).flatten.flatten
  let references := inits.filterMap fun
    | .reference f => some f
    | _ => none
  references ++ (m.exports.filter fun e => e.space = .func).map Export.index

def scope (m : Module) : Scope where
  funcs := m.funcTypes
  globals := m.globalTypes
  tables := m.tableTypes.length
  memories := m.memoryBounds.length
  elems := m.elems.length
  data := m.data.length
  referable := m.referenced

def funcOk (m : Module) (f : Func) : Bool :=
  let locals := f.type.params ++ f.locals
  let scope : Scope :=
    { m.scope with locals, labels := [f.type.results], results := f.type.results }
  locals.length ≤ capacity.locals &&
    (checkAll scope f.body {}).any (·.endsWith f.type.results)

/-- Whether an instruction may stand in constant code: constants, references to functions, imported
globals that never change, and sums and products of whole numbers. -/
def isConstant (m : Module) : Instr → Bool
  | .const _ | .reference _ => true
  | .globalGet x => (m.globalImports[x]?).any (!·.mutable)
  | .numeric (.intBinary _ op) => [IntBinary.add, .sub, .mul].contains op
  | _ => false

def constantOk (m : Module) (type : ValueType) (code : List Instr) : Bool :=
  code.all m.isConstant && (checkAll m.scope code {}).any (·.endsWith [type])

def initOk (m : Module) (g : Global) : Bool := m.constantOk g.type.type g.init

def modeOk (m : Module) (count : Nat) : SegmentMode → Bool
  | .active index offset => index < count && m.constantOk .i32 offset
  | .passive | .declared => true

def elemOk (m : Module) (e : Elem) : Bool :=
  e.inits.length ≤ capacity.references && e.inits.all (m.constantOk .funcref) &&
    m.modeOk m.tableTypes.length e.mode

def dataOk (m : Module) (d : Data) : Bool := m.modeOk m.memoryBounds.length d.mode

def boundsOk (limit : Nat) (b : Bounds) : Bool :=
  b.min ≤ limit && b.max.all fun max => max ≤ limit && b.min ≤ max

def tableOk (t : TableType) : Bool :=
  t.type.isReference && boundsOk (2 ^ 32 - 1) t.bounds

def startOk (m : Module) : Bool :=
  m.start.all fun f => m.funcTypes[f]? = some {}

def exportsOk (m : Module) : Bool :=
  m.exports.all (fun e => e.index < m.count e.space) && (m.exports.map Export.name).Nodup

def nameOk (name : String) : Bool := name.utf8ByteSize ≤ capacity.name

def namesOk (m : Module) : Bool :=
  m.imports.all (fun i => nameOk i.source && nameOk i.name) &&
    m.exports.all fun e => nameOk e.name

def countsOk (m : Module) : Bool :=
  m.tableTypes.length ≤ capacity.tables && m.memoryBounds.length ≤ capacity.memories &&
    m.elems.length ≤ capacity.elems && m.data.length ≤ capacity.data &&
    [m.types.length, m.imports.length, m.funcTypes.length, m.globalTypes.length,
      m.exports.length].all (· ≤ capacity.others) &&
    m.types.all FuncType.fits

def valid (m : Module) : Bool :=
  m.countsOk && m.namesOk && m.globals.all m.initOk && m.elems.all m.elemOk &&
    m.data.all m.dataOk && m.memoryBounds.all (boundsOk maxPages) && m.tableTypes.all tableOk &&
    m.startOk && m.exportsOk && m.funcs.all m.funcOk

end Module

end ComponentHost.Wasm
