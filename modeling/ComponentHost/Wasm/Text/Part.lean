import ComponentHost.Wasm.Text.Field

/-! What the fields of a module add to it, once it is known what all names stand for. -/

namespace ComponentHost.Wasm

namespace Tree

def done : Reader Unit
  | [] => some ((), [])
  | _ => none

def addressType : Reader Unit := do let _ ← wordIf (· = "i32")

def bounds : Reader Bounds := do
  let min ← literal Literal.index?
  match ← wordIf isInteger with
  | some w => return ⟨min, some (← Literal.index? w)⟩
  | none => return ⟨min, none⟩

def memoryType : Reader Bounds := do
  addressType
  bounds

def tableType : Reader TableType := do
  addressType
  let b ← bounds
  return ⟨← valueType, b⟩

def globalType : Reader GlobalType
  | .list [.word "mut", t] :: ts => (valueType? t).map fun t => (⟨t, true⟩, ts)
  | t :: ts => (valueType? t).map fun t => (⟨t, false⟩, ts)
  | [] => none

def restAsCode (n : Names) : Reader (Draft (List Instr)) := fun ts =>
  (code n ts).map (·, [])

def importKind (n : Names) : Space → Reader (Draft ImportKind)
  | .func => do return (← typeUse n).draft .func
  | .table => do return pure (.table (← tableType))
  | .memory => do return pure (.memory (← memoryType))
  | .global => do return pure (.global (← globalType))

def locals : List Tree → (before : List (Option String × ValueType)) →
    Option (List (Option String × ValueType) × List Tree)
  | .list (.word "local" :: ts) :: rest, before =>
    match variables? ts with
    | some more => locals rest (more.reverse ++ before)
    | none => none
  | ts, before => some (before.reverse, ts)

def func (n : Names) : Reader (Draft Func) := do
  let type ← typeUse n
  let locals ← fun ts => locals ts []
  let names := type.params ++ locals.map Prod.fst
  let body ← restAsCode { n with locals := names }
  if Names.distinct names then
    return {
      spelled := (type.draft id).spelled ++ body.spelled
      settle := fun s => do
        let t ← type.settle? s.types
        let unnamed := if type.inline.isSome then 0 else t.params.length
        some ⟨t, locals.map Prod.snd, ← body.settle { s with unnamed }⟩ }
  else fail

def reference? (n : Names) : Tree → Option (Draft (List Instr))
  | .list (.word "item" :: ts) => code n ts
  | .list ts => code n [.list ts]
  | _ => none

def references (n : Names) (typed : Bool) : Reader (Draft (List (List Instr))) := fun ts => do
  if typed then some (.all (← ts.mapM (reference? n)), [])
  else
    let indices ← ts.mapM fun
      | .word w => Names.index? n.funcs w
      | _ => none
    some (pure (indices.map fun f => [.reference f]), [])

/-- Where a segment goes that takes effect at the start: the first memory or table unless it names
one, at the offset that code gives. -/
def target (n : Names) (space : Space) (keyword : String) : Reader (Draft SegmentMode) :=
  fun ts => do
  let (index, ts) ←
    match ts with
    | .list [.word k, .word w] :: rest =>
      if k = keyword then some (← Names.index? (n.inSpace space) w, rest) else some (0, ts)
    | .word w :: rest => some (← Literal.index? w, rest)
    | ts => some (0, ts)
  match ts with
  | .list (.word "offset" :: ts) :: rest => some (SegmentMode.active index <$> (← code n ts), rest)
  | .list ts :: rest => some (SegmentMode.active index <$> (← code n [.list ts]), rest)
  | _ => none

def elemMode (n : Names) : Reader (Draft SegmentMode)
  | .word "declare" :: ts => some (pure .declared, ts)
  | .word w :: ts =>
    if isInteger w then target n .table "table" (.word w :: ts)
    else some (pure .passive, .word w :: ts)
  | .list items :: ts =>
    if isFuncref (.list items) then some (pure .passive, .list items :: ts)
    else target n .table "table" (.list items :: ts)
  | ts => some (pure .passive, ts)

def payloadTyped : Reader Bool
  | .word "func" :: ts => some (false, ts)
  | t :: ts => some (if isFuncref t then (true, ts) else (false, t :: ts))
  | [] => some (false, [])

def elem (n : Names) : Reader (Draft Elem) := do
  let mode ← elemMode n
  let typed ← payloadTyped
  return Elem.mk <$> (← references n typed) <*> mode

def numbers? (size : Nat) (literal? : String → Option (BitVec (8 * size))) (ts : List Tree) :
    Option Bytes := do
  let parts ← ts.mapM fun
    | .word w => (literal? w).map fun x => littleEndian size x.toNat
    | _ => none
  some parts.flatten

def vectors? : Nat → List Tree → Option Bytes
  | _, [] => some []
  | 0, _ => none
  | fuel + 1, ts => do
    let (v, ts) ← vector ts
    some (littleEndian 16 v.toNat ++ (← vectors? fuel ts))

def bytes? : Tree → Option Bytes
  | .text b => some b
  | .list (.word "i8" :: ts) => numbers? 1 (Literal.int? 8) ts
  | .list (.word "i16" :: ts) => numbers? 2 (Literal.int? 16) ts
  | .list (.word "i32" :: ts) => numbers? 4 (Literal.int? 32) ts
  | .list (.word "i64" :: ts) => numbers? 8 (Literal.int? 64) ts
  | .list (.word "f32" :: ts) => numbers? 4 (Literal.float? .w32) ts
  | .list (.word "f64" :: ts) => numbers? 8 (Literal.float? .w64) ts
  | .list (.word "v128" :: ts) => vectors? ts.length ts
  | _ => none

def allBytes? (ts : List Tree) : Option Bytes := (ts.mapM bytes?).map List.flatten

def data (n : Names) (ts : List Tree) : Option (Draft Data) := do
  match ts with
  | .text _ :: _ => some (pure ⟨← allBytes? ts, .passive⟩)
  | .word "passive" :: ts => some (pure ⟨← allBytes? ts, .passive⟩)
  | ts =>
    let (mode, ts) ← target n .memory "memory" ts
    some (Data.mk (← allBytes? ts) <$> mode)

def startOffset : List Instr := [.const (.i32 0)]

/-- A table; if its references are written with it, it has room for just these. -/
def table (n : Names) (index : Nat) (ts : List Tree) : Option (Draft Module) := do
  let (_, ts) ← addressType ts
  match ts with
  | [t, .list (.word "elem" :: ts)] =>
    let typed := ts.head?.any fun
      | .list _ => true
      | _ => false
    let (inits, _) ← references n typed ts
    if isFuncref t then
      some ((fun inits =>
        { tables := [⟨.funcref, inits.length, some inits.length⟩]
          elems := [⟨inits, .active index startOffset⟩] }) <$> inits)
    else none
  | ts => do
    let (type, _) ← (tableType <* done) ts
    some (pure { tables := [type] })

def memory (index : Nat) (ts : List Tree) : Option Module := do
  let (_, rest) ← addressType ts
  match rest with
  | [.list (.word "data" :: ts)] =>
    let bytes ← allBytes? ts
    let pages := (bytes.length + pageSize - 1) / pageSize
    some { memories := [⟨pages, some pages⟩], data := [⟨bytes, .active index startOffset⟩] }
  | _ =>
    let (b, _) ← (memoryType <* done) ts
    some { memories := [b] }

def defined (n : Names) (space : Space) (index : Nat) (ts : List Tree) : Option (Draft Module) := do
  match space with
  | .func =>
    let (f, _) ← func n ts
    some ((fun f => { funcs := [f] }) <$> f)
  | .table => table n index ts
  | .memory => some (pure (← memory index ts))
  | .global =>
    let (type, ts) ← globalType ts
    some ((fun init => { globals := [⟨type, init⟩] }) <$> (← code n ts))

end Tree

namespace Item

def part? (n : Names) (i : Item) (index : Nat) : Option (Draft Module) := do
  let exports := i.exports.map fun name => ⟨name, i.space, index⟩
  let part ←
    match i.source with
    | some (source, name) =>
      let (kind, _) ← (Tree.importKind n i.space <* Tree.done) i.rest
      some ((fun kind => { imports := [⟨source, name, kind⟩] }) <$> kind)
    | none => Tree.defined n i.space index i.rest
  some ((fun m => { m with exports }) <$> part)

end Item

namespace Field

def part? (n : Names) (index : Nat) : Field → Option (Draft Module)
  | type _ t => some (pure { types := [t] })
  | item i => i.part? n index
  | offer name space what => do
    some (pure { exports := [⟨name, space, ← Names.index? (n.inSpace space) what⟩] })
  | start function => do some (pure { start := some (← Names.index? n.funcs function) })
  | elem _ ts => do
    let (e, _) ← Tree.elem n ts
    some ((fun e => { elems := [e] }) <$> e)
  | data _ ts => do some ((fun d => { data := [d] }) <$> (← Tree.data n ts))
  | custom => some (pure {})

end Field

end ComponentHost.Wasm
