import ComponentHost.Wasm.Code
import ComponentHost.Wasm.Text.Number
import ComponentHost.Wasm.Text.Tree

/-! Names and types in the text format. A type of functions may be spelled out where it is used; the
module then declares it behind all that it declares in so many words, once for all its uses. So what
an index of a type means is not known before the whole module is read. -/

namespace ComponentHost.Wasm

structure Names where
  types : List (Option String) := []
  funcs : List (Option String) := []
  tables : List (Option String) := []
  memories : List (Option String) := []
  globals : List (Option String) := []
  elems : List (Option String) := []
  data : List (Option String) := []
  locals : List (Option String) := []

namespace Names

def isName (w : String) : Bool :=
  match w.toList with
  | '$' :: _ :: _ => true
  | _ => false

def index? (names : List (Option String)) (w : String) : Option Nat :=
  if isName w then names.idxOf? (some w) else Literal.index? w

def distinct (names : List (Option String)) : Bool := (names.filterMap id).Nodup

def inSpace (n : Names) : Space → List (Option String)
  | .func => n.funcs
  | .table => n.tables
  | .memory => n.memories
  | .global => n.globals

end Names

structure Settled where
  types : List FuncType
  /-- The parameters of the function at hand, if their types were not spelled out. -/
  unnamed : Nat := 0

/-- What was read before all is settled, with the types that it spells out. -/
structure Draft (α : Type) where
  spelled : List FuncType := []
  settle : Settled → Option α

namespace Draft

instance : Applicative Draft where
  pure a := ⟨[], fun _ => some a⟩
  seq f d :=
    let d := d ()
    ⟨f.spelled ++ d.spelled, fun s => f.settle s <*> d.settle s⟩

def all {α : Type} (ds : List (Draft α)) : Draft (List α) :=
  ⟨ds.flatMap spelled, fun s => ds.mapM fun d => d.settle s⟩

end Draft

structure TypeUse where
  index : Option Nat
  inline : Option FuncType := none
  params : List (Option String) := []

namespace TypeUse

def settle? (u : TypeUse) (types : List FuncType) : Option FuncType :=
  match u.index with
  | none => some (u.inline.getD {})
  | some x => do
    let type ← types[x]?
    if u.inline.all (· = type) then some type else none

def draft {α : Type} (u : TypeUse) (f : FuncType → α) : Draft α :=
  ⟨if u.index.isSome then [] else [u.inline.getD {}], fun s => (u.settle? s.types).map f⟩

def isSimple (t : FuncType) : Bool := t.params.isEmpty && t.results.length ≤ 1

/-- As `draft`, but blocks do not make the module declare simple types. -/
def blockDraft {α : Type} (u : TypeUse) (f : FuncType → α) : Draft α :=
  { u.draft f with spelled := (u.draft f).spelled.filter (!isSimple ·) }

end TypeUse

namespace Tree

abbrev Reader := StateT (List Tree) Option

def fail {α : Type} : Reader α := fun _ => none

def takeWord : Reader String
  | .word w :: ts => some (w, ts)
  | _ => none

def wordIf (belongs : String → Bool) : Reader (Option String)
  | .word w :: ts => some (if belongs w then (some w, ts) else (none, .word w :: ts))
  | ts => some (none, ts)

def name : Reader (Option String) := wordIf Names.isName

def title : Reader Bool
  | .list [.word "@name", .text t] :: ts => (Token.utf8? t).map fun _ => (true, ts)
  | ts => some (false, ts)

def titledName : Reader (Option String) := do
  let name ← name
  let _ ← title
  return name

def index (names : List (Option String)) : Reader Nat := do
  Names.index? names (← takeWord)

def isInteger (w : String) : Bool := (Literal.signed? w.toList).isSome

def optionalIndex (names : List (Option String)) : Reader (Option Nat) := do
  match ← wordIf fun w => isInteger w || Names.isName w with
  | some w => return some (← Names.index? names w)
  | none => return none

def isFuncref : Tree → Bool
  | .word w => w = "funcref" || w = "anyfunc"
  | .list [.word "ref", .word "null", .word "func"] => true
  | _ => false

def valueType? (t : Tree) : Option ValueType :=
  if isFuncref t then some .funcref
  else
    match t with
    | .word w => ValueType.named.lookup w
    | _ => none

def valueType : Reader ValueType
  | t :: ts => (valueType? t).map (·, ts)
  | [] => none

def variables? (ts : List Tree) : Option (List (Option String × ValueType)) := do
  let (name, ts) ← name ts
  let (titled, ts) ← title ts
  if name.isSome ∨ titled then
    match ts with
    | [t] => some [(name, ← valueType? t)]
    | _ => none
  else ts.mapM fun t => do some (none, ← valueType? t)

def readSignature : List Tree → (params : List (Option String × ValueType)) →
    (results : List ValueType) → Option ((FuncType × List (Option String)) × List Tree)
  | .list (.word w :: ts) :: rest, params, results =>
    if w = "param" ∧ results.isEmpty then
      match variables? ts with
      | some more => readSignature rest (more.reverse ++ params) results
      | none => none
    else if w = "result" then
      match ts.mapM valueType? with
      | some more => readSignature rest params (more.reverse ++ results)
      | none => none
    else if w = "param" then none
    else some (made params results, .list (.word w :: ts) :: rest)
  | ts, params, results => some (made params results, ts)
where
  made (params : List (Option String × ValueType)) (results : List ValueType) :
      FuncType × List (Option String) :=
    (⟨(params.map Prod.snd).reverse, results.reverse⟩, (params.map Prod.fst).reverse)

def signature : Reader (FuncType × List (Option String)) := fun ts => readSignature ts [] []

def spellsType : List Tree → Bool
  | .list (.word w :: _) :: _ => w = "param" || w = "result"
  | _ => false

def typeIndex (n : Names) : Reader (Option Nat)
  | .list [.word "type", .word w] :: ts => (Names.index? n.types w).map fun x => (some x, ts)
  | ts => some (none, ts)

def typeUse (n : Names) : Reader TypeUse := do
  let index ← typeIndex n
  if spellsType (← get) then
    let (type, params) ← signature
    return ⟨index, some type, params⟩
  else return ⟨index, none, []⟩

def namelessType (n : Names) : Reader TypeUse := do
  let type ← typeUse n
  if type.params.all Option.isNone then return type else fail

end Tree

end ComponentHost.Wasm
