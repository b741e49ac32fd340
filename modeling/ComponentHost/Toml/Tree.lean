import ComponentHost.Toml.Value

/-! Tables in the making. A table is defined once: by its own header, by dotted keys, or between
braces. A header may name tables on its way that have yet to be defined; they are open to a later
header. What the dotted keys of one section make is closed to headers but open to more dotted
keys. Each name of an array of tables stands for the table that was last added to it. -/

namespace ComponentHost.Toml

mutual

inductive Node
  | value (v : Value)
  | table (t : Tree)
  | tables (ts : List Tree)

inductive Tree
  | mk (opened dotted : Bool) (entries : List (String × Node))

end

namespace Tree

def entries : Tree → List (String × Node)
  | mk _ _ entries => entries

/-- Whether the table has only been named on the way to others. -/
def opened : Tree → Bool
  | mk opened _ _ => opened

def dotted : Tree → Bool
  | mk _ dotted _ => dotted

def empty : Tree := mk false false []

def get? (t : Tree) (key : String) : Option Node := (t.entries.find? (·.1 = key)).map Prod.snd

def set (t : Tree) (key : String) (n : Node) : Tree :=
  let entries :=
    if t.entries.any (·.1 = key) then
      t.entries.map fun e => if e.1 = key then (key, n) else e
    else t.entries ++ [(key, n)]
  mk t.opened t.dotted entries

def erase (t : Tree) (key : String) : Tree :=
  mk t.opened t.dotted (t.entries.filter (·.1 ≠ key))

/-- Changes the table at the end of a path, naming tables on the way where there are none. -/
def change (viaDots : Bool) (f : Tree → Option Tree) : List String → Tree → Option Tree
  | [], t => f t
  | key :: path, t =>
    match t.get? key with
    | none => do
      let u ← change viaDots f path (mk true viaDots [])
      some (t.set key (.table u))
    | some (.value _) => none
    | some (.table u) =>
      if viaDots ∧ !u.opened then none
      else do
        let u ← change viaDots f path u
        some (t.set key (.table u))
    | some (.tables us) => do
      let u ← change viaDots f path (← us.getLast?)
      some (t.set key (.tables (us.dropLast ++ [u])))

def assign (path : List String) (v : Value) (t : Tree) : Option Tree := do
  let key ← path.getLast?
  let way := path.dropLast
  change true (fun u =>
    if u.dotted = way.isEmpty ∨ (u.get? key).isSome then none
    else some (u.set key (.value v))) way t

def assignAll (t : Tree) (l : List (List String × Value)) : Option Tree :=
  l.foldlM (fun t (path, v) => t.assign path v) t

def define (path : List String) (l : List (List String × Value)) (t : Tree) : Option Tree := do
  let key ← path.getLast?
  change false (fun u => do
    let entries ←
      match u.get? key with
      | none => some []
      | some (.table own) => if own.opened ∧ !own.dotted then some own.entries else none
      | some _ => none
    let own ← (mk false false entries).assignAll l
    some ((u.erase key).set key (.table own))) path.dropLast t

def append (path : List String) (l : List (List String × Value)) (t : Tree) : Option Tree := do
  let key ← path.getLast?
  let own ← empty.assignAll l
  change false (fun u =>
    match u.get? key with
    | none => some (u.set key (.tables [own]))
    | some (.tables us) => some (u.set key (.tables (us ++ [own])))
    | some _ => none) path.dropLast t

end Tree

mutual

def Node.toValue : Node → Value
  | .value v => v
  | .table t => t.toValue
  | .tables ts => .list (treesToValues ts)

def Tree.toValue : Tree → Value
  | .mk _ _ entries => .table (entriesToValues entries)

def treesToValues : List Tree → List Value
  | [] => []
  | t :: ts => t.toValue :: treesToValues ts

def entriesToValues : List (String × Node) → List (String × Value)
  | [] => []
  | (key, n) :: rest => (key, n.toValue) :: entriesToValues rest

end

def Tree.ofBraces (l : List (List String × Value)) : Option Value :=
  (Tree.empty.assignAll l).map Tree.toValue

end ComponentHost.Toml
