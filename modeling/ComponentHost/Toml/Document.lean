import ComponentHost.Toml.Number
import ComponentHost.Toml.Tree

/-! TOML documents: sections of assignments, each but the first under a header. -/

namespace ComponentHost.Toml

def maxDepth : Nat := 80

/-- Reads a value; the first number bounds how deep it may lie, the second how long it may be. -/
def readValue : (depth : Nat) → (fuel : Nat) → Reader Value
  | 0, _ => fun _ => none
  | depth + 1, fuel => fun t =>
    match t with
    | '"' :: _ | '\'' :: _ => do let (s, t) ← readString t; some (.text s, t)
    | '[' :: t =>
      if depth = 0 then none
      else do
        let (vs, t) ← readItems depth fuel t
        some (.list vs, t)
    | '\x7b' :: t =>
      if depth = 0 then none
      else
        match skipBlanks t with
        | '\x7d' :: t => some (.table [], t)
        | t => do
          let (l, t) ← readBraced depth fuel t
          some (← Tree.ofBraces l, t)
    | 't' :: 'r' :: 'u' :: 'e' :: t => some (.boolean true, t)
    | 'f' :: 'a' :: 'l' :: 's' :: 'e' :: t => some (.boolean false, t)
    | t => readNumeral t
where
  readItems (depth : Nat) : Nat → Reader (List Value)
    | 0, _ => none
    | fuel + 1, t => do
      let t ← skipFiller (t.length + 1) t
      match t with
      | ']' :: t => some ([], t)
      | t =>
        let (v, t) ← readValue depth fuel t
        let t ← skipFiller (t.length + 1) t
        match t with
        | ']' :: t => some ([v], t)
        | ',' :: t => do
          let (vs, t) ← readItems depth fuel t
          some (v :: vs, t)
        | _ => none
  readBraced (depth : Nat) : Nat → Reader (List (List String × Value))
    | 0, _ => none
    | fuel + 1, t => do
      let (key, t) ← readKey maxKeyParts t
      match t with
      | '=' :: t => do
        let (v, t) ← readValue depth fuel (skipBlanks t)
        match skipBlanks t with
        | '\x7d' :: t => some ([(key, v)], t)
        | ',' :: t => do
          let (l, t) ← readBraced depth fuel t
          some ((key, v) :: l, t)
        | _ => none
      | _ => none

def readAssignment : Reader (List String × Value) := fun t => do
  let (key, t) ← readKey maxKeyParts t
  match t with
  | '=' :: t => do
    let (v, t) ← readValue maxDepth (2 * t.length + 2) (skipBlanks t)
    let (_, t) ← readLineEnd t
    some ((key, v), t)
  | _ => none

inductive Header
  | root
  | table (path : List String)
  | tables (path : List String)

def readHeader : Reader Header := fun t =>
  match t with
  | '[' :: '[' :: t => do
    let (path, t) ← readKey maxKeyParts t
    match t with
    | ']' :: ']' :: t => do let (_, t) ← readLineEnd t; some (.tables path, t)
    | _ => none
  | '[' :: t => do
    let (path, t) ← readKey maxKeyParts t
    match t with
    | ']' :: t => do let (_, t) ← readLineEnd t; some (.table path, t)
    | _ => none
  | _ => none

structure Section where
  header : Header
  assignments : List (List String × Value)

def readSections :
    Nat → Header → List (List String × Value) → List Char → Option (List Section)
  | 0, _, _, _ => none
  | fuel + 1, header, seen, t =>
    match skipBlanks t with
    | [] => some [⟨header, seen.reverse⟩]
    | '[' :: t => do
      let (next, t) ← readHeader ('[' :: t)
      let rest ← readSections fuel next [] t
      some (⟨header, seen.reverse⟩ :: rest)
    | c :: t =>
      if c = '#' ∨ c = '\n' ∨ c = '\r' then do
        let (_, t) ← readLineEnd (c :: t)
        readSections fuel header seen t
      else do
        let (a, t) ← readAssignment (c :: t)
        readSections fuel header (a :: seen) t

def Section.enter (s : Section) (t : Tree) : Option Tree :=
  match s.header with
  | .root => t.assignAll s.assignments
  | .table path => t.define path s.assignments
  | .tables path => t.append path s.assignments

/-- A byte order mark at the start of a text is no part of it. -/
def dropMark : List Char → List Char
  | c :: t => if c.toNat = 0xfeff then t else c :: t
  | [] => []

def parse (text : String) : Option Value := do
  let t := dropMark text.toList
  let sections ← readSections (t.length + 1) .root [] t
  let tree ← sections.foldlM (fun t s => s.enter t) Tree.empty
  some tree.toValue

end ComponentHost.Toml
