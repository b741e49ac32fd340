import ComponentHost.Wasm.Text.Plain

/-! Code in the text format. Instructions stand in a row or are folded around their operands;
blocks may go by names. -/

namespace ComponentHost.Wasm

/-- Code as far as it was read: its marks, the last first, and the labels of the blocks that are
open behind them, the innermost first. -/
structure Listing where
  marks : List (Draft Mark) := []
  labels : List (Option String)

namespace Listing

def add (p : Listing) (m : Draft Mark) : Listing := { p with marks := m :: p.marks }

def enter (p : Listing) (label : Option String) (m : Draft Mark) : Listing :=
  ⟨m :: p.marks, label :: p.labels⟩

def turn (p : Listing) : Listing := p.add (pure .otherwise)

def leave (p : Listing) : Listing := ⟨pure .close :: p.marks, p.labels.tail⟩

def endsUnder (p : Listing) (name : Option String) : Bool :=
  match p.labels with
  | [] => false
  | label :: _ => name.isNone || name = label

end Listing

namespace Tree

def opening? : String → Option (FuncType → Mark)
  | "block" => some .block
  | "loop" => some .loop
  | "if" => some .choice
  | _ => none

def blockHead (n : Names) (opening : FuncType → Mark) : Reader (Option String × Draft Mark) := do
  let label ← titledName
  let type ← namelessType n
  return (label, type.blockDraft opening)

def action (n : Names) (p : Listing) (w : String) : Reader (Listing → Option Listing) := do
  if w = "else" ∨ w = "end" then
    let label ← name
    return fun p =>
      if p.endsUnder label then some (if w = "end" then p.leave else p.turn) else none
  else
    let m ← plain n p.labels w
    return fun p => some (p.add m)

def unfolded (n : Names) (p : Listing) (w : String) : Reader Listing := do
  match opening? w with
  | some opening =>
    let (label, m) ← blockHead n opening
    return p.enter label m
  | none => (← action n p w) p

/-- An annotation that tells which way a branch goes more often. -/
def isHint : List Tree → Bool
  | [.word "@metadata.code.branch_hint", .text [b]] => b ≤ 1
  | _ => false

mutual

def readRow (n : Names) : Nat → List Tree → Listing → Option Listing
  | 0, _, _ => none
  | _ + 1, [], p => some p
  | _ + 1, .text _ :: _, _ => none
  | fuel + 1, .list items :: rest, p =>
    match readFolded n fuel items p with
    | some p => readRow n fuel rest p
    | none => none
  | fuel + 1, .word w :: rest, p =>
    match unfolded n p w rest with
    | some (p, rest) => readRow n fuel rest p
    | none => none

def readFolded (n : Names) : Nat → List Tree → Listing → Option Listing
  | 0, _, _ => none
  | fuel + 1, .word w :: rest, p =>
    if isHint (.word w :: rest) then some p
    else
      match opening? w with
      | some opening => do
        let ((label, m), rest) ← blockHead n opening rest
        if w = "if" then readChoice n fuel label m rest p
        else some (← readRow n fuel rest (p.enter label m)).leave
      | none => do
        let (act, rest) ← action n p w rest
        act (← readRow n fuel rest p)
  | _ + 1, _, _ => none

def readChoice (n : Names) :
    Nat → Option String → Draft Mark → List Tree → Listing → Option Listing
  | 0, _, _, _, _ => none
  | fuel + 1, label, m, .list (.word "then" :: yes) :: rest, p => do
    let p ← readRow n fuel yes (p.enter label m)
    match rest with
    | [] => some p.leave
    | [.list (.word "else" :: no)] => some (← readRow n fuel no p.turn).leave
    | _ => none
  | fuel + 1, label, m, .list items :: rest, p => do
    readChoice n fuel label m rest (← readFolded n fuel items p)
  | _ + 1, _, _, _, _ => none

end

def code (n : Names) (ts : List Tree) : Option (Draft (List Instr)) := do
  let p ← readRow n (2 * addSizes 0 ts + 2) ts ⟨[], [none]⟩
  if p.labels.length = 1 then
    let marks := Draft.all p.marks.reverse
    some ⟨marks.spelled, fun s => (marks.settle s).bind Mark.nest⟩
  else none

end Tree

end ComponentHost.Wasm
