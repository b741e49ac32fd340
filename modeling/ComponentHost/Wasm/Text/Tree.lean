import ComponentHost.Wasm.Text.Token

/-! The text format up to its parentheses: words, strings and lists of them. -/

namespace ComponentHost.Wasm

inductive Tree
  | word (w : String)
  | text (bytes : Bytes)
  | list (items : List Tree)

namespace Tree

def annotations : List String :=
  ["custom", "producers", "name", "dylink.0", "metadata.code.branch_hint"]

/-- The tokens without the annotations that stand for nothing; the others are lists like any whose
first word keeps its at sign. Within `depth` lists all is left out. -/
def withoutRemarks : List Token → (depth : Nat) → (before : List Token) → Option (List Token)
  | [], 0, before => some before.reverse
  | [], _ + 1, _ => none
  | .remark name :: ts, 0, before =>
    if name.isEmpty then none
    else if annotations.contains name then
      withoutRemarks ts 0 (.word ("@" ++ name) :: .open :: before)
    else withoutRemarks ts 1 before
  | t :: ts, 0, before => withoutRemarks ts 0 (t :: before)
  | .open :: ts, depth + 1, before => withoutRemarks ts (depth + 2) before
  | .remark _ :: ts, depth + 1, before => withoutRemarks ts (depth + 2) before
  | .close :: ts, depth + 1, before => withoutRemarks ts depth before
  | _ :: ts, depth + 1, before => withoutRemarks ts (depth + 1) before

/-- Fits tokens into trees; the lists yet to be closed are held with the innermost first, and
the items of each with the last first. -/
def nest : List Token → (inner : List Tree) → (outer : List (List Tree)) → Option (List Tree)
  | [], inner, [] => some inner.reverse
  | [], _, _ :: _ => none
  | .open :: ts, inner, outer => nest ts [] (inner :: outer)
  | .close :: _, _, [] => none
  | .close :: ts, inner, next :: outer => nest ts (.list inner.reverse :: next) outer
  | .word w :: ts, inner, outer => nest ts (.word w :: inner) outer
  | .text b :: ts, inner, outer => nest ts (.text b :: inner) outer
  | .remark _ :: _, _, _ => none
  | .other :: _, _, _ => none

def ofText? (text : String) : Option (List Tree) := do
  let tokens ← Token.ofText? text
  if tokens.isEmpty then none else nest (← withoutRemarks tokens 0 []) [] []

mutual

def addSize (n : Nat) : Tree → Nat
  | word _ | text _ => n + 1
  | list items => addSizes (n + 1) items

def addSizes (n : Nat) : List Tree → Nat
  | [] => n
  | t :: ts => addSizes (addSize n t) ts

end

end Tree

end ComponentHost.Wasm
