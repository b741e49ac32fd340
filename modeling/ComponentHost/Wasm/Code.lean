import ComponentHost.Wasm.Module

/-! Code as a row of marks, in which blocks are opened and closed, and how such a row nests. -/

namespace ComponentHost.Wasm

inductive Mark
  | plain (i : Instr)
  | block (type : FuncType)
  | loop (type : FuncType)
  | choice (type : FuncType)
  | otherwise
  | close

namespace Mark

/-- A block that is yet to be closed, with the code before it, the last instruction first. -/
inductive Frame
  | block (type : FuncType) (before : List Instr)
  | loop (type : FuncType) (before : List Instr)
  | choice (type : FuncType) (before : List Instr)
  | otherwise (type : FuncType) (yes before : List Instr)

def Frame.closed (inner : List Instr) : Frame → List Instr
  | block type before => .block type inner :: before
  | loop type before => .loop type inner :: before
  | choice type before => .choice type inner [] :: before
  | otherwise type yes before => .choice type yes inner :: before

def nestWithin : List Mark → (inner : List Instr) → List Frame → Option (List Instr)
  | [], inner, [] => some inner.reverse
  | [], _, _ :: _ => none
  | plain i :: rest, inner, frames => nestWithin rest (i :: inner) frames
  | block type :: rest, inner, frames => nestWithin rest [] (.block type inner :: frames)
  | loop type :: rest, inner, frames => nestWithin rest [] (.loop type inner :: frames)
  | choice type :: rest, inner, frames => nestWithin rest [] (.choice type inner :: frames)
  | otherwise :: rest, inner, .choice type before :: frames =>
    nestWithin rest [] (.otherwise type inner.reverse before :: frames)
  | otherwise :: _, _, _ => none
  | close :: rest, inner, frame :: frames => nestWithin rest (frame.closed inner.reverse) frames
  | close :: _, _, [] => none

def nest (marks : List Mark) : Option (List Instr) := nestWithin marks [] []

theorem nestWithin_plain (is : List Instr) (inner : List Instr) (frames : List Frame)
    (rest : List Mark) :
    nestWithin (is.map plain ++ rest) inner frames =
      nestWithin rest (is.reverse ++ inner) frames := by
  induction is generalizing inner with
  | nil => rfl
  | cons i is ih => simp [nestWithin, ih]

theorem nest_plain (is : List Instr) : nest (is.map plain) = some is := by
  have h := nestWithin_plain is [] [] []
  simp only [List.append_nil] at h
  simp [nest, h, nestWithin]

end Mark

end ComponentHost.Wasm
