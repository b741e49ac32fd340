import ComponentHost.Exchange.Basic
import ComponentHost.Table

/-! Alarms guard exchanges. Every alarm goes off once at its due time unless it was
cancelled before. The board shows for each exchange the alarm set last; an alarm that goes
off or is cancelled clears its exchange's place on the board, whichever alarm stands there. -/

namespace ComponentHost

structure Alarm where
  number : Nat
  id : CorrelationId
  due : Duration
deriving DecidableEq

structure Alarms where
  armed : List Alarm := []
  board : Table CorrelationId Nat := .empty
  next : Nat := 0

namespace Alarms

instance : Inhabited Alarms := ⟨{}⟩

/-- Sets an alarm for a moment that its caller has reckoned from the clock. Idealised: the span
counts from the registration, and the first poll of the timer's task is no move of its own; the two
would differ only if the clock moved while that task could run. -/
def arm (a : Alarms) (id : CorrelationId) (due : Duration) : Alarm × Alarms :=
  let alarm : Alarm := ⟨a.next, id, due⟩
  (alarm, { armed := a.armed ++ [alarm], board := a.board.insert id a.next, next := a.next + 1 })

def retire (a : Alarms) (alarm : Alarm) : Alarms :=
  { a with
    armed := a.armed.filter (·.number ≠ alarm.number)
    board := a.board.erase alarm.id }

def count (a : Alarms) : Nat := a.board.size

def find? (a : Alarms) (number : Nat) : Option Alarm := a.armed.find? (·.number = number)

@[simp] theorem arm_fst (a : Alarms) (id : CorrelationId) (due : Duration) :
    (a.arm id due).1 = ⟨a.next, id, due⟩ := rfl

@[simp] theorem armed_arm (a : Alarms) (id : CorrelationId) (due : Duration) :
    (a.arm id due).2.armed = a.armed ++ [⟨a.next, id, due⟩] := rfl

@[simp] theorem next_arm (a : Alarms) (id : CorrelationId) (due : Duration) :
    (a.arm id due).2.next = a.next + 1 := rfl

@[simp] theorem board_arm (a : Alarms) (id : CorrelationId) (due : Duration) :
    (a.arm id due).2.board = a.board.insert id a.next := rfl

theorem mem_armed_retire {a : Alarms} {alarm other : Alarm} :
    other ∈ (a.retire alarm).armed ↔ other ∈ a.armed ∧ other.number ≠ alarm.number := by
  simp [retire]

@[simp] theorem next_retire (a : Alarms) (alarm : Alarm) : (a.retire alarm).next = a.next := rfl

@[simp] theorem board_retire (a : Alarms) (alarm : Alarm) :
    (a.retire alarm).board = a.board.erase alarm.id := rfl

end Alarms

end ComponentHost
