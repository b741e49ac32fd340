import ComponentHost.Guest.Run

/-! Guest calls under a fuel budget and a deadline. A call that has ended when its deadline
comes has ended in time; one that still waits is dropped there. Running out of fuel is told
from other traps by the fuel the trap reports, never by its text. -/

namespace ComponentHost

abbrev Outcome := Except CallFailure (Output × FuelUse)

inductive Verdict
  | settled (outcome : Outcome)
  | panicked (text : String)

structure LimitedRun where
  elapsed : Duration
  verdict : Verdict

namespace Limits

def overtime (timeout : Duration) (gauge : Gauge) : CallFailure :=
  .overtime (min timeout.millis (2 ^ 64 - 1)) gauge.consumed

def judge (maxFuel : Nat) (gauge : Gauge) : GuestFault ⊕ Output → Outcome
  | .inr output => .ok (output, ⟨maxFuel, gauge.consumed.getD 0⟩)
  | .inl (.trap reason consumed) =>
    if maxFuel ≤ consumed then
      .error (.outOfFuel maxFuel consumed (FuelUse.percent ⟨maxFuel, consumed⟩))
    else .error (.trapped reason)
  | .inl (.setup fault) => .error (.setup fault)

def late (timeout : Duration) (gauge : Gauge) : LimitedRun :=
  ⟨timeout, .settled (.error (overtime timeout gauge))⟩

def finish (maxFuel : Nat) (timeout elapsed : Duration) (gauge : Gauge) : GuestEnd → LimitedRun
  | .never => late timeout gauge
  | .panic text => ⟨elapsed, .panicked text⟩
  | .fault f => ⟨elapsed, .settled (judge maxFuel gauge (.inl f))⟩
  | .output o => ⟨elapsed, .settled (judge maxFuel gauge (.inr o))⟩

def follow (maxFuel : Nat) (timeout : Duration) (ending : GuestEnd) :
    (elapsed : Duration) → Gauge → List GuestAct → LimitedRun
  | elapsed, gauge, [] => finish maxFuel timeout elapsed gauge ending
  | elapsed, gauge, .report fuel :: rest =>
    follow maxFuel timeout ending elapsed (gauge.record fuel) rest
  | elapsed, gauge, .wait span :: rest =>
    if timeout < elapsed + span then late timeout gauge
    else follow maxFuel timeout ending (elapsed + span) gauge rest
  | elapsed, gauge, .yield :: rest =>
    if timeout ≤ elapsed then late timeout gauge
    else follow maxFuel timeout ending elapsed gauge rest

def execute (run : GuestRun) (maxFuel : Nat) (timeout : Duration) : LimitedRun :=
  follow maxFuel timeout run.ending 0 {} run.acts

theorem follow_elapsed_le (maxFuel : Nat) (timeout : Duration) (ending : GuestEnd)
    (elapsed : Duration) (gauge : Gauge) (acts : List GuestAct) (h : elapsed ≤ timeout) :
    (follow maxFuel timeout ending elapsed gauge acts).elapsed ≤ timeout := by
  induction acts generalizing elapsed gauge with
  | nil => cases ending <;> simp [follow, finish, late, h, Duration.le_iff]
  | cons act rest ih =>
    cases act with
    | report fuel => exact ih elapsed _ h
    | wait span =>
      unfold follow
      split
      · simp [late, Duration.le_iff]
      · rename_i within
        exact ih _ gauge (by simpa [Duration.lt_iff, Duration.le_iff] using within)
    | yield =>
      unfold follow
      split
      · simp [late, Duration.le_iff]
      · exact ih elapsed gauge h

theorem execute_elapsed_le (run : GuestRun) (maxFuel : Nat) (timeout : Duration) :
    (execute run maxFuel timeout).elapsed ≤ timeout :=
  follow_elapsed_le _ _ _ _ _ _ (Nat.zero_le _)

end Limits

end ComponentHost
