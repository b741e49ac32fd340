import Mathlib
import ComponentHost.Limits

/-! Which calls are done by their deadline, and what the host answers in each case. The acts of a
call lie on a line of time that knows no deadline; a deadline cuts that line in two, and whatever
was reported on this side of the cut is known when it comes. -/

namespace ComponentHost

namespace GuestAct

def span : GuestAct → Duration
  | .wait span => span
  | .report _ | .yield => 0

def fuel? : GuestAct → Option Nat
  | .report fuel => some fuel
  | .wait _ | .yield => none

end GuestAct

def spent (acts : List GuestAct) : Duration := ⟨(acts.map fun a => a.span.nanos).sum⟩

def reported (acts : List GuestAct) : Option Nat := (acts.filterMap GuestAct.fuel?).getLast?

/-- The acts are all done by the deadline. Who hands back control when the deadline has come does
not get it back, so that is too late. -/
structure Timely (timeout : Duration) (acts : List GuestAct) : Prop where
  spent_le : spent acts ≤ timeout
  yields : ∀ before later, acts = before ++ .yield :: later → spent before < timeout

structure GuestRun.InTime (run : GuestRun) (timeout : Duration) : Prop where
  ends : run.ending ≠ .never
  acts : Timely timeout run.acts

theorem GuestRun.inTime_iff {run : GuestRun} {timeout : Duration} :
    run.InTime timeout ↔ run.ending ≠ .never ∧ Timely timeout run.acts :=
  ⟨fun inTime => ⟨inTime.ends, inTime.acts⟩, fun ⟨ends, acts⟩ => ⟨ends, acts⟩⟩

section Line

variable {timeout : Duration} {acts done left : List GuestAct} {a : GuestAct}

theorem spent_append (done left : List GuestAct) :
    spent (done ++ left) = spent done + spent left := by
  simp [spent, Duration.ext_iff]

theorem spent_concat (done : List GuestAct) (a : GuestAct) :
    spent (done ++ [a]) = spent done + a.span := by
  simp [spent, Duration.ext_iff]

theorem reported_concat (done : List GuestAct) (a : GuestAct) :
    reported (done ++ [a]) = a.fuel?.or (reported done) := by
  cases a <;> simp [reported, GuestAct.fuel?]

theorem Timely.nil (timeout : Duration) : Timely timeout [] := by
  refine ⟨Nat.zero_le _, fun before later split => ?_⟩
  simp at split

theorem Timely.of_append (timely : Timely timeout (done ++ left)) : Timely timeout done := by
  refine ⟨?_, fun before later split => ?_⟩
  · have total := timely.spent_le
    rw [spent_append, Duration.le_iff, Duration.nanos_add] at total
    exact Nat.le_of_add_right_le total
  · exact timely.yields before (later ++ left) (by simp [split])

/-- One act more is in time if it ends by the deadline, and before it if it hands back control. -/
theorem timely_concat : Timely timeout (done ++ [a]) ↔
    Timely timeout done ∧ spent done + a.span ≤ timeout ∧ (a = .yield → spent done < timeout) := by
  constructor
  · intro timely
    exact ⟨timely.of_append, spent_concat done a ▸ timely.spent_le, fun yields =>
      timely.yields done [] (by rw [yields])⟩
  · rintro ⟨timely, within, yields⟩
    refine ⟨spent_concat done a ▸ within, fun before later split => ?_⟩
    obtain rfl | ⟨later, last, rfl⟩ := later.eq_nil_or_concat
    · obtain ⟨rfl, same⟩ := List.append_inj' split rfl
      exact yields (List.cons.inj same).1
    · rw [List.concat_eq_append, ← List.cons_append, ← List.append_assoc] at split
      exact timely.yields before later (List.append_inj' split rfl).1

theorem timely_iff_of_unyielding (unyielding : .yield ∉ acts) :
    Timely timeout acts ↔ spent acts ≤ timeout :=
  ⟨Timely.spent_le, fun within => ⟨within, fun before _ split =>
    absurd (split ▸ List.mem_append_right before List.mem_cons_self) unyielding⟩⟩

theorem spent_eq_zero_iff : spent acts = 0 ↔ ∀ a ∈ acts, a.span = 0 := by
  simp [spent, Duration.ext_iff, List.sum_eq_zero_iff_forall_eq_nat]

theorem timely_zero_iff : Timely 0 acts ↔ ∀ a ∈ acts, a ≠ .yield ∧ a.span = 0 := by
  constructor
  · intro timely a mem
    refine ⟨?_, spent_eq_zero_iff.mp ?_ a mem⟩
    · rintro rfl
      obtain ⟨before, later, split⟩ := List.append_of_mem mem
      exact Nat.not_lt_zero _ (timely.yields before later split)
    · exact Duration.ext_iff.mpr (Nat.le_zero.mp timely.spent_le)
  · intro still
    have unyielding : .yield ∉ acts := fun mem => (still _ mem).1 rfl
    rw [timely_iff_of_unyielding unyielding, spent_eq_zero_iff.mpr fun a mem => (still a mem).2]
    exact Nat.le_refl 0

end Line

/-- What the host answers to a call that was over in time, by how it ended and by what had been
reported. Of a trap only the consumption decides whether fuel ran out. -/
inductive Answers (maxFuel : Nat) (reported : Option Nat) : GuestEnd → Verdict → Prop
  | output (o : Output) :
    Answers maxFuel reported (.output o) (.settled (.ok (o, ⟨maxFuel, reported.getD 0⟩)))
  | outOfFuel (reason : String) {consumed : Nat} (exhausted : maxFuel ≤ consumed) :
    Answers maxFuel reported (.fault (.trap reason consumed))
      (.settled (.error
        (.outOfFuel maxFuel consumed (FuelUse.percent ⟨maxFuel, consumed⟩))))
  | trapped (reason : String) {consumed : Nat} (spared : consumed < maxFuel) :
    Answers maxFuel reported (.fault (.trap reason consumed)) (.settled (.error (.trapped reason)))
  | setup (fault : EngineFault) :
    Answers maxFuel reported (.fault (.setup fault)) (.settled (.error (.setup fault)))
  | panic (text : String) : Answers maxFuel reported (.panic text) (.panicked text)

structure CutAt (timeout : Duration) (acts done left : List GuestAct) : Prop where
  split : acts = done ++ left
  timely : Timely timeout done
  late : ∀ a rest, left = a :: rest → ¬ Timely timeout (done ++ [a])

namespace Limits

variable {maxFuel : Nat} {timeout : Duration} {ending : GuestEnd}
  {done left : List GuestAct} {a : GuestAct}

theorem answers_judge (maxFuel : Nat) (timeout elapsed : Duration) (gauge : Gauge)
    (ended : ending ≠ .never) :
    ∃ verdict, finish maxFuel timeout elapsed gauge ending = ⟨elapsed, verdict⟩ ∧
      Answers maxFuel gauge.consumed ending verdict := by
  cases ending with
  | never => exact absurd rfl ended
  | panic text => exact ⟨_, rfl, .panic text⟩
  | output o => exact ⟨_, rfl, .output o⟩
  | fault f =>
    cases f with
    | setup fault => exact ⟨_, rfl, .setup fault⟩
    | trap reason consumed =>
      refine ⟨_, rfl, ?_⟩
      rw [judge]
      split
      next exhausted => exact .outOfFuel reason exhausted
      next spared => exact .trapped reason (Nat.lt_of_not_le spared)

theorem follow_timely (timely : Timely timeout (done ++ [a])) :
    follow maxFuel timeout ending (spent done) ⟨reported done⟩ (a :: left) =
      follow maxFuel timeout ending (spent (done ++ [a])) ⟨reported (done ++ [a])⟩ left := by
  obtain ⟨-, within, yields⟩ := timely_concat.mp timely
  rw [spent_concat, reported_concat]
  cases a with
  | report fuel => rfl
  | wait span => exact if_neg (Nat.not_lt.mpr within)
  | yield => exact if_neg (Nat.not_le.mpr (yields rfl))

theorem follow_late (timely : Timely timeout done) (late : ¬ Timely timeout (done ++ [a])) :
    follow maxFuel timeout ending (spent done) ⟨reported done⟩ (a :: left) =
      Limits.late timeout ⟨reported done⟩ := by
  cases a with
  | report fuel => exact (late (timely_concat.mpr ⟨timely, timely.spent_le, nofun⟩)).elim
  | wait span =>
    refine if_pos (Nat.lt_of_not_le fun within => late ?_)
    exact timely_concat.mpr ⟨timely, within, nofun⟩
  | yield =>
    refine if_pos (Nat.le_of_not_lt fun early => late ?_)
    exact timely_concat.mpr ⟨timely, timely.spent_le, fun _ => early⟩

theorem follow_cut (maxFuel : Nat) (ending : GuestEnd) (left : List GuestAct)
    (timely : Timely timeout done) :
    Timely timeout (done ++ left) ∧
        follow maxFuel timeout ending (spent done) ⟨reported done⟩ left =
          finish maxFuel timeout (spent (done ++ left)) ⟨reported (done ++ left)⟩ ending ∨
      ∃ more a rest, left = more ++ a :: rest ∧ Timely timeout (done ++ more) ∧
        ¬ Timely timeout (done ++ more ++ [a]) ∧
        follow maxFuel timeout ending (spent done) ⟨reported done⟩ left =
          late timeout ⟨reported (done ++ more)⟩ := by
  -- What was done grows by each act that is in time; the first that is not is the cut.
  induction left generalizing done with
  | nil =>
    rw [List.append_nil]
    exact .inl ⟨timely, rfl⟩
  | cons a left ih =>
    by_cases next : Timely timeout (done ++ [a])
    · rw [follow_timely next]
      obtain ⟨all, followed⟩ | ⟨more, b, rest, rfl, upTo, cut, followed⟩ := ih next
      · rw [List.append_assoc] at all followed
        exact .inl ⟨all, followed⟩
      · rw [← List.append_cons] at upTo cut followed
        exact .inr ⟨a :: more, b, rest, rfl, upTo, cut, followed⟩
    · refine .inr ⟨[], a, left, rfl, ?_, ?_, ?_⟩
      · rwa [List.append_nil]
      · rwa [List.append_nil]
      · rw [List.append_nil, follow_late timely next]

theorem execute_cases (run : GuestRun) (maxFuel : Nat) (timeout : Duration) :
    (run.InTime timeout ∧ ∃ verdict,
        execute run maxFuel timeout = ⟨spent run.acts, verdict⟩ ∧
        Answers maxFuel (reported run.acts) run.ending verdict) ∨
      ¬ run.InTime timeout ∧ ∃ done left, CutAt timeout run.acts done left ∧
        execute run maxFuel timeout = late timeout ⟨reported done⟩ := by
  have cut := follow_cut maxFuel run.ending run.acts (Timely.nil timeout)
  simp only [List.nil_append] at cut
  obtain ⟨all, followed⟩ | ⟨done, a, rest, split, upTo, tooLate, followed⟩ := cut
  · by_cases ends : run.ending = .never
    · refine .inr ⟨fun inTime => inTime.ends ends, run.acts, [], ⟨by simp, all, nofun⟩, ?_⟩
      rw [ends] at followed
      rw [execute, ends]
      exact followed
    · obtain ⟨verdict, finished, answers⟩ := answers_judge maxFuel timeout (spent run.acts)
        ⟨reported run.acts⟩ ends
      exact .inl ⟨⟨ends, all⟩, verdict, followed.trans finished, answers⟩
  · refine .inr ⟨fun inTime => tooLate ?_, done, a :: rest, ⟨split, upTo, ?_⟩, followed⟩
    · have all := inTime.acts
      rw [split, List.append_cons] at all
      exact all.of_append
    · rintro b tail ⟨⟩
      exact tooLate

/-- A call that is over by its deadline is answered when it is over, by how it ended; any other is
answered at the deadline, with what it had reported by then. A call that never hands back control
is over by its deadline if it ends and takes no longer than that, and by a deadline that has come
at the start if it ends without waiting. -/
theorem execute_answers (run : GuestRun) (maxFuel : Nat) (timeout : Duration) :
    ((run.InTime timeout ∧ ∃ verdict,
        execute run maxFuel timeout = ⟨spent run.acts, verdict⟩ ∧
        Answers maxFuel (reported run.acts) run.ending verdict) ∨
      ¬ run.InTime timeout ∧ ∃ done left, CutAt timeout run.acts done left ∧
        execute run maxFuel timeout =
          ⟨timeout, .settled (.error
            (.overtime (min timeout.millis (2 ^ 64 - 1)) (reported done)))⟩) ∧
    (.yield ∉ run.acts →
      (run.InTime timeout ↔ run.ending ≠ .never ∧ spent run.acts ≤ timeout)) ∧
    (run.InTime 0 ↔ run.ending ≠ .never ∧ ∀ a ∈ run.acts, a ≠ .yield ∧ a.span = 0) := by
  refine ⟨execute_cases run maxFuel timeout, fun unyielding => ?_, ?_⟩
  · rw [GuestRun.inTime_iff, timely_iff_of_unyielding unyielding]
  · rw [GuestRun.inTime_iff, timely_zero_iff]

end Limits

end ComponentHost
