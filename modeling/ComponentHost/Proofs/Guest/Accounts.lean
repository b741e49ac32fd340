import ComponentHost.Proofs.Guest.Deadline
import ComponentHost.Wasm.Engine

/-! The fuel accounts of metered guests. Whatever the machine says is left, the consumption that is
reported stays within the budget, a trap carries what was reported, and what the host makes of a
call agrees with both: nothing is lost between what was consumed and what remains, and fuel ran out
only where all of it was consumed. -/

namespace ComponentHost

def GuestEnd.Played : GuestEnd → Prop
  | .output _ | .fault (.trap ..) => True
  | .never | .panic _ | .fault (.setup _) => False

namespace MeteredRun

variable {r : MeteredRun} {maxFuel left : Nat} {timeout : Duration} {reason : String}

theorem reported_run (r : MeteredRun) (maxFuel : Nat) :
    reported (r.run maxFuel).acts =
      r.attempt.left?.map fun left => (FuelUse.ofReading maxFuel left).consumed := by
  have yields : (List.replicate r.yields GuestAct.yield).filterMap GuestAct.fuel? = [] := by
    simp [List.filterMap_eq_nil_iff, GuestAct.fuel?]
  rw [reported, run, List.filterMap_append, yields, reports]
  cases r.attempt.left? <;> rfl

theorem reported_of_played (played : (r.run maxFuel).ending.Played) :
    ∃ consumed ≤ maxFuel, reported (r.run maxFuel).acts = some consumed ∧
      ∀ reason c, (r.run maxFuel).ending = .fault (.trap reason c) → c = consumed := by
  have within := FuelUse.consumed_ofReading_le maxFuel
  rw [reported_run]
  obtain ⟨yields, attempt⟩ := r
  cases attempt with
  | unready | unlinked | noExport | abandoned => exact played.elim
  | startTrapped reason left | trapped reason left =>
    refine ⟨_, within left, rfl, ?_⟩
    rintro _ _ ⟨⟩
    rfl
  | returned results left =>
    cases results with
    | ok output => exact ⟨_, within left, rfl, nofun⟩
    | error fault => exact played.elim

def Stopped (r : MeteredRun) (reason : String) (left : Nat) : Prop :=
  r.attempt = .startTrapped reason left ∨ r.attempt = .trapped reason left

theorem Stopped.ending (stopped : r.Stopped reason left) (maxFuel : Nat) :
    (r.run maxFuel).ending =
      .fault (.trap reason (FuelUse.ofReading maxFuel left).consumed) := by
  obtain started | called := stopped
  · rw [run, started]
    rfl
  · rw [run, called]
    rfl

theorem exhausted_ofReading :
    maxFuel ≤ (FuelUse.ofReading maxFuel left).consumed ↔ left = 0 ∨ maxFuel = 0 := by
  change maxFuel ≤ maxFuel - left ↔ _
  omega

theorem consumed_of_exhausted (exhausted : maxFuel ≤ (FuelUse.ofReading maxFuel left).consumed) :
    (FuelUse.ofReading maxFuel left).consumed = maxFuel :=
  Nat.le_antisymm (FuelUse.consumed_ofReading_le maxFuel left) exhausted

/-- What the host makes of a run agrees with what was reported in it. -/
structure Balances (r : MeteredRun) (maxFuel : Nat) (timeout : Duration) : Prop where
  read : (r.run maxFuel).ending.Played →
    ∃ consumed ≤ maxFuel, reported (r.run maxFuel).acts = some consumed ∧
      ∀ reason c, (r.run maxFuel).ending = .fault (.trap reason c) → c = consumed
  output : ∀ o use, (Limits.execute (r.run maxFuel) maxFuel timeout).verdict =
      .settled (.ok (o, use)) →
    reported (r.run maxFuel).acts = some use.consumed ∧ use.maxFuel = maxFuel ∧
      use.consumed ≤ maxFuel ∧ use.remaining + use.consumed = maxFuel
  outOfFuel : ∀ m c percent, (Limits.execute (r.run maxFuel) maxFuel timeout).verdict =
      .settled (.error (.outOfFuel m c percent)) →
    reported (r.run maxFuel).acts = some maxFuel ∧ m = maxFuel ∧ c = maxFuel
  trapped : ∀ reason, (Limits.execute (r.run maxFuel) maxFuel timeout).verdict =
      .settled (.error (.trapped reason)) →
    ∃ consumed < maxFuel, reported (r.run maxFuel).acts = some consumed
  stopped : ∀ reason left, r.Stopped reason left → (r.run maxFuel).InTime timeout →
    (Limits.execute (r.run maxFuel) maxFuel timeout).verdict =
      .settled (.error
        (if left = 0 ∨ maxFuel = 0 then
          .outOfFuel maxFuel maxFuel (FuelUse.percent ⟨maxFuel, maxFuel⟩)
        else .trapped reason))

theorem answers_of_stopped {gauge : Option Nat} {verdict : Verdict}
    (stopped : r.Stopped reason left)
    (answers : Answers maxFuel gauge (r.run maxFuel).ending verdict) :
    verdict = .settled (.error
      (if left = 0 ∨ maxFuel = 0 then
        .outOfFuel maxFuel maxFuel (FuelUse.percent ⟨maxFuel, maxFuel⟩)
      else .trapped reason)) := by
  rw [stopped.ending] at answers
  cases answers with
  | outOfFuel _ exhausted =>
    rw [if_pos (exhausted_ofReading.mp exhausted), consumed_of_exhausted exhausted]
  | trapped _ spared => rw [if_neg fun all => Nat.not_le.mpr spared (exhausted_ofReading.mpr all)]

theorem answers_of_verdict {verdict : Verdict}
    (given : (Limits.execute (r.run maxFuel) maxFuel timeout).verdict = verdict)
    (inTime : ∀ ms consumed, verdict ≠ .settled (.error (.overtime ms consumed))) :
    Answers maxFuel (reported (r.run maxFuel).acts) (r.run maxFuel).ending verdict := by
  obtain ⟨-, _, executed, answers⟩ | ⟨-, _, _, -, executed⟩ :=
    Limits.execute_cases (r.run maxFuel) maxFuel timeout
  · rw [executed] at given
    exact given ▸ answers
  · rw [executed] at given
    exact absurd given.symm (inTime _ _)

theorem balances (r : MeteredRun) (maxFuel : Nat) (timeout : Duration) :
    r.Balances maxFuel timeout where
  read := reported_of_played
  output o use given := by
    have answers := answers_of_verdict given nofun
    generalize ended : (r.run maxFuel).ending = ending at answers
    cases answers with
    | output =>
      obtain ⟨consumed, within, read, -⟩ := reported_of_played (by rw [ended]; trivial)
      rw [read]
      exact ⟨rfl, rfl, within, FuelUse.remaining_add_consumed within⟩
  outOfFuel m c percent given := by
    have answers := answers_of_verdict given nofun
    generalize ended : (r.run maxFuel).ending = ending at answers
    cases answers with
    | outOfFuel reason exhausted =>
      obtain ⟨consumed, within, read, carried⟩ := reported_of_played (by rw [ended]; trivial)
      have all : c = maxFuel := Nat.le_antisymm (carried reason c ended ▸ within) exhausted
      exact ⟨read.trans (congrArg some ((carried reason c ended).symm.trans all)), rfl, all⟩
  trapped reason given := by
    have answers := answers_of_verdict given nofun
    generalize ended : (r.run maxFuel).ending = ending at answers
    cases answers with
    | @trapped _ c spared =>
      obtain ⟨consumed, -, read, carried⟩ := reported_of_played (by rw [ended]; trivial)
      exact ⟨consumed, carried reason c ended ▸ spared, read⟩
  stopped reason left stopped inTime := by
    obtain ⟨-, _, executed, answers⟩ | ⟨late, -⟩ :=
      Limits.execute_cases (r.run maxFuel) maxFuel timeout
    · rw [executed]
      exact answers_of_stopped stopped answers
    · exact absurd inTime late

/-- The accounts of every metered run balance, whatever was read, and every call of a program that
the WebAssembly engine loads is the metered run of an attempt at it. -/
theorem accounts_balance :
    (∀ (r : MeteredRun) (maxFuel : Nat) (timeout : Duration), r.Balances maxFuel timeout) ∧
    ∀ (setup : Wasm.EngineSetup) (component : ComponentId) (bytes : Bytes) (program : Program),
      setup.engine.load component bytes = .ok program →
        ∃ compiled, Wasm.Compiled.ofSource setup.config bytes = .ok compiled ∧
          ∀ (earlier : Nat) (i : Invocation),
            program.run earlier i =
              (Wasm.attempt setup.config compiled.module i).run i.maxFuel := by
  refine ⟨balances, fun setup component bytes program loaded => ?_⟩
  change (Wasm.Compiled.ofSource setup.config bytes).map setup.program = .ok program at loaded
  cases compiles : Wasm.Compiled.ofSource setup.config bytes with
  | error fault =>
    rw [compiles] at loaded
    cases loaded
  | ok compiled =>
    rw [compiles] at loaded
    cases loaded
    exact ⟨compiled, rfl, fun _ _ => rfl⟩

end MeteredRun

end ComponentHost
