import ComponentHost.Proofs.Host.Component.LoneSpawn

/-! A spawn from its order to its return, when nothing else is asked of a host at rest: in whatever
order things happen, the host is at rest again when the spawn has returned, and to wait for the
spawn is to let time pass until then. -/

namespace ComponentHost.State

open Inventory (Debut)

variable {config : HostConfig} {engine : Engine} {s t : State} {n k : Nat} {o : Order}
  {h : Inventory} {due : Duration} {acts : List Act}

theorem Steady.spawn (steady : s.Steady config engine) (o : Order) :
    (s.after (.spawn o none)).Steady config engine ∧
      ∃ k, Debut engine s.inventory o 0 k (s.after (.spawn o none)).inventory := by
  have steady' : ∀ state, State.Steady config engine { s with calls := s.calls ++ [state] } :=
    fun _ => ⟨steady.config, steady.engine, steady.started, steady.unarmed, steady.unused⟩
  have grown : ∀ state, { s with calls := s.calls ++ [state] }.inventory =
      s.inventory.extend state [] [] := fun state => by simp [inventory, Inventory.extend]
  cases taken : s.roster.contains o.id with
  | true =>
    have bad : s.inventory.verdict engine o = .error .alreadyExists := if_pos taken
    rw [spawn_of_taken steady.started taken]
    refine ⟨steady' _, 0, ?_⟩
    rw [answerNow, grown]
    exact .failed bad fun _ mem => absurd mem List.not_mem_nil
  | false =>
    rw [spawn_of_free steady.started taken]
    refine ⟨steady' _, 4, ?_⟩
    rw [enter, grown]
    exact .loading taken

section Run

variable (steady : s.Steady config engine) (room : ¬ config.Oversized) (rest : h.AtRest)
  (debut : Debut engine h o due k s.inventory)

include steady room rest debut

theorem Steady.run_of_debut (unprompted : ∀ v ∈ acts, v.Unprompted) :
    (s.run acts).Steady config engine ∧
      ∃ due k, Debut engine h o due k (s.run acts).inventory := by
  refine run_induction (P := fun t => t.Steady config engine ∧
    ∃ due k, Debut engine h o due k t.inventory) ⟨steady, due, k, debut⟩ ?_
  rintro t v mem ⟨steady, due, k, debut⟩
  cases v with
  | wait span => exact ⟨steady.wait span, due, k, debut⟩
  | move m =>
    rw [after]
    cases stepped : t.step m with
    | none => exact ⟨steady, due, k, debut⟩
    | some u =>
      obtain ⟨steady', due', k', debut', _⟩ := steady.step_of_debut room rest debut stepped
      exact ⟨steady', due', k', debut'⟩
  | _ => exact (unprompted _ mem).elim

end Run

theorem exists_returned (returned : s.hasReturned n = true) {state : CallState}
    (here : s.calls[n]? = some state) : ∃ time answer, state = .returned time answer := by
  rw [hasReturned, here] at returned
  cases state with
  | running => cases returned
  | returned time answer => exact ⟨time, answer, rfl⟩

/-- In whatever order things happen: a spawn that has returned has done what it is to do. -/
theorem Steady.spawn_closes (steady : s.Steady config engine) (room : ¬ config.Oversized)
    (rest : s.inventory.AtRest) (o : Order) (unprompted : ∀ v ∈ acts, v.Unprompted)
    (returned : ((s.after (.spawn o none)).run acts).hasReturned s.calls.length = true) :
    ((s.after (.spawn o none)).run acts).Steady config engine ∧
      s.inventory.Closes engine o ((s.after (.spawn o none)).run acts).inventory := by
  obtain ⟨begun, k, debut⟩ := steady.spawn o
  obtain ⟨steady', due, k', debut'⟩ := begun.run_of_debut room rest debut unprompted
  obtain ⟨state, here⟩ := debut'.call
  obtain ⟨time, answer, rfl⟩ := exists_returned returned here
  obtain rfl := debut'.eq_zero_of_returned here
  exact ⟨steady', debut'.closes rest⟩

section Wait

theorem awaitFor_of_returned {fuel : Nat} (returned : s.hasReturned n = true) :
    awaitFor fuel s n = s := by
  cases fuel with
  | zero => rfl
  | succ fuel => rw [awaitFor, if_pos returned]

theorem unprompted_settling {fuel : Nat} : ∀ v ∈ settling fuel s, v.Unprompted := by
  induction fuel generalizing s with
  | zero => exact fun v mem => absurd mem List.not_mem_nil
  | succ fuel ih =>
    rw [settling]
    cases s.nextMove? with
    | none => exact fun v mem => absurd mem List.not_mem_nil
    | some m =>
      intro v mem
      obtain rfl | mem := List.mem_cons.mp mem
      · trivial
      · exact ih v mem

theorem unprompted_reaching {instant : Duration} : ∀ v ∈ s.reaching instant, v.Unprompted := by
  intro v mem
  obtain rfl | mem := List.mem_cons.mp mem
  · trivial
  · exact unprompted_settling v mem

variable (steady : s.Steady config engine) (room : ¬ config.Oversized) (rest : h.AtRest)
  (debut : Debut engine h o due k s.inventory)

theorem le_work_of_debut (debut : Debut engine h o due k s.inventory) :
    s.enrolling.length + k ≤ s.work := by
  have bound : ∀ i, Debut engine h o due k i → k ≤ (i.calls.map callStateWork).sum := by
    intro i debut
    cases debut <;>
      simp [Inventory.manned, Inventory.extend, Inventory.seat, callStateWork, callWork, spawnWork]
  have calls : k ≤ (s.calls.map callStateWork).sum := bound _ debut
  rw [work]
  omega

include steady room rest debut

theorem Steady.settle_of_debut : s.settle.Steady config engine ∧ s.settle.quiet ∧
    ∃ due' k', Debut engine h o due' k' s.settle.inventory ∧ (k ≤ 3 → k' ≤ 3 ∧ due' = due) := by
  let P (l : Nat) (t : State) : Prop := t.Steady config engine ∧ ∃ due' k',
    Debut engine h o due' k' t.inventory ∧ l = t.enrolling.length + k' ∧ k' ≤ k ∧
      (k ≤ 3 → due' = due)
  have falls : ∀ l t m u, P l t → t.step m = some u → ∃ l' < l, P l' u := by
    rintro l t m u ⟨steady, due₁, k₁, debut, rfl, less, same⟩ stepped
    obtain ⟨steady', due₂, k₂, debut', less', falls, same'⟩ :=
      steady.step_of_debut room rest debut stepped
    refine ⟨_, falls, steady', due₂, k₂, debut', rfl, Nat.le_trans less' less, fun early => ?_⟩
    rw [same' (Nat.le_trans less early), same early]
  obtain ⟨l, ⟨steady', due', k', debut', _, less, same⟩, quiet⟩ := settleFor_quiet falls
    (show P _ s from ⟨steady, due, k, debut, rfl, Nat.le_refl k, fun _ => rfl⟩)
    (le_work_of_debut debut)
  exact ⟨steady', quiet, due', k', debut', fun early => ⟨Nat.le_trans less early, same early⟩⟩

omit room debut in
theorem Steady.wakes_of_starting {program : Program} {load : Nat} {b : Mailbox Mail}
    (same : s.inventory = h.manned o (h.newcomer o program load due) b) : s.wakes = [due] := by
  obtain ⟨calls, actors, _⟩ := parts_of_extend same
  rw [wakes, steady.unarmed, actors, calls, List.filterMap_append, List.filterMap_append,
    (List.filterMap_eq_nil_iff (l := h.actors)).mpr, (List.filterMap_eq_nil_iff (l := h.calls)).mpr]
  · rfl
  · intro state mem
    obtain ⟨time, answer, rfl⟩ := rest.returned state mem
    rfl
  · intro x mem
    obtain ⟨a, here⟩ := List.getElem?_of_mem mem
    cases rest.rests a x here with
    | ended gone =>
      obtain ⟨ending, phase⟩ := Actor.hasEnded_iff.mp gone
      rw [phase]
    | waiting idle => rw [idle]

theorem Steady.waits_of_quiet (quiet : s.quiet) : s.hasReturned h.calls.length = true ∨
    k = 3 ∧ s.clock < due ∧ s.wake? = some due := by
  have still : s.stepCall h.calls.length = none := quiet (.call h.calls.length)
  generalize same : s.inventory = i at debut
  cases debut with
  | failed | seated =>
    have here := (congrArg (·.calls[h.calls.length]?) same).trans List.getElem?_concat_length
    exact .inl (by rw [hasReturned, show s.calls[h.calls.length]? = _ from here])
  | loading free =>
    cases (stepCall_loading (steady.roomy room) (call_of_extend same)).symm.trans still
  | started free loaded box =>
    rw [stepCall_manned free same, startOutcome_leave (actor_of_extend same) rfl] at still
    cases still
  | starting free loaded =>
    have busy : s.stepActor h.actors.length = none := quiet (.actor h.actors.length)
    rw [stepActor_of_starting (actor_of_extend same)] at busy
    have ahead : s.clock < due := Nat.lt_of_not_le fun past => by
      simp [show due ≤ s.clock from past] at busy
    refine .inr ⟨rfl, ahead, ?_⟩
    rw [wake?, steady.wakes_of_starting rest same]
    simp [ahead, earliest]

/-- To wait for a spawn is to let things happen, and time go by, until it has returned. -/
theorem Steady.await_of_debut : ∃ acts, (∀ v ∈ acts, v.Unprompted) ∧
    s.await h.calls.length = s.run acts ∧ (s.run acts).hasReturned h.calls.length = true := by
  obtain ⟨steady₁, quiet₁, due₁, k₁, debut₁, _⟩ := steady.settle_of_debut room rest debut
  have settled : s.run (settling s.work s) = s.settle := run_settling _ _
  rw [await, awaitFor]
  by_cases returned : s.settle.hasReturned h.calls.length = true
  · rw [if_pos returned]
    exact ⟨settling s.work s, unprompted_settling, settled.symm, settled ▸ returned⟩
  obtain returned' | ⟨rfl, ahead, wakes⟩ := steady₁.waits_of_quiet room rest debut₁ quiet₁
  · exact absurd returned' returned
  -- The host sleeps until the start hook is due, and settles again.
  let u : State := { s.settle with clock := due₁ }
  have awake : u.Steady config engine :=
    ⟨steady₁.config, steady₁.engine, steady₁.started, steady₁.unarmed, steady₁.unused⟩
  obtain ⟨steady₂, quiet₂, due₂, k₂, debut₂, same⟩ :=
    awake.settle_of_debut room rest (show Debut engine h o due₁ 3 u.inventory from debut₁)
  obtain ⟨_, rfl⟩ := same (Nat.le_refl 3)
  have now : u.settle.clock = due₂ := by rw [settle, ← run_settling, clock_settling]
  have returned₂ : u.settle.hasReturned h.calls.length = true := by
    obtain returned₂ | ⟨_, ahead₂, _⟩ := steady₂.waits_of_quiet room rest debut₂ quiet₂
    · exact returned₂
    · exact absurd (now ▸ ahead₂) (Nat.lt_irrefl _)
  have reached : s.run (settling s.work s ++ s.settle.reaching due₂) = u.settle := by
    rw [run_append, settled, run_reaching (Nat.le_of_lt ahead)]
  refine ⟨settling s.work s ++ s.settle.reaching due₂, fun v mem => ?_, ?_, reached ▸ returned₂⟩
  · obtain mem | mem := List.mem_append.mp mem
    · exact unprompted_settling v mem
    · exact unprompted_reaching v mem
  · rw [if_neg returned, wakes, reached]
    exact awaitFor_of_returned returned₂

end Wait

end ComponentHost.State
