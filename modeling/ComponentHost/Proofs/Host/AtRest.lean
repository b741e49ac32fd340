import ComponentHost.Proofs.Host.Component.MailboxCapacity
import ComponentHost.Proofs.Host.Schedule

/-! Hosts at rest. All calls have returned, no alarm is set, and every actor has ended or waits for
mail: then nothing happens by itself but that started components are made members of the ledger. -/

namespace ComponentHost

/-- What there is of a host: its calls, its actors and their mailboxes, and who is on the roster and
reached where. -/
@[ext]
structure Inventory where
  calls : List CallState
  actors : List Actor
  boxes : List (Mailbox Mail)
  roster : Roster Nat
  routes : Table ComponentId Nat

namespace Inventory

/-- An actor has ended, or stands on the roster and has nothing to do. -/
inductive Rests (h : Inventory) (a : Nat) (x : Actor) : Prop
  | ended (gone : x.hasEnded = true)
  | waiting {capacity : Nat} {id : ComponentId} (idle : x.phase = .idle) (untold : x.told = false)
    (box : h.boxes[x.box]? = some { capacity }) (on : h.roster.get? id = some a)

structure AtRest (h : Inventory) : Prop where
  returned : ∀ state ∈ h.calls, ∃ time answer, state = .returned time answer
  rests : ∀ a x, h.actors[a]? = some x → h.Rests a x
  routed : ∀ id, h.routes.contains id = h.roster.contains id

structure Keeps (h h' : Inventory) : Prop where
  actors : ∀ (a : Nat) x, h.actors[a]? = some x → h'.actors[a]? = some x
  boxes : ∀ (i : Nat) b, h.boxes[i]? = some b → h'.boxes[i]? = some b
  roster : ∀ id a, h.roster.get? id = some a → h'.roster.get? id = some a
  routes : ∀ id i, h.routes.get? id = some i → h'.routes.get? id = some i

variable {h h' h'' : Inventory} {a : Nat} {x : Actor}

theorem Keeps.refl (h : Inventory) : h.Keeps h :=
  ⟨fun _ _ => id, fun _ _ => id, fun _ _ => id, fun _ _ => id⟩

theorem Keeps.trans (first : h.Keeps h') (next : h'.Keeps h'') : h.Keeps h'' where
  actors a x here := next.actors a x (first.actors a x here)
  boxes i b here := next.boxes i b (first.boxes i b here)
  roster id a on := next.roster id a (first.roster id a on)
  routes id i there := next.routes id i (first.routes id i there)

theorem Rests.mono (rests : h.Rests a x) (keeps : h.Keeps h') : h'.Rests a x := by
  cases rests with
  | ended gone => exact .ended gone
  | waiting idle untold box on =>
    exact .waiting idle untold (keeps.boxes _ _ box) (keeps.roster _ _ on)

end Inventory

namespace State

variable {config : HostConfig} {engine : Engine} {s t : State} {v : Act} {m : Move} {a n : Nat}
  {x : Actor}

def inventory (s : State) : Inventory :=
  ⟨s.calls, s.actors, s.post.boxes, s.roster, s.post.routes⟩

/-- The host is up and has no alarms; the next number of a load is a new one. -/
structure Steady (config : HostConfig) (engine : Engine) (s : State) : Prop where
  config : s.config = config
  engine : s.engine = engine
  started : s.started = true
  unarmed : s.ledger.alarms.armed = []
  unused : ∀ r ∈ s.history, r.load < s.loads

def Act.Unprompted : Act → Prop
  | .move _ | .wait _ => True
  | _ => False

theorem isHeld_of_roster {id : ComponentId} (on : s.roster.get? id = some a) :
    s.isHeld a = true := by
  have mem := Table.get?_eq_some_iff.mp on
  have listed : s.roster.entries.any (·.2 = a) = true :=
    List.any_eq_true.mpr ⟨_, mem, decide_eq_true rfl⟩
  rw [isHeld, listed, Bool.true_or, Bool.true_or]

theorem stepActor_of_idle (here : s.actors[a]? = some x) (idle : x.phase = .idle)
    (untold : x.told = false) (held : s.isHeld a = true) {capacity : Nat}
    (box : s.post.boxes[x.box]? = some { capacity }) : s.stepActor a = none := by
  have empty : s.post.take? x.box = none := by
    rw [PostOffice.take?, box]
    rfl
  simp [stepActor, here, idle, untold, held, empty]

theorem stepActor_of_rests (here : s.actors[a]? = some x) (rests : s.inventory.Rests a x) :
    s.stepActor a = none := by
  cases rests with
  | ended gone =>
    obtain ⟨ending, phase⟩ := Actor.hasEnded_iff.mp gone
    rw [stepActor, here]
    simp only [phase]
  | waiting idle untold box on =>
    exact stepActor_of_idle here idle untold (isHeld_of_roster on) box

theorem stepCall_of_returned {time : Duration} {answer : Answer}
    (here : s.calls[n]? = some (.returned time answer)) : s.stepCall n = none := by
  rw [stepCall, here]

namespace Steady

variable (steady : s.Steady config engine)

include steady

theorem stepAlarm (number : Nat) : s.stepAlarm number = none := by
  cases stepped : s.stepAlarm number with
  | none => rfl
  | some t =>
    obtain ⟨alarm, armed, _⟩ := stepAlarm_eq stepped
    rw [steady.unarmed] at armed
    cases armed

theorem enroll {i : Nat} (stepped : s.enroll i = some t) : t.Steady config engine ∧
    t.inventory = s.inventory ∧ t.enrolling.length + 1 = s.enrolling.length := by
  obtain ⟨id, here, rfl⟩ := enroll_eq stepped
  have known := (List.getElem?_eq_some_iff.mp here).1
  refine ⟨⟨steady.config, steady.engine, steady.started, ?_, steady.unused⟩, rfl, ?_⟩
  · dsimp only
    split <;> exact steady.unarmed
  · simp only [List.length_eraseIdx_of_lt known]
    omega

theorem wait (span : Duration) : (s.after (.wait span)).Steady config engine :=
  ⟨steady.config, steady.engine, steady.started, steady.unarmed, steady.unused⟩

theorem step_of_atRest (rest : s.inventory.AtRest) (stepped : s.step m = some t) :
    ∃ i, m = .enroll i ∧ s.enroll i = some t := by
  cases m with
  | alarm number => cases (steady.stepAlarm number).symm.trans stepped
  | actor a =>
    cases here : s.actors[a]? with
    | none => simp [step, stepActor, here] at stepped
    | some x => cases (stepActor_of_rests here (rest.rests a x here)).symm.trans stepped
  | enroll i => exact ⟨i, rfl, stepped⟩
  | call n =>
    cases here : s.calls[n]? with
    | none => simp [step, stepCall, here] at stepped
    | some state =>
      obtain ⟨time, answer, rfl⟩ := rest.returned state (List.mem_of_getElem? here)
      cases (stepCall_of_returned here).symm.trans stepped

end Steady

theorem Steady.run_of_atRest (steady : s.Steady config engine) (rest : s.inventory.AtRest)
    {acts : List Act} (unprompted : ∀ v ∈ acts, v.Unprompted) :
    (s.run acts).Steady config engine ∧ (s.run acts).inventory = s.inventory := by
  refine run_induction (P := fun t => t.Steady config engine ∧ t.inventory = s.inventory)
    ⟨steady, rfl⟩ ?_
  rintro t v mem ⟨steady, same⟩
  cases v with
  | wait span => exact ⟨steady.wait span, same⟩
  | move m =>
    rw [after]
    cases stepped : t.step m with
    | none => exact ⟨steady, same⟩
    | some u =>
      obtain ⟨i, _, enrolled⟩ := steady.step_of_atRest (same ▸ rest) stepped
      obtain ⟨steady', same', _⟩ := steady.enroll enrolled
      exact ⟨steady', same'.trans same⟩
  | _ => exact (unprompted _ mem).elim

/-- A measure that falls with every move lets the schedule come to an end. -/
theorem settleFor_quiet {P : Nat → State → Prop} {k fuel : Nat}
    (falls : ∀ k t m u, P k t → t.step m = some u → ∃ k' < k, P k' u) (start : P k s)
    (enough : k ≤ fuel) : ∃ k', P k' (settleFor fuel s) ∧ (settleFor fuel s).quiet := by
  induction fuel generalizing s k with
  | zero =>
    refine ⟨k, start, fun m => ?_⟩
    cases stepped : s.step m with
    | none => exact stepped
    | some u =>
      obtain ⟨k', less, _⟩ := falls k s m u start stepped
      omega
  | succ fuel ih =>
    rw [settleFor, next?_eq]
    cases next : s.nextMove? with
    | none => exact ⟨k, start, quiet_of_still next⟩
    | some m =>
      have enabled : (s.step m).isSome := List.find?_some (p := fun m => (s.step m).isSome) next
      obtain ⟨t, stepped⟩ := Option.isSome_iff_exists.mp enabled
      obtain ⟨k', less, start'⟩ := falls k s m t start stepped
      have there : s.after (.move m) = t := by rw [after, stepped, Option.getD_some]
      dsimp only [Option.map_some]
      rw [there]
      exact ih start' (by omega)

end State

end ComponentHost
