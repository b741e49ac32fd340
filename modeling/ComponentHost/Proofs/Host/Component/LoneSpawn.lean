import ComponentHost.Proofs.Host.Component.OrderStart
import ComponentHost.Proofs.Host.AtRest

/-! The one spawn of a host that is otherwise at rest. It goes from stage to stage, whichever moves
the host makes, and when it has returned the host is at rest again: with one more component at work,
or with nothing new that is not over. -/

namespace ComponentHost

namespace Table

variable {κ ν : Type} [DecidableEq κ] {t : Table κ ν} {k j : κ} {v w : ν}

theorem contains_insert (t : Table κ ν) (k : κ) (v : ν) (j : κ) :
    (t.insert k v).contains j = (decide (j = k) || t.contains j) := by
  rw [contains, get?_insert]
  split
  case isTrue same => rw [decide_eq_true same, Bool.true_or, Option.isSome_some]
  case isFalse other => rw [decide_eq_false other, Bool.false_or, contains]

theorem get?_insert_of_free (free : t.contains k = false) (here : t.get? j = some v) :
    (t.insert k w).get? j = some v := by
  rw [get?_insert_of_ne, here]
  rintro rfl
  rw [contains, here] at free
  cases free

end Table

namespace Inventory

variable {engine : Engine} {h i : Inventory} {o : Order} {program : Program} {c : CallState}
  {xs : List Actor} {bs : List (Mailbox Mail)} {a k : Nat} {x : Actor} {due : Duration}

def extend (h : Inventory) (c : CallState) (xs : List Actor) (bs : List (Mailbox Mail)) :
    Inventory :=
  { h with calls := h.calls ++ [c], actors := h.actors ++ xs, boxes := h.boxes ++ bs }

def seat (h : Inventory) (id : ComponentId) (a box : Nat) : Inventory :=
  { h with roster := h.roster.insert id a, routes := h.routes.insert id box }

def manned (h : Inventory) (o : Order) (x : Actor) (b : Mailbox Mail) : Inventory :=
  h.extend (.running (.spawn { order := o, stage := .starting h.actors.length })) [x] [b]

def newcomer (h : Inventory) (o : Order) (program : Program) (load : Nat) (due : Duration) :
    Actor where
  name := o.id.name
  box := h.boxes.length
  role := .component (o.component program load)
  phase := .busy .preStart (o.component program load).debut (some due)

def verdict (h : Inventory) (engine : Engine) (o : Order) : Except SpawnCause Program :=
  if h.roster.contains o.id then .error .alreadyExists else o.trial engine

theorem verdict_of_free (free : h.roster.contains o.id = false) :
    h.verdict engine o = o.trial engine := by
  rw [verdict, free]
  rfl

theorem free_of_verdict (good : h.verdict engine o = .ok program) :
    h.roster.contains o.id = false := by
  rw [verdict] at good
  split at good
  · cases good
  · case _ free => exact Bool.eq_false_iff.mpr free

/-- How far the one spawn of a host has come since inventory `h`, and how many steps it is at most
from its end. Its start hook is through at a given instant. -/
inductive Debut (engine : Engine) (h : Inventory) (o : Order) (due : Duration) :
    Nat → Inventory → Prop
  | loading (free : h.roster.contains o.id = false) :
    Debut engine h o due 4 (h.extend (.running (.spawn { order := o })) [] [])
  | starting {program : Program} {load capacity : Nat} (free : h.roster.contains o.id = false)
    (loaded : o.load engine = .ok program) :
    Debut engine h o due 3 (h.manned o (h.newcomer o program load due) { capacity })
  | started {program : Program} {load capacity : Nat} {b : Mailbox Mail}
    (free : h.roster.contains o.id = false) (loaded : o.load engine = .ok program)
    (box : o.opening program = .finished → b = { capacity }) : Debut engine h o due 2
      (h.manned o ((h.newcomer o program load due).leave .preStart (o.opening program)) b)
  | failed {time : Duration} {cause : SpawnCause} {xs : List Actor} {bs : List (Mailbox Mail)}
    (bad : h.verdict engine o = .error cause) (ended : ∀ x ∈ xs, x.hasEnded = true) :
    Debut engine h o due 0
      (h.extend (.returned time (.spawned (.error (State.spawnError o cause)))) xs bs)
  | seated {time : Duration} {program : Program} {load capacity : Nat}
    (good : h.verdict engine o = .ok program) : Debut engine h o due 0
      ((h.extend (.returned time (.spawned (.ok h.actors.length)))
        [(h.newcomer o program load due).leave .preStart .finished] [{ capacity }]).seat o.id
          h.actors.length h.boxes.length)

theorem getElem?_append_cases {α : Type} {l l' : List α} {n : Nat} {y : α}
    (here : (l ++ l')[n]? = some y) : l[n]? = some y ∨ ∃ j, n = l.length + j ∧ l'[j]? = some y := by
  obtain old | new := Nat.lt_or_ge n l.length
  · exact .inl (List.getElem?_append_left old ▸ here)
  · exact .inr ⟨n - l.length, by omega, List.getElem?_append_right new ▸ here⟩

theorem keeps_extend (h : Inventory) (c : CallState) (xs : List Actor)
    (bs : List (Mailbox Mail)) : h.Keeps (h.extend c xs bs) where
  actors _ _ here :=
    (List.getElem?_append_left (List.getElem?_eq_some_iff.mp here).1).trans here
  boxes _ _ here :=
    (List.getElem?_append_left (List.getElem?_eq_some_iff.mp here).1).trans here
  roster _ _ on := on
  routes _ _ there := there

theorem keeps_seat {id : ComponentId} (unlisted : h.roster.contains id = false)
    (unrouted : h.routes.contains id = false) (a box : Nat) : h.Keeps (h.seat id a box) where
  actors _ _ here := here
  boxes _ _ here := here
  roster _ _ on := Table.get?_insert_of_free unlisted on
  routes _ _ there := Table.get?_insert_of_free unrouted there

structure Serves (h : Inventory) (o : Order) (program : Program) (a : Nat) (x : Actor) : Prop where
  listed : h.roster.get? o.id = some a
  here : h.actors[a]? = some x
  routed : h.routes.get? o.id = some x.box
  role : ∃ load, x.role = .component (o.component program load)
  started : x.startup = some (.ok ())
  idle : x.phase = .idle
  untold : x.told = false
  box : ∃ capacity, h.boxes[x.box]? = some { capacity }

theorem Serves.mono (serves : h.Serves o program a x) (keeps : h.Keeps i) :
    i.Serves o program a x where
  listed := keeps.roster _ _ serves.listed
  here := keeps.actors _ _ serves.here
  routed := keeps.routes _ _ serves.routed
  role := serves.role
  started := serves.started
  idle := serves.idle
  untold := serves.untold
  box := serves.box.imp fun _ here => keeps.boxes _ _ here

theorem AtRest.grow (rest : h.AtRest) (keeps : h.Keeps i) {time : Duration} {answer : Answer}
    (calls : i.calls = h.calls ++ [.returned time answer]) (actors : i.actors = h.actors ++ xs)
    (rests : ∀ j x, xs[j]? = some x → i.Rests (h.actors.length + j) x)
    (routed : ∀ id, i.routes.contains id = i.roster.contains id) : i.AtRest where
  returned state mem := by
    obtain mem | mem := List.mem_append.mp (calls ▸ mem)
    · exact rest.returned state mem
    · exact ⟨time, answer, List.mem_singleton.mp mem⟩
  rests a x here := by
    obtain old | ⟨j, rfl, new⟩ := getElem?_append_cases (actors ▸ here)
    · exact (rest.rests a x old).mono keeps
    · exact rests j x new
  routed := routed

/-- What a spawn that has returned has done. -/
structure Closes (h : Inventory) (engine : Engine) (o : Order) (i : Inventory) : Prop where
  rest : i.AtRest
  keeps : h.Keeps i
  listed : ∀ id, i.roster.contains id = true ↔
    h.roster.contains id = true ∨ id = o.id ∧ ∃ program, h.verdict engine o = .ok program
  failed : ∀ cause, h.verdict engine o = .error cause → ∃ time,
    i.calls[h.calls.length]? = some (.returned time (.spawned (.error (State.spawnError o cause))))
  serves : ∀ program, h.verdict engine o = .ok program → ∃ a x, i.Serves o program a x ∧ ∃ time,
    i.calls[h.calls.length]? = some (.returned time (.spawned (.ok a)))

namespace Debut

theorem call (debut : Debut engine h o due k i) :
    ∃ state, i.calls[h.calls.length]? = some state := by
  cases debut <;> exact ⟨_, List.getElem?_concat_length⟩

theorem eq_zero_of_returned (debut : Debut engine h o due k i) {time : Duration} {answer : Answer}
    (returned : i.calls[h.calls.length]? = some (.returned time answer)) : k = 0 := by
  cases debut with
  | failed | seated => rfl
  | loading | starting | started => cases List.getElem?_concat_length.symm.trans returned

theorem closes (debut : Debut engine h o due 0 i) (rest : h.AtRest) : h.Closes engine o i := by
  cases debut with
  | failed bad ended =>
    have keeps := h.keeps_extend
    refine ⟨rest.grow (keeps _ _ _) rfl rfl (fun j x new => ?_) rest.routed, keeps _ _ _,
      fun id => ?_, fun cause same => ?_, fun program good => ?_⟩
    · exact .ended (ended x (List.mem_of_getElem? new))
    · simp [extend, bad]
    · cases bad.symm.trans same
      exact ⟨_, List.getElem?_concat_length⟩
    · cases bad.symm.trans good
  | @seated time program load capacity good =>
    have unlisted := free_of_verdict good
    have unrouted := (rest.routed o.id).trans unlisted
    let x := (h.newcomer o program load due).leave .preStart .finished
    let box : Mailbox Mail := { capacity }
    let j := h.extend (.returned time (.spawned (.ok h.actors.length))) [x] [box]
    have keeps : h.Keeps (j.seat o.id h.actors.length h.boxes.length) :=
      (h.keeps_extend _ _ _).trans (keeps_seat (h := j) unlisted unrouted _ _)
    have on : (h.roster.insert o.id h.actors.length).get? o.id = some h.actors.length :=
      Table.get?_insert_self _ _ _
    have empty : (h.boxes ++ [box])[h.boxes.length]? = some { capacity } :=
      List.getElem?_concat_length
    refine ⟨rest.grow keeps rfl rfl (fun n y new => ?_) (fun id => ?_), keeps,
      fun id => ?_, fun cause bad => ?_, fun program' same => ?_⟩
    · cases n with
      | zero =>
        cases new
        exact .waiting rfl rfl empty on
      | succ n => cases new
    · exact (h.routes.contains_insert _ _ _).trans
        ((rest.routed id).symm ▸ (Table.contains_insert h.roster _ _ _).symm)
    · rw [good]
      simp [seat, extend, Table.contains_insert, or_comm]
    · cases good.symm.trans bad
    · cases good.symm.trans same
      exact ⟨h.actors.length, x, ⟨on, List.getElem?_concat_length, Table.get?_insert_self _ _ _,
        ⟨load, rfl⟩, rfl, rfl, rfl, capacity, empty⟩, time, List.getElem?_concat_length⟩

end Debut

end Inventory

namespace State

variable {config : HostConfig} {engine : Engine} {s t : State} {m : Move} {a n k : Nat} {x : Actor}
  {o : Order} {program : Program} {h : Inventory} {c : CallState} {xs : List Actor}
  {bs : List (Mailbox Mail)} {due : Duration}

open Inventory (Debut)

theorem startOutcome_leave {ending : Ending} (here : s.actors[a]? = some (x.leave .preStart ending))
    (new : x.startup = none) : s.startOutcome a = some (startResult x.name ending) := by
  rw [startOutcome, here]
  cases ending <;> simp [Actor.leave, startResult, new]

theorem set_concat_length {α : Type} (l : List α) (x y : α) :
    (l ++ [x]).set l.length y = l ++ [y] := by
  simp

section Extend

variable {b : Mailbox Mail}

theorem parts_of_extend (same : s.inventory = h.extend c xs bs) : s.calls = h.calls ++ [c] ∧
    s.actors = h.actors ++ xs ∧ s.post.boxes = h.boxes ++ bs ∧ s.roster = h.roster ∧
      s.post.routes = h.routes :=
  Inventory.ext_iff.mp same

theorem call_of_extend (same : s.inventory = h.extend c xs bs) :
    s.calls[h.calls.length]? = some c :=
  (parts_of_extend same).1 ▸ List.getElem?_concat_length

theorem actor_of_extend (same : s.inventory = h.extend c [x] bs) :
    s.actors[h.actors.length]? = some x :=
  (parts_of_extend same).2.1 ▸ List.getElem?_concat_length

theorem box_of_extend (same : s.inventory = h.extend c xs [b]) :
    s.post.boxes[h.boxes.length]? = some b :=
  (parts_of_extend same).2.2.1 ▸ List.getElem?_concat_length

theorem inventory_finish (same : s.inventory = h.extend c xs bs) (answer : Answer) :
    (s.finish h.calls.length answer).inventory = h.extend (.returned s.clock answer) xs bs := by
  obtain ⟨calls, actors, boxes, roster, routes⟩ := parts_of_extend same
  exact Inventory.ext ((congrArg (·.set h.calls.length (.returned s.clock answer)) calls).trans
    (set_concat_length _ _ _)) actors boxes roster routes

end Extend

theorem hasEnded_leave {ending : Ending} :
    (x.leave .preStart ending).hasEnded = true ↔ ending ≠ .finished := by
  cases ending <;> simp [Actor.leave, Actor.hasEnded]

/-- Beside what has come since, only the enrolling goes on. -/
theorem Steady.step_beside (steady : s.Steady config engine) (rest : h.AtRest)
    (same : s.inventory = h.extend c xs bs) (few : xs.length ≤ 1) (stepped : s.step m = some t) :
    s.stepCall h.calls.length = some t ∨ (xs ≠ [] ∧ s.stepActor h.actors.length = some t) ∨
      ∃ i, s.enroll i = some t := by
  obtain ⟨calls, actors, _⟩ := parts_of_extend same
  cases m with
  | alarm number => cases (steady.stepAlarm number).symm.trans stepped
  | enroll i => exact .inr (.inr ⟨i, stepped⟩)
  | actor a =>
    cases here : s.actors[a]? with
    | none => simp [step, stepActor, here] at stepped
    | some x =>
      obtain old | ⟨i, rfl, new⟩ := Inventory.getElem?_append_cases (actors ▸ here)
      · have rests := (rest.rests a x old).mono (h.keeps_extend c xs bs)
        cases (stepActor_of_rests here (same ▸ rests)).symm.trans stepped
      · have inside := (List.getElem?_eq_some_iff.mp new).1
        obtain rfl : i = 0 := by omega
        exact .inr (.inl ⟨List.ne_nil_of_length_pos inside, stepped⟩)
  | call n =>
    cases here : s.calls[n]? with
    | none => simp [step, stepCall, here] at stepped
    | some state =>
      obtain old | ⟨i, rfl, new⟩ := Inventory.getElem?_append_cases (calls ▸ here)
      · obtain ⟨time, answer, rfl⟩ := rest.returned state (List.mem_of_getElem? old)
        cases (stepCall_of_returned here).symm.trans stepped
      · cases i with
        | zero => exact .inl stepped
        | succ i => cases new

section Call

variable {b : Mailbox Mail}

theorem stepCall_loading (room : s.mailboxCapacity ≤ maxCapacity)
    (here : s.calls[n]? = some (.running (.spawn { order := o }))) :
    s.stepCall n = some (match o.load s.engine with
      | .error fault => s.finish n (.spawned (.error (spawnError o (.loadFailed fault))))
      | .ok program =>
        ({ s with loads := s.loads + 1 }.createActor o.id.name
          (.component (o.component program s.loads))).2.proceed n
            (.spawn { order := o, stage := .starting s.actors.length })) := by
  have load : s.loadProgram o = o.load s.engine := rfl
  rw [stepCall, here]
  simp only [stepSpawnCall, stepSpawn, load, Nat.not_lt.mpr room, if_false]
  cases o.load s.engine with
  | error fault => rfl
  | ok program => rfl

theorem stepCall_manned (free : h.roster.contains o.id = false)
    (same : s.inventory = h.manned o x b) :
    s.stepCall h.calls.length = (s.startOutcome h.actors.length).map fun
      | .error e =>
        s.finish h.calls.length (.spawned (.error (spawnError o (.actorFailed e.message))))
      | .ok () => { s with
        roster := s.roster.insert o.id h.actors.length
        post := s.post.route o.id (s.boxOf h.actors.length)
        enrolling := s.enrolling ++ [o.id] }.finish h.calls.length
          (.spawned (.ok h.actors.length)) := by
  obtain ⟨_, _, _, roster, _⟩ := parts_of_extend same
  have free' : s.roster.contains o.id = false := roster ▸ free
  rw [stepCall, call_of_extend same]
  simp only [stepSpawnCall, stepSpawn]
  cases s.startOutcome h.actors.length with
  | none => rfl
  | some r =>
    cases r with
    | error e => rfl
    | ok => simp only [seat, Roster.register, free', Bool.false_eq_true, if_false, Option.map_some]

end Call

section Step

variable {capacity load : Nat} {b : Mailbox Mail}

theorem isHeld_of_call {call : Call} (here : s.calls[n]? = some (.running call))
    (holds : call.holds a = true) : s.isHeld a = true := by
  rw [isHeld, Bool.or_eq_true]
  exact .inr (List.any_eq_true.mpr ⟨_, List.mem_of_getElem? here, holds⟩)

theorem stepCall_of_starting (free : h.roster.contains o.id = false)
    (same : s.inventory = h.manned o (h.newcomer o program load due) b) :
    s.stepCall h.calls.length = none := by
  rw [stepCall_manned free same, startOutcome, actor_of_extend same]
  rfl

theorem stepActor_of_starting (here : s.actors[a]? = some (h.newcomer o program load due)) :
    s.stepActor a = if due ≤ s.clock then some (s.endHook a (h.newcomer o program load due)
      .preStart (o.component program load).debut) else none := by
  rw [stepActor, here]
  rfl

theorem stepActor_of_started (box : o.opening program = .finished → b = { capacity })
    (same : s.inventory =
      h.manned o ((h.newcomer o program load due).leave .preStart (o.opening program)) b) :
    s.stepActor h.actors.length = none := by
  have there := actor_of_extend same
  by_cases finished : o.opening program = .finished
  · have held := isHeld_of_call (call_of_extend same) (decide_eq_true rfl)
    have empty := box_of_extend same
    rw [finished] at there
    rw [box finished] at empty
    exact stepActor_of_idle there rfl rfl held empty
  · exact stepActor_of_rests there (.ended (hasEnded_leave.mpr finished))

namespace Steady

variable (steady : s.Steady config engine)

include steady

theorem roomy (room : ¬ config.Oversized) : s.mailboxCapacity ≤ maxCapacity :=
  Nat.not_lt.mp fun more => room (steady.config ▸ oversized_iff.mpr more)

theorem fail (same : s.inventory = h.extend c xs bs) {cause : SpawnCause}
    (bad : h.verdict engine o = .error cause) (ended : ∀ x ∈ xs, x.hasEnded = true) :
    let t := s.finish h.calls.length (.spawned (.error (spawnError o cause)))
    t.Steady config engine ∧ Debut engine h o due 0 t.inventory :=
  ⟨⟨steady.config, steady.engine, steady.started, steady.unarmed, steady.unused⟩,
    inventory_finish same _ ▸ .failed bad ended⟩

theorem create (free : h.roster.contains o.id = false)
    (same : s.inventory = h.extend (.running (.spawn { order := o })) [] [])
    (loaded : o.load engine = .ok program) :
    let t := ({ s with loads := s.loads + 1 }.createActor o.id.name
      (.component (o.component program s.loads))).2.proceed h.calls.length
        (.spawn { order := o, stage := .starting s.actors.length })
    t.Steady config engine ∧ t.enrolling = s.enrolling ∧
      ∃ due, Debut engine h o due 3 t.inventory := by
  obtain ⟨calls, actors, boxes, roster, routes⟩ := parts_of_extend same
  rw [List.append_nil] at actors boxes
  let u : State := { s with loads := s.loads + 1 }
  let starting : Call := .spawn { order := o, stage := .starting h.actors.length }
  have unused : ∀ r ∈ u.history, r.load ≠ (o.component program s.loads).load :=
    fun r mem => Nat.ne_of_lt (steady.unused r mem)
  obtain ⟨history, older, created⟩ := u.createActor_debut o.id.name unused
  obtain ⟨span, course⟩ := (o.component program s.loads).debut_span
  intro t
  have same' : t = _ := congrArg (·.2.proceed h.calls.length
    (.spawn { order := o, stage := .starting s.actors.length })) created
  rw [course, Option.map_some, actors] at same'
  rw [same']
  refine ⟨⟨steady.config, steady.engine, steady.started, steady.unarmed, fun r mem => ?_⟩, rfl,
    s.clock + span, ?_⟩
  · obtain old | new := older r mem
    · exact Nat.lt_succ_of_lt (steady.unused r old)
    · exact new ▸ Nat.lt_succ_self _
  · let y := h.newcomer o program s.loads (s.clock + span)
    have debut : Debut engine h o _ 3 (h.manned o y { capacity := s.mailboxCapacity }) :=
      .starting free loaded
    convert debut using 1
    refine Inventory.ext ((congrArg (·.set h.calls.length (.running starting)) calls).trans
      (set_concat_length _ _ _)) ?_ (congrArg (· ++ [_]) boxes) roster routes
    simp only [inventory, proceed, Inventory.manned, Inventory.extend, Inventory.newcomer, u, y,
      actors, boxes]

theorem loading_step (room : ¬ config.Oversized) (free : h.roster.contains o.id = false)
    (same : s.inventory = h.extend (.running (.spawn { order := o })) [] [])
    (stepped : s.stepCall h.calls.length = some t) : t.Steady config engine ∧
      t.enrolling = s.enrolling ∧ ∃ due k, k < 4 ∧ Debut engine h o due k t.inventory := by
  rw [stepCall_loading (steady.roomy room) (call_of_extend same)] at stepped
  cases loads : o.load s.engine with
  | error fault =>
    have bad : h.verdict engine o = .error (.loadFailed fault) := by
      rw [Inventory.verdict_of_free free, Order.trial, ← steady.engine, loads]
    rw [loads] at stepped
    cases stepped
    obtain ⟨steady', debut⟩ := steady.fail same bad fun _ mem => absurd mem List.not_mem_nil
    exact ⟨steady', rfl, 0, 0, by omega, debut⟩
  | ok program =>
    rw [loads] at stepped
    cases stepped
    obtain ⟨steady', listed, due, debut⟩ := steady.create free same (steady.engine ▸ loads)
    exact ⟨steady', listed, due, 3, by omega, debut⟩

theorem starting_step (free : h.roster.contains o.id = false)
    (loaded : o.load engine = .ok program)
    (same : s.inventory = h.manned o (h.newcomer o program load due) { capacity })
    (stepped : s.stepActor h.actors.length = some t) : t.Steady config engine ∧
      t.enrolling = s.enrolling ∧ Debut engine h o due 2 t.inventory := by
  obtain ⟨calls, actors, boxes, roster, routes⟩ := parts_of_extend same
  let y := h.newcomer o program load due
  let z := y.leave .preStart (o.opening program)
  let b : Mailbox Mail := if z.hasEnded then Mailbox.discard { capacity } else { capacity }
  rw [stepActor_of_starting (actor_of_extend same), endHook_debut (actor_of_extend same)
    (box_of_extend same) rfl (o.component program load).debut_effect] at stepped
  obtain ⟨_, stepped⟩ := Option.ite_none_right_eq_some.mp stepped
  rw [Option.some.injEq] at stepped
  subst stepped
  have finished : o.opening program = .finished → b = { capacity } := fun finished =>
    if_neg fun ended => hasEnded_leave.mp ended finished
  refine ⟨⟨steady.config, steady.engine, steady.started, steady.unarmed, steady.unused⟩, rfl, ?_⟩
  have debut : Debut engine h o due 2 (h.manned o z b) := .started free loaded finished
  convert debut using 1
  exact Inventory.ext calls
    ((congrArg (·.set h.actors.length z) actors).trans (set_concat_length _ _ _))
    ((congrArg (·.set h.boxes.length b) boxes).trans (set_concat_length _ _ _)) roster routes

theorem seat (good : h.verdict engine o = .ok program)
    (same : s.inventory = h.manned o ((h.newcomer o program load due).leave .preStart .finished)
      { capacity }) :
    let t := { s with
      roster := s.roster.insert o.id h.actors.length
      post := s.post.route o.id (s.boxOf h.actors.length)
      enrolling := s.enrolling ++ [o.id] }.finish h.calls.length (.spawned (.ok h.actors.length))
    t.Steady config engine ∧ Debut engine h o due 0 t.inventory := by
  obtain ⟨calls, actors, boxes, roster, routes⟩ := parts_of_extend same
  have reached : s.boxOf h.actors.length = h.boxes.length := by
    rw [boxOf, actor_of_extend same]
    rfl
  let last : CallState := .returned s.clock (.spawned (.ok h.actors.length))
  let y := (h.newcomer o program load due).leave .preStart .finished
  have debut : Debut engine h o due 0 ((h.extend last [y] [{ capacity }]).seat o.id h.actors.length
    h.boxes.length) := .seated good
  refine ⟨⟨steady.config, steady.engine, steady.started, steady.unarmed, steady.unused⟩, ?_⟩
  convert debut using 1
  exact Inventory.ext
    ((congrArg (·.set h.calls.length last) calls).trans (set_concat_length _ _ _)) actors boxes
    (congrArg (·.insert o.id h.actors.length) roster)
    (congrArg₂ (·.insert o.id ·) routes reached)

theorem started_step (free : h.roster.contains o.id = false) (loaded : o.load engine = .ok program)
    (box : o.opening program = .finished → b = { capacity })
    (same : s.inventory =
      h.manned o ((h.newcomer o program load due).leave .preStart (o.opening program)) b)
    (stepped : s.stepCall h.calls.length = some t) : t.Steady config engine ∧
      t.enrolling.length ≤ s.enrolling.length + 1 ∧ Debut engine h o due 0 t.inventory := by
  have trial : h.verdict engine o = _ := Inventory.verdict_of_free free
  rw [Order.trial, loaded] at trial
  dsimp only at trial
  rw [stepCall_manned free same, startOutcome_leave (actor_of_extend same) rfl,
    show (h.newcomer o program load due).name = o.id.name from rfl] at stepped
  cases opening : startResult o.id.name (o.opening program) with
  | error e =>
    rw [opening] at stepped trial
    cases stepped
    have ended : o.opening program ≠ .finished := fun finished => by
      cases opening.symm.trans (Order.startResult_eq_ok.mpr finished)
    obtain ⟨steady', debut⟩ := steady.fail same trial fun x mem =>
      List.mem_singleton.mp mem ▸ hasEnded_leave.mpr ended
    exact ⟨steady', Nat.le_succ _, debut⟩
  | ok =>
    rw [opening] at stepped trial
    cases stepped
    have finished := Order.startResult_eq_ok.mp opening
    rw [finished, box finished] at same
    obtain ⟨steady', debut⟩ := steady.seat trial same
    exact ⟨steady', Nat.le_of_eq List.length_append, debut⟩

/-- Every step brings a spawn nearer to its end, or makes a component that came before a member. -/
theorem step_of_debut (room : ¬ config.Oversized) (rest : h.AtRest)
    (debut : Debut engine h o due k s.inventory) (stepped : s.step m = some t) :
    t.Steady config engine ∧ ∃ due' k', Debut engine h o due' k' t.inventory ∧ k' ≤ k ∧
      t.enrolling.length + k' < s.enrolling.length + k ∧ (k ≤ 3 → due' = due) := by
  by_cases enrolls : ∃ i, s.enroll i = some t
  · obtain ⟨i, enrolls⟩ := enrolls
    obtain ⟨steady', same, fewer⟩ := steady.enroll enrolls
    exact ⟨steady', due, k, same ▸ debut, Nat.le_refl k, by omega, fun _ => rfl⟩
  by_cases ended : k = 0
  · subst ended
    obtain ⟨i, _, enrolled⟩ := steady.step_of_atRest (debut.closes rest).rest stepped
    exact absurd ⟨i, enrolled⟩ enrolls
  generalize same : s.inventory = i at debut
  cases debut with
  | failed | seated => exact absurd rfl ended
  | loading free =>
    obtain call | ⟨new, _⟩ | enrolled := steady.step_beside rest same (by simp) stepped
    · obtain ⟨steady', listed, due', k', less, debut⟩ := steady.loading_step room free same call
      rw [listed]
      exact ⟨steady', due', k', debut, by omega, by omega, fun early => by omega⟩
    · exact absurd rfl new
    · exact absurd enrolled enrolls
  | starting free loaded =>
    obtain call | ⟨_, act⟩ | enrolled := steady.step_beside rest same (by simp) stepped
    · cases (stepCall_of_starting free same).symm.trans call
    · obtain ⟨steady', listed, debut⟩ := steady.starting_step free loaded same act
      rw [listed]
      exact ⟨steady', due, 2, debut, by omega, by omega, fun _ => rfl⟩
    · exact absurd enrolled enrolls
  | started free loaded box =>
    obtain call | ⟨_, act⟩ | enrolled := steady.step_beside rest same (by simp) stepped
    · obtain ⟨steady', more, debut⟩ := steady.started_step free loaded box same call
      exact ⟨steady', due, 0, debut, by omega, by omega, fun _ => rfl⟩
    · cases (stepActor_of_started box same).symm.trans act
    · exact absurd enrolled enrolls

end Steady

end Step

end State

end ComponentHost
