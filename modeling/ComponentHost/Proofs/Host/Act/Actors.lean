import ComponentHost.Proofs.Host.Actor.Steps
import ComponentHost.Proofs.Post.Mailbox

/-! One act of a run and what it does to the scene: it puts a piece of mail into a box, lets one
actor work, brings one up or tells some to stop. -/

namespace ComponentHost

namespace Actor

variable {x y z : Actor}

@[simp] theorem name_leave (x : Actor) (hook : Hook) (ending : Ending) :
    (x.leave hook ending).name = x.name := by
  cases hook <;> cases ending <;> rfl

@[simp] theorem box_leave (x : Actor) (hook : Hook) (ending : Ending) :
    (x.leave hook ending).box = x.box := by
  cases hook <;> cases ending <;> rfl

@[simp] theorem role_leave (x : Actor) (hook : Hook) (ending : Ending) :
    (x.leave hook ending).role = x.role := by
  cases hook <;> cases ending <;> rfl

@[simp] theorem told_leave (x : Actor) (hook : Hook) (ending : Ending) :
    (x.leave hook ending).told = x.told := by
  cases hook <;> cases ending <;> rfl

@[simp] theorem awaited_leave (x : Actor) (hook : Hook) (ending : Ending) :
    (x.leave hook ending).awaited = x.awaited := by
  cases hook <;> cases ending <;> rfl

/-- `y` is what may have become of `x`: the same actor, told if it was and over if it was. -/
structure Becomes (x y : Actor) : Prop where
  name : y.name = x.name
  box : y.box = x.box
  told : x.told = true → y.told = true
  awaited : x.awaited = true → y.awaited = true
  ended : ∀ ending, x.phase = .ended ending → y.phase = .ended ending
  role : y.role = x.role

theorem Becomes.refl (x : Actor) : x.Becomes x := ⟨rfl, rfl, id, id, fun _ => id, rfl⟩

theorem Becomes.trans (first : x.Becomes y) (second : y.Becomes z) : x.Becomes z where
  name := second.name.trans first.name
  box := second.box.trans first.box
  told := second.told ∘ first.told
  awaited := second.awaited ∘ first.awaited
  ended ending was := second.ended ending (first.ended ending was)
  role := second.role.trans first.role

theorem hasEnded_iff : x.hasEnded = true ↔ ∃ ending, x.phase = .ended ending := by
  unfold hasEnded
  cases x.phase <;> simp

theorem Becomes.hasEnded (becomes : x.Becomes y) (ended : x.hasEnded = true) :
    y.hasEnded = true := by
  obtain ⟨ending, was⟩ := hasEnded_iff.mp ended
  exact hasEnded_iff.mpr ⟨ending, becomes.ended ending was⟩

end Actor

namespace State

variable {s : State}

def halts (s : State) : Act → Nat → Prop
  | .stopActor b, a => a = b
  | .stop id, a => s.roster.get? id = some a
  | .restart o, a => s.roster.get? o.id = some a
  | .shutdown, a => ∃ id, s.roster.get? id = some a
  | .move (.call n), a =>
    (∃ sp, (s.underWay n).bind Call.spawning? = some sp ∧ sp.stage = .starting a) ∨
      ∃ st rest id, s.underWay n = some (.shutdown st rest) ∧ id ∈ rest ∧
        s.roster.get? id = some a
  | _, _ => False

def offers? (s : State) : Act → Option (Nat × Nat × Mail)
  | .move (.call n) =>
    match s.calls[n]? with
    | some (.running (.deliver _ _ box mail)) => some (box, n, mail)
    | some (.running (.tell a mail)) | some (.running (.posting a mail _)) =>
      some (s.boxOf a, n, mail)
    | _ => none
  | .post target mail => toward target mail
  | .sendMessage sender target payload => toward target (.message sender payload)
  | .sendRequest sender target payload _ _ =>
    toward target (.request sender (.issued s.issued) payload)
  | .tell a mail => some (s.boxOf a, s.calls.length, mail)
  | .invoke a function args =>
    some (s.boxOf a, s.calls.length, .invoke function args s.calls.length)
  | .execute id function args =>
    if s.started then
      (s.roster.get? id).map fun a =>
        (s.boxOf a, s.calls.length, .invoke function args s.calls.length)
    else none
  | _ => none
where
  toward (target : ComponentId) (mail : Mail) : Option (Nat × Nat × Mail) :=
    (s.post.routes.get? target).map fun box => (box, s.calls.length, mail)

/-- The mail that an act puts into a mailbox: what it offers, if that is accepted. -/
def puts? (s : State) (v : Act) : Option (Nat × Mail) :=
  (s.offers? v).bind fun (box, sender, mail) =>
    if (s.post.offer box sender mail).1 = .accepted then some (box, mail) else none

def Act.stirs (box : Nat) : Act → Prop
  | .take b | .close b | .discard b => b = box
  | _ => False

/-- What an act does to the scene. -/
inductive Plays (s : State) (v : Act) (t : State) : Prop
  | tells (silent : s.puts? v = none) (tells : Scene.Tells (s.halts v) s.scene t.scene)
  | posts {box sender : Nat} {mail : Mail} (offered : s.offers? v = some (box, sender, mail))
    (scene : t.scene = ⟨s.actors, s.log,
      s.post.boxes.modify box fun b => (b.offer sender mail).2⟩)
  | comes {name : String} {role : Role} {work : Work} {due : Option Duration}
    (silent : s.puts? v = none) (scene : t.scene =
      ⟨s.actors ++ [{ name, box := s.post.boxes.length, role, phase := .busy .preStart work due }],
        s.log ++ [⟨s.clock, s.actors.length, .began .preStart⟩],
        s.post.boxes ++ [{ capacity := s.mailboxCapacity }]⟩)
    (finds : role.Finds s.clock .preStart work due)
  | works {a : Nat} {x : Actor} (move : v = .move (.actor a)) (here : s.actors[a]? = some x)
    (works : s.Works a x t)
  | installs {capacity : Nat} (asked : v = .install capacity)
    (scene : t.scene = ⟨s.actors, s.log, s.post.boxes ++ [{ capacity := capacity }]⟩)
  | stirs {box : Nat} {b b' : Mailbox Mail} (asked : v.stirs box)
    (here : s.post.boxes[box]? = some b) (drawn : b.Drawn b')
    (scene : t.scene = ⟨s.actors, s.log, s.post.boxes.set box b'⟩)

namespace Plays

variable {v : Act} {t u : State}

theorem of_scene (silent : s.puts? v = none) (same : t.scene = s.scene) : s.Plays v t :=
  .tells silent (.of_eq same)

theorem of_offer {box sender : Nat} {mail : Mail}
    (offered : s.offers? v = some (box, sender, mail))
    (scene : t.scene = ⟨s.scene.actors, s.scene.log, (s.post.offer box sender mail).2.boxes⟩) :
    s.Plays v t :=
  .posts offered (scene.trans (congrArg (Scene.mk s.actors s.log) (boxes_offer s.post _ _ _)))

theorem of_create {name : String} {role : Role} (silent : s.puts? v = none)
    (before : t.scene = s.scene) (clock : t.clock = s.clock) (config : t.config = s.config)
    (same : u.scene = (t.createActor name role).2.scene) : s.Plays v u := by
  obtain ⟨work, due, finds, created⟩ := t.scene_createActor name role
  simp only [State.scene, Scene.mk.injEq] at before
  obtain ⟨actors, log, boxes⟩ := before
  have capacity : t.mailboxCapacity = s.mailboxCapacity := by
    rw [mailboxCapacity, mailboxCapacity, config]
  rw [actors, log, boxes, clock, capacity] at created
  exact .comes silent (same.trans created) (clock ▸ finds)

end Plays

section Messages

theorem scene_deliver (s : State) (purpose : Purpose) (target : ComponentId) (mail : Mail) :
    (s.post.routes.get? target = none ∧ (s.deliver purpose target mail).2.scene = s.scene) ∨
      ∃ box, s.post.routes.get? target = some box ∧ (s.deliver purpose target mail).2.scene =
        ⟨s.actors, s.log, (s.post.offer box s.calls.length mail).2.boxes⟩ := by
  unfold deliver
  cases route : s.post.routes.get? target with
  | none => exact .inl ⟨rfl, by simp⟩
  | some box =>
    refine .inr ⟨box, rfl, ?_⟩
    dsimp only
    generalize s.post.offer box s.calls.length mail = result
    obtain ⟨offer, post⟩ := result
    have posted : { s with post }.scene = ⟨s.actors, s.log, post.boxes⟩ := rfl
    cases offer with
    | waiting => rfl
    | accepted | refused =>
      dsimp only
      rw [scene_enterOrAnswer, scene_endDelivery, posted]

theorem deliver_plays {v : Act} {t : State} (purpose : Purpose) (target : ComponentId)
    (mail : Mail) (scene : t.scene = s.scene) (post : t.post = s.post) (calls : t.calls = s.calls)
    (offered : s.offers? v = offers?.toward s target mail) :
    s.Plays v (t.deliver purpose target mail).2 := by
  rw [offers?.toward] at offered
  obtain ⟨unrouted, same⟩ | ⟨box, route, same⟩ := t.scene_deliver purpose target mail
  · rw [post] at unrouted
    rw [unrouted] at offered
    exact .of_scene (by rw [puts?, offered]; rfl) (same.trans scene)
  · rw [post] at route same
    rw [route] at offered
    rw [calls] at same
    simp only [State.scene, Scene.mk.injEq] at scene
    rw [scene.1, scene.2.1] at same
    exact .of_offer offered same

theorem stepDeliver_plays {t : State} {n : Nat} {purpose : Purpose} {target : ComponentId}
    {box : Nat} {mail : Mail}
    (here : s.calls[n]? = some (.running (.deliver purpose target box mail)))
    (stepped : s.stepDeliver n purpose target box mail = some t) : s.Plays (.move (.call n)) t := by
  have offered : s.offers? (.move (.call n)) = some (box, n, mail) := by rw [offers?, here]
  obtain ⟨r, rfl⟩ := stepDeliver_eq stepped
  refine .of_offer offered ?_
  rw [scene_carryOn, scene_endDelivery]
  rfl

theorem tell_plays {v : Act} {a : Nat} {mail : Mail}
    (offered : s.offers? v = some (s.boxOf a, s.calls.length, mail)) :
    s.Plays v (s.tell a mail).2 := by
  refine .of_offer offered ?_
  unfold tell
  generalize s.post.offer (s.boxOf a) s.calls.length mail = result
  obtain ⟨offer, post⟩ := result
  cases offer <;> rfl

theorem invoke_plays {v : Act} {a : Nat} {function : String} {args : List Value}
    (target : Option (ComponentId × String)) (offered : s.offers? v =
      some (s.boxOf a, s.calls.length, .invoke function args s.calls.length)) :
    s.Plays v (s.invoke a function args target).2 := by
  refine .of_offer offered ?_
  unfold invoke
  dsimp only
  generalize s.post.offer (s.boxOf a) s.calls.length (.invoke function args s.calls.length) =
    result
  obtain ⟨offer, post⟩ := result
  cases offer <;> rfl

theorem execute_plays (s : State) (id : ComponentId) (function : String) (args : List Value) :
    s.Plays (.execute id function args) (s.execute id function args).2 := by
  unfold execute ensureStarted
  by_cases started : s.started = true
  · rw [if_pos started]
    dsimp only
    cases here : s.roster.get? id with
    | none => exact .of_scene (by rw [puts?, offers?, if_pos started, here]; rfl) rfl
    | some a =>
      refine invoke_plays _ ?_
      rw [offers?, if_pos started, here]
      rfl
  · rw [if_neg started]
    exact .of_scene (by rw [puts?, offers?, if_neg started]; rfl) rfl

end Messages

section Calls

theorem startActor_plays (s : State) (name : String) (preStart postStop : Course)
    (keep : String) :
    s.Plays (.startActor name preStart postStop keep)
      (s.startActor name preStart postStop keep).2 := by
  unfold startActor
  split
  · exact .of_scene rfl rfl
  · exact .of_create (t := s) rfl rfl rfl rfl rfl

theorem stopActor_plays (s : State) (a : Nat) : s.Plays (.stopActor a) (s.stopActor a).2 := by
  refine .tells rfl ?_
  have told := s.beginHalt_tells a
  unfold stopActor
  generalize s.beginHalt a = halted at told ⊢
  obtain ⟨t, outcome⟩ := halted
  cases outcome <;> exact told

theorem spawnComponent_plays (s : State) (o : Order) (keep : Option String) :
    s.Plays (.spawn o keep) (s.spawnComponent o keep).2 := by
  unfold spawnComponent
  split <;> exact .of_scene rfl rfl

theorem stopComponent_plays (s : State) (id : ComponentId) :
    s.Plays (.stop id) (s.stopComponent id).2 := by
  cases started : s.started with
  | false =>
    rw [stopComponent_of_not_started started]
    exact .of_scene rfl rfl
  | true =>
    rw [stopComponent_of_started started]
    refine .tells rfl ?_
    rw [scene_enterOrAnswer]
    exact s.beginStop_tells id

theorem restartComponent_plays (s : State) (o : Order) :
    s.Plays (.restart o) (s.restartComponent o).2 := by
  cases started : s.started with
  | false =>
    rw [restartComponent_of_not_started started]
    exact .of_scene rfl rfl
  | true =>
    rw [restartComponent_of_started started]
    refine .tells rfl ?_
    split
    · rw [scene_enterOrAnswer]
      exact s.beginStop_tells o.id
    · rw [scene_enterOrAnswer]
      exact .refl _

theorem shutdown_plays (s : State) : s.Plays .shutdown s.shutdown.2 := by
  cases started : s.started with
  | false =>
    rw [shutdown, started]
    exact .of_scene rfl rfl
  | true =>
    rw [shutdown_eq started]
    refine .tells rfl ?_
    rw [scene_enterOrAnswer]
    refine (drain_tells s.roster.ids { s with started := false }).mono ?_
    rintro a ⟨id, _, here⟩
    exact ⟨id, here⟩

theorem stepSpawn_plays {t u : State} {n : Nat} {sp : Spawn} {r : Spawn ⊕ Except HostError Nat}
    (silent : s.puts? (.move (.call n)) = none)
    (spawning : (s.underWay n).bind Call.spawning? = some sp) (stepped : s.stepSpawn sp = .next u r)
    (same : t.scene = u.scene) : s.Plays (.move (.call n)) t := by
  unfold stepSpawn at stepped
  cases stage : sp.stage with
  | loading =>
    rw [stage] at stepped
    dsimp only at stepped
    split at stepped
    · cases stepped
      exact .of_scene silent same
    · split at stepped
      · cases stepped
      · cases stepped
        exact .of_create (t := { s with loads := s.loads + 1 }) silent rfl rfl rfl same
  | starting a =>
    rw [stage] at stepped
    dsimp only at stepped
    split at stepped
    · cases stepped
    · cases stepped
      exact .of_scene silent same
    · unfold seat at stepped
      split at stepped
      · cases stepped
        refine .tells silent ?_
        rw [same]
        exact (s.beginHalt_tells a).mono fun b own => .inl ⟨sp, spawning, own ▸ stage⟩
      · cases stepped
        refine .of_scene silent (same.trans ?_)
        cases sp.keep <;> rfl
  | discarding a =>
    rw [stage] at stepped
    dsimp only at stepped
    split at stepped
    · cases stepped
    · cases stepped
      exact .of_scene silent same

theorem stepSpawning_plays {t : State} {n : Nat} {wrap : Spawn → Call}
    {answer : Except HostError Nat → Answer} {sp : Spawn}
    (silent : s.puts? (.move (.call n)) = none)
    (spawning : (s.underWay n).bind Call.spawning? = some sp)
    (stepped : s.stepSpawning n wrap answer sp = some t) : s.Plays (.move (.call n)) t := by
  unfold stepSpawning at stepped
  split at stepped
  case h_1 => cases stepped
  case h_2 text _ =>
    cases stepped
    exact .of_scene silent rfl
  case h_3 u sp' step =>
    cases stepped
    exact stepSpawn_plays silent spawning step rfl
  case h_4 u r step =>
    cases stepped
    exact stepSpawn_plays silent spawning step rfl

theorem stepLifecycle_plays {t : State} {n : Nat} {c : Call} (here : s.underWay n = some c)
    (stepped : s.stepCall n = some t) : s.Plays (.move (.call n)) t := by
  obtain ⟨running, lifecycle⟩ := underWay_eq_some.mp here
  have silent : s.puts? (.move (.call n)) = none := by
    rw [puts?, offers?, running]
    cases c <;> first | rfl | cases lifecycle
  cases c with
  | spawn sp =>
    rw [stepCall, running] at stepped
    exact stepSpawning_plays silent (by rw [here]; rfl)
      ((s.stepSpawnCall_eq n sp).symm.trans stepped)
  | restartSpawn sp =>
    rw [stepCall, running] at stepped
    exact stepSpawning_plays silent (by rw [here]; rfl)
      ((s.stepRestartSpawn_eq n sp).symm.trans stepped)
  | stop st | restartStop st =>
    have stopping : (s.underWay n).bind Call.stopping? = some st := by rw [here]; rfl
    obtain ⟨next, rfl, _⟩ := step_of_stopping stopping stepped
    exact .of_scene silent (scene_carryOn _ n next)
  | shutdown st rest =>
    rw [stepCall, running] at stepped
    rw [stepShutdown_eq stepped]
    refine .tells silent ?_
    rw [scene_carryOn]
    refine (drain_tells rest (s.endStop st.id)).mono ?_
    rintro a ⟨id, mem, seated⟩
    obtain same | ⟨_, gone⟩ := (s.endStop_sheds st.id).roster id
    · exact .inr ⟨st, rest, id, here, mem, same ▸ seated⟩
    · rw [gone] at seated
      cases seated
  | _ => cases lifecycle

theorem stepCall_plays {t : State} {n : Nat} (stepped : s.stepCall n = some t) :
    s.Plays (.move (.call n)) t := by
  cases here : s.calls[n]? with
  | none =>
    rw [stepCall, here] at stepped
    cases stepped
  | some state =>
    cases state with
    | returned time answer =>
      rw [stepCall, here] at stepped
      cases stepped
    | running c =>
      by_cases lifecycle : c.isLifecycle = true
      · exact stepLifecycle_plays (underWay_eq_some.mpr ⟨here, lifecycle⟩) stepped
      · rw [stepCall, here] at stepped
        dsimp only at stepped
        cases c with
        | deliver purpose target box mail => exact stepDeliver_plays here stepped
        | await waiter =>
          have silent : s.puts? (.move (.call n)) = none := by rw [puts?, offers?, here]; rfl
          simp only [stepAwait, Option.bind_eq_bind, Option.bind_eq_some_iff] at stepped
          obtain ⟨w, _, r, _, same⟩ := stepped
          cases same
          exact .of_scene silent rfl
        | tell a mail =>
          obtain ⟨answer, rfl⟩ := stepTell_eq stepped
          exact .of_offer (by rw [offers?, here]) rfl
        | posting a mail target =>
          obtain ⟨next, _, rfl⟩ := stepPosting_eq stepped
          exact .of_offer (by rw [offers?, here]) (scene_carryOn _ n next)
        | invoked a slot target =>
          have silent : s.puts? (.move (.call n)) = none := by rw [puts?, offers?, here]; rfl
          cases slot <;> cases stepped <;> exact .of_scene silent rfl
        | start a keep =>
          have silent : s.puts? (.move (.call n)) = none := by rw [puts?, offers?, here]; rfl
          simp only [stepStart, Option.bind_eq_bind, Option.bind_eq_some_iff] at stepped
          obtain ⟨outcome, _, stepped⟩ := stepped
          cases outcome <;> cases stepped <;> exact .of_scene silent rfl
        | halt a =>
          have silent : s.puts? (.move (.call n)) = none := by rw [puts?, offers?, here]; rfl
          simp only [stepHalt, Option.bind_eq_bind, Option.bind_eq_some_iff] at stepped
          obtain ⟨r, _, same⟩ := stepped
          cases same
          exact .of_scene silent rfl
        | spawn | stop | restartStop | restartSpawn | shutdown => exact absurd rfl lifecycle

end Calls

theorem puts?_of_closed {m : Move} (closed : s.step m = none) : s.puts? (.move m) = none := by
  have kept : ∀ {box sender : Nat} {mail : Mail},
      (s.post.offer box sender mail).1 = .waiting → s.offers? (.move m) = some (box, sender, mail) →
      s.puts? (.move m) = none := by
    intro box sender mail waiting offered
    simp [puts?, offered, waiting]
  cases m with
  | alarm | actor | enroll => rfl
  | call n =>
    rw [step, stepCall] at closed
    cases here : s.calls[n]? with
    | none => rw [puts?, offers?, here]; rfl
    | some state =>
      rw [here] at closed
      cases state with
      | returned => rw [puts?, offers?, here]; rfl
      | running c =>
        cases c with
        | deliver purpose target box mail =>
          obtain ⟨waiting, _⟩ | ⟨r, goes⟩ := s.stepDeliver_cases n purpose target box mail
          · exact kept waiting (by rw [offers?, here])
          · cases closed.symm.trans goes
        | tell a mail =>
          obtain ⟨waiting, _⟩ | ⟨answer, goes⟩ := s.stepTell_cases n a mail
          · exact kept waiting (by rw [offers?, here])
          · cases closed.symm.trans goes
        | posting a mail target =>
          obtain ⟨waiting, _⟩ | ⟨next, _, goes⟩ := s.stepPosting_cases n a mail target
          · exact kept waiting (by rw [offers?, here])
          · cases closed.symm.trans goes
        | _ => rw [puts?, offers?, here]; rfl

theorem move_plays (s : State) (m : Move) : s.Plays (.move m) ((s.step m).getD s) := by
  cases stepped : s.step m with
  | none => exact .of_scene (puts?_of_closed stepped) rfl
  | some t =>
    rw [Option.getD_some]
    cases m with
    | alarm number =>
      obtain ⟨_, _, _, rfl⟩ := stepAlarm_eq stepped
      exact .of_scene rfl rfl
    | actor a =>
      cases here : s.actors[a]? with
      | none =>
        rw [step, stepActor, here] at stepped
        cases stepped
      | some x => exact .works rfl here (stepActor_works here stepped)
    | enroll i =>
      obtain ⟨_, _, rfl⟩ := enroll_eq stepped
      exact .of_scene rfl rfl
    | call n => exact stepCall_plays stepped

theorem puts?_of_stirs {v : Act} {box : Nat} (asked : v.stirs box) : s.puts? v = none := by
  cases v <;> first | rfl | exact asked.elim

theorem stir_plays {v : Act} {box : Nat} (asked : v.stirs box) {f : Mailbox Mail → Mailbox Mail}
    (drawn : ∀ b : Mailbox Mail, b.Drawn (f b)) {t : State}
    (scene : t.scene = ⟨s.actors, s.log, s.post.boxes.modify box f⟩) : s.Plays v t := by
  cases here : s.post.boxes[box]? with
  | none =>
    rw [List.modify_eq_self (List.getElem?_eq_none_iff.mp here)] at scene
    exact .of_scene (puts?_of_stirs asked) scene
  | some b =>
    rw [modify_of_getElem? here] at scene
    exact .stirs asked here (drawn b) scene

theorem take_plays (s : State) (box : Nat) : s.Plays (.take box) (s.after (.take box)) := by
  rw [after]
  cases taken : s.post.take? box with
  | none => exact .of_scene rfl rfl
  | some pair =>
    obtain ⟨mail, post⟩ := pair
    obtain ⟨b, b', here, drawn, boxes⟩ := boxes_take taken
    exact .stirs rfl here (.taken drawn) (congrArg (Scene.mk s.actors s.log) boxes)

theorem after_plays (s : State) (v : Act) : s.Plays v (s.after v) := by
  cases v with
  | move m => exact s.move_plays m
  | post target mail => exact deliver_plays .bare target mail rfl rfl rfl rfl
  | sendMessage sender target payload =>
    exact deliver_plays .message target (.message sender payload) rfl rfl rfl rfl
  | sendRequest sender target payload timeout? awaited =>
    obtain ⟨ledger, waiter, same⟩ := s.sendRequest_eq sender target payload timeout? awaited
    rw [same]
    exact deliver_plays _ target _ rfl rfl rfl rfl
  | respond id responder requester reply =>
    rw [after]
    split
    case h_1 t posted => exact .of_scene rfl (scene_respond posted)
    case h_2 => exact .of_scene rfl rfl
  | install capacity => exact .installs rfl rfl
  | take box => exact s.take_plays box
  | close box => exact stir_plays (show (Act.close box).stirs box from rfl) (fun b => .closed) rfl
  | discard box =>
    exact stir_plays (show (Act.discard box).stirs box from rfl) (fun b => .discarded) rfl
  | unrouteFrom c box =>
    refine .of_scene rfl ?_
    rw [after, PostOffice.unrouteFrom]
    split <;> rfl
  | startActor name preStart postStop keep => exact s.startActor_plays name preStart postStop keep
  | stopActor a => exact s.stopActor_plays a
  | tell a mail => exact tell_plays rfl
  | invoke a function args => exact invoke_plays none rfl
  | spawn o keep => exact s.spawnComponent_plays o keep
  | stop id => exact s.stopComponent_plays id
  | restart o => exact s.restartComponent_plays o
  | shutdown => exact s.shutdown_plays
  | execute id function args => exact s.execute_plays id function args
  | wait | expire | cancel | cleanup | sweep | abandon | route | unroute | release =>
    exact .of_scene rfl rfl

def trace (s : State) (a : Nat) : List Moment := (s.log.filter (·.actor = a)).map (·.moment)

section Views

variable {v : Act} {t : State} {a : Nat} {x : Actor}

theorem trace_snoc {time : Duration} {b : Nat} {m : Moment} (log : t.log = s.log ++ [⟨time, b, m⟩])
    (a : Nat) : t.trace a = s.trace a ++ if b = a then [m] else [] := by
  rw [trace, trace, log, List.filter_append, List.map_append]
  by_cases own : b = a <;> simp [own]

theorem Works.moves (works : s.Works a x t) : ∃ y m, t.actors = s.actors.set a y ∧
    t.log = s.log ++ [⟨s.clock, a, m⟩] ∧ x.Becomes y ∧ y.awaited = x.awaited := by
  cases works with
  | leaves idle _ scene | takes idle _ _ _ _ scene =>
    exact ⟨_, _, congrArg Scene.actors scene, congrArg Scene.log scene,
      ⟨rfl, rfl, id, id, by simp [idle], rfl⟩, rfl⟩
  | ends busy _ scene =>
    exact ⟨_, _, congrArg Scene.actors scene, congrArg Scene.log scene,
      ⟨by simp, by simp, by simp, by simp, by simp [busy], by simp⟩, by simp⟩

theorem actor_of_set {y : Actor} (here : s.actors[a]? = some x)
    (moved : t.actors = s.actors.set a y) : t.actors[a]? = some y := by
  rw [moved, List.getElem?_set_self (List.getElem?_eq_some_iff.mp here).1]

theorem Works.actor_of_ne {b : Nat} {y : Actor} (works : s.Works b y t)
    (here : s.actors[a]? = some x) (other : b ≠ a) :
    t.actors[a]? = some x ∧ t.trace a = s.trace a := by
  obtain ⟨z, m, actors, log, _⟩ := works.moves
  rw [actors, List.getElem?_set_ne other, here, trace_snoc log, if_neg other, List.append_nil]
  exact ⟨rfl, rfl⟩

theorem Plays.actor (plays : s.Plays v t) (here : s.actors[a]? = some x) :
    (v = .move (.actor a) ∧ s.Works a x t) ∨ t.trace a = s.trace a ∧
      (t.actors[a]? = some x ∨
        s.halts v a ∧ t.actors[a]? = some { x with told := true, awaited := true }) := by
  have still : t.actors = s.actors → t.log = s.log → t.trace a = s.trace a ∧
      (t.actors[a]? = some x ∨
        s.halts v a ∧ t.actors[a]? = some { x with told := true, awaited := true }) := by
    intro actors log
    rw [trace, log, actors]
    exact ⟨rfl, .inl here⟩
  cases plays with
  | tells _ tells =>
    have log : t.log = s.log := tells.log
    exact .inr ⟨by rw [trace, trace, log], tells.actors here⟩
  | posts _ scene =>
    exact .inr (still (congrArg Scene.actors scene) (congrArg Scene.log scene))
  | comes _ scene =>
    have actors := congrArg Scene.actors scene
    have known := (List.getElem?_eq_some_iff.mp here).1
    refine .inr ⟨?_, .inl ?_⟩
    · rw [trace_snoc (congrArg Scene.log scene), if_neg (by omega), List.append_nil]
    · rw [show t.actors = s.actors ++ _ from actors, List.getElem?_append_left known, here]
  | @works b y move there works =>
    by_cases own : b = a
    · subst own
      rw [here] at there
      cases there
      exact .inl ⟨move, works⟩
    · obtain ⟨same, traced⟩ := works.actor_of_ne here own
      exact .inr ⟨traced, .inl same⟩
  | installs _ scene | stirs _ _ _ scene =>
    exact .inr (still (congrArg Scene.actors scene) (congrArg Scene.log scene))

theorem Plays.works_or_rests {y : Actor} (plays : s.Plays v t) (here : s.actors[a]? = some x)
    (there : t.actors[a]? = some y) : (v = .move (.actor a) ∧ s.Works a x t) ∨
      t.trace a = s.trace a ∧ y.phase = x.phase ∧ y.startup = x.startup := by
  refine (plays.actor here).imp_right fun ⟨traced, actor⟩ => ⟨traced, ?_⟩
  obtain still | ⟨_, told⟩ := actor
  · cases there.symm.trans still
    exact ⟨rfl, rfl⟩
  · cases there.symm.trans told
    exact ⟨rfl, rfl⟩

/-- An actor stays itself, and what has been told or has ended stays so. -/
theorem Plays.becomes (plays : s.Plays v t) (here : s.actors[a]? = some x) :
    ∃ y, t.actors[a]? = some y ∧ x.Becomes y := by
  obtain ⟨_, works⟩ | ⟨_, same | ⟨_, told⟩⟩ := plays.actor here
  · obtain ⟨y, _, actors, _, becomes, _⟩ := works.moves
    exact ⟨y, actor_of_set here actors, becomes⟩
  · exact ⟨x, same, .refl x⟩
  · exact ⟨_, told, rfl, rfl, fun _ => rfl, fun _ => rfl, fun _ ended => ended, rfl⟩

theorem actor_after (here : s.actors[a]? = some x) (v : Act) :
    ∃ y, (s.after v).actors[a]? = some y ∧ x.Becomes y := (s.after_plays v).becomes here

theorem actor_run (here : s.actors[a]? = some x) (acts : List Act) :
    ∃ y, (s.run acts).actors[a]? = some y ∧ x.Becomes y := by
  refine run_induction (P := fun t => ∃ y, t.actors[a]? = some y ∧ x.Becomes y)
    ⟨x, here, .refl x⟩ ?_
  rintro t v _ ⟨y, there, first⟩
  obtain ⟨z, last, second⟩ := actor_after there v
  exact ⟨z, last, first.trans second⟩

/-- What an act means to one mailbox: a piece of mail is offered to it, or its receiver, who may be
an actor, takes one out or closes it. -/
inductive Handles (s : State) (v : Act) (i : Nat) (b : Mailbox Mail) : Mailbox Mail → Prop
  | rests (silent : ∀ mail, s.puts? v ≠ some (i, mail)) : Handles s v i b b
  | offered {sender : Nat} {mail : Mail} (offered : s.offers? v = some (i, sender, mail)) :
    Handles s v i b (b.offer sender mail).2
  | drawn {b' : Mailbox Mail} (silent : s.puts? v = none) (receiver : v.stirs i ∨
      ∃ a x, v = .move (.actor a) ∧ s.actors[a]? = some x ∧ x.box = i) (drawn : b.Drawn b') :
    Handles s v i b b'

variable {i : Nat} {b : Mailbox Mail}

theorem drawn_modify (here : s.post.boxes[i]? = some b) {j : Nat} {f : Mailbox Mail → Mailbox Mail}
    (drawn : b.Drawn (f b)) :
    (s.post.boxes.modify j f)[i]? = some b ∨
      j = i ∧ ∃ b', (s.post.boxes.modify j f)[i]? = some b' ∧ b.Drawn b' := by
  by_cases own : j = i
  · subst own
    exact .inr ⟨rfl, f b, by rw [List.getElem?_modify_eq, here]; rfl, drawn⟩
  · exact .inl (by rw [List.getElem?_modify_ne _ _ own, here])

theorem drawn_set (here : s.post.boxes[i]? = some b) {j : Nat} {b₀ left : Mailbox Mail}
    (there : s.post.boxes[j]? = some b₀) (drawn : b₀.Drawn left) :
    (s.post.boxes.set j left)[i]? = some b ∨
      j = i ∧ ∃ b', (s.post.boxes.set j left)[i]? = some b' ∧ b.Drawn b' := by
  rw [← modify_of_getElem? there fun _ => left]
  by_cases own : j = i
  · subst own
    rw [here] at there
    cases there
    exact drawn_modify (f := fun _ => left) here drawn
  · exact .inl (by rw [List.getElem?_modify_ne _ _ own, here])

theorem Works.box (works : s.Works a x t) (here : s.post.boxes[i]? = some b) :
    t.post.boxes[i]? = some b ∨ x.box = i ∧ ∃ b', t.post.boxes[i]? = some b' ∧ b.Drawn b' := by
  cases works with
  | leaves _ _ scene =>
    rw [show t.post.boxes = _ from congrArg Scene.boxes scene]
    exact drawn_modify here .closed
  | takes _ _ _ there taken scene =>
    rw [show t.post.boxes = _ from congrArg Scene.boxes scene]
    dsimp only
    exact drawn_set here there (.taken taken)
  | ends _ _ scene =>
    rw [show t.post.boxes = _ from congrArg Scene.boxes scene]
    dsimp only
    split
    · exact drawn_modify here .discarded
    · exact .inl here

theorem Plays.box (plays : s.Plays v t) (here : s.post.boxes[i]? = some b) :
    ∃ b', t.post.boxes[i]? = some b' ∧ s.Handles v i b b' := by
  have known := (List.getElem?_eq_some_iff.mp here).1
  have rests : s.puts? v = none → s.Handles v i b b := fun silent =>
    .rests fun mail puts => by rw [silent] at puts; cases puts
  cases plays with
  | tells silent tells =>
    rw [show t.post.boxes = s.post.boxes from tells.boxes]
    exact ⟨b, here, rests silent⟩
  | @posts j sender mail offered scene =>
    rw [show t.post.boxes = _ from congrArg Scene.boxes scene]
    by_cases own : j = i
    · subst own
      exact ⟨_, by rw [List.getElem?_modify_eq, here]; rfl, .offered offered⟩
    · refine ⟨b, by rw [List.getElem?_modify_ne _ _ own, here], .rests fun mail' puts => own ?_⟩
      simp only [puts?, offered, Option.bind_some, Option.ite_none_right_eq_some] at puts
      exact congrArg Prod.fst (Option.some.inj puts.2)
  | comes silent scene =>
    rw [show t.post.boxes = _ from congrArg Scene.boxes scene]
    exact ⟨b, by rw [List.getElem?_append_left known, here], rests silent⟩
  | installs asked scene =>
    rw [show t.post.boxes = _ from congrArg Scene.boxes scene]
    exact ⟨b, by rw [List.getElem?_append_left known, here], rests (by rw [asked]; rfl)⟩
  | @works a x move actor works =>
    have silent : s.puts? v = none := by rw [move]; rfl
    obtain same | ⟨own, b', there, drawn⟩ := works.box here
    · exact ⟨b, same, rests silent⟩
    · exact ⟨b', there, .drawn silent (.inr ⟨a, x, move, actor, own⟩) drawn⟩
  | stirs asked there drawn scene =>
    rw [show t.post.boxes = _ from congrArg Scene.boxes scene]
    dsimp only
    obtain same | ⟨rfl, b', there, drawn⟩ := drawn_set here there drawn
    · exact ⟨b, same, rests (puts?_of_stirs asked)⟩
    · exact ⟨b', there, .drawn (puts?_of_stirs asked) (.inl asked) drawn⟩

theorem Works.boxes_length (works : s.Works a x t) :
    t.post.boxes.length = s.post.boxes.length := by
  cases works with
  | leaves _ _ scene =>
    rw [show t.post.boxes = _ from congrArg Scene.boxes scene]
    exact List.length_modify _ _ _
  | takes _ _ _ _ _ scene =>
    rw [show t.post.boxes = _ from congrArg Scene.boxes scene]
    exact List.length_set
  | ends _ _ scene =>
    rw [show t.post.boxes = _ from congrArg Scene.boxes scene]
    dsimp only
    split
    · exact List.length_modify _ _ _
    · rfl

theorem Plays.boxes_length (plays : s.Plays v t) :
    t.post.boxes.length = s.post.boxes.length ∨
      ∃ capacity, t.post.boxes = s.post.boxes ++ [{ capacity := capacity }] := by
  cases plays with
  | tells _ tells => exact .inl (congrArg List.length tells.boxes)
  | posts _ scene =>
    rw [show t.post.boxes = _ from congrArg Scene.boxes scene]
    exact .inl (List.length_modify _ _ _)
  | comes _ scene => exact .inr ⟨_, congrArg Scene.boxes scene⟩
  | works _ _ works => exact .inl works.boxes_length
  | installs _ scene => exact .inr ⟨_, congrArg Scene.boxes scene⟩
  | stirs _ _ _ scene =>
    rw [show t.post.boxes = _ from congrArg Scene.boxes scene]
    exact .inl List.length_set

theorem Plays.boxes_le (plays : s.Plays v t) : s.post.boxes.length ≤ t.post.boxes.length := by
  obtain same | ⟨_, more⟩ := plays.boxes_length
  · exact Nat.le_of_eq same.symm
  · rw [more, List.length_append]
    exact Nat.le_add_right _ _

theorem Plays.box_cases (plays : s.Plays v t) {b' : Mailbox Mail}
    (there : t.post.boxes[i]? = some b') :
    (∃ b, s.post.boxes[i]? = some b ∧ s.Handles v i b b') ∨
      ∃ capacity, b' = { capacity := capacity } := by
  cases here : s.post.boxes[i]? with
  | some b =>
    obtain ⟨b'', there', handles⟩ := plays.box here
    rw [there] at there'
    cases there'
    exact .inl ⟨b, rfl, handles⟩
  | none =>
    have new := List.getElem?_eq_none_iff.mp here
    have known := (List.getElem?_eq_some_iff.mp there).1
    obtain same | ⟨capacity, boxes⟩ := plays.boxes_length
    · omega
    · have last : i = s.post.boxes.length := by
        rw [boxes, List.length_append, List.length_singleton] at known
        omega
      rw [boxes, last, List.getElem?_concat_length] at there
      exact .inr ⟨capacity, (Option.some.inj there).symm⟩

end Views

end State

end ComponentHost
