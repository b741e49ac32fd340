import ComponentHost.Proofs.Host.Component.LifecycleSteps
import ComponentHost.Proofs.Host.Actor.HookWork

/-! The scene of a host: its actors, what they did so far, and what lies in the mailboxes. An actor
that works changes its own place in it, and stops tell actors and nothing more; exchanges, calls
and guests at work do not show. -/

namespace ComponentHost

structure Scene where
  actors : List Actor
  log : List LogEntry
  boxes : List (Mailbox Mail)

namespace State

variable {s : State}

def scene (s : State) : Scene := ⟨s.actors, s.log, s.post.boxes⟩

section Frame

@[simp] theorem scene_carryOn (s : State) (n : Nat) (next : Call ⊕ Answer) :
    (s.carryOn n next).scene = s.scene := by
  cases next <;> rfl

@[simp] theorem scene_enterOrAnswer (s : State) (next : Call ⊕ Answer) :
    (s.enterOrAnswer next).2.scene = s.scene := by
  cases next <;> rfl

theorem scene_updateActor (s : State) (a : Nat) (f : Actor → Actor) :
    (s.updateActor a f).scene = { s.scene with actors := s.scene.actors.modify a f } := rfl

@[simp] theorem scene_loseMail (s : State) (mail : Mail) : (s.loseMail mail).scene = s.scene := by
  cases mail <;> rfl

@[simp] theorem scene_loseMails (s : State) (mails : List Mail) :
    (mails.foldl loseMail s).scene = s.scene := by
  induction mails generalizing s with
  | nil => rfl
  | cons mail mails ih => rw [List.foldl_cons, ih, scene_loseMail]

@[simp] theorem scene_endDelivery (s : State) (purpose : Purpose) (target : ComponentId)
    (r : Except PostError Unit) : (s.endDelivery purpose target r).1.scene = s.scene := by
  cases r <;> cases purpose <;> rfl

theorem scene_respond {t : State} {id : CorrelationId} {responder requester : ComponentId}
    {reply : Reply} (posted : s.respond id responder requester reply = .ok t) :
    t.scene = s.scene := by
  unfold respond at posted
  split at posted
  · cases posted
  · cases posted
    rfl

@[simp] theorem scene_perform (s : State) (responder : ComponentId) (effect : Effect) :
    (s.perform responder effect).scene = s.scene := by
  cases effect with
  | nothing | answer => rfl
  | respond id requester reply =>
    rw [perform]
    split
    · exact scene_respond ‹_›
    · rfl

@[simp] theorem scene_workFor (s : State) (role : Role) (hook : Hook) :
    (s.workFor role hook).2.scene = s.scene := by
  rw [workFor_snd]
  rfl

@[simp] theorem clock_workFor (s : State) (role : Role) (hook : Hook) :
    (s.workFor role hook).2.clock = s.clock :=
  congrArg Outline.clock (outline_workFor s role hook)

theorem modify_of_getElem? {α : Type} {l : List α} {i : Nat} {x : α} (here : l[i]? = some x)
    (f : α → α) : l.modify i f = l.set i (f x) := by
  refine List.ext_getElem? fun j => ?_
  by_cases same : i = j
  · subst same
    rw [List.getElem?_modify_eq, here, List.getElem?_set_self (List.getElem?_eq_some_iff.mp here).1]
    rfl
  · rw [List.getElem?_modify_ne _ _ same, List.getElem?_set_ne same]

theorem offer_of_box {p : PostOffice} {box : Nat} {b : Mailbox Mail}
    (here : p.boxes[box]? = some b) (sender : Nat) (mail : Mail) :
    p.offer box sender mail = ((b.offer sender mail).1,
      { p with boxes := p.boxes.set box (b.offer sender mail).2 }) := by
  rw [PostOffice.offer, here]

theorem boxes_offer (p : PostOffice) (box sender : Nat) (mail : Mail) :
    (p.offer box sender mail).2.boxes = p.boxes.modify box fun b => (b.offer sender mail).2 := by
  cases here : p.boxes[box]? with
  | none =>
    rw [PostOffice.offer, here]
    exact (List.modify_eq_self (List.getElem?_eq_none_iff.mp here)).symm
  | some b =>
    rw [offer_of_box here]
    exact (modify_of_getElem? here fun b => (b.offer sender mail).2).symm

theorem boxes_take {p p' : PostOffice} {box : Nat} {mail : Mail}
    (taken : p.take? box = some (mail, p')) :
    ∃ b b', p.boxes[box]? = some b ∧ b.take? = some (mail, b') ∧
      p'.boxes = p.boxes.set box b' := by
  unfold PostOffice.take? at taken
  simp only [Option.bind_eq_bind, Option.bind_eq_some_iff] at taken
  obtain ⟨b, here, ⟨_, b'⟩, taken, same⟩ := taken
  cases same
  exact ⟨b, b', here, taken, rfl⟩

end Frame

section Work

variable {a : Nat} {x : Actor}

theorem scene_begin (here : s.scene.actors[a]? = some x) (hook : Hook) :
    ∃ work due, x.role.Finds s.clock hook work due ∧ (s.begin a hook).scene =
      ⟨s.scene.actors.set a { x with phase := .busy hook work due },
        s.scene.log ++ [⟨s.clock, a, .began hook⟩], s.scene.boxes⟩ := by
  have here' : s.actors[a]? = some x := here
  have same := s.scene_workFor x.role hook
  have clock := s.clock_workFor x.role hook
  simp only [scene, Scene.mk.injEq] at same
  refine ⟨(s.workFor x.role hook).1, (s.workFor x.role hook).1.course.span.map (s.clock + ·),
    ⟨s.workFor_does x.role hook, rfl⟩, ?_⟩
  unfold begin
  rw [here']
  simp only [scene, updateActor, note, same, clock, modify_of_getElem? here']

theorem scene_createActor (s : State) (name : String) (role : Role) :
    ∃ work due, role.Finds s.clock .preStart work due ∧ (s.createActor name role).2.scene =
      ⟨s.actors ++ [{ name, box := s.post.boxes.length, role, phase := .busy .preStart work due }],
        s.log ++ [⟨s.clock, s.actors.length, .began .preStart⟩],
        s.post.boxes ++ [{ capacity := s.mailboxCapacity }]⟩ := by
  obtain ⟨work, due, finds, same⟩ := scene_begin (s := { s with
      post := (s.post.install s.mailboxCapacity).2
      actors := s.actors ++ [{ name, box := s.post.boxes.length, role, phase := .idle }] })
    (List.getElem?_concat_length) .preStart
  refine ⟨work, due, finds, same.trans ?_⟩
  simp [scene, PostOffice.install]

theorem scene_bury (here : s.scene.actors[a]? = some x) (ending : Ending) :
    (s.bury a ending).scene =
      ⟨s.scene.actors.set a { x with phase := .ended ending }, s.scene.log,
        s.scene.boxes.modify x.box Mailbox.discard⟩ := by
  have same := scene_loseMails { s with post := s.post.discard x.box } (s.post.queued x.box)
  have here' : s.actors[a]? = some x := here
  unfold bury
  rw [here', scene_updateActor, same]
  exact congrArg (Scene.mk · s.log _) (modify_of_getElem? here' _)

end Work

end State

def Actor.leave (x : Actor) : Hook → Ending → Actor
  | _, .panicked text => { x with phase := .ended (.panicked text) }
  | .preStart, .failed reason =>
    { x with startup := some (.error reason), phase := .ended .finished }
  | .preStart, .finished => { x with startup := some (.ok ()), phase := .idle }
  | .handle _, _ => { x with phase := .idle }
  | .postStop, ending => { x with phase := .ended ending }

namespace State

variable {s : State} {a : Nat} {x : Actor}

theorem scene_endHook (here : s.scene.actors[a]? = some x) (hook : Hook) (work : Work) :
    (s.endHook a x hook work).scene =
      ⟨s.scene.actors.set a (x.leave hook work.course.ending),
        s.scene.log ++ [⟨s.clock, a, .ended hook work.course.ending⟩],
        if (x.leave hook work.course.ending).hasEnded then
          s.scene.boxes.modify x.box Mailbox.discard
        else s.scene.boxes⟩ := by
  have moved : ∀ {t : State} {f : Actor → Actor}, t.scene = (s.note a
      (.ended hook work.course.ending)).scene → (t.updateActor a f).scene =
        ⟨s.scene.actors.set a (f x), s.scene.log ++ [⟨s.clock, a, .ended hook work.course.ending⟩],
          s.scene.boxes⟩ := by
    intro t f same
    rw [scene_updateActor, same]
    exact congrArg (Scene.mk · _ _) (modify_of_getElem? here f)
  have buried : ∀ {t : State} (ending : Ending), t.scene = (s.note a
      (.ended hook work.course.ending)).scene → (t.bury a ending).scene =
        ⟨s.scene.actors.set a { x with phase := .ended ending },
          s.scene.log ++ [⟨s.clock, a, .ended hook work.course.ending⟩],
          s.scene.boxes.modify x.box Mailbox.discard⟩ := by
    intro t ending same
    have still : t.scene.actors[a]? = some x := by rw [same]; exact here
    rw [scene_bury still, same]
    rfl
  have performed := scene_perform (s.note a (.ended hook work.course.ending)) ⟨x.name⟩ work.effect
  unfold endHook
  generalize work.course.ending = ending at moved buried performed ⊢
  cases ending with
  | panicked text =>
    cases hook with
    | handle mail => exact buried (.panicked text) (scene_loseMail _ mail)
    | preStart | postStop => exact buried (.panicked text) rfl
  | finished =>
    cases hook with
    | preStart | handle => exact moved performed
    | postStop => exact buried .finished performed
  | failed reason =>
    cases hook with
    | preStart =>
      have updated := moved (f := fun actor => { actor with startup := some (.error reason) })
        performed
      refine (scene_bury (x := { x with startup := some (.error reason) }) ?_ .finished).trans ?_
      · rw [updated]
        exact List.getElem?_set_self (List.getElem?_eq_some_iff.mp here).1
      · rw [updated]
        simp [Actor.leave, Actor.hasEnded]
    | handle => exact moved performed
    | postStop => exact buried (.failed reason) performed

/-- What an actor does with one step of its own: it leaves its mailbox for good, takes the mail
that has waited longest, or is done with a hook. -/
inductive Works (s : State) (a : Nat) (x : Actor) (t : State) : Prop
  | leaves {work : Work} {due : Option Duration} (idle : x.phase = .idle)
    (reason : x.told = true ∨ s.isHeld a = false)
    (scene : t.scene = ⟨s.actors.set a { x with phase := .busy .postStop work due },
      s.log ++ [⟨s.clock, a, .began .postStop⟩], s.post.boxes.modify x.box Mailbox.close⟩)
    (finds : x.role.Finds s.clock .postStop work due)
  | takes {b b' : Mailbox Mail} {mail : Mail} {work : Work} {due : Option Duration}
    (idle : x.phase = .idle) (told : x.told = false) (held : s.isHeld a = true)
    (box : s.post.boxes[x.box]? = some b) (taken : b.take? = some (mail, b'))
    (scene : t.scene = ⟨s.actors.set a { x with phase := .busy (.handle mail) work due },
      s.log ++ [⟨s.clock, a, .began (.handle mail)⟩], s.post.boxes.set x.box b'⟩)
    (finds : x.role.Finds s.clock (.handle mail) work due)
  | ends {hook : Hook} {work : Work} {due : Duration} (busy : x.phase = .busy hook work (some due))
    (past : due ≤ s.clock)
    (scene : t.scene = ⟨s.actors.set a (x.leave hook work.course.ending),
      s.log ++ [⟨s.clock, a, .ended hook work.course.ending⟩],
      if (x.leave hook work.course.ending).hasEnded then
        s.post.boxes.modify x.box Mailbox.discard
      else s.post.boxes⟩)

theorem stepActor_works {t : State} (here : s.actors[a]? = some x)
    (stepped : s.stepActor a = some t) : s.Works a x t := by
  unfold stepActor at stepped
  rw [here] at stepped
  dsimp only at stepped
  cases phase : x.phase with
  | ended ending =>
    rw [phase] at stepped
    cases stepped
  | busy hook work due =>
    rw [phase] at stepped
    cases due with
    | none => cases stepped
    | some due =>
      obtain ⟨past, same⟩ := Option.ite_none_right_eq_some.mp stepped
      cases same
      exact .ends phase past (scene_endHook here hook work)
  | idle =>
    rw [phase] at stepped
    dsimp only at stepped
    by_cases stops : (x.told || !s.isHeld a) = true
    · rw [if_pos stops] at stepped
      cases stepped
      obtain ⟨work, due, finds, begun⟩ :=
        scene_begin (s := { s with post := s.post.close x.box }) here .postStop
      exact .leaves phase (by simpa using stops) begun finds
    · rw [if_neg stops] at stepped
      have stays : x.told = false ∧ s.isHeld a = true := by simpa using stops
      cases taken : s.post.take? x.box with
      | none =>
        rw [taken] at stepped
        cases stepped
      | some pair =>
        obtain ⟨mail, post⟩ := pair
        rw [taken] at stepped
        cases stepped
        obtain ⟨b, b', box, taken, boxes⟩ := boxes_take taken
        obtain ⟨work, due, finds, begun⟩ := scene_begin (s := { s with post }) here (.handle mail)
        have left : { s with post }.scene.boxes = s.post.boxes.set x.box b' := boxes
        rw [left] at begun
        exact .takes phase stays.1 stays.2 box taken begun finds

end State

structure Scene.Tells (who : Nat → Prop) (s t : Scene) : Prop where
  log : t.log = s.log
  boxes : t.boxes = s.boxes
  length : t.actors.length = s.actors.length
  actors : ∀ {a x}, s.actors[a]? = some x → t.actors[a]? = some x ∨
    who a ∧ t.actors[a]? = some { x with told := true, awaited := true }

namespace Scene.Tells

variable {who who' : Nat → Prop} {s t u : Scene}

theorem refl (s : Scene) : Tells who s s := ⟨rfl, rfl, rfl, .inl⟩

theorem of_eq (same : t = s) : Tells who s t := same ▸ refl t

theorem trans (first : Tells who s t) (second : Tells who t u) : Tells who s u where
  log := second.log.trans first.log
  boxes := second.boxes.trans first.boxes
  length := second.length.trans first.length
  actors here := by
    obtain still | ⟨told, moved⟩ := first.actors here
    · exact second.actors still
    · obtain same | ⟨_, same⟩ := second.actors moved <;> exact .inr ⟨told, same⟩

theorem mono (tells : Tells who s t) (wider : ∀ a, who a → who' a) : Tells who' s t where
  log := tells.log
  boxes := tells.boxes
  length := tells.length
  actors here := (tells.actors here).imp_right fun ⟨told, same⟩ => ⟨wider _ told, same⟩

end Scene.Tells

namespace State

variable {s : State}

section Halt

theorem beginHalt_tells (s : State) (a : Nat) :
    Scene.Tells (· = a) s.scene (s.beginHalt a).1.scene := by
  rw [beginHalt_fst]
  refine ⟨rfl, rfl, List.length_modify _ _ _, fun {b x} here => ?_⟩
  rw [scene_updateActor]
  by_cases same : a = b
  · subst same
    exact .inr ⟨rfl, by rw [List.getElem?_modify_eq, here]; rfl⟩
  · exact .inl (by rw [List.getElem?_modify_ne _ _ same, here])

theorem told_tells (s : State) (id : ComponentId) (a : Nat) :
    Scene.Tells (· = a) s.scene (s.told id a).scene :=
  beginHalt_tells ({ s with post := s.post.unroute id }.dropPending id) a

theorem beginStop_tells (s : State) (id : ComponentId) :
    Scene.Tells (fun a => s.roster.get? id = some a) s.scene (s.beginStop id).1.scene := by
  obtain ⟨_, _, same⟩ | ⟨a, here, ⟨_, same⟩ | ⟨_, same⟩⟩ := s.beginStop_cases id <;> rw [same]
  · exact .refl _
  · exact (s.told_tells id a).mono fun b same => same ▸ here
  · exact (s.told_tells id a).mono fun b same => same ▸ here

theorem drain_tells (ids : List ComponentId) (s : State) :
    Scene.Tells (fun a => ∃ id ∈ ids, s.roster.get? id = some a) s.scene (s.drain ids).1.scene := by
  -- Whoever stands on the roster in between stood there when the drain began.
  refine (drain_induction (P := fun t =>
    (∀ id a, t.roster.get? id = some a → s.roster.get? id = some a) ∧
      Scene.Tells _ s.scene t.scene) ⟨fun _ _ here => here, .refl _⟩ ?_).2
  rintro t id mem ⟨stood, before⟩
  refine ⟨fun j a here => stood j a ?_, before.trans ((t.beginStop_tells id).mono ?_)⟩
  · obtain same | ⟨_, gone⟩ := (t.beginStop_sheds id).roster j
    · exact same ▸ here
    · rw [gone] at here
      cases here
  · exact fun a here => ⟨id, mem, stood id a here⟩

end Halt

end State

end ComponentHost
