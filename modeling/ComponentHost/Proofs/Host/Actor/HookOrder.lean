import ComponentHost.Proofs.Host.Actor.Mailboxes

/-! The life of an actor: its start hook; then, if that succeeds, one piece of mail after the other
in the order in which its mailbox took them in; last its stop hook, unless it died with mail in
hand. -/

namespace ComponentHost

def Moment.taken : Moment → List Mail
  | .began (.handle mail) => [mail]
  | _ => []

inductive Stage
  | idle
  | handling (mail : Mail)
  | died (mail : Mail) (text : String)
  | stopping
  | stopped (ending : Ending)

namespace Stage

def trace : Stage → List Moment
  | idle => []
  | handling mail => [.began (.handle mail)]
  | died mail text => [.began (.handle mail), .ended (.handle mail) (.panicked text)]
  | stopping => [.began .postStop]
  | stopped ending => [.began .postStop, .ended .postStop ending]

def inHand : Stage → List Mail
  | handling mail | died mail _ => [mail]
  | idle | stopping | stopped _ => []

end Stage

structure Handled where
  mail : Mail
  failure : Option String := none

namespace Handled

def ending (h : Handled) : Ending :=
  match h.failure with
  | none => .finished
  | some reason => .failed reason

def trace (h : Handled) : List Moment := [.began (.handle h.mail), .ended (.handle h.mail) h.ending]

end Handled

inductive Life
  | starting
  | refused (reason : String)
  | stillborn (text : String)
  | started (done : List Handled) (stage : Stage)

namespace Life

def trace : Life → List Moment
  | starting => [.began .preStart]
  | refused reason => [.began .preStart, .ended .preStart (.failed reason)]
  | stillborn text => [.began .preStart, .ended .preStart (.panicked text)]
  | started done stage =>
    [.began .preStart, .ended .preStart .finished] ++ done.flatMap Handled.trace ++ stage.trace

def handled : Life → List Mail
  | started done stage => done.map Handled.mail ++ stage.inHand
  | starting | refused _ | stillborn _ => []

def startup : Life → Option (Except String Unit)
  | starting | stillborn _ => none
  | refused reason => some (.error reason)
  | started .. => some (.ok ())

def opening : Life → Option Ending
  | starting => none
  | refused reason => some (.failed reason)
  | stillborn text => some (.panicked text)
  | started .. => some .finished

/-- The phase that an actor is in when its life has come so far. -/
def Fits : Life → Phase → Prop
  | starting, .busy hook _ _ => hook = .preStart
  | refused _, .ended ending => ending = .finished
  | stillborn text, .ended ending => ending = .panicked text
  | started _ .idle, .idle => True
  | started _ (.handling mail), .busy hook _ _ => hook = .handle mail
  | started _ (.died _ text), .ended ending => ending = .panicked text
  | started _ .stopping, .busy hook _ _ => hook = .postStop
  | started _ (.stopped last), .ended ending => ending = last
  | _, _ => False

inductive Next : Life → Moment → Life → Prop
  | start : Next starting (.ended .preStart .finished) (started [] .idle)
  | refuse (reason : String) : Next starting (.ended .preStart (.failed reason)) (refused reason)
  | perish (text : String) : Next starting (.ended .preStart (.panicked text)) (stillborn text)
  | take (done : List Handled) (mail : Mail) :
    Next (started done .idle) (.began (.handle mail)) (started done (.handling mail))
  | finish (done : List Handled) (mail : Mail) (failure : Option String) :
    Next (started done (.handling mail)) (.ended (.handle mail) (Handled.ending ⟨mail, failure⟩))
      (started (done ++ [⟨mail, failure⟩]) .idle)
  | die (done : List Handled) (mail : Mail) (text : String) :
    Next (started done (.handling mail)) (.ended (.handle mail) (.panicked text))
      (started done (.died mail text))
  | leave (done : List Handled) :
    Next (started done .idle) (.began .postStop) (started done .stopping)
  | stop (done : List Handled) (ending : Ending) :
    Next (started done .stopping) (.ended .postStop ending) (started done (.stopped ending))

variable {life life' : Life} {m : Moment}

theorem Next.trace (next : Next life m life') : life'.trace = life.trace ++ [m] := by
  cases next <;> simp [Life.trace, Stage.trace, Handled.trace]

theorem Next.handled (next : Next life m life') :
    life'.handled = life.handled ++ m.taken := by
  cases next <;> simp [Life.handled, Stage.inHand, Moment.taken]

theorem flatMap_taken (life : Life) : life.trace.flatMap Moment.taken = life.handled := by
  have handled : ∀ done : List Handled,
      (done.flatMap Handled.trace).flatMap Moment.taken = done.map Handled.mail := by
    intro done
    induction done with
    | nil => rfl
    | cons h done ih =>
      rw [List.flatMap_cons, List.flatMap_append, ih]
      rfl
  cases life with
  | starting | refused | stillborn => rfl
  | started done stage =>
    rw [trace, List.flatMap_append, List.flatMap_append, handled]
    cases stage <;> simp [Life.handled, Stage.trace, Stage.inHand, Moment.taken]

end Life

namespace State

variable {s t : State} {a : Nat} {x : Actor} {arrived : List Mail} {life : Life}

def handled (s : State) (a : Nat) : List Mail := (s.trace a).flatMap Moment.taken

/-- An actor leads a life, into whose mailbox came what has arrived. -/
structure Leads (s : State) (a : Nat) (x : Actor) (arrived : List Mail) (life : Life) : Prop where
  trace : s.trace a = life.trace
  fits : life.Fits x.phase
  startup : x.startup = life.startup
  arrivals : if x.hasEnded then life.handled <+: arrived
    else arrived = life.handled ++ s.post.queued x.box

section Step

theorem Leads.idle (leads : s.Leads a x arrived life) (idle : x.phase = .idle) :
    ∃ done, life = .started done .idle := by
  have fits := leads.fits
  rw [idle] at fits
  cases life with
  | started done stage =>
    cases stage with
    | idle => exact ⟨done, rfl⟩
    | _ => exact fits.elim
  | _ => exact fits.elim

theorem Leads.next (leads : s.Leads a x arrived life) {hook : Hook} {work : Work}
    {due : Option Duration} (busy : x.phase = .busy hook work due) (ending : Ending) :
    ∃ life', life.Next (.ended hook ending) life' ∧ life'.Fits (x.leave hook ending).phase ∧
      (x.leave hook ending).startup = life'.startup := by
  have fits := leads.fits
  have startup := leads.startup
  rw [busy] at fits
  cases life with
  | starting =>
    obtain rfl := show hook = .preStart from fits
    cases ending with
    | finished => exact ⟨_, .start, trivial, rfl⟩
    | failed reason => exact ⟨_, .refuse reason, rfl, rfl⟩
    | panicked text => exact ⟨_, .perish text, rfl, startup⟩
  | started done stage =>
    cases stage with
    | handling mail =>
      obtain rfl := show hook = .handle mail from fits
      cases ending with
      | finished => exact ⟨_, .finish done mail none, trivial, startup⟩
      | failed reason => exact ⟨_, .finish done mail (some reason), trivial, startup⟩
      | panicked text => exact ⟨_, .die done mail text, rfl, startup⟩
    | stopping =>
      obtain rfl := show hook = .postStop from fits
      cases ending <;> exact ⟨_, .stop done _, rfl, startup⟩
    | _ => exact fits.elim
  | _ => exact fits.elim

theorem Leads.queued (leads : s.Leads a x arrived life) (alive : x.hasEnded = false) :
    arrived = life.handled ++ s.post.queued x.box := by
  have arrivals := leads.arrivals
  rwa [alive, if_neg Bool.false_ne_true] at arrivals

theorem Leads.handled_prefix (leads : s.Leads a x arrived life) : life.handled <+: arrived := by
  have arrivals := leads.arrivals
  split at arrivals
  · exact arrivals
  · exact ⟨_, arrivals.symm⟩

theorem Leads.log (leads : s.Leads a x arrived life) {m : Moment} {life' : Life} {time : Duration}
    (next : life.Next m life') (log : t.log = s.log ++ [⟨time, a, m⟩]) :
    t.trace a = life'.trace := by
  rw [trace_snoc log, if_pos rfl, leads.trace, next.trace]

theorem Works.leads (works : s.Works a x t) (here : s.actors[a]? = some x)
    (leads : s.Leads a x arrived life) :
    ∃ y life', t.actors[a]? = some y ∧ t.Leads a y arrived life' := by
  cases works with
  | leaves idle _ scene =>
    obtain ⟨done, rfl⟩ := leads.idle idle
    have queued := leads.queued (by simp [Actor.hasEnded, idle])
    have boxes : t.post.boxes = s.post.boxes.modify x.box Mailbox.close :=
      congrArg Scene.boxes scene
    have same : t.post.queued x.box = s.post.queued x.box := by
      rw [PostOffice.queued, PostOffice.queued, boxes, List.getElem?_modify_eq]
      cases s.post.boxes[x.box]? <;> rfl
    refine ⟨_, _, actor_of_set here (congrArg Scene.actors scene),
      leads.log (.leave done) (congrArg Scene.log scene), rfl, leads.startup, ?_⟩
    simpa [Actor.hasEnded, same, Life.handled, Stage.inHand] using queued
  | @takes b b' mail _ _ idle _ _ box taken scene =>
    obtain ⟨done, rfl⟩ := leads.idle idle
    have queued := leads.queued (by simp [Actor.hasEnded, idle])
    have boxes : t.post.boxes = s.post.boxes.set x.box b' := congrArg Scene.boxes scene
    have before : s.post.queued x.box = mail :: b'.queue := by
      rw [PostOffice.queued, box]
      exact Mailbox.take?_eq_some taken
    have after : t.post.queued x.box = b'.queue := by
      rw [PostOffice.queued, boxes,
        List.getElem?_set_self (List.getElem?_eq_some_iff.mp box).1]
    refine ⟨_, _, actor_of_set here (congrArg Scene.actors scene),
      leads.log (.take done mail) (congrArg Scene.log scene), rfl, leads.startup, ?_⟩
    rw [before] at queued
    simpa [Actor.hasEnded, after, Life.handled, Stage.inHand] using queued
  | @ends hook work due busy _ scene =>
    obtain ⟨life', next, fits, startup⟩ := leads.next busy work.course.ending
    have queued := leads.queued (by simp [Actor.hasEnded, busy])
    have handled : life'.handled = life.handled := by simp [next.handled, Moment.taken]
    refine ⟨_, life', actor_of_set here (congrArg Scene.actors scene),
      leads.log next (congrArg Scene.log scene), fits, startup, ?_⟩
    split
    · rw [handled]
      exact ⟨_, queued.symm⟩
    · case _ alive =>
      have boxes : t.post.boxes = s.post.boxes := by
        have boxes := congrArg Scene.boxes scene
        dsimp only at boxes
        rw [if_neg alive] at boxes
        exact boxes
      rw [handled, Actor.box_leave, PostOffice.queued, boxes]
      exact queued

end Step

def put (s : State) (v : Act) (box : Nat) : List Mail :=
  match s.puts? v with
  | some (i, mail) => if i = box then [mail] else []
  | none => []

def arrivals (s : State) (box : Nat) : List Act → List Mail
  | [] => []
  | v :: acts => s.put v box ++ (s.after v).arrivals box acts

theorem put_of_silent {v : Act} (silent : s.puts? v = none) (box : Nat) : s.put v box = [] := by
  rw [put, silent]

theorem Handles.queue {v : Act} {i : Nat} {b b' : Mailbox Mail} (handles : s.Handles v i b b')
    (here : s.post.boxes[i]? = some b) (undrawn : ¬ v.stirs i)
    (others : ∀ c y, v = .move (.actor c) → s.actors[c]? = some y → y.box ≠ i) :
    b'.queue = b.queue ++ s.put v i := by
  cases handles with
  | rests silent =>
    have nothing : s.put v i = [] := by
      rw [put]
      split
      · case _ j mail puts =>
        refine if_neg ?_
        rintro rfl
        exact silent mail puts
      · rfl
    rw [nothing, List.append_nil]
  | @offered sender mail offered =>
    have puts : s.put v i = if (b.offer sender mail).1 = .accepted then [mail] else [] := by
      rw [put, puts?, offered, Option.bind_some]
      dsimp only
      rw [offer_of_box here]
      by_cases accepted : (b.offer sender mail).1 = .accepted <;> simp [accepted]
    rw [puts]
    cases offer : b.offer sender mail with
    | mk o b' =>
      by_cases accepted : o = .accepted
      · subst accepted
        rw [if_pos rfl]
        exact (Mailbox.offer_accepted offer).2
      · rw [if_neg accepted, List.append_nil]
        exact Mailbox.offer_not_accepted offer accepted
  | drawn _ receiver _ =>
    obtain stirs | ⟨c, y, move, there, box⟩ := receiver
    · exact absurd stirs undrawn
    · exact absurd box (others c y move there)

theorem Tidy.queued_after (tidy : s.Tidy) (here : s.actors[a]? = some x) {v : Act}
    (undrawn : ¬ v.stirs x.box) (other : v ≠ .move (.actor a)) :
    (s.after v).post.queued x.box = s.post.queued x.box ++ s.put v x.box := by
  obtain ⟨b, known⟩ := tidy.box here
  obtain ⟨b', left, handles⟩ := (s.after_plays v).box known
  have queue := handles.queue known undrawn fun c y move there box =>
    other (by rw [move, tidy.apart _ _ _ _ there here box])
  have before : s.post.queued x.box = b.queue := by rw [PostOffice.queued, known]
  rw [before, ← queue, PostOffice.queued, left]

theorem Leads.after (leads : s.Leads a x arrived life) (here : s.actors[a]? = some x)
    (tidy : s.Tidy) {v : Act} (undrawn : ¬ v.stirs x.box) {y : Actor}
    (there : (s.after v).actors[a]? = some y) :
    ∃ life', (s.after v).Leads a y (arrived ++ s.put v x.box) life' := by
  by_cases own : v = .move (.actor a)
  · subst own
    rw [put_of_silent rfl, List.append_nil]
    rw [State.after, State.step] at there ⊢
    cases stepped : s.stepActor a with
    | none =>
      rw [stepped, Option.getD_none, here] at there
      cases there
      exact ⟨life, leads⟩
    | some t =>
      obtain ⟨z, life', last, leads⟩ := (stepActor_works here stepped).leads here leads
      rw [stepped, Option.getD_some, last] at there
      cases there
      exact ⟨life', leads⟩
  · obtain ⟨traced, phase, startup⟩ :=
      ((s.after_plays v).works_or_rests here there).resolve_left fun works => own works.1
    have box := ((s.after_plays v).kept here there).box
    have after := tidy.queued_after here undrawn own
    have ended : y.hasEnded = x.hasEnded := by rw [Actor.hasEnded, Actor.hasEnded, phase]
    refine ⟨life, traced.trans leads.trace, phase ▸ leads.fits, startup.trans leads.startup, ?_⟩
    rw [ended, box, after]
    split
    · exact leads.handled_prefix.trans (List.prefix_append _ _)
    · case _ alive =>
      rw [leads.queued (by simpa using alive), List.append_assoc]

end State

end ComponentHost
