import ComponentHost.Proofs.Host.Actor.Stop
import ComponentHost.Proofs.Host.Actor.HookOrder

/-! How actors conduct themselves over a run: what their starts report, in which order they take
their mail, what a stop does to that, and when their stop hook runs. -/

namespace ComponentHost

def startResult (name : String) : Ending → Except ActorError Unit
  | .finished => .ok ()
  | .failed reason => .error (.startFailed name reason)
  | .panicked text =>
    .error (.startFailed name
      (ActorError.stopFailed name (Actor.deathText (Text.quoted text))).message)

def Phase.inLoop : Phase → Bool
  | .idle | .busy (.handle _) .. => true
  | .busy .preStart .. | .busy .postStop .. | .ended _ => false

namespace Life

variable {life : Life}

@[simp] theorem mem_trace_handled {h : Handled} {m : Moment} :
    m ∈ h.trace ↔ m = .began (.handle h.mail) ∨ m = .ended (.handle h.mail) h.ending := by
  simp [Handled.trace]

theorem ending_ne_panicked (h : Handled) (text : String) : h.ending ≠ .panicked text := by
  rw [Handled.ending]
  cases h.failure <;> simp

theorem opening_iff {ending : Ending} :
    .ended .preStart ending ∈ life.trace ↔ life.opening = some ending := by
  cases life with
  | starting | refused | stillborn => simp [trace, opening, eq_comm]
  | started done stage => cases stage <;> simp [trace, opening, Stage.trace, eq_comm]

theorem over_of_opening {ending : Ending} (opening : life.opening = some ending)
    (unstarted : ending ≠ .finished) {phase : Phase} (fits : life.Fits phase) :
    life.trace = [.began .preStart, .ended .preStart ending] ∧ ∃ last, phase = .ended last := by
  cases life with
  | starting => cases opening
  | started => exact absurd (Option.some.inj opening).symm unstarted
  | refused | stillborn =>
    cases opening
    cases phase with
    | ended last => exact ⟨rfl, last, rfl⟩
    | busy | idle => exact fits.elim

theorem idle_of_failed {phase : Phase} (fits : life.Fits phase) {mail : Mail} {reason : String}
    (last : life.trace.getLast? = some (.ended (.handle mail) (.failed reason))) :
    phase = .idle := by
  cases life with
  | starting | refused | stillborn => simp [trace] at last
  | started done stage =>
    cases stage with
    | idle =>
      cases phase with
      | idle => rfl
      | busy | ended => exact fits.elim
    | handling | died | stopping | stopped =>
      rw [trace, List.getLast?_append] at last
      simp [Stage.trace] at last

theorem stopped_iff {phase : Phase} (fits : life.Fits phase) :
    .began .postStop ∈ life.trace ↔ .ended .preStart .finished ∈ life.trace ∧
      phase.inLoop = false ∧ ∀ mail text, .ended (.handle mail) (.panicked text) ∉ life.trace := by
  cases life with
  | starting | refused | stillborn => simp [trace]
  | started done stage =>
    have alive : ∀ h ∈ done, ∀ text, Ending.panicked text ≠ h.ending := fun h _ text =>
      (ending_ne_panicked h text).symm
    cases stage <;> cases phase <;> simp_all [Fits, trace, Stage.trace, Phase.inLoop]

end Life

namespace State

variable {s t : State} {v : Act} {a i : Nat} {x y : Actor} {arrived : List Mail} {life : Life}

section Run

theorem put_of_missing (missing : s.post.boxes.length ≤ i) (v : Act) : s.put v i = [] := by
  rw [put]
  split
  · case _ j mail puts =>
    refine if_neg ?_
    rintro rfl
    obtain ⟨⟨box, sender, mail'⟩, _, accepted⟩ := Option.bind_eq_some_iff.mp puts
    obtain ⟨accepted, same⟩ := Option.ite_none_right_eq_some.mp accepted
    cases same
    rw [PostOffice.offer, List.getElem?_eq_none missing] at accepted
    cases accepted
  · rfl

theorem Newcomer.leads (new : s.Newcomer t a y) (tidy : s.Tidy) : t.Leads a y [] .starting := by
  obtain ⟨_, _, busy, _⟩ := new.starting
  have unborn : s.trace a = [] := tidy.trace_of_length_le (Nat.le_of_eq new.last.symm)
  refine ⟨?_, ?_, new.startup, ?_⟩
  · rw [trace_snoc new.log, if_pos rfl, unborn]
    rfl
  · rw [busy]
    rfl
  · rw [Actor.hasEnded, busy, PostOffice.queued, new.boxes, new.box, List.getElem?_concat_length]
    rfl

def Led (s : State) (i : Nat) (arrived : List Mail) : Prop :=
  ∀ (a : Nat) (x : Actor), s.actors[a]? = some x → x.box = i → ∃ life, s.Leads a x arrived life

theorem Led.after (led : s.Led i arrived) (tidy : s.Tidy)
    (unborn : s.post.boxes.length ≤ i → arrived = []) (undrawn : ¬ v.stirs i) :
    (s.after v).Led i (arrived ++ s.put v i) := by
  intro a y there box
  obtain ⟨x, here⟩ | new := (s.after_plays v).actor_cases there
  · have same : x.box = i := ((s.after_plays v).kept here there).box ▸ box
    obtain ⟨life, leads⟩ := led a x here same
    subst same
    exact leads.after here tidy undrawn there
  · have missing : s.post.boxes.length ≤ i := Nat.le_of_eq (new.box.symm.trans box)
    rw [unborn missing, put_of_missing missing]
    exact ⟨.starting, new.leads tidy⟩

theorem leads_run (tidy : s.Tidy) (led : s.Led i arrived)
    (unborn : s.post.boxes.length ≤ i → arrived = []) {acts : List Act}
    (undrawn : ∀ v ∈ acts, ¬ v.stirs i) : (s.run acts).Led i (arrived ++ s.arrivals i acts) := by
  induction acts generalizing s arrived with
  | nil => rwa [arrivals, List.append_nil]
  | cons v acts ih =>
    rw [arrivals, ← List.append_assoc]
    refine ih (tidy.after v) (led.after tidy unborn (undrawn v List.mem_cons_self)) ?_ fun u mem =>
      undrawn u (List.mem_cons_of_mem v mem)
    intro missing
    have before : s.post.boxes.length ≤ i := Nat.le_trans (s.after_plays v).boxes_le missing
    rw [unborn before, put_of_missing before]
    rfl

end Run

section Start

variable {r : Except ActorError Unit} {ending : Ending}

/-- The start of an actor is reported as its start hook ended. -/
theorem Leads.startOutcome (leads : s.Leads a x arrived life) (here : s.actors[a]? = some x) :
    s.startOutcome a = life.opening.map (startResult x.name) := by
  have fits := leads.fits
  have startup := leads.startup
  rw [State.startOutcome, here, Option.bind_eq_bind, Option.bind_some, startup]
  cases life with
  | refused | started => rfl
  | starting =>
    cases phase : x.phase with
    | busy | idle => rfl
    | ended ending =>
      rw [phase] at fits
      exact fits.elim
  | stillborn text =>
    cases phase : x.phase with
    | busy | idle =>
      rw [phase] at fits
      exact fits.elim
    | ended ending =>
      rw [phase] at fits
      obtain rfl := show ending = .panicked text from fits
      rfl

theorem Leads.startOutcome_iff (leads : s.Leads a x arrived life) (here : s.actors[a]? = some x) :
    s.startOutcome a = some r ↔
      ∃ ending, .ended .preStart ending ∈ s.trace a ∧ startResult x.name ending = r := by
  rw [leads.startOutcome here, Option.map_eq_some_iff, leads.trace]
  simp only [Life.opening_iff]

end Start

section Stay

theorem trace_after (here : s.actors[a]? = some x) (v : Act) :
    s.trace a <+: (s.after v).trace a := by
  obtain ⟨_, works⟩ | ⟨same, _⟩ := (s.after_plays v).actor here
  · obtain ⟨_, _, _, log, _⟩ := works.moves
    rw [trace_snoc log]
    exact List.prefix_append _ _
  · exact same ▸ List.prefix_rfl

theorem handled_after_of_told (here : s.actors[a]? = some x) (told : x.told = true) (v : Act) :
    (s.after v).handled a = s.handled a := by
  obtain ⟨_, works⟩ | ⟨same, _⟩ := (s.after_plays v).actor here
  · cases works with
    | leaves _ _ scene | ends _ _ scene =>
      rw [handled, trace_snoc (congrArg Scene.log scene), if_pos rfl, List.flatMap_append]
      exact List.append_nil _
    | takes _ untold =>
      rw [told] at untold
      cases untold
  · rw [handled, same, handled]

theorem handled_run_of_told (here : s.actors[a]? = some x) (told : x.told = true)
    (acts : List Act) : (s.run acts).handled a = s.handled a := by
  refine (run_induction (P := fun t => (∃ y, t.actors[a]? = some y ∧ y.told = true) ∧
    t.handled a = s.handled a) ⟨⟨x, here, told⟩, rfl⟩ ?_).2
  rintro t v _ ⟨⟨y, here, told⟩, same⟩
  obtain ⟨z, there, becomes⟩ := actor_after here v
  exact ⟨⟨z, there, becomes.told told⟩, (handled_after_of_told here told v).trans same⟩

theorem handled_run_of_stop (here : s.actors[a]? = some x) (acts : List Act) :
    ((s.after (.stopActor a)).run acts).handled a = s.handled a := by
  have same : (s.after (.stopActor a)).trace a = s.trace a := by
    obtain ⟨own, _⟩ | ⟨same, _⟩ := (s.after_plays (.stopActor a)).actor here
    · cases own
    · exact same
  rw [handled_run_of_told (actors_stopActor here) rfl, handled, same, handled]

theorem trace_after_of_ended (here : s.actors[a]? = some x) (ended : x.hasEnded = true)
    (v : Act) : (s.after v).trace a = s.trace a := by
  obtain ⟨_, works⟩ | ⟨same, _⟩ := (s.after_plays v).actor here
  · rw [Actor.hasEnded] at ended
    cases works with
    | leaves idle | takes idle =>
      rw [idle] at ended
      cases ended
    | ends busy =>
      rw [busy] at ended
      cases ended
  · exact same

theorem trace_run_of_ended (here : s.actors[a]? = some x) (ended : x.hasEnded = true)
    (acts : List Act) : (s.run acts).trace a = s.trace a := by
  refine (run_induction (P := fun t => (∃ y, t.actors[a]? = some y ∧ y.hasEnded = true) ∧
    t.trace a = s.trace a) ⟨⟨x, here, ended⟩, rfl⟩ ?_).2
  rintro t v _ ⟨⟨y, here, ended⟩, same⟩
  obtain ⟨z, there, becomes⟩ := actor_after here v
  exact ⟨⟨z, there, becomes.hasEnded ended⟩, (trace_after_of_ended here ended v).trans same⟩

theorem trace_takes (here : s.actors[a]? = some x) (idle : x.phase = .idle)
    (untold : x.told = false) (held : s.isHeld a = true) {mail : Mail} {rest : List Mail}
    (queued : s.post.queued x.box = mail :: rest) :
    (s.after (.move (.actor a))).trace a = s.trace a ++ [.began (.handle mail)] := by
  obtain ⟨post, taken⟩ : ∃ post, s.post.take? x.box = some (mail, post) := by
    rw [PostOffice.queued] at queued
    cases box : s.post.boxes[x.box]? with
    | none =>
      rw [box] at queued
      cases queued
    | some b =>
      rw [box] at queued
      simp only [PostOffice.take?, box, Option.bind_eq_bind, Option.bind_some, Mailbox.take?]
      dsimp only at queued
      rw [queued]
      exact ⟨_, rfl⟩
  have stepped : s.stepActor a = some ({ s with post }.begin a (.handle mail)) := by
    rw [stepActor, here]
    simp [idle, untold, held, taken]
  obtain ⟨_, _, _, begun⟩ := scene_begin (s := { s with post }) here (.handle mail)
  rw [after, step, stepped, Option.getD_some, trace_snoc (congrArg Scene.log begun), if_pos rfl]

theorem rests_of_quiet (here : s.actors[a]? = some x) (idle : x.phase = .idle) (quiet : s.quiet) :
    x.told = false ∧ s.isHeld a = true ∧ s.post.queued x.box = [] := by
  have still : s.stepActor a = none := quiet (.actor a)
  have stays : x.told = false ∧ s.isHeld a = true := by
    rw [stepActor, here] at still
    by_cases stops : (x.told || !s.isHeld a) = true
    · simp [idle, stops] at still
    · simpa using stops
  refine ⟨stays.1, stays.2, ?_⟩
  cases queued : s.post.queued x.box with
  | nil => rfl
  | cons mail rest =>
    have more := trace_takes here idle stays.1 stays.2 queued
    rw [after, step, still] at more
    simp at more

end Stay

section Call

variable {n : Nat} {name keep : String}

/-- Call `n` is the start of actor `a`: it returns as the start hook ended. -/
def Starting (s : State) (n a : Nat) (name keep : String) : Prop :=
  s.calls[n]? = some (.running (.start a keep)) ∨
    ∃ time ending, .ended .preStart ending ∈ s.trace a ∧ s.calls[n]? =
      some (.returned time (.started ((startResult name ending).map fun _ => a)))

theorem Starting.after (starting : s.Starting n a x.name keep) (here : s.actors[a]? = some x)
    (leads : s.Leads a x arrived life) (v : Act) : (s.after v).Starting n a x.name keep := by
  have grown := (trace_after here v).subset
  obtain call | ⟨time, ending, ended, call⟩ := starting
  · by_cases own : v = .move (.call n)
    · subst own
      have known := (List.getElem?_eq_some_iff.mp call).1
      rw [State.after, step, stepCall, call]
      dsimp only
      cases outcome : s.startOutcome a with
      | none =>
        rw [stepStart, outcome]
        exact .inl call
      | some r =>
        obtain ⟨ending, ended, rfl⟩ := (leads.startOutcome_iff here).mp outcome
        rw [stepStart, outcome]
        refine .inr ⟨s.clock, ending, ?_, ?_⟩ <;> cases ending <;>
          first | exact ended | exact List.getElem?_set_self known
    · exact .inl (calls_after (fun _ => rfl) call own)
  · exact .inr ⟨time, ending, grown ended, returned_after call v⟩

theorem Starting.run (starting : s.Starting n a x.name keep) (here : s.actors[a]? = some x)
    (leads : s.Leads a x arrived life) (tidy : s.Tidy) {acts : List Act}
    (undrawn : ∀ v ∈ acts, ¬ v.stirs x.box) : (s.run acts).Starting n a x.name keep := by
  induction acts generalizing s x arrived life with
  | nil => exact starting
  | cons v acts ih =>
    obtain ⟨y, there, becomes⟩ := actor_after here v
    obtain ⟨life', leads'⟩ := leads.after here tidy (undrawn v List.mem_cons_self) there
    have next := starting.after here leads v
    rw [← becomes.name] at next ⊢
    exact ih next there leads' (tidy.after v) fun u mem =>
      becomes.box ▸ undrawn u (List.mem_cons_of_mem v mem)

theorem Leads.start_due (leads : s.Leads a x arrived life) (here : s.actors[a]? = some x)
    (starting : s.Starting n a name keep) (quiet : s.quiet) {ending : Ending}
    (ended : .ended .preStart ending ∈ s.trace a) : s.hasReturned n = true := by
  obtain call | ⟨_, _, _, call⟩ := starting
  · have outcome := (leads.startOutcome_iff here).mpr ⟨ending, ended, rfl⟩
    have still : s.stepCall n = none := quiet (.call n)
    rw [stepCall, call] at still
    cases ending <;> simp [stepStart, outcome, startResult] at still
  · rw [hasReturned, call]

theorem startActor_begins (roomy : s.mailboxCapacity ≤ maxCapacity) (name keep : String)
    (preStart postStop : Course) :
    let t := s.after (.startActor name preStart postStop keep)
    t.calls[s.calls.length]? = some (.running (.start s.actors.length keep)) ∧
      ∃ y, t.actors[s.actors.length]? = some y ∧ y.name = name := by
  obtain ⟨work, due, _, created⟩ := s.scene_createActor name (.plain preStart postStop)
  have calls := s.calls_createActor name (.plain preStart postStop)
  have entered : s.after (.startActor name preStart postStop keep) =
      ((s.createActor name (.plain preStart postStop)).2.enter
        (.start s.actors.length keep)).2 := by
    rw [State.after, startActor, if_neg (Nat.not_lt.mpr roomy)]
    rfl
  have actors : (s.createActor name (.plain preStart postStop)).2.actors = s.actors ++ [_] :=
    congrArg Scene.actors created
  rw [entered]
  refine ⟨?_, _, (congrArg (·[s.actors.length]?) actors).trans List.getElem?_concat_length, rfl⟩
  rw [enter, calls]
  exact List.getElem?_concat_length

end Call

theorem Leads.handled (leads : s.Leads a x arrived life) : life.handled = s.handled a := by
  rw [State.handled, leads.trace, Life.flatMap_taken]

/-- How an actor conducts itself, into whose mailbox came what has arrived. -/
structure Conducts (s : State) (a : Nat) (x : Actor) (arrived : List Mail) : Prop where
  /-- First the start hook; then mail by mail, in the order of arrival; last the stop hook. -/
  life : ∃ life : Life, s.trace a = life.trace ∧ life.handled = s.handled a ∧
    s.handled a <+: arrived
  queued : x.hasEnded = false → arrived = s.handled a ++ s.post.queued x.box
  started (r : Except ActorError Unit) : s.startOutcome a = some r ↔
    ∃ ending, .ended .preStart ending ∈ s.trace a ∧ startResult x.name ending = r
  unstarted (ending : Ending) : .ended .preStart ending ∈ s.trace a → ending ≠ .finished →
    x.hasEnded = true ∧
      ∀ acts, (s.run acts).trace a = [.began .preStart, .ended .preStart ending]
  loops (mail : Mail) (reason : String) :
    (s.trace a).getLast? = some (.ended (.handle mail) (.failed reason)) → x.phase = .idle
  takes (mail : Mail) (rest : List Mail) : x.phase = .idle → x.told = false →
    s.isHeld a = true → s.post.queued x.box = mail :: rest →
      (s.after (.move (.actor a))).trace a = s.trace a ++ [.began (.handle mail)]
  rests : s.quiet → x.phase = .idle →
    x.told = false ∧ s.isHeld a = true ∧ s.post.queued x.box = []
  told : x.told = true → ∀ acts, (s.run acts).handled a = s.handled a
  stop (acts : List Act) : ((s.after (.stopActor a)).run acts).handled a = s.handled a
  /-- The stop hook runs exactly if the loop was left, and not by a death in it. -/
  stopped : .began .postStop ∈ s.trace a ↔ .ended .preStart .finished ∈ s.trace a ∧
    x.phase.inLoop = false ∧ ∀ mail text, .ended (.handle mail) (.panicked text) ∉ s.trace a

theorem Leads.conducts (leads : s.Leads a x arrived life) (here : s.actors[a]? = some x) :
    s.Conducts a x arrived where
  life := ⟨life, leads.trace, leads.handled, leads.handled ▸ leads.handled_prefix⟩
  queued alive := leads.handled ▸ leads.queued alive
  started r := leads.startOutcome_iff here
  unstarted ending begun failed := by
    rw [leads.trace, Life.opening_iff] at begun
    obtain ⟨trace, last, phase⟩ := Life.over_of_opening begun failed leads.fits
    have ended : x.hasEnded = true := Actor.hasEnded_iff.mpr ⟨last, phase⟩
    refine ⟨ended, fun acts => ?_⟩
    rw [trace_run_of_ended here ended, leads.trace, trace]
  loops mail reason last := Life.idle_of_failed leads.fits (leads.trace ▸ last)
  takes mail rest idle untold held queued := trace_takes here idle untold held queued
  rests quiet idle := rests_of_quiet here idle quiet
  told told acts := handled_run_of_told here told acts
  stop acts := handled_run_of_stop here acts
  stopped := by
    rw [leads.trace]
    exact Life.stopped_iff leads.fits

theorem starting_of_startActor (tidy : s.Tidy) (roomy : s.mailboxCapacity ≤ maxCapacity)
    {name keep : String} {preStart postStop : Course} {later : List Act}
    (here : ((s.after (.startActor name preStart postStop keep)).run
      later).actors[s.actors.length]? = some x) (undrawn : ∀ v ∈ later, ¬ v.stirs x.box) :
    ((s.after (.startActor name preStart postStop keep)).run later).Starting
      s.calls.length s.actors.length name keep := by
  obtain ⟨call, y, there, rfl⟩ := startActor_begins roomy name keep preStart postStop
  have begun : (s.after (.startActor y.name preStart postStop keep)).Leads s.actors.length y []
      .starting := by
    obtain ⟨_, old⟩ | new := (s.after_plays _).actor_cases there
    · exact absurd (List.getElem?_eq_some_iff.mp old).1 (Nat.lt_irrefl _)
    · exact new.leads tidy
  obtain ⟨z, last, becomes⟩ := actor_run there later
  rw [here] at last
  cases last
  exact Starting.run (.inl call) there begun (tidy.after _) fun v mem =>
    becomes.box ▸ undrawn v mem

/-- Every actor conducts itself so at every moment of every run in which nobody else reaches into
its mailbox; and the call that started it returns as its start hook ended, as soon as that has. -/
theorem actor_conducts (config : HostConfig) (engine : Engine) (acts : List Act)
    (here : ((fresh config engine).run acts).actors[a]? = some x)
    (undrawn : ∀ v ∈ acts, ¬ v.stirs x.box) :
    let s := (fresh config engine).run acts
    s.Conducts a x ((fresh config engine).arrivals x.box acts) ∧
      ∀ before name preStart postStop keep later,
        acts = before ++ .startActor name preStart postStop keep :: later →
          let s₀ := (fresh config engine).run before
          s₀.actors.length = a → s₀.mailboxCapacity ≤ maxCapacity →
            s.Starting s₀.calls.length a name keep ∧ (s.quiet → ∀ ending,
              .ended .preStart ending ∈ s.trace a → s.hasReturned s₀.calls.length = true) := by
  intro s
  have empty : (fresh config engine).Led x.box [] := fun _ _ none => nomatch none
  obtain ⟨life, leads⟩ :=
    leads_run (Tidy.fresh config engine) empty (fun _ => rfl) undrawn a x here rfl
  rw [List.nil_append] at leads
  refine ⟨leads.conducts here, ?_⟩
  rintro before name preStart postStop keep later rfl s₀ rfl roomy
  have ran : s = (s₀.after (.startActor name preStart postStop keep)).run later :=
    run_append _ _ _
  have tidy : s₀.Tidy := (Tidy.fresh config engine).run before
  have starting : s.Starting s₀.calls.length s₀.actors.length name keep := by
    rw [ran]
    exact starting_of_startActor tidy roomy (ran ▸ here) fun v mem =>
      undrawn v (List.mem_append_right _ (List.mem_cons_of_mem _ mem))
  exact ⟨starting, fun quiet ending ended => leads.start_due here starting quiet ended⟩

section Mishap

def mishap : List Act :=
  [.startActor "x" {} {} "x", .move (.actor 0), .move (.call 0),
    .tell 0 (.chore "one" { ending := .failed "no" }), .tell 0 (.chore "two" {}),
    .move (.actor 0), .move (.actor 0), .stopActor 0]

theorem mishap_conducted :
    let s := (fresh {} (.paced [] 0)).run mishap
    s.handled 0 = [.chore "one" { ending := .failed "no" }] ∧
      s.Starting 0 0 "x" "x" ∧ ∃ x, s.actors[0]? = some x ∧
        s.Conducts 0 x [.chore "one" { ending := .failed "no" }, .chore "two" {}] := by
  have conducted := actor_conducts {} (.paced [] 0) mishap (a := 0) rfl
    (by simp [mishap, Act.stirs])
  exact ⟨rfl, (conducted.2 [] "x" {} {} "x" _ rfl rfl (by decide)).1, _, rfl, conducted.1⟩

end Mishap

end State

end ComponentHost
