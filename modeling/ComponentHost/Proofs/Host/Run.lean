import ComponentHost.Host.Schedule
import ComponentHost.Proofs.Ledger.Run

/-! Runs of a host: what is asked of it from outside, time going by, and the moves of what is
under way, in any order. A move that is not open, like a refused call, changes nothing. -/

namespace ComponentHost

/-- An engine with one program: every call of an export takes a given time and gives nothing. -/
def Engine.paced (exports : List String) (span : Duration) : Engine where
  load _ _ := .ok {
    exports := .ofList exports
    run := fun _ _ => ⟨[.wait span], .output ⟨[]⟩⟩ }

namespace State

inductive Act
  | move (m : Move)
  | wait (span : Duration)
  | post (target : ComponentId) (mail : Mail)
  | sendMessage (sender target : ComponentId) (payload : Bytes)
  | sendRequest (sender target : ComponentId) (payload : Bytes) (timeout? : Option Duration)
    (awaited : Bool)
  | respond (id : CorrelationId) (responder requester : ComponentId) (reply : Reply)
  | expire (id : CorrelationId)
  | cancel (id : CorrelationId) (failure : RequestFailure)
  | cleanup (c : ComponentId)
  | sweep
  | abandon (waiter : Nat)
  | install (capacity : Nat)
  | route (c : ComponentId) (box : Nat)
  | unroute (c : ComponentId)
  | unrouteFrom (c : ComponentId) (box : Nat)
  | take (box : Nat)
  | close (box : Nat)
  | discard (box : Nat)
  | startActor (name : String) (preStart postStop : Course) (keep : String)
  | stopActor (a : Nat)
  | tell (a : Nat) (mail : Mail)
  | invoke (a : Nat) (function : String) (args : List Value)
  | release (name : String)
  | spawn (o : Order) (keep : Option String)
  | stop (id : ComponentId)
  | restart (o : Order)
  | shutdown
  | execute (id : ComponentId) (function : String) (args : List Value)

def settled (s : State) (act : Ledger.Act) : State :=
  { s with ledger := s.ledger.after ⟨s.clock, act⟩ }

def after (s : State) : Act → State
  | .move m => (s.step m).getD s
  | .wait span => { s with clock := s.clock + span }
  | .post target mail => (s.deliver .bare target mail).2
  | .sendMessage sender target payload => (s.sendMessage sender target payload).2
  | .sendRequest sender target payload timeout? awaited =>
    (s.sendRequest sender target payload timeout? awaited).2
  | .respond id responder requester reply =>
    match s.respond id responder requester reply with
    | .ok s => s
    | .error _ => s
  | .expire id => s.settled (.expire id)
  | .cancel id failure => s.settled (.cancel id failure)
  | .cleanup c => s.settled (.cleanup c)
  | .sweep => s.settled .sweep
  | .abandon waiter => { s with ledger := (s.ledger.abandon waiter).2 }
  | .install capacity => { s with post := (s.post.install capacity).2 }
  | .route c box => { s with post := s.post.route c box }
  | .unroute c => { s with post := s.post.unroute c }
  | .unrouteFrom c box => { s with post := (s.post.unrouteFrom c box).2 }
  | .take box => { s with post := ((s.post.take? box).map Prod.snd).getD s.post }
  | .close box => { s with post := s.post.close box }
  | .discard box => { s with post := s.post.discard box }
  | .startActor name preStart postStop keep => (s.startActor name preStart postStop keep).2
  | .stopActor a => (s.stopActor a).2
  | .tell a mail => (s.tell a mail).2
  | .invoke a function args => (s.invoke a function args none).2
  | .release name => s.release name
  | .spawn o keep => (s.spawnComponent o keep).2
  | .stop id => (s.stopComponent id).2
  | .restart o => (s.restartComponent o).2
  | .shutdown => s.shutdown.2
  | .execute id function args => (s.execute id function args).2

def run (s : State) (acts : List Act) : State := acts.foldl after s

@[simp] theorem run_nil (s : State) : s.run [] = s := rfl

@[simp] theorem run_cons (s : State) (v : Act) (acts : List Act) :
    s.run (v :: acts) = (s.after v).run acts := rfl

theorem run_append (s : State) (acts acts' : List Act) :
    s.run (acts ++ acts') = (s.run acts).run acts' :=
  List.foldl_append

theorem run_concat (s : State) (acts : List Act) (v : Act) :
    s.run (acts ++ [v]) = (s.run acts).after v :=
  run_append s acts [v]

theorem run_induction {P : State → Prop} {s : State} {acts : List Act} (start : P s)
    (keeps : ∀ (t : State), ∀ v ∈ acts, P t → P (t.after v)) : P (s.run acts) := by
  induction acts generalizing s with
  | nil => exact start
  | cons v acts ih =>
    refine ih (keeps s v List.mem_cons_self start) fun t u mem => ?_
    exact keeps t u (List.mem_cons_of_mem v mem)

/-- What each act keeps, given the acts before it and those to come, holds of them all. -/
theorem split_induction {P : List Act → Prop} {acts : List Act} (start : P [])
    (keeps : ∀ before v later, acts = before ++ v :: later → P before → P (before ++ [v])) :
    P acts := by
  suffices ∀ before later, acts = before ++ later → P before → P acts from this [] acts rfl start
  intro before later
  induction later generalizing before with
  | nil =>
    intro split held
    rwa [split, List.append_nil]
  | cons v later ih =>
    intro split held
    exact ih (before ++ [v]) (by rw [split, List.append_assoc]; rfl)
      (keeps before v later split held)

theorem history_induction {P : List Act → Prop} {acts : List Act} (start : P [])
    (keeps : ∀ before, ∀ v ∈ acts, P before → P (before ++ [v])) : P acts :=
  split_induction start fun before v _ split =>
    keeps before v (split ▸ List.mem_append_right before List.mem_cons_self)

theorem exists_split_concat {P : List Act → Act → Prop} {acts : List Act} {v : Act} :
    (∃ before u later, acts ++ [v] = before ++ u :: later ∧ P before u) ↔
      (∃ before u later, acts = before ++ u :: later ∧ P before u) ∨ P acts v := by
  constructor
  · rintro ⟨before, u, later, split, held⟩
    obtain rfl | ⟨later, w, rfl⟩ := List.eq_nil_or_concat later
    · obtain ⟨rfl, rfl⟩ := List.append_singleton_inj.mp split
      exact .inr held
    · rw [List.concat_eq_append, ← List.cons_append, ← List.append_assoc] at split
      obtain ⟨rfl, _⟩ := List.append_singleton_inj.mp split
      exact .inl ⟨before, u, later, rfl, held⟩
  · rintro (⟨before, u, later, rfl, held⟩ | held)
    · exact ⟨before, u, later ++ [v], by rw [List.append_assoc]; rfl, held⟩
    · exact ⟨acts, v, [], rfl, held⟩

section Along

variable {α : Type} {f : State → Act → Option α}

def along (f : State → Act → Option α) : State → List Act → List α
  | _, [] => []
  | s, v :: acts => (f s v).toList ++ along f (s.after v) acts

theorem along_concat (s : State) (acts : List Act) (v : Act) :
    along f s (acts ++ [v]) = along f s acts ++ (f (s.run acts) v).toList := by
  induction acts generalizing s with
  | nil => simp [along]
  | cons u acts ih => simp [along, ih]

theorem mem_along {s : State} {acts : List Act} {x : α} : x ∈ along f s acts ↔
    ∃ before v later, acts = before ++ v :: later ∧ f (s.run before) v = some x := by
  refine history_induction (P := fun acts => x ∈ along f s acts ↔
    ∃ before v later, acts = before ++ v :: later ∧ f (s.run before) v = some x) ?_ ?_
  · simp [along]
  · intro acts v _ ih
    rw [exists_split_concat (P := fun before u => f (s.run before) u = some x), along_concat,
      List.mem_append, ih, Option.mem_toList]

end Along

section Inversion

variable {s t : State}

theorem stepAlarm_eq {number : Nat} (stepped : s.stepAlarm number = some t) :
    ∃ alarm ∈ s.ledger.alarms.armed, alarm.due ≤ s.clock ∧
      t = { s with ledger := s.ledger.ring s.clock alarm } := by
  simp only [stepAlarm, Option.bind_eq_bind, Option.bind_eq_some_iff] at stepped
  obtain ⟨alarm, found, stepped⟩ := stepped
  obtain ⟨due, same⟩ := Option.ite_none_right_eq_some.mp stepped
  exact ⟨alarm, List.mem_of_find?_eq_some found, due, (Option.some.inj same).symm⟩

theorem enroll_eq {i : Nat} (stepped : s.enroll i = some t) :
    ∃ id, s.enrolling[i]? = some id ∧ t = { s with
      enrolling := s.enrolling.eraseIdx i
      ledger := if s.roster.contains id then s.ledger.join id else s.ledger.leave id } := by
  simp only [enroll, Option.bind_eq_bind, Option.bind_eq_some_iff] at stepped
  obtain ⟨id, here, same⟩ := stepped
  exact ⟨id, here, (Option.some.inj same).symm⟩

end Inversion

def fresh (config : HostConfig) (engine : Engine) : State := { config, engine }

section Sample

def sampleOrder : Order where
  id := ⟨"a"⟩
  source := .bytes []
  metadata := { maxMemoryBytes := 65536, timeoutMs := 1000 }

/-- A host with one component, which came up as actor 0 and takes its time over requests and its
cleanup. -/
def sampleHost : State :=
  (fresh {} (.paced ["cleanup", "handle-request"] (.ofMillis 100))).run
    [.spawn sampleOrder none, .move (.call 0), .move (.actor 0), .move (.call 0)]

end Sample

end State

end ComponentHost
