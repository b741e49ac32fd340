import ComponentHost.Proofs.Host.Actor.Mailboxes
import ComponentHost.Proofs.Host.Act.Lifecycle

/-! Who stands where. An actor is brought up by one spawn at most, then stands on the roster under
one id at most, and as long as it stands there nobody awaits its end but a stop of that id. -/

namespace ComponentHost.State

variable {s t : State} {v : Act} {n a : Nat} {id : ComponentId} {x y : Actor}

def Brings (s : State) (n a : Nat) : Prop :=
  ∃ sp, (s.underWay n).bind Call.spawning? = some sp ∧ sp.stage = .starting a

theorem Seats.brings (seats : s.Seats n id a) : s.Brings n a := by
  obtain ⟨sp, spawning, _, stage, _⟩ := seats
  exact ⟨sp, spawning, stage⟩

theorem Seats.id_eq {j : ComponentId} {b : Nat} (seats : s.Seats n id a) (seats' : s.Seats n j b) :
    id = j := by
  obtain ⟨sp, spawning, own, _⟩ := seats
  obtain ⟨sp', spawning', own', _⟩ := seats'
  rw [spawning] at spawning'
  cases spawning'
  rw [← own, ← own']

theorem Seats.actors (seats : s.Seats n id a) (stepped : s.stepCall n = some t) :
    t.actors = s.actors := by
  obtain ⟨sp, spawning, rfl, stage, ready, free⟩ := seats
  obtain ⟨c, here, spawning⟩ := Option.bind_eq_some_iff.mp spawning
  obtain ⟨running, _⟩ := underWay_eq_some.mp here
  have seated : ∀ {wrap : Spawn → Call} {answer : Except HostError Nat → Answer},
      s.stepSpawning n wrap answer sp = some t → t.actors = s.actors := by
    intro wrap answer stepped
    have vacant : s.roster.contains sp.order.id = false := by simp [Table.contains, free]
    simp only [stepSpawning, stepSpawn, stage, ready, seat, Roster.register, vacant] at stepped
    cases stepped
    cases sp.keep <;> rfl
  rw [stepCall, running] at stepped
  cases c with
  | spawn sp' =>
    cases spawning
    exact seated stepped
  | restartSpawn sp' =>
    cases spawning
    exact seated stepped
  | _ => cases spawning

theorem brings_step {c : Call} (here : s.underWay n = some c) (stepped : s.stepCall n = some t)
    {m : Nat} (brings : t.Brings m a) : (m ≠ n ∧ s.Brings m a) ∨
      (m = n ∧ c.spawning? ≠ none ∧ a = s.actors.length ∧ a < t.actors.length) := by
  obtain ⟨sp, spawning, stage⟩ := brings
  by_cases own : m = n
  · subst own
    refine .inr ⟨rfl, ?_⟩
    obtain ⟨c', there, spawning⟩ := Option.bind_eq_some_iff.mp spawning
    have brought : ∀ {sp₀ : Spawn}, s.SpawnGoes t sp₀ sp →
        a = s.actors.length ∧ a < t.actors.length := by
      intro sp₀ goes
      obtain ⟨_, starting, known⟩ | ⟨_, _, discarding⟩ := goes.stage
      · rw [stage] at starting
        cases starting
        exact ⟨rfl, known⟩
      · rw [stage] at discarding
        cases discarding
    cases goes_of_step here stepped there with
    | spawn goes | restartSpawn goes =>
      cases spawning
      exact ⟨Option.some_ne_none _, brought goes⟩
    | restart =>
      cases spawning
      cases stage
    | shutdown => cases spawning
  · rw [(stepCall_advances here stepped).others m own] at spawning
    exact .inl ⟨own, sp, spawning, stage⟩

theorem brings_of_asks {u : State} {next : Call ⊕ Answer}
    (asked : ∀ c, next = .inl c → s.Asks v c) (underWay : u.underWay = s.underWay)
    (brings : (u.enterOrAnswer next).2.Brings n a) : s.Brings n a := by
  obtain ⟨sp, spawning, stage⟩ := brings
  obtain ⟨c, there, spawning⟩ := Option.bind_eq_some_iff.mp spawning
  obtain entered | old := underWay_enterOrAnswer there
  · cases asked c entered with
    | spawn | restartSpawn =>
      cases spawning
      cases stage
    | _ => cases spawning
  · exact ⟨sp, by rw [← underWay, old]; exact spawning, stage⟩

theorem roster_step {c : Call} (here : s.underWay n = some c) (stepped : s.stepCall n = some t)
    (on : t.roster.get? id = some a) : s.roster.get? id = some a ∨ s.Seats n id a := by
  obtain same | ⟨_, gone⟩ | ⟨b, seats, on'⟩ := (stepCall_advances here stepped).roster id
  · exact .inl (same ▸ on)
  · rw [gone] at on
    cases on
  · rw [on] at on'
    cases on'
    exact .inr seats

theorem stops_step {c : Call} (here : s.underWay n = some c) (stepped : s.stepCall n = some t)
    (stops : c.stops id) (on : t.roster.get? id = some a) :
    ∃ m d, t.underWay m = some d ∧ d.stops id := by
  cases c with
  | stop st | restartStop st =>
    have stopping : (s.underWay n).bind Call.stopping? = some st := by rw [here]; rfl
    obtain ⟨next, rfl, _⟩ := step_of_stopping stopping stepped
    rw [show id = st.id from stops, roster_carryOn, roster_endStop, Table.get?_erase_self] at on
    cases on
  | shutdown st rest =>
    obtain gone | ⟨st', rest', waits, among⟩ :=
      (stepCall_advances here stepped).stops st rest rfl id stops
    · rw [gone] at on
      cases on
    · exact ⟨n, _, waits, among⟩
  | _ => exact stops.elim

theorem Plays.awaited (plays : s.Plays v t) (here : s.actors[a]? = some x)
    (there : t.actors[a]? = some y) : y.awaited = x.awaited ∨ s.halts v a := by
  have known := (List.getElem?_eq_some_iff.mp here).1
  obtain ⟨_, works⟩ | ⟨_, same | ⟨halts, _⟩⟩ := plays.actor here
  · obtain ⟨z, _, actors, _, _, awaited⟩ := works.moves
    rw [actors, List.getElem?_set_self known] at there
    cases there
    exact .inl awaited
  · rw [there] at same
    cases same
    exact .inl rfl
  · exact .inr halts

/-- Actor `a` is brought up and stands on the roster in one place at most, and its end is awaited
there by a stop alone. -/
structure Manned (s : State) (a : Nat) : Prop where
  seated (id : ComponentId) : s.roster.get? id = some a → a < s.actors.length
  brought (n : Nat) : s.Brings n a → a < s.actors.length
  one (i j : ComponentId) : s.roster.get? i = some a → s.roster.get? j = some a → i = j
  apart (m n : Nat) : s.Brings m a → s.Brings n a → m = n
  off (n : Nat) (id : ComponentId) : s.Brings n a → s.roster.get? id ≠ some a
  free (n : Nat) (x : Actor) : s.Brings n a → s.actors[a]? = some x → x.awaited = false
  heeded (id : ComponentId) (x : Actor) : s.roster.get? id = some a → s.actors[a]? = some x →
    x.awaited = true → ∃ n c, s.underWay n = some c ∧ c.stops id

namespace Manned

variable (manned : s.Manned a)

include manned

theorem shrinks (plays : s.Plays v t) (brings : ∀ n, t.Brings n a → s.Brings n a)
    (roster : ∀ id, t.roster.get? id = some a → s.roster.get? id = some a)
    (free : ∀ n, t.Brings n a → ¬ s.halts v a)
    (heeded : ∀ id, t.roster.get? id = some a →
      s.halts v a ∨ (∃ n c, s.underWay n = some c ∧ c.stops id) →
        ∃ n c, t.underWay n = some c ∧ c.stops id) : t.Manned a where
  seated id on := Nat.lt_of_lt_of_le (manned.seated id (roster id on)) plays.actors_length
  brought n waits := Nat.lt_of_lt_of_le (manned.brought n (brings n waits)) plays.actors_length
  one i j on on' := manned.one i j (roster i on) (roster j on')
  apart m n waits waits' := manned.apart m n (brings m waits) (brings n waits')
  off n id waits on := manned.off n id (brings n waits) (roster id on)
  free n y waits there := by
    have here := List.getElem?_eq_getElem (manned.brought n (brings n waits))
    rw [(plays.awaited here there).resolve_right (free n waits)]
    exact manned.free n _ (brings n waits) here
  heeded id y on there awaited := by
    have here := List.getElem?_eq_getElem (manned.seated id (roster id on))
    refine heeded id on ((plays.awaited here there).symm.imp_right fun same => ?_)
    exact manned.heeded id _ (roster id on) here (same ▸ awaited)

omit manned in
theorem comes (plays : s.Plays v t) (new : a = s.actors.length)
    (brings : ∀ m, t.Brings m a → m = n ∧ a < t.actors.length)
    (absent : ∀ id, t.roster.get? id ≠ some a) : t.Manned a where
  seated id on := absurd on (absent id)
  brought m waits := (brings m waits).2
  one i _ on := absurd on (absent i)
  apart m m' waits waits' := by rw [(brings m waits).1, (brings m' waits').1]
  off _ id _ := absent id
  free m y waits there := by
    obtain ⟨x, here⟩ | newcomer := plays.actor_cases there
    · exact absurd (List.getElem?_eq_some_iff.mp here).1 (new ▸ Nat.lt_irrefl _)
    · exact newcomer.fresh.2
  heeded id _ on := absurd on (absent id)

/-- An actor that gets its seat has no call waiting for it any more, and nobody awaits its end. -/
theorem seats (seats : s.Seats n id a) (stepped : s.stepCall n = some t)
    (idle : ∀ m, ¬ t.Brings m a)
    (roster : ∀ j, t.roster.get? j = some a → s.roster.get? j = some a ∨ s.Seats n j a) :
    t.Manned a := by
  have same := seats.actors stepped
  have own : ∀ j, t.roster.get? j = some a → j = id := fun j on =>
    ((roster j on).resolve_left (manned.off n j seats.brings)).id_eq seats
  refine ⟨fun _ _ => same ▸ manned.brought n seats.brings, fun m waits => absurd waits (idle m),
    fun i j on on' => (own i on).trans (own j on').symm, fun m _ waits => absurd waits (idle m),
    fun m _ waits => absurd waits (idle m), fun m _ waits => absurd waits (idle m),
    fun j y _ there awaited => ?_⟩
  rw [manned.free n y seats.brings (same ▸ there)] at awaited
  cases awaited

section Step

variable {c : Call} (plays : s.Plays (.move (.call n)) t) (here : s.underWay n = some c)
  (stepped : s.stepCall n = some t)

include plays here stepped

theorem step_of_stops (plain : c.spawning? = none) : t.Manned a := by
  have idle : ∀ sp, (s.underWay n).bind Call.spawning? ≠ some sp := by
    intro sp spawning
    rw [here, Option.bind_some, plain] at spawning
    cases spawning
  have brings : ∀ m, t.Brings m a → s.Brings m a := fun m waits =>
    ((brings_step here stepped waits).resolve_right fun ⟨_, spawns, _⟩ => spawns plain).2
  have roster : ∀ id, t.roster.get? id = some a → s.roster.get? id = some a := fun id on =>
    (roster_step here stepped on).resolve_right fun ⟨sp, spawning, _⟩ => idle sp spawning
  have halted : s.halts (.move (.call n)) a →
      ∃ st rest id, c = .shutdown st rest ∧ id ∈ rest ∧ s.roster.get? id = some a := by
    rintro (⟨sp, spawning, _⟩ | ⟨st, rest, id, waits, among, on⟩)
    · exact absurd spawning (idle sp)
    · rw [here] at waits
      exact ⟨st, rest, id, Option.some.inj waits, among, on⟩
  refine manned.shrinks plays brings roster ?_ ?_
  · intro m waits halts
    obtain ⟨_, _, id, _, _, on⟩ := halted halts
    exact manned.off m id (brings m waits) on
  · rintro id on (halts | ⟨m, d, waits, stops⟩)
    · obtain ⟨st, rest, j, rfl, among, on'⟩ := halted halts
      obtain rfl := manned.one id j (roster id on) on'
      exact stops_step here stepped (.inr among) on
    · by_cases own : m = n
      · subst own
        rw [here] at waits
        cases waits
        exact stops_step here stepped stops on
      · exact ⟨m, d, ((stepCall_advances here stepped).others m own).trans waits, stops⟩

theorem step_of_spawns {sp : Spawn} (spawning : c.spawning? = some sp) : t.Manned a := by
  have roster : ∀ id, t.roster.get? id = some a → s.roster.get? id = some a ∨ s.Seats n id a :=
    fun id on => roster_step here stepped on
  by_cases new : a = s.actors.length
  · have unbrought : ∀ m, ¬ s.Brings m a := fun m waits =>
      Nat.ne_of_lt (manned.brought m waits) new
    refine comes plays new (n := n) (fun m waits => ?_) fun id on => ?_
    · obtain ⟨_, waits⟩ | ⟨own, _, _, known⟩ := brings_step here stepped waits
      · exact absurd waits (unbrought m)
      · exact ⟨own, known⟩
    · obtain on | seats := roster id on
      · exact Nat.ne_of_lt (manned.seated id on) new
      · exact unbrought n seats.brings
  · have brings : ∀ m, t.Brings m a → m ≠ n ∧ s.Brings m a := fun m waits =>
      (brings_step here stepped waits).resolve_right fun ⟨_, _, same, _⟩ => new same
    -- As long as another call than `n` waits for the actor, `n` does not.
    have other : ∀ m, t.Brings m a → ¬ s.Brings n a := fun m waits waits' =>
      (brings m waits).1 (manned.apart m n (brings m waits).2 waits')
    by_cases seated : ∃ id, s.Seats n id a
    · obtain ⟨id, seats⟩ := seated
      exact manned.seats seats stepped (fun m waits => other m waits seats.brings) roster
    · have roster : ∀ id, t.roster.get? id = some a → s.roster.get? id = some a := fun id on =>
        (roster id on).resolve_right fun seats => seated ⟨id, seats⟩
      have halted : s.halts (.move (.call n)) a → s.Brings n a := by
        rintro (⟨sp, spawning, stage⟩ | ⟨st, rest, _, waits, _⟩)
        · exact ⟨sp, spawning, stage⟩
        · rw [here] at waits
          cases waits
          cases spawning
      refine manned.shrinks plays (fun m waits => (brings m waits).2) roster
        (fun m waits halts => other m waits (halted halts)) ?_
      rintro id on (halts | ⟨m, d, waits, stops⟩)
      · exact absurd (roster id on) (manned.off n id (halted halts))
      · have other : m ≠ n := by
          rintro rfl
          rw [here] at waits
          cases waits
          cases c with
          | spawn | restartSpawn => exact stops
          | _ => cases spawning
        exact ⟨m, d, ((stepCall_advances here stepped).others m other).trans waits, stops⟩

end Step

theorem after (started : s.started = true) (aside : v ≠ .stopActor a) : (s.after v).Manned a := by
  have plays := s.after_plays v
  cases after_manages started v with
  | rests same => rwa [same]
  | idles plain underWay roster =>
    have silent : ¬ s.halts v a := fun halts => aside (plain a halts)
    refine manned.shrinks plays ?_ ?_ (fun _ _ => silent) ?_
    · intro n ⟨sp, waits⟩
      exact ⟨sp, underWay ▸ waits⟩
    · intro id on
      rwa [← roster]
    · rintro id _ (halts | stops)
      · exact absurd halts silent
      · rwa [underWay]
  | asks u next same halts asked underWay roster heeds =>
    have left : ∀ id, (s.after v).roster.get? id = some a → u.roster.get? id = some a := by
      intro id on
      rwa [same, roster_enterOrAnswer] at on
    have on : ∀ id, (s.after v).roster.get? id = some a → s.roster.get? id = some a := by
      intro id on
      obtain kept | gone := roster id
      · rw [← kept, left id on]
      · rw [left id on] at gone
        cases gone
    have brings : ∀ n, (s.after v).Brings n a → s.Brings n a := fun n waits =>
      brings_of_asks asked underWay (same ▸ waits)
    refine manned.shrinks plays brings on ?_ ?_
    · intro n waits halted
      obtain ⟨id, _, on'⟩ := halts a halted
      exact manned.off n id (brings n waits) on'
    · rintro id on' (halted | ⟨n, c, waits, stops⟩)
      · obtain ⟨j, stops, here⟩ := halts a halted
        obtain rfl := manned.one id j (on id on') here
        obtain gone | ⟨c, rfl, stops⟩ := heeds id stops
        · rw [left id on'] at gone
          cases gone
        · refine ⟨u.calls.length, c, ?_, stops⟩
          rw [same, enterOrAnswer, underWay_enter, if_pos rfl]
          exact if_pos (Call.isLifecycle_of_stops stops)
      · refine ⟨n, c, ?_, stops⟩
        rw [same]
        exact underWay_enterOrAnswer_of_some (underWay ▸ waits) next
  | @steps n c move here stepped =>
    subst move
    cases spawning : c.spawning? with
    | none => exact manned.step_of_stops plays here stepped spawning
    | some sp => exact manned.step_of_spawns plays here stepped spawning

omit manned in
theorem fresh (config : HostConfig) (engine : Engine) (a : Nat) :
    (fresh config engine).Manned a := by
  have vacant : ∀ id, (State.fresh config engine).roster.get? id ≠ some a := nofun
  have idle : ∀ n, ¬ (State.fresh config engine).Brings n a := by
    rintro n ⟨sp, spawning, _⟩
    have none : (State.fresh config engine).underWay n = none := rfl
    rw [none, Option.bind_none] at spawning
    cases spawning
  exact ⟨fun id on => absurd on (vacant id), fun n waits => absurd waits (idle n),
    fun i _ on => absurd on (vacant i), fun m _ waits => absurd waits (idle m),
    fun _ id _ => vacant id, fun n _ waits => absurd waits (idle n),
    fun id _ on => absurd on (vacant id)⟩

/-- In a host that is not shut down, only a stop past the host leads an actor's end to be awaited
while it stands on the roster and no stop of it is under way. -/
theorem run {acts : List Act} (started : (s.run acts).started = true)
    (aside : ∀ v ∈ acts, v ≠ .stopActor a) : (s.run acts).Manned a := by
  refine run_induction (P := fun t => t.started = true → t.Manned a) (fun _ => manned) ?_ started
  intro t v mem manned next
  cases shut : t.started with
  | true => exact (manned shut).after shut (aside v mem)
  | false =>
    rw [started_after shut] at next
    cases next

theorem unawaited (on : s.roster.get? id = some a) (here : s.actors[a]? = some x)
    (unstopped : ∀ n c, s.underWay n = some c → ¬ c.stops id) : x.awaited = false := by
  cases awaited : x.awaited with
  | false => rfl
  | true =>
    obtain ⟨n, c, waits, stops⟩ := manned.heeded id x on here awaited
    exact absurd stops (unstopped n c waits)

theorem free_of_idle (on : s.roster.get? id = some a) (idle : ∀ n, s.underWay n = none) :
    ∃ x, s.actors[a]? = some x ∧ x.awaited = false := by
  have here := List.getElem?_eq_getElem (manned.seated id on)
  refine ⟨_, here, manned.unawaited on here fun n c waits => ?_⟩
  rw [idle n] at waits
  cases waits

end Manned

end ComponentHost.State
