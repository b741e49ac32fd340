import ComponentHost.Proofs.Host.Actor.Mailboxes
import ComponentHost.Proofs.Host.Act.Listing
import ComponentHost.Proofs.Host.Act.Calls

/-! The roster and the routes are two tables, written one after the other by spawns and stops, which
can fail or give up in between. As long as the lifecycle calls that have to do with a component
follow one another, its route leads to its actor whenever none of them is under way. -/

namespace ComponentHost

theorem Call.concerns_of_waitsFor {id : ComponentId} {c : Call} (waits : c.waitsFor id) :
    c.concerns id := by
  cases c with
  | stop => exact Eq.symm waits
  | restartStop | shutdown => exact .inl (Eq.symm waits)
  | _ => exact waits.elim

theorem Call.concerns_of_spawning {sp : Spawn} {c : Call} (spawning : c.spawning? = some sp) :
    c.concerns sp.order.id := by
  cases c with
  | spawn | restartSpawn =>
    cases spawning
    rfl
  | _ => cases spawning

namespace State

variable {s t : State} {v : Act} {n a : Nat} {id : ComponentId}

def Calm (s : State) (id : ComponentId) : Prop := ∀ n c, s.underWay n = some c → ¬ c.concerns id

theorem calm_of_returned (returned : ∀ state ∈ s.calls, state.lifecycle? = none) : s.Calm id := by
  intro n c here
  obtain ⟨state, known, shown⟩ := Option.bind_eq_some_iff.mp here
  rw [returned state (List.mem_of_getElem? known)] at shown
  cases shown

/-- Along a run, a lifecycle call that has to do with the component of an id is asked for only when
no other is under way. -/
def Serial (s : State) (acts : List Act) (id : ComponentId) : Prop :=
  ∀ before v later, acts = before ++ v :: later → v.concerns id → (s.run before).Calm id

theorem serial_nil (s : State) (id : ComponentId) : s.Serial [] id := by
  intro before v later split
  cases before <;> cases split

theorem serial_cons {acts : List Act} :
    s.Serial (v :: acts) id ↔ (v.concerns id → s.Calm id) ∧ (s.after v).Serial acts id := by
  constructor
  · intro serial
    exact ⟨serial [] v acts rfl, fun before w later split => serial (v :: before) w later
      (by rw [split]; rfl)⟩
  · rintro ⟨calm, serial⟩ before w later split
    cases before with
    | nil =>
      obtain ⟨rfl, _⟩ := List.cons.inj split
      exact calm
    | cons u before =>
      obtain ⟨rfl, tail⟩ := List.cons.inj split
      exact serial before w later tail

def InTurn (s : State) (acts : List Act) : Prop :=
  ∀ before v later, acts = before ++ v :: later → ∀ id, v.concerns id →
    ∀ m, (s.run before).underWay m = none

namespace InTurn

variable {acts before later : List Act}

theorem left (turn : s.InTurn (before ++ later)) : s.InTurn before :=
  fun early v rest split => turn early v (rest ++ later) (by rw [split, List.append_assoc]; rfl)

theorem right (turn : s.InTurn (before ++ later)) : (s.run before).InTurn later := by
  intro early v rest split id asked m
  rw [← run_append]
  exact turn (before ++ early) v rest (by rw [split, List.append_assoc]) id asked m

theorem serial (turn : s.InTurn acts) (id : ComponentId) : s.Serial acts id := by
  intro before v later split asked m c here
  rw [turn before v later split id asked m] at here
  cases here

end InTurn

section Concern

theorem concerned_after {c : Call} (there : (s.after v).underWay n = some c)
    (concerns : c.concerns id) :
    v.concerns id ∨ ∃ c₀, s.underWay n = some c₀ ∧ c₀.concerns id := by
  cases started : s.started with
  | true => exact concerns_after started there concerns
  | false =>
    cases s.after_turn v with
    | idle _ underWay => exact .inr ⟨c, underWay ▸ there, concerns⟩
    | begins begins =>
      have opened := begins.opened
      rw [started] at opened
      cases opened
    | advances m c₀ _ here stepped advances =>
      by_cases own : n = m
      · subst own
        exact .inr ⟨c₀, here, (goes_of_step here stepped there).concerns concerns⟩
      · exact .inr ⟨c, (advances.others n own).symm.trans there, concerns⟩

theorem enters_of_concerns (asked : v.concerns id) : s.Enters none (s.after v) := by
  cases v with
  | spawn o keep => exact s.spawnComponent_enters o keep
  | stop c => exact s.stopComponent_enters c
  | restart o => exact s.restartComponent_enters o
  | shutdown => exact s.shutdown_enters
  | _ => exact asked.elim

theorem Enters.underWay {errand : Option (Option Nat × Mail)} (enters : s.Enters errand t)
    {c : Call} (there : t.underWay n = some c) :
    n = s.calls.length ∨ s.underWay n = some c := by
  obtain ⟨state, calls, _⟩ := enters
  by_cases last : n = s.calls.length
  · exact .inl last
  · have same : t.underWay n = { s with calls := s.calls ++ [state] }.underWay n := by
      rw [State.underWay, calls, State.underWay]
    rw [same, underWay_append, if_neg last] at there
    exact .inr there

end Concern

/-- The route of an id leads to the actor that stands on the roster, if one does; only while a stop
waits for that actor's end the route is gone already. -/
structure Routed (s : State) (id : ComponentId) : Prop where
  one (m n : Nat) (c d : Call) : s.underWay m = some c → s.underWay n = some d →
    c.concerns id → d.concerns id → m = n
  known (a : Nat) : s.roster.get? id = some a → a < s.actors.length
  unrouted : s.Winding id → s.post.routes.get? id = none
  routed : ¬ s.Winding id → s.post.routes.get? id = (s.roster.get? id).map s.boxOf

namespace Routed

variable (routed : s.Routed id)

include routed

theorem one_after (alone : v.concerns id → s.Calm id) (m n : Nat) (c d : Call)
    (first : (s.after v).underWay m = some c) (second : (s.after v).underWay n = some d)
    (concerns : c.concerns id) (concerns' : d.concerns id) : m = n := by
  by_cases asked : v.concerns id
  · have entered : ∀ {k : Nat} {e : Call}, (s.after v).underWay k = some e → e.concerns id →
        k = s.calls.length := fun there concerns =>
      ((enters_of_concerns asked).underWay there).resolve_right fun here =>
        alone asked _ _ here concerns
    rw [entered first concerns, entered second concerns']
  · obtain ⟨c₀, here, before⟩ := (concerned_after first concerns).resolve_left asked
    obtain ⟨d₀, here', before'⟩ := (concerned_after second concerns').resolve_left asked
    exact routed.one m n c₀ d₀ here here' before before'

theorem not_winding_of_seats (seats : s.Seats n id a) : ¬ s.Winding id := by
  rintro ⟨m, d, here', waits⟩
  obtain ⟨sp, spawning, rfl, _⟩ := seats
  obtain ⟨c, here, spawning⟩ := Option.bind_eq_some_iff.mp spawning
  obtain rfl := routed.one m n d c here' here (Call.concerns_of_waitsFor waits)
    (Call.concerns_of_spawning spawning)
  rw [here] at here'
  cases here'
  cases d with
  | spawn | restartSpawn => exact waits
  | _ => cases spawning

theorem after (aside : ¬ v.reroutes id) (alone : v.concerns id → s.Calm id) :
    (s.after v).Routed id := by
  have one := routed.one_after alone
  have grows := (s.after_plays v).actors_length
  have boxes : (s.roster.get? id).map (s.after v).boxOf = (s.roster.get? id).map s.boxOf := by
    cases on : s.roster.get? id with
    | none => rfl
    | some a => exact congrArg some (boxOf_after (routed.known a on) v)
  -- Nothing changes for the id but its membership.
  have kept : (s.after v).roster.get? id = s.roster.get? id →
      (s.after v).post.routes.get? id = s.post.routes.get? id →
      ((s.after v).Winding id ↔ s.Winding id) → (s.after v).Routed id := by
    intro roster routes winding
    refine ⟨one, fun a on => ?_, fun winds => ?_, fun idle => ?_⟩
    · exact Nat.lt_of_lt_of_le (routed.known a (roster ▸ on)) grows
    · rw [routes, routed.unrouted (winding.mp winds)]
    · rw [routes, roster, boxes, routed.routed fun winds => idle (winding.mpr winds)]
  cases s.after_relists v id with
  | reroutes past => exact absurd past aside
  | rests same winding =>
    exact kept (congrArg Listing.actor same) (congrArg Listing.box same) winding
  | enrolls _ _ same winding =>
    exact kept (congrArg Listing.actor same) (congrArg Listing.box same) winding
  | unroutes _ winding same =>
    have roster : (s.after v).roster.get? id = s.roster.get? id := congrArg Listing.actor same
    refine ⟨one, fun a on => ?_, fun _ => congrArg Listing.box same, fun idle => ?_⟩
    · exact Nat.lt_of_lt_of_le (routed.known a (roster ▸ on)) grows
    · exact absurd winding idle
  | leaves _ box route same =>
    have roster : (s.after v).roster.get? id = none := congrArg Listing.actor same
    have gone : (s.after v).post.routes.get? id = none := by
      rw [show (s.after v).post.routes.get? id = box from congrArg Listing.box same]
      obtain gone | ⟨left, winds⟩ := route
      · exact gone
      · rw [left, routed.unrouted winds]
    refine ⟨one, fun a on => ?_, fun _ => gone, fun _ => ?_⟩
    · rw [roster] at on
      cases on
    · rw [gone, roster]
      rfl
  | @seats n a _ seats same winding =>
    have roster : (s.after v).roster.get? id = some a := congrArg Listing.actor same
    have routes : (s.after v).post.routes.get? id = some (s.boxOf a) := congrArg Listing.box same
    refine ⟨one, fun b on => ?_, fun winds => ?_, fun _ => ?_⟩
    · rw [roster] at on
      cases on
      exact Nat.lt_of_lt_of_le seats.known grows
    · exact absurd (winding.mp winds) (routed.not_winding_of_seats seats)
    · rw [routes, roster, Option.map_some, boxOf_after seats.known]

theorem run {acts : List Act} (aside : ∀ v ∈ acts, ¬ v.reroutes id) (serial : s.Serial acts id) :
    (s.run acts).Routed id := by
  induction acts generalizing s with
  | nil => exact routed
  | cons v acts ih =>
    obtain ⟨alone, serial⟩ := serial_cons.mp serial
    exact ih (routed.after (aside v List.mem_cons_self) alone)
      (fun w mem => aside w (List.mem_cons_of_mem v mem)) serial

omit routed in
theorem fresh (config : HostConfig) (engine : Engine) (id : ComponentId) :
    (fresh config engine).Routed id where
  one _ _ _ _ here := nomatch here
  known _ on := nomatch on
  unrouted _ := rfl
  routed _ := rfl

end Routed

/-- Where lifecycle calls follow one another, whatever comes of each, and nobody changes routes past
the host: once they are over, a component has a route exactly if it is on the roster, and the route
leads to the mailbox of the actor that stands there, and of no other. -/
theorem route_follows_roster (config : HostConfig) (engine : Engine) {acts : List Act}
    {id : ComponentId} (serial : (fresh config engine).Serial acts id)
    (aside : ∀ v ∈ acts, ¬ v.reroutes id) :
    let s := (fresh config engine).run acts
    s.Calm id → s.post.hasRoute id = s.roster.contains id ∧
      ∀ a, s.roster.get? id = some a → ∃ x, s.actors[a]? = some x ∧
        s.post.routes.get? id = some x.box ∧
        ∀ b y, s.actors[b]? = some y → y.box = x.box → b = a := by
  intro s calm
  have routed := (Routed.fresh config engine id).run aside serial
  have tidy := (Tidy.fresh config engine).run acts
  have route : s.post.routes.get? id = (s.roster.get? id).map s.boxOf :=
    routed.routed fun ⟨n, c, here, waits⟩ => calm n c here (Call.concerns_of_waitsFor waits)
  refine ⟨?_, fun a on => ?_⟩
  · rw [PostOffice.hasRoute, Table.contains, Table.contains, route, Option.isSome_map]
  · have here := List.getElem?_eq_getElem (routed.known a on)
    refine ⟨_, here, ?_, fun b y there same => tidy.apart b a y _ there here same⟩
    rw [route, on, Option.map_some, boxOf_eq here]

/-- A stop gives up on a component that takes its time over the cleanup, and another is spawned in
its place: the route leads to the newer one. -/
theorem respawned_routed :
    let acts : List Act := [.spawn sampleOrder none, .move (.call 0), .move (.actor 0),
      .move (.call 0), .stop ⟨"a"⟩, .move (.actor 0), .wait (.ofMillis 50), .move (.call 1),
      .spawn sampleOrder none, .move (.call 2), .move (.actor 1), .move (.call 2)]
    let s := (fresh { lifecycle := { stopTimeoutMs := 50 } }
      (.paced ["cleanup"] (.ofMillis 100))).run acts
    s.post.hasRoute ⟨"a"⟩ = true ∧ s.post.routes.get? ⟨"a"⟩ = some 1 ∧
      (s.actors.map Actor.hasEnded) = [false, false] := by
  intro acts s
  have serial : (fresh { lifecycle := { stopTimeoutMs := 50 } }
      (.paced ["cleanup"] (.ofMillis 100))).Serial acts ⟨"a"⟩ := by
    simp only [acts, serial_cons, Act.concerns]
    refine ⟨fun _ => calm_of_returned (by decide +kernel), nofun, nofun, nofun,
      fun _ => calm_of_returned (by decide +kernel), nofun, nofun, nofun,
      fun _ => calm_of_returned (by decide +kernel), nofun, nofun, nofun, serial_nil _ _⟩
  have calm : s.Calm ⟨"a"⟩ := calm_of_returned (by decide +kernel)
  obtain ⟨same, leads⟩ := route_follows_roster _ _ serial (by simp [acts, Act.reroutes]) calm
  obtain ⟨x, here, route, _⟩ := leads 1 rfl
  refine ⟨same.trans rfl, ?_, rfl⟩
  rw [route]
  cases here
  rfl

end State

end ComponentHost
