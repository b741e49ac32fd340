import ComponentHost.Command.Startup
import ComponentHost.Proofs.Host.Component.LoneSpawnRun
import ComponentHost.Proofs.Host.Component.Membership

/-! Which components of a configuration a host comes up with. The entries are tried in their order,
and under each id the first one that starts is the one that stays: those before it leave no trace
but an actor that has ended, and those after it are turned away. -/

namespace ComponentHost.Startup

open State (fresh spawnError)

variable {source : ComponentEntry → Source} {config : HostConfig} {engine : Engine}
  {earlier entries : List ComponentEntry} {e : ComponentEntry} {r : Result}
  {results : List (ComponentEntry × Result)} {s t : State} {h i : Inventory}

/-- An entry is tried: its component is asked for, and nothing else is asked of the host until the
answer is there. Beyond that, the moves of the host may come in any order and at any time. -/
def Tries (source : ComponentEntry → Source) (s : State) (e : ComponentEntry) (r : Result)
    (t : State) : Prop :=
  ∃ acts : List State.Act, (∀ v ∈ acts, v.Unprompted) ∧
    t = (s.after (.spawn (order source e) none)).run acts ∧
      t.hasReturned s.calls.length = true ∧ r = resultOf t s.calls.length

inductive Loop (source : ComponentEntry → Source) :
    List ComponentEntry → State → List (ComponentEntry × Result) → State → Prop
  | done {s : State} {acts : List State.Act} (unprompted : ∀ v ∈ acts, v.Unprompted) :
    Loop source [] s [] (s.run acts)
  | next {s t u : State} {e : ComponentEntry} {r : Result} {rest : List ComponentEntry}
    {results : List (ComponentEntry × Result)} (tried : Tries source s e r t)
    (sound : ∀ text, r ≠ .crashed text) (goesOn : Loop source rest t results u) :
    Loop source (e :: rest) s ((e, r) :: results) u
  | crash {s t : State} {e : ComponentEntry} {text : String} {rest : List ComponentEntry}
    (tried : Tries source s e (.crashed text) t) :
    Loop source (e :: rest) s [(e, .crashed text)] t

/-- The component of an entry loads, and its start succeeds. -/
def Brings (source : ComponentEntry → Source) (engine : Engine) (e : ComponentEntry) : Prop :=
  ∃ program, (order source e).Starts engine program

/-- What has become of an entry, after others: of those, only the ones of its own id count. -/
inductive Fate (source : ComponentEntry → Source) (engine : Engine) (h : Inventory)
    (earlier : List ComponentEntry) (e : ComponentEntry) : Result → Prop
  | taken {other : ComponentEntry} (mem : other ∈ earlier) (same : other.id = e.id)
    (brings : Brings source engine other) :
    Fate source engine h earlier e (.skipped (spawnError (order source e) .alreadyExists))
  | failed {cause : SpawnCause}
    (free : ∀ other ∈ earlier, other.id = e.id → ¬ Brings source engine other)
    (fails : (order source e).trial engine = .error cause) :
    Fate source engine h earlier e (.skipped (spawnError (order source e) cause))
  | started {program : Program} {a : Nat} {x : Actor}
    (free : ∀ other ∈ earlier, other.id = e.id → ¬ Brings source engine other)
    (starts : (order source e).Starts engine program)
    (serves : h.Serves (order source e) program a x) :
    Fate source engine h earlier e (.started a)

theorem Fate.mono (fate : Fate source engine h earlier e r) (keeps : h.Keeps i) :
    Fate source engine i earlier e r := by
  cases fate with
  | taken mem same brings => exact .taken mem same brings
  | failed free fails => exact .failed free fails
  | started free starts serves => exact .started free starts (serves.mono keeps)

theorem Fate.not_crashed (fate : Fate source engine h earlier e r) (text : String) :
    r ≠ .crashed text := by
  cases fate <;> exact nofun

structure Stage (source : ComponentEntry → Source) (config : HostConfig) (engine : Engine)
    (earlier : List ComponentEntry) (s : State) : Prop where
  steady : s.Steady config engine
  rest : s.inventory.AtRest
  listed : ∀ id, s.inventory.roster.contains id = true ↔
    ∃ e ∈ earlier, e.id = id ∧ Brings source engine e

theorem stage_fresh : Stage source config engine [] (fresh config engine) where
  steady := ⟨rfl, rfl, rfl, rfl, fun _ mem => absurd mem List.not_mem_nil⟩
  rest := {
    returned := fun _ mem => absurd mem List.not_mem_nil
    rests := fun a x here => by simp [fresh, State.inventory] at here
    routed := fun _ => rfl }
  listed id := by simp [fresh, State.inventory, Table.contains]

theorem brings_iff : Brings source engine e ↔
    ∃ program, (order source e).trial engine = .ok program := by
  simp only [Brings, Order.trial_eq_ok]

theorem verdict_eq_ok : (∃ program, h.verdict engine (order source e) = .ok program) ↔
    ¬ h.roster.contains e.id = true ∧ Brings source engine e := by
  rw [brings_iff, Inventory.verdict, show (order source e).id = e.id from rfl]
  by_cases taken : h.roster.contains e.id = true <;> simp [taken]

theorem resultOf_eq {n : Nat} {time : Duration} {answer : Except HostError Nat}
    (here : t.inventory.calls[n]? = some (.returned time (.spawned answer))) :
    resultOf t n = match answer with
      | .ok a => .started a
      | .error e => .skipped e := by
  rw [resultOf, show t.calls[n]? = _ from here]
  cases answer <;> rfl

namespace Stage

theorem concat (stage : Stage source config engine earlier s) (steady : t.Steady config engine)
    (closes : s.inventory.Closes engine (order source e) t.inventory) :
    Stage source config engine (earlier ++ [e]) t where
  steady := steady
  rest := closes.rest
  listed id := by
    have last : (∃ other ∈ earlier ++ [e], other.id = id ∧ Brings source engine other) ↔
        s.inventory.roster.contains id = true ∨ e.id = id ∧ Brings source engine e := by
      rw [stage.listed id]
      simp [or_and_right, exists_or]
    rw [closes.listed id, verdict_eq_ok, last, show (order source e).id = e.id from rfl]
    constructor
    · rintro (listed | ⟨rfl, _, brings⟩)
      · exact .inl listed
      · exact .inr ⟨rfl, brings⟩
    · rintro (listed | ⟨rfl, brings⟩)
      · exact .inl listed
      · exact (Classical.em _).imp_right fun free => ⟨rfl, free, brings⟩

theorem fate (stage : Stage source config engine earlier s)
    (closes : s.inventory.Closes engine (order source e) t.inventory) :
    Fate source engine t.inventory earlier e (resultOf t s.calls.length) := by
  cases taken : s.inventory.roster.contains e.id with
  | true =>
    obtain ⟨other, mem, same, brings⟩ := (stage.listed e.id).mp taken
    obtain ⟨time, here⟩ := closes.failed .alreadyExists (if_pos taken)
    rw [resultOf_eq (n := s.calls.length) here]
    exact .taken mem same brings
  | false =>
    have verdict : s.inventory.verdict engine (order source e) = _ :=
      Inventory.verdict_of_free taken
    have free : ∀ other ∈ earlier, other.id = e.id → ¬ Brings source engine other := by
      intro other mem same brings
      rw [(stage.listed e.id).mpr ⟨other, mem, same, brings⟩] at taken
      cases taken
    cases trial : (order source e).trial engine with
    | error cause =>
      obtain ⟨time, here⟩ := closes.failed cause (verdict.trans trial)
      rw [resultOf_eq (n := s.calls.length) here]
      exact .failed free trial
    | ok program =>
      obtain ⟨a, x, serves, time, here⟩ := closes.serves program (verdict.trans trial)
      rw [resultOf_eq (n := s.calls.length) here]
      exact .started free (Order.trial_eq_ok.mp trial) serves

theorem tries (stage : Stage source config engine earlier s) (fits : ¬ config.Oversized)
    (tried : Tries source s e r t) : Stage source config engine (earlier ++ [e]) t ∧
      s.inventory.Keeps t.inventory ∧ Fate source engine t.inventory earlier e r := by
  obtain ⟨acts, unprompted, rfl, returned, rfl⟩ := tried
  obtain ⟨steady, closes⟩ := stage.steady.spawn_closes fits stage.rest _ unprompted returned
  exact ⟨stage.concat steady closes, closes.keeps, stage.fate closes⟩

end Stage

section Fates

inductive Fates (source : ComponentEntry → Source) (engine : Engine) (h : Inventory) :
    List ComponentEntry → List (ComponentEntry × Result) → Prop
  | nil {earlier : List ComponentEntry} : Fates source engine h earlier []
  | cons {earlier : List ComponentEntry} {e : ComponentEntry} {r : Result}
    {results : List (ComponentEntry × Result)} (fate : Fate source engine h earlier e r)
    (rest : Fates source engine h (earlier ++ [e]) results) :
    Fates source engine h earlier ((e, r) :: results)

theorem Fates.append {before after : List (ComponentEntry × Result)}
    (fates : Fates source engine h earlier (before ++ after)) :
    Fates source engine h earlier before ∧
      Fates source engine h (earlier ++ before.map Prod.fst) after := by
  induction before generalizing earlier with
  | nil => exact ⟨.nil, by rwa [List.map_nil, List.append_nil]⟩
  | cons first before ih =>
    cases fates with
    | cons fate rest =>
      obtain ⟨former, latter⟩ := ih rest
      exact ⟨.cons fate former, by rwa [List.append_assoc] at latter⟩

def Result.refusal : Result → Option HostError
  | skipped e => some e
  | _ => none

def report (p : ComponentEntry × Result) : ComponentEntry × Option HostError := (p.1, p.2.refusal)

theorem Fate.agree {earlier' : List ComponentEntry} {r' : Result}
    (same : ∀ other, Brings source engine other → (other ∈ earlier ↔ other ∈ earlier'))
    (fate : Fate source engine h earlier e r) (fate' : Fate source engine i earlier' e r') :
    r.refusal = r'.refusal := by
  cases fate with
  | taken mem id brings =>
    cases fate' with
    | taken => rfl
    | failed free | started free => exact absurd brings (free _ ((same _ brings).mp mem) id)
  | failed free fails =>
    cases fate' with
    | taken mem id brings => exact absurd brings (free _ ((same _ brings).mpr mem) id)
    | failed _ fails' =>
      cases fails.symm.trans fails'
      rfl
    | started _ starts => cases fails.symm.trans (Order.trial_eq_ok.mpr starts)
  | started free starts =>
    cases fate' with
    | taken mem id brings => exact absurd brings (free _ ((same _ brings).mpr mem) id)
    | failed _ fails => cases fails.symm.trans (Order.trial_eq_ok.mpr starts)
    | started => rfl

theorem Fates.agree {earlier' : List ComponentEntry} {results' : List (ComponentEntry × Result)}
    (fates : Fates source engine h earlier results)
    (fates' : Fates source engine i earlier' results')
    (entries : results.map Prod.fst = results'.map Prod.fst)
    (same : ∀ other, Brings source engine other → (other ∈ earlier ↔ other ∈ earlier')) :
    results.map report = results'.map report := by
  induction fates generalizing earlier' results' with
  | nil =>
    cases results' with
    | nil => rfl
    | cons => cases entries
  | @cons earlier e r results fate rest ih =>
    cases fates' with
    | nil => cases entries
    | @cons _ e' r' results' fate' rest' =>
      obtain ⟨rfl, others⟩ := List.cons_eq_cons.mp entries
      have tail := ih rest' others fun other brings => by
        simp only [List.mem_append, same other brings]
      rw [List.map_cons, List.map_cons, tail, report, report, fate.agree same fate']

theorem Fates.first {id : ComponentId} (fates : Fates source engine h earlier results)
    (free : ∀ other ∈ earlier, other.id = id → ¬ Brings source engine other)
    (present : ∃ e ∈ results.map Prod.fst, e.id = id ∧ Brings source engine e) :
    ∃ e a, e.id = id ∧ (e, .started a) ∈ results ∧ h.roster.get? id = some a := by
  induction fates with
  | nil =>
    obtain ⟨e, mem, _⟩ := present
    cases mem
  | @cons earlier e r results fate rest ih =>
    by_cases here : e.id = id ∧ Brings source engine e
    · obtain ⟨rfl, brings⟩ := here
      cases fate with
      | taken mem same brings' => exact absurd brings' (free _ mem same)
      | failed _ fails =>
        obtain ⟨program, starts⟩ := brings_iff.mp brings
        cases fails.symm.trans starts
      | @started _ a _ _ _ serves => exact ⟨e, a, rfl, List.mem_cons_self, serves.listed⟩
    · obtain ⟨e', a, same, mem, listed⟩ := ih
        (fun other mem same brings => by
          obtain mem | mem := List.mem_append.mp mem
          · exact free other mem same brings
          · obtain rfl := List.mem_singleton.mp mem
            exact here ⟨same, brings⟩)
        (by
          obtain ⟨other, mem, there⟩ := present
          obtain rfl | mem := List.mem_cons.mp mem
          · exact absurd there here
          · exact ⟨other, mem, there⟩)
      exact ⟨e', a, same, List.mem_cons_of_mem _ mem, listed⟩

end Fates

section Loop

variable (fits : ¬ config.Oversized) (stage : Stage source config engine earlier s)

include fits stage

theorem Loop.fares (loop : Loop source entries s results t) :
    Stage source config engine (earlier ++ entries) t ∧ s.inventory.Keeps t.inventory ∧
      results.map Prod.fst = entries ∧ Fates source engine t.inventory earlier results := by
  induction loop generalizing earlier with
  | done unprompted =>
    obtain ⟨steady, same⟩ := stage.steady.run_of_atRest stage.rest unprompted
    rw [List.append_nil, same]
    exact ⟨⟨steady, same ▸ stage.rest, same ▸ stage.listed⟩, .refl _, rfl, .nil⟩
  | @crash s t e text rest tried =>
    exact absurd rfl ((stage.tries fits tried).2.2.not_crashed text)
  | @next s t u e r rest results tried sound goesOn ih =>
    obtain ⟨stage', keeps, fate⟩ := stage.tries fits tried
    obtain ⟨last, keeps', complete, fates⟩ := ih stage'
    rw [List.append_assoc] at last
    exact ⟨last, keeps.trans keeps', congrArg (e :: ·) complete, .cons (fate.mono keeps') fates⟩

omit fits stage in
theorem Loop.exists_run (loop : Loop source entries s results t) : ∃ acts, t = s.run acts := by
  induction loop with
  | @done _ acts _ => exact ⟨acts, rfl⟩
  | crash tried =>
    obtain ⟨acts, _, rfl, _⟩ := tried
    exact ⟨_ :: acts, rfl⟩
  | next tried _ _ ih =>
    obtain ⟨acts, _, rfl, _⟩ := tried
    obtain ⟨acts', rfl⟩ := ih
    exact ⟨_ :: (acts ++ acts'), (State.run_append _ acts acts').symm⟩

/-- To start an entry is to try it: the spawn is waited for until it has returned. -/
theorem tries_startEntry (e : ComponentEntry) :
    Tries source s e (startEntry source s e).2 (startEntry source s e).1 := by
  let u := s.after (.spawn (order source e) none)
  have number : (s.spawnComponent (order source e) none).1 = s.calls.length := by
    rw [State.spawnComponent]
    cases s.beginSpawn (order source e) none <;> rfl
  have started : startEntry source s e =
      (u.await s.calls.length, resultOf (u.await s.calls.length) s.calls.length) := by
    rw [← number]
    rfl
  obtain ⟨begun, k, debut⟩ := stage.steady.spawn (order source e)
  obtain ⟨acts, unprompted, awaited, returned⟩ := begun.await_of_debut fits stage.rest debut
  have there : u.await s.calls.length = u.run acts := awaited
  rw [started, there]
  exact ⟨acts, unprompted, rfl, returned, rfl⟩

theorem loop_startAll (entries : List ComponentEntry) :
    Loop source entries s (startAll source s entries).2 (startAll source s entries).1 := by
  induction entries generalizing s earlier with
  | nil =>
    have noActs : ∀ v ∈ ([] : List State.Act), v.Unprompted := fun _ mem =>
      absurd mem List.not_mem_nil
    exact .done noActs
  | cons e rest ih =>
    have tried := tries_startEntry fits stage e
    obtain ⟨stage', _, fate⟩ := stage.tries fits tried
    have sound := fate.not_crashed
    have goesOn := ih stage'
    rw [startAll]
    generalize startEntry source s e = started at *
    obtain ⟨t, r⟩ := started
    cases r with
    | started a => exact .next tried sound goesOn
    | skipped error => exact .next tried sound goesOn
    | crashed text => exact absurd rfl (sound text)
    | stuck => cases fate

end Loop

/-- What a startup comes to. It stays so for as long as nothing else is asked of the host. -/
structure Outcome (source : ComponentEntry → Source) (config : HostConfig) (engine : Engine)
    (entries : List ComponentEntry) (results : List (ComponentEntry × Result)) (t : State) :
    Prop where
  complete : results.map Prod.fst = entries
  fates : ∀ before e r after, results = before ++ (e, r) :: after →
    Fate source engine t.inventory (before.map Prod.fst) e r
  listed : ∀ id, t.roster.contains id = true ↔ ∃ e ∈ entries, e.id = id ∧ Brings source engine e
  routed : ∀ id, t.post.hasRoute id = t.roster.contains id
  known : ∀ id, t.ledger.knows id = true → t.roster.contains id = true
  instances : ∀ id a, t.roster.get? id = some a → ∃ e, e.id = id ∧ (e, .started a) ∈ results
  actors : ∀ a x, t.actors[a]? = some x → x.hasEnded = true ∨ ∃ id, t.roster.get? id = some a
  apart : ∀ before e r after, results = before ++ (e, r) :: after → ¬ Brings source engine e →
    ∀ results' t', Loop source ((before ++ after).map Prod.fst) (fresh config engine) results' t' →
      results'.map report = (before ++ after).map report

/-- Whatever entries there are, a host starts up with the first component of each id that comes up,
and with no other. -/
theorem startup_outcome (source : ComponentEntry → Source) {config : HostConfig}
    (fits : ¬ config.Oversized) (engine : Engine) (entries : List ComponentEntry) :
    let s := fresh config engine
    Loop source entries s (startAll source s entries).2 (startAll source s entries).1 ∧
      ∀ results t, Loop source entries s results t →
        Outcome source config engine entries results t := by
  refine ⟨loop_startAll fits stage_fresh entries, fun results t loop => ?_⟩
  obtain ⟨stage, _, complete, fates⟩ := loop.fares fits stage_fresh
  obtain ⟨acts, ran⟩ := loop.exists_run
  refine ⟨complete, ?_, stage.listed, stage.rest.routed, fun id => ?_, ?_, ?_, ?_⟩
  · rintro before e r after rfl
    cases fates.append.2 with
    | cons fate => exact fate
  · exact ran ▸ (State.fair_run config engine acts id).listed
  · intro id a on
    rw [← complete] at stage
    have listed := (stage.listed id).mp (State.contains_of_get? on)
    obtain ⟨e, a', same, mem, on'⟩ := fates.first (fun _ mem => absurd mem List.not_mem_nil) listed
    obtain rfl := Option.some.inj (on'.symm.trans on)
    exact ⟨e, same, mem⟩
  · intro a x here
    cases stage.rest.rests a x here with
    | ended gone => exact .inl gone
    | waiting idle untold box on => exact .inr ⟨_, on⟩
  · rintro before e r after rfl idle results' t' loop'
    obtain ⟨_, _, complete', fates'⟩ := loop'.fares fits stage_fresh
    rw [List.map_append] at complete'
    obtain ⟨before', after', rfl, same, same'⟩ := List.map_eq_append_iff.mp complete'
    have former := fates'.append.1.agree fates.append.1 same fun _ _ => Iff.rfl
    cases fates.append.2 with
    | cons fate rest =>
      have latter := fates'.append.2.agree rest same' fun other brings => by
        have other' : other ≠ e := by
          rintro rfl
          exact idle brings
        simp [same, other']
      rw [List.map_append, List.map_append, former, latter]

section Sample

/-- An engine to which the bytes say how `init` goes: it traps, outlasts its time, or succeeds. -/
def initEngine : Engine where
  load _ bytes :=
    match bytes with
    | [0] => .ok ⟨.ofList ["init"], fun _ _ => ⟨[], .fault (.trap "unreachable" 0)⟩⟩
    | [1] => .ok ⟨.ofList ["init"], fun _ _ => ⟨[.wait (.ofMillis 200)], .output ⟨[]⟩⟩⟩
    | [2] => .ok ⟨.ofList ["init"], fun _ _ => ⟨[.wait (.ofMillis 10)], .output ⟨[]⟩⟩⟩
    | _ => .error (.compilation "no program")

def sampleFiles (e : ComponentEntry) : Source :=
  .file <|
    match e.path with
    | "trap" => .ok [0]
    | "slow" => .ok [1]
    | "good" => .ok [2]
    | "text" => .ok []
    | _ => .error "no such file"

def sampleEntry (id path : String) : ComponentEntry :=
  ⟨⟨id⟩, path, {}, { maxMemoryBytes := 0 }⟩

def sampleEntries : List ComponentEntry :=
  [sampleEntry "a" "none", sampleEntry "a" "trap", sampleEntry "b" "text", sampleEntry "a" "good",
    sampleEntry "b" "slow", sampleEntry "a" "good"]

/-- Of two ids the first is taken by the fourth entry, after two that fail and before one that comes
too late; the other stays free. -/
theorem sample_startup :
    let started := startAll sampleFiles (fresh {} initEngine) sampleEntries
    ¬ HostConfig.Oversized {} ∧
      Outcome sampleFiles {} initEngine sampleEntries started.2 started.1 ∧
      started.2.map (·.2.refusal.isSome) = [true, true, true, false, true, true] ∧
      started.1.roster.get? ⟨"a"⟩ = some 1 ∧ started.1.roster.get? ⟨"b"⟩ = none := by
  have fits : ¬ HostConfig.Oversized {} := show ¬ State.maxCapacity < 1024 by decide
  have outcome := startup_outcome sampleFiles fits initEngine sampleEntries
  exact ⟨fits, outcome.2 _ _ outcome.1, by decide +kernel, by decide +kernel, by decide +kernel⟩

end Sample

end ComponentHost.Startup
