import Mathlib
import ComponentHost.Config.File
import ComponentHost.Proofs.Host.Act.OwnSteps
import ComponentHost.Proofs.Host.Component.OverlappingSpawns

/-! Which settings make a spawn panic. A capacity of zero is raised to one, but there is also a
greatest capacity that a mailbox can have, and the settings may ask for more. A spawn finds that
out when it has loaded its component, and at no other point. -/

namespace ComponentHost

def HostConfig.Oversized (config : HostConfig) : Prop :=
  State.maxCapacity < config.messaging.mailboxCapacity.toNat

namespace State

variable {s : State} {v : Act} {n : Nat} {o : Order}

theorem oversized_iff : s.config.Oversized ↔ maxCapacity < s.mailboxCapacity := by
  rw [HostConfig.Oversized, mailboxCapacity, maxCapacity]
  omega

def Loads (s : State) (o : Order) : Prop := ∃ program, s.loadProgram o = .ok program

theorem loadProgram_congr {t : State} (engine : t.engine = s.engine) (o : Order) :
    t.loadProgram o = s.loadProgram o := by
  rw [loadProgram, loadProgram, engine]

/-- A spawn that is past its loading: it has an actor, or has returned. -/
inductive Afloat (s : State) (n : Nat) (o : Order) : Prop
  | spawning {stage : SpawnStage} (loaded : stage ≠ .loading) (spawns : s.SpawnsAt n o stage)
  | returned {r : Except HostError Nat} (spawned : s.Spawned n r)

theorem SpawnTurns.loaded {t : State} {sp sp' : Spawn} (turns : s.SpawnTurns sp t (.inl sp')) :
    sp'.stage ≠ .loading := by
  cases turns <;> exact nofun

namespace Afloat

theorem after (afloat : s.Afloat n o) (v : Act) : (s.after v).Afloat n o := by
  cases afloat with
  | returned spawned => exact .returned (spawned.after v)
  | spawning loaded spawns =>
    by_cases own : v = .move (.call n)
    · subst own
      obtain ⟨_, same⟩ | ⟨loading, _⟩ | ⟨_, _, _, turns, _, goesOn⟩ | ⟨_, _, _, _, _, spawned⟩ :=
        spawns.move
      · rw [same]
        exact .spawning loaded spawns
      · exact absurd loading loaded
      · exact .spawning turns.loaded goesOn
      · exact .returned spawned
    · exact .spawning loaded (spawns.after own)

theorem run (afloat : s.Afloat n o) (acts : List Act) : (s.run acts).Afloat n o :=
  run_induction (P := (·.Afloat n o)) afloat fun _ v _ afloat => afloat.after v

theorem result (afloat : s.Afloat n o) {time : Duration} {answer : Answer}
    (here : s.calls[n]? = some (.returned time answer)) : ∃ r, answer = .spawned r := by
  cases afloat with
  | spawning _ spawns =>
    obtain ⟨_, there⟩ := spawns
    rw [here] at there
    cases there
  | returned spawned =>
    obtain ⟨_, there⟩ := spawned
    rw [here] at there
    cases there
    exact ⟨_, rfl⟩

end Afloat

theorem SpawnsAt.load (spawns : s.SpawnsAt n o .loading) :
    let t := s.after (.move (.call n))
    (s.config.Oversized ∧ s.Loads o ∧
        t.calls[n]? = some (.returned s.clock (.panicked capacityPanic))) ∨
      ¬ (s.config.Oversized ∧ s.Loads o) ∧ t.Afloat n o := by
  intro t
  have ⟨keep, here⟩ := spawns
  have known := (List.getElem?_eq_some_iff.mp here).1
  have stepped : s.stepCall n = s.stepSpawnCall n { order := o, keep } := by rw [stepCall, here]
  have same : t = (s.stepSpawnCall n { order := o, keep }).getD s := by rw [← stepped]; rfl
  rw [same, oversized_iff]
  cases loaded : s.loadProgram o with
  | error fault =>
    have refused : s.stepSpawnCall n { order := o, keep } =
        some (s.finish n (.spawned (.error (spawnError o (.loadFailed fault))))) := by
      simp only [stepSpawnCall, stepSpawn, loaded]
    rw [refused]
    refine .inr ⟨?_, .returned ⟨s.clock, List.getElem?_set_self known⟩⟩
    rintro ⟨_, _, loads⟩
    cases loaded.symm.trans loads
  | ok program =>
    by_cases large : maxCapacity < s.mailboxCapacity
    · refine .inl ⟨large, ⟨program, loaded⟩, ?_⟩
      simp only [stepSpawnCall, stepSpawn, loaded, if_pos large]
      exact List.getElem?_set_self known
    · let brought : Spawn := { order := o, stage := .starting s.actors.length, keep }
      obtain ⟨u, goesOn, calls⟩ : ∃ u : State, s.stepSpawnCall n { order := o, keep } =
          some (u.proceed n (.spawn brought)) ∧ u.calls = s.calls := by
        simp only [stepSpawnCall, stepSpawn, loaded, if_neg large]
        exact ⟨_, rfl, calls_createActor _ _ _⟩
      have there : (u.proceed n (.spawn brought)).SpawnsAt n o (.starting s.actors.length) :=
        ⟨keep, List.getElem?_set_self (calls ▸ known)⟩
      rw [goesOn]
      exact .inr ⟨fun failing => large failing.1, .spawning (fun same => by cases same) there⟩

theorem SpawnsAt.run_load (spawns : s.SpawnsAt n o .loading) (acts : List Act) :
    (.move (.call n) ∉ acts ∧ (s.run acts).SpawnsAt n o .loading) ∨
      (.move (.call n) ∈ acts ∧ s.config.Oversized ∧ s.Loads o ∧
        ∃ time, (s.run acts).calls[n]? = some (.returned time (.panicked capacityPanic))) ∨
      .move (.call n) ∈ acts ∧ ¬ (s.config.Oversized ∧ s.Loads o) ∧ (s.run acts).Afloat n o := by
  induction acts generalizing s with
  | nil => exact .inl ⟨List.not_mem_nil, spawns⟩
  | cons v acts ih =>
    by_cases own : v = .move (.call n)
    · subst own
      refine .inr ?_
      obtain ⟨large, loads, panicked⟩ | ⟨fits, afloat⟩ := spawns.load
      · exact .inl ⟨List.mem_cons_self, large, loads, _, returned_run panicked acts⟩
      · exact .inr ⟨List.mem_cons_self, fits, afloat.run acts⟩
    · obtain ⟨config, engine, _⟩ := s.frame_after v
      have loads : (s.after v).Loads o ↔ s.Loads o := by
        rw [Loads, Loads, loadProgram_congr engine]
      have first : .move (.call n) ∈ v :: acts ↔ .move (.call n) ∈ acts := by
        rw [List.mem_cons, or_iff_right (Ne.symm own)]
      have later := ih (spawns.after own)
      rwa [config, loads, ← first] at later

/-- Whatever a host is made of and whatever it does, a spawn that returns gives a result, but for
one panic: it comes with the first step of a spawn that was not refused, exactly if the component
loads and the settings ask for larger mailboxes than there can be. -/
theorem spawn_panics_iff (config : HostConfig) (engine : Engine) (before later : List Act)
    (o : Order) (keep : Option String) :
    let s := (fresh config engine).run before
    let n := s.calls.length
    let t := (fresh config engine).run (before ++ .spawn o keep :: later)
    (∀ time answer, t.calls[n]? = some (.returned time answer) →
      answer = .panicked capacityPanic ∨ ∃ r, answer = .spawned r) ∧
    ((∃ time text, t.calls[n]? = some (.returned time (.panicked text))) ↔
      config.Oversized ∧ (fresh config engine).Loads o ∧
        s.beginSpawn o keep = .inl { order := o, keep } ∧ .move (.call n) ∈ later) := by
  intro s n t
  have ran : t = (s.after (.spawn o keep)).run later := run_append _ _ _
  obtain ⟨r, begun, refused⟩ | ⟨begun, spawns⟩ := s.spawn_entered o keep
  · obtain ⟨time, here⟩ := ran ▸ refused.run later
    refine ⟨fun time' answer returned => ?_, ?_⟩
    · cases here.symm.trans returned
      exact .inr ⟨r, rfl⟩
    · rw [here, begun]
      simp
  · rw [begun]
    have settings : (s.after (.spawn o keep)).config = config ∧
        (s.after (.spawn o keep)).engine = engine := by
      have frame := s.frame_after (.spawn o keep)
      exact ⟨frame.1.trans (config_run _ before), frame.2.1.trans (engine_run _ before)⟩
    have loads : (s.after (.spawn o keep)).Loads o ↔ (fresh config engine).Loads o := by
      rw [Loads, Loads, loadProgram_congr (s := fresh config engine) settings.2]
    have fares := spawns.run_load later
    rw [settings.1, loads, ← ran] at fares
    obtain ⟨rests, keep', here⟩ | ⟨moved, large, loads, time, here⟩ | ⟨moved, fits, afloat⟩ := fares
    · rw [here]
      simp [n, rests]
    · rw [here]
      simp [n, large, loads, moved]
    · refine ⟨fun time answer returned => .inr (afloat.result returned), ?_, ?_⟩
      · rintro ⟨_, _, panicked⟩
        obtain ⟨_, same⟩ := afloat.result panicked
        cases same
      · rintro ⟨large, loads, _⟩
        exact absurd ⟨large, loads⟩ fits

section Sample

def oversizedText : String := "[host.messaging]\nmailbox_capacity = 2305843009213693952\n"

/-- A configuration whose mailboxes are one larger than there can be is read, and a spawn under it
panics. -/
theorem accepted_capacity_panics :
    ∃ c, ConfigFile.ofToml oversizedText = .ok c ∧
      ((fresh c.host (.paced [] 0)).run [.spawn sampleOrder none, .move (.call 0)]).calls[0]? =
        some (.returned 0 (.panicked capacityPanic)) := by
  refine ⟨{ host := { messaging := { mailboxCapacity := 2305843009213693952 } } }, by cbv, ?_⟩
  rfl

end Sample

end State

end ComponentHost
