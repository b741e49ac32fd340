import ComponentHost.Proofs.Host.Actor.Mailboxes

/-! Actors at work: what an actor has in hand was logged when it began, is what its role has it do,
and is due when that takes. The start hook comes first and once. -/

namespace ComponentHost

def Actor.Fledged (x : Actor) : Prop :=
  ∀ work due, x.phase = .busy .preStart work due → x.startup = none

theorem Actor.phase_leave_ne_busy (x : Actor) (hook : Hook) (ending : Ending) (hook' : Hook)
    (work : Work) (due : Option Duration) : (x.leave hook ending).phase ≠ .busy hook' work due := by
  cases hook <;> cases ending <;> exact nofun

namespace State

variable {s t : State} {v : Act} {a : Nat} {x : Actor} {hook : Hook} {work : Work}

/-- What an actor that is busy has in hand is the work of its hook, since the hook began. -/
def Engaged (s : State) (a : Nat) (x : Actor) : Prop :=
  ∀ hook work due, x.phase = .busy hook work due →
    ∃ now, x.role.Finds now hook work due ∧ ⟨now, a, .began hook⟩ ∈ s.log

structure Working (s : State) : Prop where
  engaged (a : Nat) (x : Actor) : s.actors[a]? = some x → s.Engaged a x
  fledged (a : Nat) (x : Actor) : s.actors[a]? = some x → x.Fledged

theorem Works.engaged (works : s.Works a x t) (here : s.actors[a]? = some x) :
    ∃ y, t.actors[a]? = some y ∧ t.Engaged a y ∧ y.Fledged := by
  cases works with
  | leaves _ _ scene finds | takes _ _ _ _ _ scene finds =>
    have log := congrArg Scene.log scene
    refine ⟨_, actor_of_set here (congrArg Scene.actors scene), ?_, nofun⟩
    rintro _ _ _ ⟨⟩
    refine ⟨s.clock, finds, ?_⟩
    rw [show t.log = _ from log]
    exact List.mem_concat_self
  | ends _ _ scene =>
    exact ⟨_, actor_of_set here (congrArg Scene.actors scene),
      fun _ _ _ busy => absurd busy (x.phase_leave_ne_busy _ _ _ _ _),
      fun _ _ busy => absurd busy (x.phase_leave_ne_busy _ _ _ _ _)⟩

namespace Working

theorem plays (working : s.Working) (plays : s.Plays v t) : t.Working := by
  have each : ∀ a y, t.actors[a]? = some y → t.Engaged a y ∧ y.Fledged := by
    intro a y there
    obtain ⟨x, here⟩ | new := plays.actor_cases there
    · obtain ⟨_, works⟩ | ⟨_, phase, startup⟩ := plays.works_or_rests here there
      · obtain ⟨z, last, engaged⟩ := works.engaged here
        rw [there] at last
        cases last
        exact engaged
      · have role := (plays.kept here there).role
        refine ⟨fun hook work due busy => ?_, fun work due busy => ?_⟩
        · obtain ⟨now, finds, began⟩ := working.engaged a x here hook work due (phase ▸ busy)
          refine ⟨now, role ▸ finds, ?_⟩
          obtain log | ⟨e, log, _⟩ := plays.log_cases
          · rwa [log]
          · rw [log]
            exact List.mem_append_left _ began
        · rw [startup, working.fledged a x here work due (phase ▸ busy)]
    · obtain ⟨work, due, busy, finds⟩ := new.starting
      refine ⟨fun hook' work' due' busy' => ?_, fun _ _ _ => new.startup⟩
      rw [busy] at busy'
      cases busy'
      refine ⟨s.clock, finds, ?_⟩
      rw [new.log]
      exact List.mem_concat_self
  exact ⟨fun a y there => (each a y there).1, fun a y there => (each a y there).2⟩

theorem after (working : s.Working) (v : Act) : (s.after v).Working :=
  working.plays (s.after_plays v)

theorem run (working : s.Working) (acts : List Act) : (s.run acts).Working :=
  run_induction (P := State.Working) working fun _ v _ working => working.after v

theorem fresh (config : HostConfig) (engine : Engine) : (fresh config engine).Working where
  engaged _ _ here := nomatch here
  fledged _ _ here := nomatch here

variable (working : s.Working) (here : s.actors[a]? = some x)

include working here

theorem bounded {due : Option Duration} (busy : x.phase = .busy hook work due) {c : Component}
    (role : x.role = .component c) : ∃ instant, due = some instant := by
  obtain ⟨now, finds, _⟩ := working.engaged a x here hook work due busy
  obtain ⟨span, bound⟩ := Component.span_of_does (role ▸ finds.does)
  exact ⟨now + span, by rw [finds.due, bound]; rfl⟩

theorem startup_after {r : Except String Unit} (reported : x.startup = some r) (v : Act) :
    ∃ y, (s.after v).actors[a]? = some y ∧ y.startup = some r := by
  obtain ⟨_, works⟩ | ⟨_, still | ⟨_, told⟩⟩ := (s.after_plays v).actor here
  · cases works with
    | leaves _ _ scene | takes _ _ _ _ _ scene =>
      exact ⟨_, actor_of_set here (congrArg Scene.actors scene), reported⟩
    | @ends hook work due busy _ scene =>
      refine ⟨_, actor_of_set here (congrArg Scene.actors scene), ?_⟩
      cases hook with
      | preStart =>
        rw [working.fledged a x here work _ busy] at reported
        cases reported
      | handle mail => cases work.course.ending <;> exact reported
      | postStop => cases work.course.ending <;> exact reported
  · exact ⟨x, still, reported⟩
  · exact ⟨_, told, reported⟩

end Working

theorem startOutcome_ok_iff :
    s.startOutcome a = some (.ok ()) ↔ ∃ x, s.actors[a]? = some x ∧ x.startup = some (.ok ()) := by
  simp only [startOutcome, Option.bind_eq_bind, Option.bind_eq_some_iff]
  refine exists_congr fun x => and_congr_right fun _ => ?_
  constructor
  · intro started
    split at started
    · assumption
    · cases started
    · cases started
    · cases started
    · cases started
  · intro reported
    rw [reported]

theorem Working.started_after (working : s.Working) (ready : s.startOutcome a = some (.ok ()))
    (v : Act) : (s.after v).startOutcome a = some (.ok ()) := by
  obtain ⟨x, here, reported⟩ := startOutcome_ok_iff.mp ready
  exact startOutcome_ok_iff.mpr (working.startup_after here reported v)

end State

end ComponentHost
