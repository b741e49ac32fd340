import ComponentHost.Proofs.Host.Component.LifecycleSteps

/-! What a host does by itself. Most acts of a run, whatever they set in motion, come down to a few
kinds of steps: what these keep, the acts keep. -/

namespace ComponentHost.State

variable {s t : State} {heard : CorrelationId → Response → Prop}

/-- From `s` the host comes to `t` by steps of its own: exchanges come to their ends, with no
response but those that were heard, a component is told to stop, taken off or given its seat, the
host is shut down, and calls move on. -/
inductive Arranges (heard : CorrelationId → Response → Prop) (s : State) : State → Prop
  | refl : Arranges heard s s
  | settles {t u : State} (before : Arranges heard s t) (settles : t.SettlesBy heard u) :
    Arranges heard s u
  | tells {t : State} (before : Arranges heard s t) (id : ComponentId) (a : Nat) :
    Arranges heard s (t.told id a)
  | ends {t : State} (before : Arranges heard s t) (id : ComponentId) :
    Arranges heard s (t.endStop id)
  | seats {t u : State} {sp : Spawn} (before : Arranges heard s t) (seat : t.MaySeat u sp) :
    Arranges heard s u
  | closes {t : State} (before : Arranges heard s t) : Arranges heard s { t with started := false }
  | calls {t : State} (before : Arranges heard s t) (calls : List CallState) :
    Arranges heard s { t with calls := calls }

namespace Arranges

theorem of_settles (settles : s.SettlesBy heard t) : s.Arranges heard t := refl.settles settles

variable (before : s.Arranges heard t)

include before

theorem beginStop (id : ComponentId) : s.Arranges heard (t.beginStop id).1 := by
  obtain ⟨_, _, same⟩ | ⟨a, _, ⟨_, same⟩ | ⟨_, same⟩⟩ := t.beginStop_cases id <;> rw [same]
  · exact before
  · exact (before.tells id a).ends id
  · exact before.tells id a

theorem drain (ids : List ComponentId) : s.Arranges heard (t.drain ids).1 :=
  drain_induction before fun _ id _ before => before.beginStop id

theorem carryOn (n : Nat) (next : Call ⊕ Answer) : s.Arranges heard (t.carryOn n next) := by
  cases next <;> exact before.calls _

theorem enterOrAnswer (next : Call ⊕ Answer) : s.Arranges heard (t.enterOrAnswer next).2 := by
  cases next <;> exact before.calls _

end Arranges

theorem stepLifecycle_arranges {n : Nat} {c : Call} (here : s.underWay n = some c)
    (stepped : s.stepCall n = some t) : s.Arranges heard t := by
  obtain ⟨running, lifecycle⟩ := underWay_eq_some.mp here
  cases c with
  | spawn sp | restartSpawn sp =>
    have spawning : (s.underWay n).bind Call.spawning? = some sp := by rw [here]; rfl
    obtain ⟨u, next, rfl, seat, _⟩ := step_of_spawning spawning stepped
    exact (Arranges.refl.seats seat).carryOn n next
  | stop st | restartStop st =>
    have stopping : (s.underWay n).bind Call.stopping? = some st := by rw [here]; rfl
    obtain ⟨next, rfl, _⟩ := step_of_stopping stopping stepped
    exact (Arranges.refl.ends st.id).carryOn n next
  | shutdown st rest =>
    rw [stepCall, running] at stepped
    rw [stepShutdown_eq stepped]
    exact ((Arranges.refl.ends st.id).drain rest).carryOn n _
  | _ => cases lifecycle

theorem stopComponent_arranges (s : State) (id : ComponentId) :
    s.Arranges heard (s.stopComponent id).2 := by
  cases started : s.started with
  | false =>
    rw [stopComponent_of_not_started started]
    exact .calls .refl _
  | true =>
    rw [stopComponent_of_started started]
    exact (Arranges.refl.beginStop id).enterOrAnswer _

theorem restartComponent_arranges (s : State) (o : Order) :
    s.Arranges heard (s.restartComponent o).2 := by
  cases started : s.started with
  | false =>
    rw [restartComponent_of_not_started started]
    exact .calls .refl _
  | true =>
    rw [restartComponent_of_started started]
    split
    · exact (Arranges.refl.beginStop o.id).enterOrAnswer _
    · exact Arranges.refl.enterOrAnswer _

theorem shutdown_arranges (s : State) : s.Arranges heard s.shutdown.2 := by
  cases started : s.started with
  | false =>
    rw [shutdown, started]
    exact .calls .refl _
  | true =>
    rw [shutdown_eq started]
    exact (Arranges.refl.closes.drain s.roster.ids).enterOrAnswer _

def Act.arranging : Act → Prop
  | .wait _ | .sendRequest .. | .abandon _ | .route .. | .unroute _ | .unrouteFrom ..
  | .move (.alarm _) | .move (.enroll _) => False
  | _ => True

theorem arranges_after {v : Act} (arranging : v.arranging) :
    s.Arranges (s.Hears v) (s.after v) := by
  by_cases settling : v.settling
  · exact .of_settles (settles_after settling)
  · cases v with
    | move m =>
      rw [after]
      cases stepped : s.step m with
      | none => exact .refl
      | some t =>
        rw [Option.getD_some]
        cases m with
        | actor a => exact .of_settles (stepActor_settles stepped)
        | call n =>
          cases here : s.underWay n with
          | some c => exact stepLifecycle_arranges here stepped
          | none => exact .of_settles (settles_of_idle here stepped)
        | alarm | enroll => exact arranging.elim
    | spawn o keep =>
      rw [after, spawnComponent]
      split <;> exact .calls .refl _
    | stop id => exact s.stopComponent_arranges id
    | restart o => exact s.restartComponent_arranges o
    | shutdown => exact s.shutdown_arranges
    | wait | sendRequest | abandon | route | unroute | unrouteFrom => exact arranging.elim
    | _ => exact absurd trivial settling

section Clock

theorem setting_told (s : State) (id : ComponentId) (a : Nat) :
    (s.told id a).config = s.config ∧ (s.told id a).clock = s.clock := by
  have outline := outline_beginHalt (dropPending { s with post := s.post.unroute id } id) a
  exact ⟨congrArg Outline.config outline, congrArg Outline.clock outline⟩

theorem Arranges.frame (arranges : s.Arranges heard t) :
    t.config = s.config ∧ t.engine = s.engine ∧ t.clock = s.clock := by
  have outlined : ∀ {u w : State}, u.config = s.config ∧ u.engine = s.engine ∧ u.clock = s.clock →
      w.outline.config = u.config → w.outline.engine = u.engine → w.outline.clock = u.clock →
        w.config = s.config ∧ w.engine = s.engine ∧ w.clock = s.clock :=
    fun ⟨config, engine, clock⟩ config' engine' clock' =>
      ⟨config'.trans config, engine'.trans engine, clock'.trans clock⟩
  induction arranges with
  | refl => exact ⟨rfl, rfl, rfl⟩
  | settles _ settles ih =>
    obtain ⟨_, _, outline⟩ := settles
    exact outlined ih (by rw [outline]; rfl) (by rw [outline]; rfl) (by rw [outline]; rfl)
  | @tells u _ id a ih =>
    have outline := outline_beginHalt (dropPending { u with post := u.post.unroute id } id) a
    exact outlined ih (congrArg Outline.config outline) (congrArg Outline.engine outline)
      (congrArg Outline.clock outline)
  | seats _ seat ih =>
    obtain outline | ⟨_, _, _, _, outline⟩ := seat <;>
      exact outlined ih (by rw [outline]; rfl) (by rw [outline]; rfl) (by rw [outline]; rfl)
  | ends _ _ ih | closes _ ih | calls _ _ ih => exact ih

theorem Arranges.setting (arranges : s.Arranges heard t) :
    t.config = s.config ∧ t.clock = s.clock :=
  arranges.frame.imp_right And.right

theorem setting_beginStop (s : State) (id : ComponentId) :
    (s.beginStop id).1.config = s.config ∧ (s.beginStop id).1.clock = s.clock := by
  have arranges : s.Arranges (fun _ _ => False) s := .refl
  exact (arranges.beginStop id).setting

theorem setting_drain (s : State) (ids : List ComponentId) :
    (s.drain ids).1.config = s.config ∧ (s.drain ids).1.clock = s.clock := by
  have arranges : s.Arranges (fun _ _ => False) s := .refl
  exact (arranges.drain ids).setting

theorem frame_after (s : State) (v : Act) : (s.after v).config = s.config ∧
    (s.after v).engine = s.engine ∧
      ((∀ span, v ≠ .wait span) → (s.after v).clock = s.clock) := by
  by_cases arranging : v.arranging
  · obtain ⟨config, engine, clock⟩ := (arranges_after arranging).frame
    exact ⟨config, engine, fun _ => clock⟩
  · cases v with
    | sendRequest sender target payload timeout? awaited =>
      obtain ⟨ledger, waiter, same⟩ := s.sendRequest_eq sender target payload timeout? awaited
      have posted : State.Settles _ _ := deliver_settles { s with ledger, issued := s.issued + 1 }
        (.request (.issued s.issued) waiter awaited) target
        (.request sender (.issued s.issued) payload)
      obtain ⟨config, engine, clock⟩ := (Arranges.of_settles posted).frame
      rw [same]
      exact ⟨config, engine, fun _ => clock⟩
    | wait span => exact ⟨rfl, rfl, fun still => absurd rfl (still span)⟩
    | abandon | route | unroute | unrouteFrom => exact ⟨rfl, rfl, fun _ => rfl⟩
    | move m =>
      rw [after]
      cases stepped : s.step m with
      | none => exact ⟨rfl, rfl, fun _ => rfl⟩
      | some t =>
        rw [Option.getD_some]
        cases m with
        | alarm number =>
          obtain ⟨_, _, _, rfl⟩ := stepAlarm_eq stepped
          exact ⟨rfl, rfl, fun _ => rfl⟩
        | enroll i =>
          obtain ⟨_, _, rfl⟩ := enroll_eq stepped
          exact ⟨rfl, rfl, fun _ => rfl⟩
        | actor | call => exact absurd trivial arranging
    | _ => exact absurd trivial arranging

theorem setting_after (s : State) (v : Act) : (s.after v).config = s.config ∧
    ((∀ span, v ≠ .wait span) → (s.after v).clock = s.clock) :=
  (s.frame_after v).imp_right And.right

theorem config_run (s : State) (acts : List Act) : (s.run acts).config = s.config :=
  run_induction (P := (·.config = s.config)) rfl fun t v _ same =>
    (t.setting_after v).1.trans same

theorem engine_run (s : State) (acts : List Act) : (s.run acts).engine = s.engine :=
  run_induction (P := (·.engine = s.engine)) rfl fun t v _ same =>
    (t.frame_after v).2.1.trans same

theorem clock_le_after (s : State) (v : Act) : s.clock ≤ (s.after v).clock := by
  by_cases waits : ∃ span, v = .wait span
  · obtain ⟨span, rfl⟩ := waits
    exact Nat.le_add_right _ _
  · have still : (s.after v).clock = s.clock :=
      (s.setting_after v).2 fun span same => waits ⟨span, same⟩
    rw [still]
    exact Nat.le_refl _

end Clock

end ComponentHost.State
