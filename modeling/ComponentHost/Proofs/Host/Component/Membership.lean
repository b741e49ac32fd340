import ComponentHost.Proofs.Host.Act.Listing

/-! Whom the ledger knows. A component becomes a member some time after its spawn has returned, when
it may have been stopped already; members and the roster agree all the same. -/

namespace ComponentHost

/-- Who is a member is on the roster, and who is on the roster is a member or will be enrolled. -/
structure Listing.Fair (l : Listing) : Prop where
  listed : l.member = true → l.actor.isSome = true
  enrolled : l.actor.isSome = true → l.member = true ∨ l.enrolling = true

namespace State

variable {s t : State} {v : Act} {id : ComponentId}

theorem Relists.fair (relists : s.Relists v t id) (fair : (s.listing id).Fair) :
    (t.listing id).Fair := by
  cases relists with
  | rests same => rwa [same]
  | reroutes _ _ _ same | unroutes _ _ same =>
    rw [same]
    exact ⟨fair.listed, fair.enrolled⟩
  | leaves _ _ _ same =>
    rw [same]
    exact ⟨nofun, nofun⟩
  | seats _ _ same =>
    rw [same]
    exact ⟨fun _ => rfl, fun _ => .inr rfl⟩
  | enrolls _ enrolling same =>
    rw [same]
    exact ⟨fun on => on, .inl⟩

theorem fair_run (config : HostConfig) (engine : Engine) (acts : List Act) (id : ComponentId) :
    (((fresh config engine).run acts).listing id).Fair :=
  run_induction (P := fun t => (t.listing id).Fair) ⟨nofun, nofun⟩
    fun t v _ fair => (t.after_relists v id).fair fair

/-- Whatever is spawned, stopped, restarted and shut down, in whatever order and all at once: the
ledger knows no component that is not on the roster, and it knows every one that is, but for those
that are yet to be enrolled. -/
theorem known_iff_on_roster (config : HostConfig) (engine : Engine) (acts : List Act) :
    let s := (fresh config engine).run acts
    (∀ id, s.ledger.knows id = true → s.roster.contains id = true) ∧
      ∀ id, id ∉ s.enrolling → s.ledger.knows id = s.roster.contains id := by
  intro s
  have fair := fair_run config engine acts
  refine ⟨fun id => (fair id).listed, fun id enrolled => ?_⟩
  rw [Bool.eq_iff_iff]
  refine ⟨(fair id).listed, fun on => ((fair id).enrolled on).resolve_right fun enrolling => ?_⟩
  exact enrolled (List.contains_iff_mem.mp enrolling)

example :
    let s := sampleHost.run [.stop ⟨"a"⟩, .move (.actor 0), .wait (.ofMillis 100),
      .move (.actor 0), .move (.call 1)]
    s.enrolling = [⟨"a"⟩] ∧ (s.after (.move (.enroll 0))).enrolling = [] ∧
      (s.after (.move (.enroll 0))).ledger.knows ⟨"a"⟩ = false :=
  ⟨rfl, rfl, rfl⟩

end State

end ComponentHost
