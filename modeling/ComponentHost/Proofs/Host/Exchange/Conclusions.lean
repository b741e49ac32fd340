import ComponentHost.Proofs.Host.Exchange.Targets
import ComponentHost.Proofs.Ledger.Conclusions

/-! The chronicle of a run: which exchanges came to their ends in its course, and how. The counters
of a host grow by what its chronicle lists, and an exchange that is pending at first is listed once
if it is pending no longer, and not at all as long as it is. -/

namespace ComponentHost.State

variable {s t : State} {v : Act} {acts : List Act} {cs : List (CorrelationId × Closing)}
  {heard : CorrelationId → Response → Prop}

def entered (s : State) : Act → Ledger
  | .sendRequest sender target _ timeout? _ =>
    (s.openExchange sender target (timeout?.getD s.config.messaging.requestTimeout)).2.2.ledger
  | _ => s.ledger

/-- With an act exchanges come to their ends, as they are listed. -/
def Concludes (s : State) (v : Act) (cs : List (CorrelationId × Closing)) : Prop :=
  Ledger.Concludes (fun id => ∃ r, s.Hears v id r) cs (s.entered v) (s.after v).ledger

/-- The exchanges that come to their ends in the course of a run, in order. -/
inductive Chronicle : State → List Act → List (CorrelationId × Closing) → Prop
  | nil {s : State} : Chronicle s [] []
  | cons {s : State} {v : Act} {acts : List Act} {cs cs' : List (CorrelationId × Closing)}
    (first : s.Concludes v cs) (rest : Chronicle (s.after v) acts cs') :
    Chronicle s (v :: acts) (cs ++ cs')

def Answered (s : State) (acts : List Act) (id : CorrelationId) : Prop :=
  ∃ before v later, acts = before ++ v :: later ∧ ∃ r, (s.run before).Hears v id r

theorem answered_cons {id : CorrelationId} :
    s.Answered (v :: acts) id ↔ (∃ r, s.Hears v id r) ∨ (s.after v).Answered acts id := by
  constructor
  · rintro ⟨before, u, later, split, heard⟩
    cases before with
    | nil =>
      cases split
      exact .inl heard
    | cons w before =>
      cases split
      exact .inr ⟨before, u, later, rfl, heard⟩
  · rintro (heard | ⟨before, u, later, rfl, heard⟩)
    · exact ⟨[], v, acts, rfl, heard⟩
    · exact ⟨v :: before, u, later, rfl, heard⟩

section Existence

theorem concludes_of_settles (settles : s.SettlesBy heard t) :
    ∃ cs, Ledger.Concludes (fun id => ∃ r, heard id r) cs s.ledger t.ledger := by
  obtain ⟨vs, closes, outline⟩ := settles
  rw [show t.ledger = s.ledger.run vs from congrArg Outline.ledger outline]
  exact Ledger.Concludes.run s.ledger closes

theorem concludes_endStop (s : State) (id : ComponentId) :
    ∃ cs, Ledger.Concludes (fun id => ∃ r, heard id r) cs s.ledger (s.endStop id).ledger := by
  have settles : s.SettlesBy heard (s.dropPending id) := s.dropPending_settles id
  obtain ⟨_, dropped⟩ := concludes_of_settles settles
  exact ⟨_, dropped.trans (.same rfl rfl)⟩

theorem concludes_told (s : State) (id : ComponentId) (a : Nat) :
    ∃ cs, Ledger.Concludes (fun id => ∃ r, heard id r) cs s.ledger (s.told id a).ledger :=
  concludes_of_settles (s := { s with post := s.post.unroute id })
    ((dropPending_settles _ id).of_outline_right (outline_beginHalt _ a))

theorem concludes_of_arranges (arranges : s.Arranges heard t) :
    ∃ cs, Ledger.Concludes (fun id => ∃ r, heard id r) cs s.ledger t.ledger := by
  have further : ∀ {u w : State},
      (∃ cs, Ledger.Concludes (fun id => ∃ r, heard id r) cs s.ledger u.ledger) →
      (∃ cs, Ledger.Concludes (fun id => ∃ r, heard id r) cs u.ledger w.ledger) →
      ∃ cs, Ledger.Concludes (fun id => ∃ r, heard id r) cs s.ledger w.ledger :=
    fun ⟨_, first⟩ ⟨_, second⟩ => ⟨_, first.trans second⟩
  induction arranges with
  | refl => exact ⟨[], .same rfl rfl⟩
  | settles _ settles ih => exact further ih (concludes_of_settles settles)
  | tells _ id a ih => exact further ih (concludes_told _ id a)
  | ends _ id ih => exact further ih (concludes_endStop _ id)
  | seats _ seat ih =>
    refine further ih ⟨[], ?_⟩
    obtain outline | ⟨_, _, _, _, outline⟩ := seat <;>
      exact .same (congrArg (·.ledger.pending) outline) (congrArg (·.ledger.count) outline)
  | closes _ ih | calls _ _ ih => exact ih

theorem concludes_after (s : State) (v : Act) : ∃ cs, s.Concludes v cs := by
  by_cases arranging : v.arranging
  · cases v with
    | sendRequest => exact arranging.elim
    | _ => exact concludes_of_arranges (arranges_after arranging)
  · cases v with
    | sendRequest sender target payload timeout? awaited =>
      exact concludes_of_settles (s.sendRequest_settles sender target payload timeout? awaited)
    | abandon waiter =>
      refine ⟨[], .same ?_ ?_⟩ <;> simp only [after, entered, Ledger.abandon] <;> split <;> rfl
    | wait | route | unroute | unrouteFrom => exact ⟨[], .same rfl rfl⟩
    | move m =>
      unfold Concludes
      rw [after]
      cases stepped : s.step m with
      | none => exact ⟨[], .same rfl rfl⟩
      | some t =>
        rw [Option.getD_some]
        cases m with
        | alarm number =>
          obtain ⟨alarm, _, _, rfl⟩ := stepAlarm_eq stepped
          exact Ledger.Concludes.ring s.ledger s.clock alarm
        | enroll i =>
          obtain ⟨_, _, rfl⟩ := enroll_eq stepped
          refine ⟨[], .same ?_ ?_⟩ <;> dsimp only [entered] <;> split <;> rfl
        | actor | call => exact absurd trivial arranging
    | _ => exact absurd trivial arranging

theorem exists_chronicle (s : State) (acts : List Act) : ∃ cs, s.Chronicle acts cs := by
  induction acts generalizing s with
  | nil => exact ⟨[], .nil⟩
  | cons v acts ih =>
    obtain ⟨_, first⟩ := s.concludes_after v
    obtain ⟨_, rest⟩ := ih (s.after v)
    exact ⟨_, .cons first rest⟩

end Existence

section Account

theorem count_entered (s : State) (v : Act) : (s.entered v).count = s.ledger.count := by
  cases v with
  | sendRequest sender target payload timeout? awaited =>
    unfold entered openExchange Ledger.register
    dsimp only
    by_cases taken : s.ledger.pending.contains (.issued s.issued) = true
    · rw [if_pos taken]
    · rw [if_neg taken]
      dsimp only [Ledger.arm, Ledger.attach?]
      rw [Table.get?_insert_self]
      rfl
  | _ => rfl

theorem pending_entered (guarded : s.Guarded) (v : Act) {j : CorrelationId}
    (other : j ≠ .issued s.issued) :
    (s.entered v).pending.get? j = s.ledger.pending.get? j := by
  cases v with
  | sendRequest sender target payload timeout? awaited =>
    obtain ⟨ledger, opened, pending, _⟩ :=
      s.openExchange_eq (Ledger.Guarded.free guarded) sender target
        (timeout?.getD s.config.messaging.requestTimeout)
    rw [entered, opened, pending, if_neg other]
  | _ => rfl

namespace Chronicle

theorem count (chronicle : s.Chronicle acts cs) (how : Closing) :
    (s.run acts).ledger.count how = s.ledger.count how + cs.countP fun c => c.2 = how := by
  induction chronicle with
  | nil => rfl
  | @cons s v acts cs cs' first rest ih =>
    rw [run_cons, ih, Ledger.Concludes.count first, count_entered, List.countP_append,
      Nat.add_assoc]

theorem of_id (chronicle : s.Chronicle acts cs) (guarded : s.Guarded) {k : Nat}
    (old : k < s.issued) :
    Ledger.Concludes.Of (s.Answered acts) cs s.ledger (s.run acts).ledger (.issued k) := by
  induction chronicle with
  | nil => exact .spared rfl rfl
  | @cons s v acts cs cs' first rest ih =>
    have later := ih (guarded.after v) (Nat.lt_of_lt_of_le old (s.issued_le_after v))
    have found := pending_entered guarded v (j := .issued k) (by simpa using Nat.ne_of_lt old)
    refine .trans ?_ (later.mono fun answered => answered_cons.mpr (.inr answered))
    cases Ledger.Concludes.of_id first (.issued k) with
    | spared left unlisted => exact .spared (left.trans found) unlisted
    | concluded pending left listed answered =>
      exact .concluded (found ▸ pending) left listed fun same =>
        answered_cons.mpr (.inl (answered same))

theorem closed_once {sender target : ComponentId} {payload : Bytes} {timeout? : Option Duration}
    {awaited : Bool} (guarded : s.Guarded)
    (asked : v = .sendRequest sender target payload timeout? awaited)
    (chronicle : s.Chronicle (v :: acts) cs)
    (gone : (s.run (v :: acts)).ledger.pending.get? (.issued s.issued) = none) :
    ∃ how, cs.filter (·.1 = .issued s.issued) = [(.issued s.issued, how)] ∧
      (how = .response → s.Answered (v :: acts) (.issued s.issued)) := by
  subst asked
  obtain ⟨ledger, opened, pending, _⟩ :=
    s.openExchange_eq (Ledger.Guarded.free guarded) sender target
      (timeout?.getD s.config.messaging.requestTimeout)
  have entered : (s.entered (.sendRequest sender target payload timeout? awaited)).pending.get?
      (.issued s.issued) ≠ none := by
    rw [State.entered, opened, pending, if_pos rfl]
    exact nofun
  cases chronicle with
  | cons first rest =>
    have issued : s.issued <
        (s.after (.sendRequest sender target payload timeout? awaited)).issued :=
      Nat.lt_of_lt_of_eq (Nat.lt_succ_self _) (issued_sendRequest ..).symm
    have now : Ledger.Concludes.Of
        (s.Answered (.sendRequest sender target payload timeout? awaited :: acts)) _ _ _ _ :=
      (Ledger.Concludes.of_id first (.issued s.issued)).mono
        fun heard => answered_cons.mpr (.inl heard)
    have later := (rest.of_id (guarded.after _) issued).mono
      fun answered => answered_cons.mpr (.inr answered)
    cases now.trans later with
    | spared left => exact absurd (left.symm.trans gone) entered
    | concluded _ _ listed answered => exact ⟨_, listed, answered⟩

end Chronicle

end Account

end ComponentHost.State
