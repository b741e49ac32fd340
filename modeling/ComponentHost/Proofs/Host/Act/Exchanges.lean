import ComponentHost.Proofs.Host.Act.OwnSteps

/-! What one act does to the exchanges of a host. Whatever brings components up or down, and all
that messages and actors do, closes some and nothing else; beside that there are a new request,
an alarm that goes off and a waiter that goes. -/

namespace ComponentHost.State

variable {s : State}

def Dwindles (heard : CorrelationId → Response → Prop) (s t : State) : Prop :=
  Ledger.Dwindles heard s.ledger t.ledger ∧ t.issued = s.issued

namespace Dwindles

variable {heard : CorrelationId → Response → Prop} {t u : State}

theorem same (ledger : t.ledger = s.ledger) (issued : t.issued = s.issued) : s.Dwindles heard t :=
  ⟨.same (congrArg Ledger.books ledger) (congrArg Ledger.alarms ledger), issued⟩

theorem refl (s : State) : s.Dwindles heard s := same rfl rfl

theorem trans (first : s.Dwindles heard t) (second : t.Dwindles heard u) : s.Dwindles heard u :=
  ⟨first.1.trans second.1, second.2.trans first.2⟩

theorem of_settles (settles : s.SettlesBy heard t) : s.Dwindles heard t := by
  obtain ⟨vs, closes, outline⟩ := settles
  have ledger : t.ledger = s.ledger.run vs := congrArg Outline.ledger outline
  exact ⟨ledger ▸ .run s.ledger closes, congrArg Outline.issued outline⟩

theorem of_outline (same : t.outline = s.outline) : s.Dwindles heard t :=
  of_settles (.of_outline same)

theorem endStop (s : State) (id : ComponentId) : s.Dwindles heard (s.endStop id) :=
  (of_settles (s.dropPending_settles id)).trans ⟨.same rfl rfl, rfl⟩

theorem told (s : State) (id : ComponentId) (a : Nat) : s.Dwindles heard (s.told id a) := by
  have unrouted : s.Dwindles heard { s with post := s.post.unroute id } := same rfl rfl
  exact unrouted.trans (of_settles ((dropPending_settles _ id).of_outline_right
    (outline_beginHalt _ a)))

theorem maySeat {sp : Spawn} (seat : s.MaySeat t sp) : s.Dwindles heard t := by
  obtain outline | ⟨_, _, _, _, outline⟩ := seat
  · exact of_outline outline
  · exact same (congrArg Outline.ledger outline) (congrArg Outline.issued outline)

theorem arranges (arranges : s.Arranges heard t) : s.Dwindles heard t := by
  induction arranges with
  | refl => exact refl s
  | settles _ settles ih => exact ih.trans (of_settles settles)
  | tells _ id a ih => exact ih.trans (told _ id a)
  | ends _ id ih => exact ih.trans (endStop _ id)
  | seats _ seat ih => exact ih.trans (maySeat seat)
  | closes _ ih | calls _ _ ih => exact ih

end Dwindles

/-- What an act does to the exchanges: it closes some, opens one and closes some, lets an alarm go
off that is due, or sends a waiter away. -/
inductive Deals (s : State) (v : Act) (t : State) : Prop
  | dwindles (dwindles : s.Dwindles (s.Hears v) t)
  | opens {sender target : ComponentId} {payload : Bytes} {timeout? : Option Duration}
    {awaited : Bool} (asked : v = .sendRequest sender target payload timeout? awaited)
    (dwindles : Dwindles (s.Hears v) (s.openExchange sender target
      (timeout?.getD s.config.messaging.requestTimeout)).2.2 t)
  | rings {alarm : Alarm} (armed : alarm ∈ s.ledger.alarms.armed) (due : alarm.due ≤ s.clock)
    (ledger : t.ledger = s.ledger.ring s.clock alarm) (issued : t.issued = s.issued)
  | abandons {waiter : Nat} (asked : v = .abandon waiter)
    (ledger : t.ledger = (s.ledger.abandon waiter).2) (issued : t.issued = s.issued)

theorem after_deals (s : State) (v : Act) : s.Deals v (s.after v) := by
  by_cases arranging : v.arranging
  · exact .dwindles (.arranges (arranges_after arranging))
  · cases v with
    | sendRequest sender target payload timeout? awaited =>
      exact .opens rfl (.of_settles (s.sendRequest_settles sender target payload timeout? awaited))
    | abandon waiter => exact .abandons rfl rfl rfl
    | wait | route | unroute | unrouteFrom => exact .dwindles (.refl s)
    | move m =>
      rw [after]
      cases stepped : s.step m with
      | none => exact .dwindles (.refl s)
      | some t =>
        rw [Option.getD_some]
        cases m with
        | alarm number =>
          obtain ⟨alarm, armed, due, rfl⟩ := stepAlarm_eq stepped
          exact .rings armed due rfl rfl
        | enroll i =>
          obtain ⟨_, _, rfl⟩ := enroll_eq stepped
          refine .dwindles ⟨.same ?_ ?_, rfl⟩ <;> dsimp only <;> split <;> rfl
        | actor | call => exact absurd trivial arranging
    | _ => exact absurd trivial arranging

section Issue

theorem issued_openExchange (s : State) (sender target : ComponentId) (timeout : Duration) :
    (s.openExchange sender target timeout).2.2.issued = s.issued + 1 := by
  obtain ⟨_, same⟩ := s.openExchange_state sender target timeout
  rw [same]

theorem issued_sendRequest (s : State) (sender target : ComponentId) (payload : Bytes)
    (timeout? : Option Duration) (awaited : Bool) :
    (s.after (.sendRequest sender target payload timeout? awaited)).issued = s.issued + 1 := by
  have posted : Dwindles (fun _ _ => True) _ _ :=
    .of_settles (s.sendRequest_settles sender target payload timeout? awaited)
  rw [posted.2, issued_openExchange]

theorem issued_le_after (s : State) (v : Act) : s.issued ≤ (s.after v).issued := by
  cases s.after_deals v with
  | dwindles dwindles => exact Nat.le_of_eq dwindles.2.symm
  | opens _ dwindles =>
    rw [dwindles.2, issued_openExchange]
    exact Nat.le_succ _
  | rings _ _ _ issued | abandons _ _ issued => exact Nat.le_of_eq issued.symm

end Issue

theorem openExchange_eq (free : s.ledger.pending.get? (.issued s.issued) = none)
    (sender target : ComponentId) (timeout : Duration) :
    ∃ ledger, s.openExchange sender target timeout =
        (.issued s.issued, s.ledger.waiters.length, { s with ledger, issued := s.issued + 1 }) ∧
      (∀ j, ledger.pending.get? j = if j = .issued s.issued then
        some ⟨sender, target, s.ledger.waiters.length, s.clock, timeout,
          some ⟨s.ledger.alarms.next, .issued s.issued, s.clock + timeout⟩⟩
        else s.ledger.pending.get? j) ∧
      ledger.alarms = (s.ledger.alarms.arm (.issued s.issued) (s.clock + timeout)).2 ∧
      ledger.waiters = s.ledger.waiters ++ [({} : Waiter)] := by
  have registered : s.ledger.register (.issued s.issued) sender target s.clock timeout =
      .ok (s.ledger.waiters.length, { s.ledger with
        pending := s.ledger.pending.insert (.issued s.issued)
          ⟨sender, target, s.ledger.waiters.length, s.clock, timeout, none⟩
        waiters := s.ledger.waiters ++ [{}] }) := by
    simp [Ledger.register, Table.contains, free]
  unfold openExchange
  dsimp only
  rw [registered]
  dsimp only [Ledger.arm, Alarms.arm]
  rw [Ledger.attach?, Table.get?_insert_self, Option.map_some, Option.getD_some]
  refine ⟨_, rfl, fun j => ?_, rfl, rfl⟩
  rw [Table.get?_insert, Table.get?_insert]
  by_cases own : j = .issued s.issued
  · rw [if_pos own, if_pos own]
  · rw [if_neg own, if_neg own, if_neg own]

end ComponentHost.State
