import ComponentHost.Proofs.Host.Mail.InTransit

/-! Outcomes that are owed. Mail that asks for a guest call owes its outcome to the call of the host
that asked for it. An actor that has handled such mail settles what it owes, one that ends settles
as lost what it has in hand and in its mailbox, and nobody settles anything else. -/

namespace ComponentHost

def Mail.caller? : Mail → Option Nat
  | .invoke _ _ caller => some caller
  | .chore .. | .message .. | .request .. => none

def Hook.mails : Hook → List Mail
  | .handle mail => [mail]
  | .preStart | .postStop => []

theorem Hook.mem_mails {hook : Hook} {m : Mail} : m ∈ hook.mails ↔ hook = .handle m := by
  cases hook <;> simp [mails, eq_comm]

def Effect.slot (n : Nat) : Effect → Slot
  | .answer caller outcome => if caller = n then .filled outcome else .empty
  | .nothing | .respond .. => .empty

def lostSlot (n : Nat) (mails : List Mail) : Slot :=
  if mails.any (·.caller? = some n) then .lost else .empty

theorem lostSlot_of_mem {n : Nat} {m : Mail} {mails : List Mail} (mem : m ∈ mails)
    (own : m.caller? = some n) : lostSlot n mails = .lost :=
  if_pos (List.any_eq_true.mpr ⟨m, mem, decide_eq_true own⟩)

theorem lostSlot_of_forall {n : Nat} {mails : List Mail}
    (others : ∀ m ∈ mails, m.caller? ≠ some n) : lostSlot n mails = .empty :=
  if_neg fun present => by
    obtain ⟨m, mem, own⟩ := List.any_eq_true.mp present
    exact others m mem (of_decide_eq_true own)

theorem Component.answer_of_workAfter {c : Component} {hook : Hook} {run : LimitedRun}
    {caller : Nat} {outcome : Outcome}
    (answers : (c.workAfter hook run).effect = .answer caller outcome) :
    ∃ function args, hook = .handle (.invoke function args caller) := by
  unfold workAfter at answers
  split at answers
  · cases answers
  · cases hook with
    | preStart | postStop => cases answers
    | handle mail =>
      cases mail with
      | invoke function args n =>
        cases answers
        exact ⟨function, args, rfl⟩
      | chore | message | request => cases answers

theorem Role.Does.answers {role : Role} {hook : Hook} {work : Work} {caller : Nat}
    {outcome : Outcome} (does : role.Does hook work)
    (answers : work.effect = .answer caller outcome) :
    ∃ m ∈ hook.mails, m.caller? = some caller := by
  cases does with
  | plain => cases answers
  | bare c _ silent =>
    cases hook with
    | preStart | postStop => cases answers
    | handle mail => cases mail <;> cases answers
  | guest =>
    obtain ⟨function, args, rfl⟩ := Component.answer_of_workAfter answers
    exact ⟨_, List.mem_singleton_self _, rfl⟩

theorem Effect.slot_of_forall {role : Role} {hook : Hook} {work : Work} {n : Nat}
    (does : role.Does hook work) (others : ∀ m ∈ hook.mails, m.caller? ≠ some n) :
    work.effect.slot n = .empty := by
  cases effect : work.effect with
  | nothing | respond => rfl
  | answer caller outcome =>
    obtain ⟨m, mem, own⟩ := does.answers effect
    refine if_neg ?_
    rintro rfl
    exact others m mem own

namespace State

variable {s t : State} {v : Act} {n a : Nat} {x : Actor} {hook : Hook} {work : Work}

section Settle

theorem fillSlot_self (slot : Slot) (c : CallState) :
    fillSlot slot (fillSlot slot c) = fillSlot slot c :=
  (fillSlot_fillSlot slot slot c).elim id id

theorem map_fillSlot_empty (c? : Option CallState) : c?.map (fillSlot .empty) = c? := by
  cases c? with
  | none => rfl
  | some c => exact congrArg some (fillSlot_empty c)

theorem fillSlot_lostSlot (n : Nat) (mails mails' : List Mail) (c : CallState) :
    fillSlot (lostSlot n mails') (fillSlot (lostSlot n mails) c) =
      fillSlot (lostSlot n (mails ++ mails')) c := by
  unfold lostSlot
  rw [List.any_append]
  cases mails.any (·.caller? = some n) <;> cases mails'.any (·.caller? = some n) <;>
    simp [fillSlot_empty, fillSlot_self]

theorem calls_settleSlot (s : State) (k : Nat) (slot : Slot) (n : Nat) :
    (s.settleSlot k slot).calls[n]? =
      s.calls[n]?.map (fillSlot (if k = n then slot else .empty)) := by
  by_cases own : k = n
  · subst own
    rw [if_pos rfl]
    exact List.getElem?_modify_eq ..
  · rw [if_neg own, map_fillSlot_empty]
    exact List.getElem?_modify_ne _ _ own

theorem calls_loseMail (s : State) (mail : Mail) (n : Nat) :
    (s.loseMail mail).calls[n]? = s.calls[n]?.map (fillSlot (lostSlot n [mail])) := by
  cases mail with
  | invoke function args caller =>
    refine (s.calls_settleSlot caller .lost n).trans ?_
    simp [lostSlot, Mail.caller?]
  | chore | message | request =>
    rw [lostSlot_of_forall (by simp [Mail.caller?]), map_fillSlot_empty]
    rfl

theorem calls_loseMails (s : State) (mails : List Mail) (n : Nat) :
    (mails.foldl loseMail s).calls[n]? = s.calls[n]?.map (fillSlot (lostSlot n mails)) := by
  induction mails generalizing s with
  | nil =>
    rw [lostSlot_of_forall (by simp), map_fillSlot_empty]
    rfl
  | cons mail mails ih =>
    rw [List.foldl_cons, ih, calls_loseMail, Option.map_map]
    exact congrArg (Option.map · _) (funext (fillSlot_lostSlot n [mail] mails))

theorem actor_updateActor (here : s.actors[a]? = some x) (f : Actor → Actor) :
    (s.updateActor a f).actors[a]? = some (f x) := by
  rw [updateActor, List.getElem?_modify_eq, here]
  rfl

theorem calls_bury (boxes : t.post.boxes = s.post.boxes) (here : t.actors[a]? = some x)
    (ending : Ending) (n : Nat) : (t.bury a ending).calls[n]? =
      t.calls[n]?.map (fillSlot (lostSlot n (s.post.queued x.box))) := by
  rw [PostOffice.queued, ← boxes]
  unfold bury
  rw [here]
  exact calls_loseMails { t with post := t.post.discard x.box } (t.post.queued x.box) n

theorem calls_perform (s : State) (responder : ComponentId) (effect : Effect) (n : Nat) :
    (s.perform responder effect).calls[n]? = s.calls[n]?.map (fillSlot (effect.slot n)) := by
  have rests : s.calls[n]? = s.calls[n]?.map (fillSlot .empty) := (map_fillSlot_empty _).symm
  cases effect with
  | nothing => exact rests
  | respond id requester reply =>
    rw [perform]
    split
    · rw [calls_respond ‹_›]
      exact rests
    · exact rests
  | answer caller outcome => exact s.calls_settleSlot caller (.filled outcome) n

theorem calls_endHook_of_ended (here : s.actors[a]? = some x) (does : x.role.Does hook work)
    (ended : (x.leave hook work.course.ending).hasEnded = true) (n : Nat) :
    (s.endHook a x hook work).calls[n]? =
      s.calls[n]?.map (fillSlot (lostSlot n (hook.mails ++ s.post.queued x.box))) := by
  have buried : ∀ {t : State} (ending : Ending),
      t.scene = (s.note a (.ended hook work.course.ending)).scene → (t.bury a ending).calls[n]? =
        t.calls[n]?.map (fillSlot (lostSlot n (s.post.queued x.box))) := by
    intro t ending same
    refine calls_bury (congrArg Scene.boxes same) ?_ ending n
    rw [show t.actors = s.actors from congrArg Scene.actors same, here]
  have scene := scene_perform (s.note a (.ended hook work.course.ending)) ⟨x.name⟩ work.effect
  -- Only mail in hand has an outcome to be settled.
  have performed : hook.mails = [] → ((s.note a (.ended hook work.course.ending)).perform ⟨x.name⟩
      work.effect).calls[n]? = s.calls[n]? := by
    intro idle
    rw [calls_perform, Effect.slot_of_forall does (by simp [idle]), map_fillSlot_empty]
    rfl
  unfold endHook
  generalize work.course.ending = ending at ended buried performed scene ⊢
  cases ending with
  | panicked text =>
    cases hook with
    | handle mail =>
      refine (buried _ (scene_loseMail _ mail)).trans ?_
      rw [calls_loseMail, Option.map_map]
      exact congrArg (Option.map · _) (funext (fillSlot_lostSlot n [mail] _))
    | preStart | postStop => exact buried _ rfl
  | finished =>
    cases hook with
    | preStart | handle => cases ended
    | postStop => exact (buried _ scene).trans (congrArg (Option.map _) (performed rfl))
  | failed reason =>
    cases hook with
    | handle => cases ended
    | postStop => exact (buried _ scene).trans (congrArg (Option.map _) (performed rfl))
    | preStart =>
      have there := (congrArg (·.actors[a]?) scene).trans here
      refine (calls_bury ?_ (actor_updateActor there _) .finished n).trans
        (congrArg (Option.map _) (performed rfl))
      exact congrArg Scene.boxes scene

theorem calls_endHook_of_alive (alive : (x.leave hook work.course.ending).hasEnded = false)
    (n : Nat) :
    (s.endHook a x hook work).calls[n]? = s.calls[n]?.map (fillSlot (work.effect.slot n)) := by
  have performed := calls_perform (s.note a (.ended hook work.course.ending)) ⟨x.name⟩ work.effect n
  unfold endHook
  generalize work.course.ending = ending at alive performed ⊢
  cases ending with
  | panicked text => cases hook <;> cases alive
  | finished =>
    cases hook with
    | preStart | handle => exact performed
    | postStop => cases alive
  | failed reason =>
    cases hook with
    | handle => exact performed
    | preStart | postStop => cases alive

end Settle

section Owe

def Act.poses (n : Nat) : Act → Prop
  | .post _ mail | .tell _ mail => mail.caller? = some n
  | _ => False

/-- Mail that owes call `n` an outcome is with that call, unless it is a given piece of mail and
lies in one of certain mailboxes, or is in the hands of whoever has that. -/
structure Owes (s : State) (n : Nat) (mail : Mail) (lies : Nat → Prop) : Prop where
  errand (k : Nat) (box? : Option Nat) (m : Mail) :
    s.errand? k = some (box?, m) → m.caller? = some n → k = n
  queued (i : Nat) (b : Mailbox Mail) (m : Mail) :
    s.post.boxes[i]? = some b → m ∈ b.queue → m.caller? = some n → m = mail ∧ lies i
  inHand (a : Nat) (x : Actor) (m : Mail) (work : Work) (due : Option Duration) :
    s.actors[a]? = some x → x.phase = .busy (.handle m) work due → m.caller? = some n →
      m = mail ∧ lies x.box

namespace Owes

variable {mail m : Mail} {lies lies' : Nat → Prop}

theorem fresh (config : HostConfig) (engine : Engine) : (fresh config engine).Owes n mail lies where
  errand _ _ _ there := nomatch there
  queued _ _ _ here := nomatch here
  inHand _ _ _ _ _ here := nomatch here

theorem mono (owes : s.Owes n mail lies) (more : ∀ i, lies i → lies' i) : s.Owes n mail lies' where
  errand := owes.errand
  queued i b m here queued own := (owes.queued i b m here queued own).imp_right (more i)
  inHand a x m work due here busy own :=
    (owes.inHand a x m work due here busy own).imp_right (more x.box)

/-- Nobody but call `n` brings mail that owes it an outcome. -/
theorem unowed (owes : s.Owes n mail lies) (unposed : ¬ v.poses n)
    (other : v = .move (.call n) → s.errand? n = none)
    (apart : (s.after v).calls.length ≤ n ∨ n < s.calls.length) {box? : Option Nat}
    (brings : s.errandOf? v = some (box?, m)) : m.caller? ≠ some n := by
  have entered : ∀ {errand}, s.Enters errand (s.after v) → s.calls.length ≠ n := by
    rintro _ ⟨c, same, _⟩
    rw [same, List.length_append, List.length_singleton] at apart
    omega
  intro own
  cases v with
  | move move =>
    cases move with
    | call k =>
      obtain rfl := owes.errand k box? m brings own
      cases (other rfl).symm.trans brings
    | _ => cases brings
  | post target mail =>
    obtain ⟨_, _, same⟩ := Option.map_eq_some_iff.mp brings
    cases same
    exact unposed own
  | tell b mail =>
    cases brings
    exact unposed own
  | sendMessage | sendRequest =>
    obtain ⟨_, _, same⟩ := Option.map_eq_some_iff.mp brings
    cases same
    cases own
  | invoke b function args =>
    cases brings
    exact entered (s.invoke_enters b function args none) (Option.some.inj own)
  | execute id function args =>
    cases brings
    exact entered (s.execute_enters id function args) (Option.some.inj own)
  | _ => cases brings

theorem after (owes : s.Owes n mail lies)
    (unowed : ∀ box? m, s.errandOf? v = some (box?, m) → m.caller? ≠ some n) :
    (s.after v).Owes n mail lies where
  errand k box? m there own := by
    obtain here | come := errand?_after there
    · exact owes.errand k box? m here own
    · exact absurd own (unowed box? m come)
  queued i b' m there queued own := by
    obtain ⟨b, here, queued⟩ | ⟨box?, come, _⟩ := queued_after there queued
    · exact owes.queued i b m here queued own
    · exact absurd own (unowed box? m come)
  inHand a y m work due there busy own := by
    obtain ⟨x, here, box, busy | ⟨b, at', queued⟩⟩ := inHand_after there busy
    · exact box ▸ owes.inHand a x m work due here busy own
    · exact box ▸ owes.queued x.box b m at' queued own

end Owes

theorem ended_after (tidy : s.Tidy) {ending : Ending}
    (ended : .ended hook ending ∈ (s.after v).trace a) : .ended hook ending ∈ s.trace a ∨
      ∃ x work due, s.actors[a]? = some x ∧ x.phase = .busy hook work due := by
  cases here : s.actors[a]? with
  | some x =>
    obtain ⟨_, works⟩ | ⟨same, _⟩ := (s.after_plays v).actor here
    · cases works with
      | leaves _ _ scene | takes _ _ _ _ _ scene =>
        rw [trace_snoc (congrArg Scene.log scene), if_pos rfl, List.mem_append] at ended
        exact .inl (ended.resolve_right (by simp))
      | ends busy _ scene =>
        rw [trace_snoc (congrArg Scene.log scene), if_pos rfl, List.mem_append] at ended
        obtain old | now := ended
        · exact .inl old
        · cases List.mem_singleton.mp now
          exact .inr ⟨x, _, _, rfl, busy⟩
    · exact .inl (same ▸ ended)
  | none =>
    cases there : (s.after v).actors[a]? with
    | none =>
      rw [(tidy.after v).trace_of_length_le (List.getElem?_eq_none_iff.mp there)] at ended
      cases ended
    | some y =>
      obtain ⟨x, old⟩ | new := (s.after_plays v).actor_cases there
      · cases here.symm.trans old
      · rw [trace_snoc new.log, if_pos rfl, List.mem_append] at ended
        exact .inl (ended.resolve_right (by simp))

def Shut (s : State) : Prop := ∀ (a : Nat) (x : Actor) (b : Mailbox Mail), s.actors[a]? = some x →
  x.hasEnded = true → s.post.boxes[x.box]? = some b → b.isOpen = false

theorem closed_after {i : Nat} {b b' : Mailbox Mail} (here : s.post.boxes[i]? = some b)
    (closed : b.isOpen = false) (there : (s.after v).post.boxes[i]? = some b') :
    b'.isOpen = false := by
  obtain ⟨_, left, handles⟩ := (s.after_plays v).box here
  cases there.symm.trans left
  cases handles with
  | rests => exact closed
  | offered => rw [Mailbox.isOpen_offer, closed]
  | drawn _ _ drawn => exact drawn.isOpen closed

theorem Shut.after (shut : s.Shut) (tidy : s.Tidy) (v : Act) : (s.after v).Shut := by
  intro a y b' there ended left
  obtain ⟨x, here⟩ | new := (s.after_plays v).actor_cases there
  · obtain ⟨b, box⟩ := tidy.box here
    rw [((s.after_plays v).kept here there).box] at left
    obtain ⟨_, works⟩ | ⟨_, phase, _⟩ := (s.after_plays v).works_or_rests here there
    · cases works with
      | leaves _ _ scene | takes _ _ _ _ _ scene =>
        cases there.symm.trans (actor_of_set here (congrArg Scene.actors scene))
        cases ended
      | ends _ _ scene =>
        cases there.symm.trans (actor_of_set here (congrArg Scene.actors scene))
        rw [show (s.after v).post.boxes = _ from congrArg Scene.boxes scene, if_pos ended,
          List.getElem?_modify_eq, box] at left
        cases left
        rfl
    · rw [Actor.hasEnded, phase] at ended
      exact closed_after box (shut a x b here ended box) left
  · obtain ⟨_, _, busy, _⟩ := new.starting
    rw [Actor.hasEnded, busy] at ended
    cases ended

theorem Shut.run (shut : s.Shut) (tidy : s.Tidy) (acts : List Act) : (s.run acts).Shut := by
  refine (run_induction (P := fun t => t.Tidy ∧ t.Shut) ⟨tidy, shut⟩ ?_).2
  rintro t v _ ⟨tidy, shut⟩
  exact ⟨tidy.after v, shut.after tidy v⟩

theorem Shut.fresh (config : HostConfig) (engine : Engine) : (fresh config engine).Shut :=
  fun _ _ _ here => nomatch here

end Owe

end State

end ComponentHost
