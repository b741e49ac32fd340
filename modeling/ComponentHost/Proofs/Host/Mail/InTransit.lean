import ComponentHost.Proofs.Host.Act.Exchanges
import ComponentHost.Proofs.Host.Act.Calls
import ComponentHost.Proofs.Host.Actor.WorkInHand

/-! Mail on its way: with a call that stands in line, in a mailbox, in an actor's hands. It is put
into the mailbox that it was routed to when it was posted, whatever routes there are by then. -/

namespace ComponentHost

def Mail.exchange? : Mail → Option CorrelationId
  | .request _ id _ => some id
  | .chore .. | .message .. | .invoke .. => none

namespace State

/-- Acts that bring, past the host, mail or a response of an exchange. -/
def Act.forges (c : CorrelationId) : Act → Prop
  | .post _ mail | .tell _ mail => mail.exchange? = some c
  | .respond id .. => id = c
  | _ => False

variable {s t : State} {v : Act} {n i a : Nat} {m : Mail} {e : Option Nat × Mail}

section Errand

/-- The mail that an act has with it, and the mailbox it is routed to; a call in line keeps it. -/
def errandOf? (s : State) : Act → Option (Option Nat × Mail)
  | .move (.call n) => s.errand? n
  | .post target mail => toward target mail
  | .sendMessage sender target payload => toward target (.message sender payload)
  | .sendRequest sender target payload _ _ =>
    toward target (.request sender (.issued s.issued) payload)
  | .tell _ mail => some (none, mail)
  | .invoke _ function args | .execute _ function args =>
    some (none, .invoke function args s.calls.length)
  | _ => none
where
  toward (target : ComponentId) (mail : Mail) : Option (Option Nat × Mail) :=
    (s.post.routes.get? target).map fun box => (some box, mail)

theorem errandOf?_of_offers {sender : Nat} (offered : s.offers? v = some (i, sender, m)) :
    ∃ box?, s.errandOf? v = some (box?, m) ∧ ∀ box, box? = some box → box = i := by
  have toward : ∀ {target : ComponentId} {mail : Mail},
      offers?.toward s target mail = some (i, sender, m) →
        ∃ box?, errandOf?.toward s target mail = some (box?, m) ∧
          ∀ box, box? = some box → box = i := by
    intro target mail found
    obtain ⟨box, route, same⟩ := Option.map_eq_some_iff.mp found
    cases same
    refine ⟨some i, by rw [errandOf?.toward, route]; rfl, ?_⟩
    rintro _ ⟨⟩
    rfl
  cases v with
  | move move =>
    cases move with
    | call n =>
      rw [offers?] at offered
      rw [errandOf?, errand?]
      split at offered
      case h_1 here =>
        cases offered
        rw [here]
        refine ⟨_, rfl, ?_⟩
        rintro _ ⟨⟩
        rfl
      case h_2 here | h_3 here =>
        cases offered
        rw [here]
        exact ⟨_, rfl, fun box same => by cases same⟩
      case h_4 => cases offered
    | _ => cases offered
  | post | sendMessage | sendRequest => exact toward offered
  | tell | invoke =>
    cases offered
    exact ⟨_, rfl, fun box same => by cases same⟩
  | execute id function args =>
    rw [offers?] at offered
    split at offered
    · obtain ⟨_, _, same⟩ := Option.map_eq_some_iff.mp offered
      cases same
      exact ⟨_, rfl, fun box same => by cases same⟩
    · cases offered
  | _ => cases offered

theorem errand?_of_fills (fills : s.Fills t) (n : Nat) : t.errand? n = s.errand? n := by
  obtain ⟨slot, same⟩ := fills n
  rw [errand?, same, errand?]
  cases s.calls[n]? with
  | none => rfl
  | some c =>
    cases c with
    | returned => rfl
    | running call =>
      cases call with
      | invoked a held target => cases held <;> rfl
      | _ => rfl

theorem errand?_of_calls (same : t.calls = s.calls) (n : Nat) : t.errand? n = s.errand? n :=
  errand?_of_fills (.of_calls same) n

theorem Enters.errand? {errand : Option (Option Nat × Mail)} (enters : s.Enters errand t)
    (there : t.errand? n = some e) : s.errand? n = some e ∨ errand = some e := by
  obtain ⟨c, same, errs⟩ := enters
  rw [State.errand?, same] at there
  by_cases old : n < s.calls.length
  · rw [List.getElem?_append_left old] at there
    exact .inl there
  · obtain ⟨c', last, own⟩ := Option.bind_eq_some_iff.mp there
    have known := (List.getElem?_eq_some_iff.mp last).1
    rw [List.length_append, List.length_singleton] at known
    obtain rfl : n = s.calls.length := by omega
    rw [List.getElem?_concat_length] at last
    cases last
    rw [own] at errs
    exact .inr (errs.resolve_left nofun).symm

theorem Moves.errand? {k : Nat} (moves : s.Moves t k) (there : t.errand? n = some e) :
    s.errand? n = some e := by
  obtain ⟨c, same, free⟩ := moves
  rw [State.errand?, same] at there
  by_cases own : k = n
  · subst own
    obtain ⟨c', last, errs⟩ := Option.bind_eq_some_iff.mp there
    have known := (List.getElem?_eq_some_iff.mp last).1
    rw [List.length_set] at known
    rw [List.getElem?_set_self known] at last
    cases last
    rw [free] at errs
    cases errs
  · rwa [List.getElem?_set_ne own] at there

theorem step_errand? {move : Move} (stepped : s.step move = some t)
    (there : t.errand? n = some e) : s.errand? n = some e := by
  cases move with
  | alarm number =>
    obtain ⟨_, _, _, rfl⟩ := stepAlarm_eq stepped
    exact there
  | actor a => rwa [errand?_of_fills (stepActor_fills stepped)] at there
  | enroll i =>
    obtain ⟨_, _, rfl⟩ := enroll_eq stepped
    exact there
  | call k => exact (stepCall_moves stepped).errand? there

theorem errand?_after (there : (s.after v).errand? n = some e) :
    s.errand? n = some e ∨ s.errandOf? v = some e := by
  have silent : ∀ {t}, s.Enters none t → t.errand? n = some e →
      s.errand? n = some e ∨ s.errandOf? v = some e := fun enters there =>
    .inl ((enters.errand? there).resolve_right nofun)
  cases v with
  | move move =>
    rw [after] at there
    cases stepped : s.step move with
    | none =>
      rw [stepped] at there
      exact .inl there
    | some t =>
      rw [stepped] at there
      exact .inl (step_errand? stepped there)
  | post target mail => exact (deliver_enters rfl .bare target mail).errand? there
  | sendMessage sender target payload =>
    exact (deliver_enters rfl .message target (.message sender payload)).errand? there
  | sendRequest sender target payload timeout? awaited =>
    obtain ⟨ledger, waiter, same⟩ := s.sendRequest_eq sender target payload timeout? awaited
    rw [same] at there
    have enters := @deliver_enters s { s with ledger, issued := s.issued + 1 } rfl
      (.request (.issued s.issued) waiter awaited) target
      (.request sender (.issued s.issued) payload)
    exact enters.errand? there
  | respond id responder requester reply =>
    rw [after] at there
    split at there
    case h_1 t posted =>
      rw [errand?_of_calls (calls_respond posted)] at there
      exact .inl there
    case h_2 => exact .inl there
  | startActor name preStart postStop keep =>
    exact silent (s.startActor_enters name preStart postStop keep) there
  | stopActor a => exact silent (s.stopActor_enters a) there
  | tell a mail => exact (s.tell_enters a mail).errand? there
  | invoke a function args => exact (s.invoke_enters a function args none).errand? there
  | spawn o keep => exact silent (s.spawnComponent_enters o keep) there
  | stop id => exact silent (s.stopComponent_enters id) there
  | restart o => exact silent (s.restartComponent_enters o) there
  | shutdown => exact silent s.shutdown_enters there
  | execute id function args => exact (s.execute_enters id function args).errand? there
  | wait | expire | cancel | cleanup | sweep | abandon | install | route | unroute | unrouteFrom
    | take | close | discard | release => exact .inl there

theorem queued_after {b' : Mailbox Mail} (there : (s.after v).post.boxes[i]? = some b')
    (queued : m ∈ b'.queue) : (∃ b, s.post.boxes[i]? = some b ∧ m ∈ b.queue) ∨
      ∃ box?, s.errandOf? v = some (box?, m) ∧ ∀ box, box? = some box → box = i := by
  obtain ⟨b, here, handles⟩ | ⟨capacity, rfl⟩ := (s.after_plays v).box_cases there
  · cases handles with
    | rests _ => exact .inl ⟨_, here, queued⟩
    | offered offered =>
      obtain queued | rfl := Mailbox.mem_queue_offer queued
      · exact .inl ⟨b, here, queued⟩
      · exact .inr (errandOf?_of_offers offered)
    | drawn _ _ drawn => exact .inl ⟨b, here, drawn.queue_subset queued⟩
  · cases queued

theorem inHand_after {y : Actor} {work : Work} {due : Option Duration}
    (there : (s.after v).actors[a]? = some y) (busy : y.phase = .busy (.handle m) work due) :
    ∃ x, s.actors[a]? = some x ∧ y.box = x.box ∧ (x.phase = .busy (.handle m) work due ∨
      ∃ b, s.post.boxes[x.box]? = some b ∧ m ∈ b.queue) := by
  obtain ⟨x, here⟩ | new := (s.after_plays v).actor_cases there
  · refine ⟨x, here, ((s.after_plays v).kept here there).box, ?_⟩
    obtain ⟨_, works⟩ | ⟨_, phase, _⟩ := (s.after_plays v).works_or_rests here there
    · cases works with
      | leaves _ _ scene =>
        cases there.symm.trans (actor_of_set here (congrArg Scene.actors scene))
        cases busy
      | takes _ _ _ box taken scene =>
        cases there.symm.trans (actor_of_set here (congrArg Scene.actors scene))
        cases busy
        exact .inr ⟨_, box, by rw [Mailbox.take?_eq_some taken]; exact List.mem_cons_self⟩
      | ends _ _ scene =>
        cases there.symm.trans (actor_of_set here (congrArg Scene.actors scene))
        exact absurd busy (x.phase_leave_ne_busy _ _ _ _ _)
    · exact .inl (phase ▸ busy)
  · obtain ⟨_, _, starting, _⟩ := new.starting
    rw [starting] at busy
    cases busy

end Errand

/-- All mail of an exchange that is on its way, wherever it is, is one request, and in no mailbox
but those given. -/
structure Conveys (s : State) (c : CorrelationId) (request : Mail) (routed : Nat → Prop) :
    Prop where
  errand (n : Nat) (box? : Option Nat) (m : Mail) : s.errand? n = some (box?, m) →
    m.exchange? = some c → m = request ∧ ∃ i, box? = some i ∧ routed i
  queued (i : Nat) (b : Mailbox Mail) (m : Mail) : s.post.boxes[i]? = some b → m ∈ b.queue →
    m.exchange? = some c → m = request ∧ routed i
  inHand (a : Nat) (x : Actor) (m : Mail) (work : Work) (due : Option Duration) :
    s.actors[a]? = some x → x.phase = .busy (.handle m) work due → m.exchange? = some c →
      m = request ∧ routed x.box

namespace Conveys

variable {c : CorrelationId} {request : Mail} {routed routed' : Nat → Prop}

theorem fresh (config : HostConfig) (engine : Engine) :
    (fresh config engine).Conveys c request routed where
  errand _ _ _ there := nomatch there
  queued _ _ _ here := nomatch here
  inHand _ _ _ _ _ here := nomatch here

theorem mono (conveys : s.Conveys c request routed) (more : ∀ i, routed i → routed' i) :
    s.Conveys c request routed' where
  errand n box? m there own := by
    obtain ⟨same, i, box, there⟩ := conveys.errand n box? m there own
    exact ⟨same, i, box, more i there⟩
  queued i b m here queued own := (conveys.queued i b m here queued own).imp_right (more i)
  inHand a x m work due here busy own :=
    (conveys.inHand a x m work due here busy own).imp_right (more x.box)

theorem errand_cases (conveys : s.Conveys c request routed) (unforged : ¬ v.forges c)
    {box? : Option Nat} (brings : s.errandOf? v = some (box?, m)) (own : m.exchange? = some c) :
    (m = request ∧ ∃ i, box? = some i ∧ routed i) ∨
      ∃ sender target payload timeout? awaited,
        v = .sendRequest sender target payload timeout? awaited ∧ c = .issued s.issued ∧
          m = .request sender c payload ∧
          ∃ i, box? = some i ∧ s.post.routes.get? target = some i := by
  cases v with
  | move move =>
    cases move with
    | call n => exact .inl (conveys.errand n box? m brings own)
    | _ => cases brings
  | post target mail =>
    obtain ⟨_, _, same⟩ := Option.map_eq_some_iff.mp brings
    cases same
    exact absurd own unforged
  | tell b mail =>
    cases brings
    exact absurd own unforged
  | sendMessage sender target payload =>
    obtain ⟨_, _, same⟩ := Option.map_eq_some_iff.mp brings
    cases same
    cases own
  | sendRequest sender target payload timeout? awaited =>
    obtain ⟨i, route, same⟩ := Option.map_eq_some_iff.mp brings
    cases same
    cases own
    exact .inr ⟨sender, target, payload, timeout?, awaited, rfl, rfl, rfl, i, rfl, route⟩
  | invoke | execute =>
    cases brings
    cases own
  | _ => cases brings

theorem after (conveys : s.Conveys c request routed)
    (rightly : ∀ box? m, s.errandOf? v = some (box?, m) → m.exchange? = some c →
      m = request ∧ ∃ i, box? = some i ∧ routed i) : (s.after v).Conveys c request routed where
  errand n box? m there own := by
    obtain here | come := errand?_after there
    · exact conveys.errand n box? m here own
    · exact rightly box? m come own
  queued i b' m there queued own := by
    obtain ⟨b, here, queued⟩ | ⟨box?, come, lands⟩ := queued_after there queued
    · exact conveys.queued i b m here queued own
    · obtain ⟨same, j, box, there⟩ := rightly box? m come own
      exact ⟨same, lands j box ▸ there⟩
  inHand a y m work due there busy own := by
    obtain ⟨x, here, box, busy | ⟨b, at', queued⟩⟩ := inHand_after there busy
    · exact box ▸ conveys.inHand a x m work due here busy own
    · exact box ▸ conveys.queued x.box b m at' queued own

theorem stays (conveys : s.Conveys c request routed) (unforged : ¬ v.forges c)
    (old : c = .issued s.issued → (s.after v).issued = s.issued) :
    (s.after v).Conveys c request routed := by
  refine conveys.after fun box? m brings own => ?_
  obtain rightly | ⟨_, _, _, _, _, rfl, rfl, _⟩ := conveys.errand_cases unforged brings own
  · exact rightly
  · have same := old rfl
    rw [issued_sendRequest] at same
    omega

theorem sent {sender target : ComponentId} {payload : Bytes} {timeout? : Option Duration}
    {awaited : Bool}
    (unsent : s.Conveys (.issued s.issued) (.request sender (.issued s.issued) payload)
      fun _ => False) :
    (s.after (.sendRequest sender target payload timeout? awaited)).Conveys (.issued s.issued)
      (.request sender (.issued s.issued) payload) fun i => s.post.routes.get? target = some i := by
  refine (unsent.mono fun _ => False.elim).after fun box? m brings own => ?_
  obtain ⟨i, route, same⟩ := Option.map_eq_some_iff.mp brings
  cases same
  exact ⟨rfl, i, rfl, route⟩

end Conveys

end State

end ComponentHost
