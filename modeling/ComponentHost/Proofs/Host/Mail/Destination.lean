import ComponentHost.Proofs.Host.Actor.OwedOutcomes
import ComponentHost.Proofs.Host.Mail.WaitingSenders

/-! Where posted mail goes. It can get only into the mailbox that its target was routed to as the
call began, whatever becomes of the route while the call stands in line, and the call returns what
became of it: that there was no route, that the mail is in, or that the mailbox closed first. -/

namespace ComponentHost

namespace Delivery

variable {d : Delivery} {r : Except PostError Unit} {p : PostOffice} {box : Nat}

theorem entrant?_eq_some {e : Entrant} : d.entrant? r = some e ↔
    r = .ok () ∧ ∃ box, d.box? = some box ∧ e = ⟨box, d.number, d.mail⟩ := by
  cases r with
  | error => simp [entrant?]
  | ok =>
    rw [entrant?, Option.map_eq_some_iff]
    constructor
    · rintro ⟨box, route, rfl⟩
      exact ⟨rfl, box, route, rfl⟩
    · rintro ⟨_, box, route, rfl⟩
      exact ⟨box, route, rfl⟩

theorem unrouted_of_result (result : d.result? p = some (.error (.targetNotFound d.target.name))) :
    d.box? = none := by
  cases route : d.box? with
  | none => rfl
  | some box =>
    rw [result?_of_box route] at result
    cases offer : (p.offer box d.number d.mail).1 <;> rw [offer] at result <;> cases result

theorem settled_of_result (route : d.box? = some box) (result : d.result? p = some r) :
    r = .ok () ∧ (p.offer box d.number d.mail).1 = .accepted ∨
      r = .error (.mailboxClosed d.target) ∧ (p.offer box d.number d.mail).1 = .refused := by
  rw [result?_of_box route] at result
  cases offer : (p.offer box d.number d.mail).1 <;> rw [offer] at result <;> cases result
  · exact .inl ⟨rfl, rfl⟩
  · exact .inr ⟨rfl, rfl⟩

end Delivery

namespace PostOffice

variable {p : PostOffice} {box sender : Nat} {mail : Mail}

theorem isOpen_of_accepted (accepted : (p.offer box sender mail).1 = .accepted) :
    p.isOpen box = true := by
  obtain ⟨b, here, accepted⟩ := box_of_accepted accepted
  rw [isOpen, here]
  exact (Mailbox.offer_accepted (Prod.ext accepted rfl)).1

theorem isOpen_of_refused (refused : (p.offer box sender mail).1 = .refused) :
    (p.offer box sender mail).2.isOpen box = false := by
  rw [isOpen, State.boxes_offer, List.getElem?_modify_eq]
  cases here : p.boxes[box]? with
  | none => rfl
  | some b =>
    rw [State.offer_of_box here] at refused
    exact (b.isOpen_offer sender mail).trans (Mailbox.offer_refused_iff.mp refused)

theorem unrouteFrom_iff (p : PostOffice) (c : ComponentId) (box : Nat) :
    (p.unrouteFrom c box).1 = true ↔ p.routes.get? c = some box := by
  unfold unrouteFrom
  split <;> simp_all

theorem get?_unrouteFrom (p : PostOffice) (c : ComponentId) (box : Nat) (j : ComponentId) :
    (p.unrouteFrom c box).2.routes.get? j =
      if j = c ∧ p.routes.get? c = some box then none else p.routes.get? j := by
  unfold unrouteFrom
  split
  case isTrue leads => simp [unroute, Table.get?_erase, leads]
  case isFalse leads => rw [if_neg fun both => leads both.2]

theorem boxes_unrouteFrom (p : PostOffice) (c : ComponentId) (box : Nat) :
    (p.unrouteFrom c box).2.boxes = p.boxes := by
  unfold unrouteFrom
  split <;> rfl

end PostOffice

namespace State

variable {s h : State} {acts : List Act} {v : Act} {d : Delivery} {n box : Nat}
  {r : Except PostError Unit}

section Ends

theorem result_of_ended (ended : (d, r) ∈ s.endings acts) :
    ∃ before, d.result? (s.run before).post = some r := by
  obtain ⟨before, _, _, _, ends⟩ := mem_along.mp ended
  exact ⟨before, (ending?_eq_some.mp ends).2⟩

theorem Forwards.unrouted_iff (forwards : s.Forwards acts) (mem : d ∈ s.begun acts) :
    (d, .error (.targetNotFound d.target.name)) ∈ s.endings acts ↔ d.box? = none := by
  constructor
  · intro ended
    obtain ⟨before, result⟩ := result_of_ended ended
    exact Delivery.unrouted_of_result result
  · intro unrouted
    obtain standing | ⟨r, ended⟩ := forwards.course d mem
    · obtain ⟨box, route, _⟩ := delivering?_eq_some.mp standing
      cases unrouted.symm.trans route
    · obtain ⟨before, result⟩ := result_of_ended ended
      cases (Delivery.result?_unrouted unrouted _).symm.trans result
      exact ended

theorem entered_of_ended (config : HostConfig) (engine : Engine) (route : d.box? = some box)
    (ended : (d, .ok ()) ∈ (fresh config engine).endings acts) :
    ((fresh config engine).intake acts).filter (·.sender = d.number) =
      [⟨box, d.number, d.mail⟩] := by
  let h := fresh config engine
  have forwards : h.Forwards acts := forwards_run config engine acts
  have posted : d.number ∈ (h.begun acts).map (·.number) :=
    List.mem_map_of_mem (forwards.ended _ ended).1
  have others : ∀ l : List (Delivery × Except PostError Unit),
      (∀ p ∈ l, p.1.number ≠ d.number) →
        (l.filterMap fun p => p.1.entrant? p.2).filter (·.sender = d.number) = [] := by
    intro l apart
    refine List.filter_eq_nil_iff.mpr fun e entered => ?_
    obtain ⟨p, mem, entered⟩ := List.mem_filterMap.mp entered
    obtain ⟨_, _, _, rfl⟩ := Delivery.entrant?_eq_some.mp entered
    simpa using apart p mem
  obtain ⟨past, later, split⟩ := List.append_of_mem ended
  have once := forwards.once
  rw [split, List.map_append, List.map_cons, List.nodup_append, List.nodup_cons] at once
  obtain ⟨_, ⟨after, _⟩, across⟩ := once
  calc (h.intake acts).filter (·.sender = d.number)
    _ = ((h.intake acts).filter (fun e => e.sender ∈ (h.begun acts).map (·.number))).filter
          (·.sender = d.number) := by
      rw [List.filter_filter]
      refine List.filter_congr fun e _ => ?_
      by_cases own : e.sender = d.number
      · rw [own]
        simp [posted, -List.mem_map]
      · simp [own]
    _ = ((h.endings acts).filterMap fun p => p.1.entrant? p.2).filter (·.sender = d.number) := by
      rw [intake_of_begun config engine acts]
    _ = [⟨box, d.number, d.mail⟩] := by
      have own : d.entrant? (.ok ()) = some ⟨box, d.number, d.mail⟩ :=
        Delivery.entrant?_eq_some.mpr ⟨rfl, box, route, rfl⟩
      rw [split, List.filterMap_append, List.filterMap_cons, own, List.filter_append,
        others past, List.filter_cons, others later]
      · simp
      · exact fun p mem same => after (List.mem_map.mpr ⟨p, mem, same⟩)
      · exact fun p mem => across _ (List.mem_map_of_mem mem) _ List.mem_cons_self

theorem ended_of_entered (config : HostConfig) (engine : Engine)
    (mem : d ∈ (fresh config engine).begun acts) {e : Entrant}
    (entered : e ∈ (fresh config engine).intake acts) (own : e.sender = d.number) :
    (d, .ok ()) ∈ (fresh config engine).endings acts := by
  let h := fresh config engine
  have forwards : h.Forwards acts := forwards_run config engine acts
  have posted : e ∈ (h.intake acts).filter (fun e => e.sender ∈ (h.begun acts).map (·.number)) := by
    refine List.mem_filter.mpr ⟨entered, ?_⟩
    rw [own]
    exact decide_eq_true (List.mem_map_of_mem mem)
  rw [intake_of_begun config engine acts] at posted
  obtain ⟨⟨d', r⟩, ended, entrant⟩ := List.mem_filterMap.mp posted
  obtain ⟨rfl, _, _, rfl⟩ := Delivery.entrant?_eq_some.mp entrant
  have same : d' = d := forwards.eq_of_number (forwards.ended _ ended).1 mem own
  exact same ▸ ended

end Ends

section Fares

variable {config : HostConfig} {engine : Engine} {before later : List Act}

/-- The mailbox is closed, and the mail of call `n` is in none. -/
def ShutOut (s : State) (acts : List Act) (n box : Nat) : Prop :=
  (s.run acts).post.isOpen box = false ∧ ∀ e ∈ s.intake acts, e.sender ≠ n

theorem isOpen_of_box {b : Mailbox Mail} (here : s.post.boxes[box]? = some b) :
    s.post.isOpen box = b.isOpen := by
  rw [PostOffice.isOpen, here]
  rfl

/-- How a call fares that posts mail. It began with the last of the acts `asked`, its number is `n`
and `route?` is the mailbox that its target was routed to then. -/
structure Fares (h : State) (asked later : List Act) (n : Nat) (target : ComponentId) (mail : Mail)
    (route? : Option Nat) : Prop where
  unknown_iff : (h.run (asked ++ later)).answer? n =
    some (.posted (.error (.targetNotFound target.name))) ↔ route? = none
  posted_iff : (h.run (asked ++ later)).answer? n = some (.posted (.ok ())) ↔
    ∃ box, route? = some box ∧
      (h.intake (asked ++ later)).filter (·.sender = n) = [⟨box, n, mail⟩]
  kept_out : (h.run (asked ++ later)).answer? n ≠ some (.posted (.ok ())) →
    ∀ e ∈ h.intake (asked ++ later), e.sender ≠ n
  closed_first : (h.run (asked ++ later)).answer? n =
      some (.posted (.error (.mailboxClosed target))) →
    ∃ box, route? = some box ∧ ∃ earlier, earlier <+: later ∧ h.ShutOut (asked ++ earlier) n box
  fails (box : Nat) (earlier : List Act) : (h.run (asked ++ later)).quiet → route? = some box →
    earlier <+: later → h.ShutOut (asked ++ earlier) n box →
      (h.run (asked ++ later)).answer? n = some (.posted (.error (.mailboxClosed target)))
  waits : (h.run (asked ++ later)).quiet → (h.run (asked ++ later)).answer? n = none →
    ∃ box b, route? = some box ∧ (h.run (asked ++ later)).post.boxes[box]? = some b ∧
      b.isOpen = true ∧ b.hasRoom = false

theorem endings_append {p : Delivery × Except PostError Unit} (mem : p ∈ s.endings acts)
    (later : List Act) : p ∈ s.endings (acts ++ later) := by
  obtain ⟨before, v, rest, rfl, ends⟩ := mem_along.mp mem
  exact mem_along.mpr ⟨before, v, rest ++ later, by simp, ends⟩

theorem Forwards.eq_of_ended (forwards : s.Forwards acts) {r' : Except PostError Unit}
    (ended : (d, r) ∈ s.endings acts) (ended' : (d, r') ∈ s.endings acts) : r = r' :=
  congrArg Prod.snd (List.inj_on_of_nodup_map forwards.once ended ended' rfl)

theorem Forwards.unended (forwards : s.Forwards acts) (begins : (s.run acts).begins? v = some d) :
    (d, r) ∉ s.endings acts := by
  intro ended
  have known := forwards.known d (forwards.ended _ ended).1
  rw [number_of_begins begins] at known
  exact Nat.lt_irrefl _ known

theorem shutOut_of_ending (route : d.box? = some box)
    (ends : ((fresh config engine).run acts).ending? v =
      some (d, .error (.mailboxClosed d.target))) :
    (fresh config engine).ShutOut (acts ++ [v]) d.number box := by
  let h := fresh config engine
  have forwards : h.Forwards (acts ++ [v]) := forwards_run config engine _
  have ended : (d, .error (.mailboxClosed d.target)) ∈ h.endings (acts ++ [v]) :=
    endings_concat.mpr (.inr ends)
  constructor
  · obtain ⟨attempts, result⟩ := ending?_eq_some.mp ends
    obtain ⟨failed, _⟩ | ⟨_, refused⟩ := Delivery.settled_of_result route result
    · cases failed
    · rw [run_concat]
      cases after_attempts attempts with
      | waits stays => cases stays.symm.trans result
      | ends _ _ _ post =>
        rw [post, Delivery.offered_of_box route]
        exact PostOffice.isOpen_of_refused refused
  · intro e entered own
    have well := ended_of_entered config engine (forwards.ended _ ended).1 entered own
    cases forwards.eq_of_ended ended well

theorem shutOut_of_refused (begins : ((fresh config engine).run before).begins? v = some d)
    (route : d.box? = some box) (refused : (d, .error (.mailboxClosed d.target)) ∈
      (fresh config engine).endings (before ++ [v] ++ later)) :
    ∃ earlier, earlier <+: later ∧
      (fresh config engine).ShutOut (before ++ [v] ++ earlier) d.number box := by
  let h := fresh config engine
  revert refused
  refine history_induction (P := fun later =>
    (d, .error (.mailboxClosed d.target)) ∈ h.endings (before ++ [v] ++ later) →
      ∃ earlier, earlier <+: later ∧ h.ShutOut (before ++ [v] ++ earlier) d.number box) ?_ ?_
  · intro refused
    rw [List.append_nil] at refused
    obtain old | ends := endings_concat.mp refused
    · exact absurd old ((forwards_run config engine before).unended begins)
    · exact ⟨[], List.nil_prefix, by rw [List.append_nil]; exact shutOut_of_ending route ends⟩
  · intro l u _ ih refused
    rw [← List.append_assoc] at refused
    obtain old | ends := endings_concat.mp refused
    · obtain ⟨earlier, first, shut⟩ := ih old
      exact ⟨earlier, first.trans (List.prefix_append _ _), shut⟩
    · exact ⟨l ++ [u], List.prefix_rfl, by
        rw [← List.append_assoc]
        exact shutOut_of_ending route ends⟩

theorem unended_of_closed {b : Mailbox Mail} (route : d.box? = some box)
    (here : (s.run acts).post.boxes[box]? = some b) (closed : b.isOpen = false)
    (unended : (d, .ok ()) ∉ s.endings acts) (later : List Act) :
    (∃ b, (s.run (acts ++ later)).post.boxes[box]? = some b ∧ b.isOpen = false) ∧
      (d, .ok ()) ∉ s.endings (acts ++ later) := by
  refine history_induction (P := fun later =>
    (∃ b, (s.run (acts ++ later)).post.boxes[box]? = some b ∧ b.isOpen = false) ∧
      (d, .ok ()) ∉ s.endings (acts ++ later)) ?_ ?_
  · rw [List.append_nil]
    exact ⟨⟨b, here, closed⟩, unended⟩
  · rintro l v _ ⟨⟨b, here, closed⟩, unended⟩
    rw [← List.append_assoc, run_concat]
    obtain ⟨b', there, _⟩ := (after_plays _ v).box here
    refine ⟨⟨b', there, closed_after here closed there⟩, fun ended => ?_⟩
    obtain old | ends := endings_concat.mp ended
    · exact unended old
    · obtain ⟨_, result⟩ := ending?_eq_some.mp ends
      obtain ⟨_, accepted⟩ | ⟨failed, _⟩ := Delivery.settled_of_result route result
      · have isOpen := PostOffice.isOpen_of_accepted accepted
        rw [isOpen_of_box here, closed] at isOpen
        cases isOpen
      · cases failed

theorem refused_of_shutOut (mem : d ∈ (fresh config engine).begun acts) (route : d.box? = some box)
    (shut : (fresh config engine).ShutOut acts d.number box)
    (quiet : ((fresh config engine).run (acts ++ later)).quiet) :
    (d, .error (.mailboxClosed d.target)) ∈ (fresh config engine).endings (acts ++ later) := by
  let h := fresh config engine
  have unended : (d, .ok ()) ∉ h.endings acts := by
    intro ended
    have entered := entered_of_ended config engine route ended
    have mem := List.mem_of_mem_filter (entered ▸ List.mem_cons_self)
    exact shut.2 _ mem rfl
  have refused : ∀ {acts r}, (d, r) ∈ h.endings acts → (d, .ok ()) ∉ h.endings acts →
      (d, .error (.mailboxClosed d.target)) ∈ h.endings acts := by
    intro acts r ended unended
    obtain ⟨_, result⟩ := result_of_ended ended
    obtain ⟨rfl, _⟩ | ⟨rfl, _⟩ := Delivery.settled_of_result route result
    · exact absurd ended unended
    · exact ended
  obtain standing | ⟨r, ended⟩ := (forwards_run config engine acts).course d mem
  · have queues : h.Queues acts := queues_run config engine acts
    obtain ⟨b, here, _⟩ := PostOffice.box_of_waiting (queues.stands _ d box standing route)
    have closed : b.isOpen = false := by rw [← isOpen_of_box here, shut.1]
    obtain ⟨⟨b', there, closed'⟩, unended'⟩ := unended_of_closed route here closed unended later
    have begun : d ∈ h.begun (acts ++ later) := by
      obtain ⟨before, v, rest, rfl, begins⟩ := mem_along.mp mem
      exact mem_along.mpr ⟨before, v, rest ++ later, by simp, begins⟩
    obtain standing' | ⟨r, ended⟩ := (forwards_run config engine (acts ++ later)).course d begun
    · have boxless : h.Tight := fun _ _ here => nomatch here
      obtain ⟨_, there', isOpen, _⟩ := full_of_standing quiet (boxless.run _)
        (queues_run config engine (acts ++ later)).stands standing' route
      cases there.symm.trans there'
      cases closed'.symm.trans isOpen
    · exact refused ended unended'
  · exact endings_append (refused ended unended) later

theorem fares_of_begins (begins : ((fresh config engine).run before).begins? v = some d)
    (plain : ∀ r, d.purpose.next r = .inr (.posted r)) (later : List Act) :
    (fresh config engine).Fares (before ++ [v]) later d.number d.target d.mail d.box? := by
  let h := fresh config engine
  have begun : ∀ later, d ∈ h.begun (before ++ [v] ++ later) := fun later =>
    mem_along.mpr ⟨before, v, later, by simp, begins⟩
  have forwards : h.Forwards (before ++ [v] ++ later) := forwards_run config engine _
  have answered : ∀ {r}, (h.run (before ++ [v] ++ later)).answer? d.number = some (.posted r) ↔
      (d, r) ∈ h.endings (before ++ [v] ++ later) := forwards.answered_iff (begun later) plain
  constructor
  case unknown_iff => rw [answered, forwards.unrouted_iff (begun later)]
  case posted_iff =>
    rw [answered]
    constructor
    · intro ended
      obtain ⟨box, route⟩ := routed_of_ended ended
      exact ⟨box, route, entered_of_ended config engine route ended⟩
    · rintro ⟨box, _, entered⟩
      have mem := List.mem_of_mem_filter (entered ▸ List.mem_cons_self)
      exact ended_of_entered config engine (begun later) mem rfl
  case kept_out =>
    rw [ne_eq, answered]
    exact fun unended e entered own =>
      unended (ended_of_entered config engine (begun later) entered own)
  case closed_first =>
    rw [answered]
    intro refused
    cases route : d.box? with
    | none =>
      cases forwards.eq_of_ended refused ((forwards.unrouted_iff (begun later)).mpr route)
    | some box => exact ⟨box, rfl, shutOut_of_refused begins route refused⟩
  case fails =>
    rintro box earlier quiet route ⟨rest, rfl⟩ shut
    rw [answered, ← List.append_assoc]
    rw [← List.append_assoc] at quiet
    exact refused_of_shutOut (begun earlier) route shut quiet
  case waits =>
    intro quiet unanswered
    obtain standing | ⟨r, ended⟩ := forwards.course d (begun later)
    · obtain ⟨box, route, _⟩ := delivering?_eq_some.mp standing
      have boxless : h.Tight := fun _ _ here => nomatch here
      obtain ⟨b, here, isOpen, full⟩ := full_of_standing quiet (boxless.run _)
        (queues_run config engine _).stands standing route
      exact ⟨box, b, route, here, isOpen, full⟩
    · cases unanswered.symm.trans (answered.mpr ended)

end Fares

/-- Mail that is posted gets into the mailbox that its target was routed to as the call began, or
nowhere, and the call returns which. A mailbox receives the mail of calls that began at rest in the
order of these calls, if slots are used in turn; and a route is withdrawn on behalf of a mailbox
only if it leads there. -/
theorem mail_enters_where_routed (config : HostConfig) (engine : Engine) (acts : List Act) :
    let h := fresh config engine
    let t := h.run acts
    (∀ before target mail later, acts = before ++ .post target mail :: later →
      h.Fares (before ++ [.post target mail]) later (h.run before).calls.length target mail
        ((h.run before).post.routes.get? target)) ∧
    (h.TakesTurns acts → ∀ box, ((h.entries acts box).map (·.sender)).Pairwise (h.Precedes acts)) ∧
    (∀ box, t.post.queued box <:+ (h.entries acts box).map (·.mail)) ∧
    ∀ c box, ((t.post.unrouteFrom c box).1 = true ↔ t.post.routes.get? c = some box) ∧
      (∀ j, (t.after (.unrouteFrom c box)).post.routes.get? j =
        if j = c ∧ t.post.routes.get? c = some box then none else t.post.routes.get? j) ∧
      (t.after (.unrouteFrom c box)).post.boxes = t.post.boxes := by
  intro h t
  refine ⟨?_, entries_in_order config engine, queued_suffix config engine acts, fun c box => ?_⟩
  · rintro before target mail later rfl
    exact fares_of_begins (v := .post target mail) rfl (fun _ => rfl) later
  · exact ⟨t.post.unrouteFrom_iff c box, t.post.get?_unrouteFrom c box,
      t.post.boxes_unrouteFrom c box⟩

section Sample

def slotTaken : List Act :=
  [.install 1, .install 1, .route ⟨"b"⟩ 0, .post ⟨"b"⟩ (.message ⟨"a"⟩ [1])]

/-- Two pieces of mail stand in line at a full mailbox when the route is moved to another one. -/
def rerouted : List Act :=
  [.post ⟨"b"⟩ (.message ⟨"a"⟩ [2]), .post ⟨"b"⟩ (.message ⟨"a"⟩ [3]), .route ⟨"b"⟩ 1, .take 0,
    .move (.call 1), .take 0, .move (.call 2)]

theorem slotTaken_quiet : ((fresh {} (.paced [] 0)).run slotTaken).quiet := by
  intro m
  cases m with
  | alarm | actor | enroll => rfl
  | call n =>
    match n with
    | 0 | _ + 1 => rfl

theorem rerouted_mail_enters :
    let h := fresh {} (.paced [] 0)
    let acts := slotTaken ++ rerouted
    h.TakesTurns acts ∧ h.BegunAtRest acts 1 ∧ 2 ∈ (h.begun acts).map (·.number) ∧
      (h.run acts).post.routes.get? ⟨"b"⟩ = some 1 ∧
      (h.run acts).answer? 1 = some (.posted (.ok ())) ∧
      (h.intake acts).filter (·.sender = 1) = [⟨0, 1, .message ⟨"a"⟩ [2]⟩] ∧
      (h.entries acts 0).map (·.sender) = [0, 1, 2] ∧ [0, 1, 2].Pairwise (h.Precedes acts) := by
  have turn : (fresh {} (.paced [] 0)).TakesTurns (slotTaken ++ rerouted) := by decide +kernel
  have atRest : (fresh {} (.paced [] 0)).BegunAtRest (slotTaken ++ rerouted) 1 :=
    ⟨slotTaken, _, rerouted.tail, rfl, slotTaken_quiet, _, rfl, rfl⟩
  have answered : ((fresh {} (.paced [] 0)).run (slotTaken ++ rerouted)).answer? 1 =
    some (.posted (.ok ())) := rfl
  have entries : ((fresh {} (.paced [] 0)).entries (slotTaken ++ rerouted) 0).map (·.sender) =
    [0, 1, 2] := by decide +kernel
  obtain ⟨fares, order, _⟩ := mail_enters_where_routed {} (.paced [] 0) (slotTaken ++ rerouted)
  have fares : (fresh {} (.paced [] 0)).Fares (slotTaken ++ rerouted.take 1) rerouted.tail 1 ⟨"b"⟩
      (.message ⟨"a"⟩ [2]) (some 0) := fares slotTaken ⟨"b"⟩ (.message ⟨"a"⟩ [2]) rerouted.tail rfl
  obtain ⟨box, route, entered⟩ := fares.posted_iff.mp answered
  cases route
  exact ⟨turn, atRest, by decide +kernel, rfl, answered, entered, entries, entries ▸ order turn 0⟩

end Sample

end State

end ComponentHost
