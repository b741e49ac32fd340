import ComponentHost.Proofs.Host.Mail.PostingRuns
import ComponentHost.Proofs.Post.LineOrder

/-! Who waits at a mailbox. Of all postings those stand in line whose calls have yet to put their
mail in, each at the mailbox it was routed to. Mail comes in the order of the calls that came when
nothing was moving, if slots are used in turn. -/

namespace ComponentHost

namespace PostOffice

variable {p : PostOffice} {i n : Nat}

def waiting (p : PostOffice) (box : Nat) : List Nat :=
  match p.boxes[box]? with
  | some b => b.waiting
  | none => []

theorem waiting_of_box {b : Mailbox Mail} (here : p.boxes[i]? = some b) :
    p.waiting i = b.waiting := by
  rw [waiting, here]

theorem waiting_of_none (absent : p.boxes[i]? = none) : p.waiting i = [] := by
  rw [waiting, absent]

theorem box_of_waiting (waits : n ∈ p.waiting i) :
    ∃ b, p.boxes[i]? = some b ∧ n ∈ b.waiting := by
  unfold waiting at waits
  split at waits
  · exact ⟨_, ‹_›, waits⟩
  · cases waits

variable {b : Mailbox Mail} {sender : Nat} {mail : Mail}

theorem box_of_accepted (accepted : (p.offer i sender mail).1 = .accepted) :
    ∃ b, p.boxes[i]? = some b ∧ (b.offer sender mail).1 = .accepted := by
  cases here : p.boxes[i]? with
  | none =>
    rw [offer, here] at accepted
    cases accepted
  | some b =>
    rw [State.offer_of_box here] at accepted
    exact ⟨b, rfl, accepted⟩

theorem waiting_offer (here : p.boxes[i]? = some b) :
    (p.offer i sender mail).2.waiting i = (b.offer sender mail).2.waiting := by
  refine waiting_of_box ?_
  rw [State.boxes_offer, List.getElem?_modify_eq, here]
  rfl

theorem waiting_offer_of_ne {j : Nat} (apart : j ≠ i) :
    (p.offer j sender mail).2.waiting i = p.waiting i := by
  rw [waiting, State.boxes_offer, List.getElem?_modify_ne _ _ apart]
  rfl

theorem waiting_offer_of_kept {j : Nat} (waits : sender ∈ p.waiting j)
    (kept : (p.offer j sender mail).1 = .waiting) :
    (p.offer j sender mail).2.waiting i = p.waiting i := by
  by_cases own : j = i
  · subst own
    obtain ⟨b, here, waits⟩ := box_of_waiting waits
    have answers := b.offer_answers sender mail
    rw [State.offer_of_box here] at kept
    rw [kept] at answers
    rw [waiting_offer here, waiting_of_box here, answers.kept waits]
  · exact waiting_offer_of_ne own

end PostOffice

namespace State

variable {s t : State} {v : Act} {i n : Nat} {d : Delivery}

section Lines

variable {b : Mailbox Mail}

def Lined (s : State) : Prop := ∀ (n : Nat) (d : Delivery) (box : Nat),
  s.delivering? n = some d → d.box? = some box → n ∈ s.post.waiting box

theorem Lined.waiting_after (stands : s.Lined) (attempts : s.delivery? v = some d) (i : Nat) :
    (s.after v).post.waiting i = (d.offered s.post).waiting i := by
  cases after_attempts attempts with
  | ends _ _ _ post => rw [post]
  | waits result _ _ post =>
    obtain post | ⟨same, standing⟩ := post
    · rw [post]
    · obtain ⟨box, route, _⟩ := delivering?_eq_some.mp standing
      have kept : (s.post.offer box d.number d.mail).1 = .waiting := by
        rw [Delivery.result?_of_box route] at result
        revert result
        cases (s.post.offer box d.number d.mail).1 <;> simp [Delivery.settled?]
      rw [same, Delivery.offered_of_box route]
      exact (PostOffice.waiting_offer_of_kept (stands _ d box standing route) kept).symm

inductive Lines (s : State) (v : Act) (i : Nat) (b : Mailbox Mail) (left : List Nat) : Prop
  | rests (same : left = b.waiting) (silent : ∀ e, s.admits? v = some e → e.box ≠ i)
    (apart : ∀ d, s.delivery? v = some d → d.box? ≠ some i)
  | offered {sender : Nat} {mail : Mail} (offered : s.offers? v = some (i, sender, mail))
    (there : left = (b.offer sender mail).2.waiting)

theorem Lined.lines_of_delivery (stands : s.Lined) (here : s.post.boxes[i]? = some b)
    (attempts : s.delivery? v = some d) : s.Lines v i b ((s.after v).post.waiting i) := by
  have offers := offers?_of_delivery attempts
  have left := stands.waiting_after attempts i
  by_cases own : d.box? = some i
  · rw [Delivery.offered_of_box own, PostOffice.waiting_offer here] at left
    rw [own] at offers
    exact .offered offers left
  · refine .rests ?_ (fun e admits same => own ?_) fun d' attempts' => ?_
    · rw [left, ← PostOffice.waiting_of_box here]
      cases route : d.box? with
      | none => rw [Delivery.offered_unrouted route]
      | some box =>
        rw [Delivery.offered_of_box route]
        exact PostOffice.waiting_offer_of_ne fun same => own (same ▸ route)
    · rw [(admits?_eq_some.mp admits).1] at offers
      obtain ⟨box, route, same'⟩ := Option.map_eq_some_iff.mp offers.symm
      rw [route, ← same]
      exact congrArg (fun x => some x.1) same'
    · cases attempts'.symm.trans attempts
      exact own

theorem silent_of_puts (silent : ∀ mail, s.puts? v ≠ some (i, mail)) :
    ∀ e, s.admits? v = some e → e.box ≠ i := by
  rintro e admits rfl
  obtain ⟨offered, accepted⟩ := admits?_eq_some.mp admits
  exact silent e.mail (by rw [puts?, offered]; exact if_pos accepted)

theorem lines_of_other (here : s.post.boxes[i]? = some b) (other : s.delivery? v = none) :
    s.Lines v i b ((s.after v).post.waiting i) := by
  have apart : ∀ d, s.delivery? v = some d → d.box? ≠ some i := fun _ attempts => by
    cases other.symm.trans attempts
  obtain ⟨b', there, handles⟩ := (s.after_plays v).box here
  rw [PostOffice.waiting_of_box there]
  cases handles with
  | rests quiet => exact .rests rfl (silent_of_puts quiet) apart
  | offered offered => exact .offered offered rfl
  | drawn quiet _ drawn =>
    exact .rests drawn.waiting (silent_of_puts fun _ puts => by cases quiet.symm.trans puts) apart

theorem Lined.lines (stands : s.Lined) (here : s.post.boxes[i]? = some b) (v : Act) :
    s.Lines v i b ((s.after v).post.waiting i) := by
  cases attempts : s.delivery? v with
  | some d => exact stands.lines_of_delivery here attempts
  | none => exact lines_of_other here attempts

theorem waiting_after_of_none (absent : s.post.boxes[i]? = none) (v : Act) :
    (s.after v).post.waiting i = [] := by
  cases there : (s.after v).post.boxes[i]? with
  | none => exact PostOffice.waiting_of_none there
  | some b' =>
    rw [PostOffice.waiting_of_box there]
    obtain ⟨b, here, _⟩ | ⟨_, rfl⟩ := (s.after_plays v).box_cases there
    · cases absent.symm.trans here
    · rfl

end Lines

section Queues

variable {acts : List Act}

structure Queues (s : State) (acts : List Act) : Prop where
  nodup (i : Nat) : ((s.run acts).post.waiting i).Nodup
  known (i n : Nat) : n ∈ (s.run acts).post.waiting i → n < (s.run acts).calls.length
  stands : (s.run acts).Lined
  awaited (d : Delivery) (i : Nat) : d ∈ s.begun acts →
    d.number ∈ (s.run acts).post.waiting i →
      d.box? = some i ∧ (s.run acts).delivering? d.number = some d

namespace Queues

variable (queues : s.Queues acts)

include queues

theorem nodup_concat (v : Act) (i : Nat) : (((s.run acts).after v).post.waiting i).Nodup := by
  cases here : (s.run acts).post.boxes[i]? with
  | none =>
    rw [waiting_after_of_none here]
    exact List.nodup_nil
  | some b =>
    have nodup := queues.nodup i
    rw [PostOffice.waiting_of_box here] at nodup
    cases queues.stands.lines here v with
    | rests same =>
      rw [same]
      exact nodup
    | offered _ there =>
      rw [there]
      exact (b.offer_answers _ _).nodup nodup

theorem waiting_cases (waits : n ∈ ((s.run acts).after v).post.waiting i) :
    ∃ b, (s.run acts).post.boxes[i]? = some b ∧
      ((∃ mail, (s.run acts).offers? v = some (i, n, mail) ∧ (b.offer n mail).1 = .waiting) ∨
        n ∈ (s.run acts).post.waiting i ∧
          ∀ d, (s.run acts).delivery? v = some d → d.box? = some i → d.number ≠ n) := by
  cases here : (s.run acts).post.boxes[i]? with
  | none =>
    rw [waiting_after_of_none here] at waits
    cases waits
  | some b =>
    have nodup := queues.nodup i
    rw [PostOffice.waiting_of_box here] at nodup ⊢
    refine ⟨b, rfl, ?_⟩
    cases queues.stands.lines here v with
    | rests same _ apart =>
      rw [same] at waits
      exact .inr ⟨waits, fun d attempts route => absurd route (apart d attempts)⟩
    | @offered sender mail offered there =>
      rw [there] at waits
      have mem := ((b.offer_answers sender mail).mem_iff nodup).mp waits
      split at mem
      case isTrue own =>
        subst own
        exact .inl ⟨mail, offered, mem⟩
      case isFalse other =>
        refine .inr ⟨mem, fun d attempts route same => other ?_⟩
        rw [offers?_of_delivery attempts, route] at offered
        cases offered
        exact same.symm

theorem known_concat (v : Act) (waits : n ∈ ((s.run acts).after v).post.waiting i) :
    n < ((s.run acts).after v).calls.length := by
  obtain ⟨b, _, ⟨mail, offered, _⟩ | ⟨old, _⟩⟩ := queues.waiting_cases waits
  · exact lt_of_offers offered
  · exact Nat.lt_of_lt_of_le (queues.known i n old) (calls_length_after _ v)

theorem stands_concat (v : Act) : ((s.run acts).after v).Lined := by
  intro n d box there route
  have attempted : (s.run acts).delivery? v = some d →
      n ∈ ((s.run acts).after v).post.waiting box := by
    intro attempts
    obtain ⟨_, _, rfl, _⟩ := delivering?_eq_some.mp there
    rw [queues.stands.waiting_after attempts, Delivery.offered_of_box route]
    cases after_attempts attempts with
    | ends _ call =>
      cases (errand?_of_delivering there).symm.trans (unburdened_of_next call)
    | waits result =>
      rw [Delivery.result?_of_box route] at result
      cases here : (s.run acts).post.boxes[box]? with
      | none =>
        rw [PostOffice.offer, here] at result
        cases result
      | some b =>
        rw [offer_of_box here] at result
        rw [PostOffice.waiting_offer here, Mailbox.mem_waiting]
        refine Mailbox.waits_of_waiting ?_
        revert result
        cases (b.offer d.number d.mail).1 <;> simp [Delivery.settled?]
  obtain standing | begins := delivering?_after there
  · by_cases own : v = .move (.call n)
    · exact attempted (by rw [own]; exact standing)
    · have old := queues.stands n d box standing route
      have known := queues.known box n old
      obtain ⟨b, here, waits⟩ := PostOffice.box_of_waiting old
      cases queues.stands.lines here v with
      | rests same =>
        rw [same]
        exact waits
      | offered offered there =>
        rw [there, Mailbox.mem_waiting]
        refine (Mailbox.mem_waiting.mp waits).offer ?_ _
        rintro rfl
        exact (sender_of_offers offered).elim own (Nat.ne_of_lt known)
  · exact attempted (delivery?_of_begins begins)

theorem awaited_concat (forwards : s.Forwards acts) (mem : d ∈ s.begun (acts ++ [v]))
    (waits : d.number ∈ ((s.run acts).after v).post.waiting i) :
    d.box? = some i ∧ ((s.run acts).after v).delivering? d.number = some d := by
  obtain ⟨b, here, ⟨mail, offered, kept⟩ | ⟨old, apart⟩⟩ := queues.waiting_cases waits
  · have attempts : (s.run acts).delivery? v = some d := by
      cases attempts : (s.run acts).delivery? v with
      | none =>
        obtain old | begins := begun_concat.mp mem
        · exact absurd rfl (forwards.foreign offered attempts d old)
        · cases (delivery?_of_begins begins).symm.trans attempts
      | some d' =>
        have come : d' ∈ s.begun (acts ++ [v]) :=
          begun_concat.mpr ((forwards.attempted attempts).1.symm.imp_left (forwards.standing _ _))
        rw [offers?_of_delivery attempts] at offered
        obtain ⟨_, _, same⟩ := Option.map_eq_some_iff.mp offered
        exact congrArg some ((forwards.concat v).eq_of_number come mem (congrArg (·.2.1) same))
    have offers := offers?_of_delivery attempts
    rw [offered] at offers
    obtain ⟨box, route, same⟩ := Option.map_eq_some_iff.mp offers.symm
    cases same
    refine ⟨route, ?_⟩
    cases after_attempts attempts with
    | waits _ call => exact call
    | ends result =>
      rw [Delivery.result?_of_box route, offer_of_box here, kept] at result
      cases result
  · obtain begun | begins := begun_concat.mp mem
    · obtain ⟨route, standing⟩ := queues.awaited d i begun old
      refine ⟨route, ?_⟩
      rwa [delivering?_of_other (forwards.known d begun)]
      rintro rfl
      exact apart d standing route rfl
    · have known := queues.known i d.number old
      rw [number_of_begins begins] at known
      exact absurd known (Nat.lt_irrefl _)

theorem concat (forwards : s.Forwards acts) (v : Act) : s.Queues (acts ++ [v]) := by
  constructor <;> rw [run_concat]
  · exact queues.nodup_concat v
  · exact fun i n => queues.known_concat v
  · exact queues.stands_concat v
  · exact fun d i => queues.awaited_concat forwards

end Queues

theorem queues_run (config : HostConfig) (engine : Engine) (acts : List Act) :
    (fresh config engine).Queues acts := by
  refine history_induction (P := (fresh config engine).Queues) ?_ fun before v _ queues =>
    queues.concat (forwards_run config engine before) v
  exact {
    nodup := fun _ => List.nodup_nil
    known := fun _ _ mem => nomatch mem
    stands := fun _ _ _ there => nomatch there
    awaited := fun _ _ mem => nomatch mem }

end Queues

section Order

variable {acts : List Act} {b : Mailbox Mail}

def entries (s : State) (acts : List Act) (box : Nat) : List Entrant :=
  (s.intake acts).filter (·.box = box)

/-- A call that uses its slot before one to whom a slot was granted earlier. -/
def overtakes? (s : State) : Act → Option Nat
  | .move (.call n) =>
    if s.post.boxes.any fun b => b.isOpen && n ∈ b.granted && b.granted.head? != some n then some n
    else none
  | _ => none

/-- Slots are used in the order in which they were granted. This is the fairness assumed of the
channel behind a mailbox, whose sends complete in the order in which they were requested: `move`
lets any call that holds a slot go next, so a run may break it. -/
def TakesTurns (s : State) (acts : List Act) : Prop := s.along overtakes? acts = []

instance (s : State) (acts : List Act) : Decidable (s.TakesTurns acts) :=
  inferInstanceAs (Decidable (_ = _))

def BegunAtRest (s : State) (acts : List Act) (n : Nat) : Prop :=
  ∃ before v later, acts = before ++ v :: later ∧ (s.run before).quiet ∧
    ∃ d, (s.run before).begins? v = some d ∧ d.number = n

/-- A call that began at rest comes after all those that began before it. -/
def Precedes (s : State) (acts : List Act) (m n : Nat) : Prop :=
  s.BegunAtRest acts m → n ∈ (s.begun acts).map (·.number) → m < n

theorem takesTurns_concat :
    s.TakesTurns (acts ++ [v]) ↔ s.TakesTurns acts ∧ (s.run acts).overtakes? v = none := by
  rw [TakesTurns, along_concat, List.append_eq_nil_iff, Option.toList_eq_nil_iff]
  rfl

theorem begunAtRest_concat : s.BegunAtRest (acts ++ [v]) n ↔ s.BegunAtRest acts n ∨
    (s.run acts).quiet ∧ ∃ d, (s.run acts).begins? v = some d ∧ d.number = n :=
  exists_split_concat (P := fun before u => (s.run before).quiet ∧
    ∃ d, (s.run before).begins? u = some d ∧ d.number = n)

theorem BegunAtRest.begun (atRest : s.BegunAtRest acts n) :
    ∃ d ∈ s.begun acts, d.number = n := by
  obtain ⟨before, v, later, split, _, d, begins, same⟩ := atRest
  exact ⟨d, mem_along.mpr ⟨before, v, later, split, begins⟩, same⟩

theorem entries_known {e : Entrant} (mem : e ∈ s.entries acts i) :
    e.sender < (s.run acts).calls.length :=
  sender_known (List.mem_of_mem_filter mem)

theorem entries_concat : s.entries (acts ++ [v]) i =
    s.entries acts i ++ ((s.run acts).admits? v).toList.filter (·.box = i) := by
  rw [entries, intake, along_concat, List.filter_append]
  rfl

theorem entries_of_silent (silent : ∀ e, (s.run acts).admits? v = some e → e.box ≠ i) :
    s.entries (acts ++ [v]) i = s.entries acts i := by
  rw [entries_concat]
  cases let_in : (s.run acts).admits? v with
  | none => exact List.append_nil _
  | some e => simp [silent e let_in]

theorem entries_of_offered {sender : Nat} {mail : Mail}
    (here : (s.run acts).post.boxes[i]? = some b)
    (offered : (s.run acts).offers? v = some (i, sender, mail)) : s.entries (acts ++ [v]) i =
      s.entries acts i ++
        if (b.offer sender mail).1 = .accepted then [⟨i, sender, mail⟩] else [] := by
  rw [entries_concat, admits?, offered, Option.bind_some]
  dsimp only
  rw [offer_of_box here]
  split <;> simp

theorem head_of_turn {sender : Nat} (turn : s.overtakes? (.move (.call sender)) = none)
    (here : s.post.boxes[i]? = some b) (isOpen : b.isOpen = true) (granted : sender ∈ b.granted) :
    b.granted.head? = some sender := by
  rw [overtakes?, ite_eq_right_iff] at turn
  by_contra behind
  refine Option.some_ne_none _ (turn (List.any_eq_true.mpr ⟨b, List.mem_of_getElem? here, ?_⟩))
  simp [isOpen, granted, behind]

/-- In quiet a call stands in line only at an open mailbox that has no room. -/
theorem full_of_standing (quiet : s.quiet) (tight : s.Tight) (stands : s.Lined)
    (standing : s.delivering? n = some d) (route : d.box? = some i) :
    ∃ b, s.post.boxes[i]? = some b ∧ b.isOpen = true ∧ b.hasRoom = false := by
  obtain ⟨b, here, waits⟩ := PostOffice.box_of_waiting (stands n d i standing route)
  obtain ⟨box, route', rfl, call⟩ := delivering?_eq_some.mp standing
  cases route.symm.trans route'
  have still : s.stepCall d.number = none := quiet (.call d.number)
  rw [stepCall, call] at still
  have kept : (b.offer d.number d.mail).1 = .waiting := by
    obtain ⟨waiting, _⟩ | ⟨r, moved⟩ := s.stepDeliver_cases d.number d.purpose d.target i d.mail
    · rwa [offer_of_box here] at waiting
    · cases still.symm.trans moved
  obtain ⟨isOpen, inLine⟩ := (Mailbox.mem_waiting.mp waits).inLine kept
  refine ⟨b, here, isOpen, ?_⟩
  rw [Mailbox.hasRoom, decide_eq_false_iff_not, Nat.not_lt]
  exact tight i b here isOpen (List.ne_nil_of_mem inLine)

theorem Precedes.concat {m k : Nat} (before : s.Precedes acts m k)
    (known : m < (s.run acts).calls.length) (known' : k < (s.run acts).calls.length) (v : Act) :
    s.Precedes (acts ++ [v]) m k := by
  intro atRest posted
  refine before ?_ ?_
  · refine (begunAtRest_concat.mp atRest).resolve_right ?_
    rintro ⟨_, d, begins, rfl⟩
    exact Nat.lt_irrefl _ (number_of_begins begins ▸ known)
  · obtain ⟨d, mem, rfl⟩ := List.mem_map.mp posted
    refine List.mem_map_of_mem ((begun_concat.mp mem).resolve_right fun begins => ?_)
    exact Nat.lt_irrefl _ (number_of_begins begins ▸ known')

theorem Forwards.quiet_of_new (forwards : s.Forwards acts)
    (begins : (s.run acts).begins? v = some d)
    (atRest : s.BegunAtRest (acts ++ [v]) d.number) : (s.run acts).quiet := by
  obtain old | ⟨quiet, _⟩ := begunAtRest_concat.mp atRest
  · obtain ⟨d', mem, same⟩ := old.begun
    have known := forwards.known d' mem
    rw [same, number_of_begins begins] at known
    exact absurd known (Nat.lt_irrefl _)
  · exact quiet

namespace Queues

variable (queues : s.Queues acts)

include queues

theorem begins_of_new (forwards : s.Forwards acts) {sender : Nat} {mail : Mail}
    (offered : (s.run acts).offers? v = some (i, sender, mail))
    (new : sender ∉ (s.run acts).post.waiting i)
    (posted : sender ∈ (s.begun (acts ++ [v])).map (·.number)) :
    ∃ d, (s.run acts).begins? v = some d ∧ d.number = sender := by
  obtain ⟨d, mem, rfl⟩ := List.mem_map.mp posted
  obtain old | begins := begun_concat.mp mem
  · cases attempts : (s.run acts).delivery? v with
    | none => exact absurd rfl (forwards.foreign offered attempts d old)
    | some d' =>
      rw [offers?_of_delivery attempts] at offered
      obtain ⟨box, route, same⟩ := Option.map_eq_some_iff.mp offered
      obtain ⟨rfl, own, _⟩ : box = i ∧ d'.number = d.number ∧ _ := by simpa using same
      obtain begins | standing := (forwards.attempted attempts).1
      · exact ⟨d', begins, own⟩
      · exact absurd (own ▸ queues.stands _ d' box standing route) new
  · exact ⟨d, begins, rfl⟩

/-- Where nothing moves nobody who posts waits at a mailbox that has room. -/
theorem nobody_waits (quiet : (s.run acts).quiet) (tight : (s.run acts).Tight)
    (here : (s.run acts).post.boxes[i]? = some b) (room : b.hasRoom = true)
    (mem : d ∈ s.begun acts) : d.number ∉ b.waiting := by
  intro waits
  rw [← PostOffice.waiting_of_box here] at waits
  obtain ⟨route, standing⟩ := queues.awaited d i mem waits
  obtain ⟨_, here', _, full⟩ := full_of_standing quiet tight queues.stands standing route
  cases here.symm.trans here'
  cases room.symm.trans full

theorem sender_lt {m : Nat}
    (mem : m ∈ (s.entries acts i).map (·.sender) ++ (s.run acts).post.waiting i) :
    m < (s.run acts).calls.length := by
  obtain past | waits := List.mem_append.mp mem
  · obtain ⟨e, entered, rfl⟩ := List.mem_map.mp past
    exact entries_known entered
  · exact queues.known i m waits

theorem ordered_concat (forwards : s.Forwards acts) (tight : (s.run acts).Tight)
    (turn : (s.run acts).overtakes? v = none)
    (ordered : ((s.entries acts i).map (·.sender) ++ (s.run acts).post.waiting i).Pairwise
      (s.Precedes acts)) :
    ((s.entries (acts ++ [v]) i).map (·.sender) ++
      ((s.run acts).after v).post.waiting i).Pairwise (s.Precedes (acts ++ [v])) := by
  have known : ∀ m ∈ (s.entries acts i).map (·.sender) ++ (s.run acts).post.waiting i,
      m < (s.run acts).calls.length := fun _ => queues.sender_lt
  have ordered : ((s.entries acts i).map (·.sender) ++ (s.run acts).post.waiting i).Pairwise
      (s.Precedes (acts ++ [v])) := ordered.imp_of_mem fun early late before =>
    before.concat (known _ early) (known _ late) v
  cases here : (s.run acts).post.boxes[i]? with
  | none =>
    have silent : ∀ e, (s.run acts).admits? v = some e → e.box ≠ i := by
      rintro e admits rfl
      obtain ⟨b, there, _⟩ := PostOffice.box_of_accepted (admits?_eq_some.mp admits).2
      cases here.symm.trans there
    rw [entries_of_silent silent, waiting_after_of_none here, List.append_nil]
    exact ordered.sublist (List.sublist_append_left _ _)
  | some b =>
    rw [PostOffice.waiting_of_box here] at ordered known
    cases queues.stands.lines here v with
    | rests same silent =>
      rw [entries_of_silent silent, same]
      exact ordered
    | @offered sender mail offered there =>
      rw [entries_of_offered here offered, there, List.map_append, apply_ite (List.map _)]
      have new : sender ∉ b.waiting → sender ∈ (s.begun (acts ++ [v])).map (·.number) →
          ∃ d, (s.run acts).begins? v = some d ∧ d.number = sender := fun absent =>
        queues.begins_of_new forwards offered (by rwa [PostOffice.waiting_of_box here])
      refine (b.offer_answers sender mail).pairwise ordered ?_ ?_ ?_
      · intro isOpen granted
        obtain rfl | last := sender_of_offers offered
        · exact head_of_turn turn here isOpen granted
        · have before := known sender (List.mem_append_right _ (List.mem_append_left _ granted))
          exact absurd last (Nat.ne_of_lt before)
      · intro absent m early _ posted
        obtain ⟨d, begins, rfl⟩ := new absent posted
        rw [number_of_begins begins]
        exact known m early
      · intro absent isOpen room m behind atRest posted
        obtain ⟨_, mem, own⟩ := atRest.begun
        obtain ⟨d, begins, rfl⟩ := new absent (List.mem_map.mpr ⟨_, mem, own⟩)
        have before := known m (List.mem_append_right _ behind)
        obtain ⟨d', mem', rfl⟩ := List.mem_map.mp posted
        obtain old | begins' := begun_concat.mp mem'
        · have quiet := forwards.quiet_of_new begins atRest
          exact absurd behind (queues.nobody_waits quiet tight here room old)
        · rw [number_of_begins begins'] at before
          exact absurd before (Nat.lt_irrefl _)

end Queues

/-- A mailbox lets those who post in in the order of their calls, apart from such as began while
something was moving. -/
theorem entries_in_order (config : HostConfig) (engine : Engine)
    (turn : (fresh config engine).TakesTurns acts) (box : Nat) :
    (((fresh config engine).entries acts box).map (·.sender)).Pairwise
      ((fresh config engine).Precedes acts) := by
  let h := fresh config engine
  have boxless : h.Tight := fun _ _ here => nomatch here
  have ordered : ((h.entries acts box).map (·.sender) ++ (h.run acts).post.waiting box).Pairwise
      (h.Precedes acts) := by
    revert turn
    refine history_induction (P := fun acts => h.TakesTurns acts →
      ((h.entries acts box).map (·.sender) ++ (h.run acts).post.waiting box).Pairwise
        (h.Precedes acts)) (fun _ => List.Pairwise.nil) fun before v _ ih turn => ?_
    obtain ⟨turn, own⟩ := takesTurns_concat.mp turn
    rw [run_concat]
    exact (queues_run config engine before).ordered_concat (forwards_run config engine before)
      (boxless.run before) own (ih turn)
  exact ordered.sublist (List.sublist_append_left _ _)

theorem queued_suffix (config : HostConfig) (engine : Engine) (acts : List Act) (box : Nat) :
    let h := fresh config engine
    (h.run acts).post.queued box <:+ (h.entries acts box).map (·.mail) := by
  intro h
  refine history_induction (P := fun acts => (h.run acts).post.queued box <:+
    (h.entries acts box).map (·.mail)) List.nil_suffix fun before v _ ih => ?_
  have plays := (h.run before).after_plays v
  rw [run_concat, PostOffice.queued]
  cases there : ((h.run before).after v).post.boxes[box]? with
  | none => exact List.nil_suffix
  | some b' =>
    dsimp only
    obtain ⟨b, here, handles⟩ | ⟨_, rfl⟩ := plays.box_cases there
    · rw [PostOffice.queued, here] at ih
      cases handles with
      | rests silent => rwa [entries_of_silent (silent_of_puts silent)]
      | drawn silent _ drawn =>
        rw [entries_of_silent (silent_of_puts fun _ puts => by cases silent.symm.trans puts)]
        exact drawn.queue_suffix.trans ih
      | @offered sender mail offered =>
        rw [entries_of_offered here offered]
        by_cases accepted : (b.offer sender mail).1 = .accepted
        · obtain ⟨past, all⟩ := ih
          refine ⟨past, ?_⟩
          rw [if_pos accepted, List.map_append, ← all, List.append_assoc,
            (Mailbox.offer_accepted (Prod.ext accepted rfl)).2]
          rfl
        · have same : (b.offer sender mail).2.queue = b.queue :=
            Mailbox.offer_not_accepted rfl accepted
          rw [if_neg accepted, List.append_nil, same]
          exact ih
    · exact List.nil_suffix

end Order

end State

end ComponentHost
