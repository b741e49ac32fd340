import ComponentHost.Proofs.Host.Mail.Postings
import Mathlib.Data.List.Nodup

/-! The course of the postings of a run. Each ends once or has its call stand in line, and what
mailboxes let in of their mail is what they say by their ends. -/

namespace ComponentHost.State

variable {s t : State} {v : Act} {n : Nat} {d : Delivery} {r : Except PostError Unit}

section Course

def begun (s : State) (acts : List Act) : List Delivery := s.along begins? acts

def endings (s : State) (acts : List Act) : List (Delivery × Except PostError Unit) :=
  s.along ending? acts

def intake (s : State) (acts : List Act) : List Entrant := s.along admits? acts

def answer? (s : State) (n : Nat) : Option Answer :=
  s.calls[n]?.bind fun
    | .returned _ answer => some answer
    | .running _ => none

variable {acts : List Act}

theorem answer?_eq_some {a : Answer} :
    s.answer? n = some a ↔ ∃ time, s.calls[n]? = some (.returned time a) := by
  rw [answer?, Option.bind_eq_some_iff]
  constructor
  · rintro ⟨c, here, answered⟩
    cases c with
    | running => cases answered
    | returned time answer =>
      cases answered
      exact ⟨time, here⟩
  · rintro ⟨time, here⟩
    exact ⟨_, here, rfl⟩

theorem answer?_after {a : Answer} (answered : s.answer? n = some a) (v : Act) :
    (s.after v).answer? n = some a := by
  obtain ⟨time, here⟩ := answer?_eq_some.mp answered
  exact answer?_eq_some.mpr ⟨time, returned_after here v⟩

/-- A posting that has ended: its mail is off the call's hands, and the call has returned what it
returns in such a case, unless it goes on as something else. -/
structure Ended (s : State) (d : Delivery) (r : Except PostError Unit) : Prop where
  known : d.number < s.calls.length
  unburdened : s.errand? d.number = none
  answered (a : Answer) : d.purpose.next r = .inr a → s.answer? d.number = some a

theorem Ended.after (ended : s.Ended d r) (v : Act) : (s.after v).Ended d r where
  known := Nat.lt_of_lt_of_le ended.known (s.calls_length_after v)
  unburdened := unburdened_after ended.known ended.unburdened v
  answered a returns := answer?_after (ended.answered a returns) v

theorem Ended.delivering (ended : s.Ended d r) : s.delivering? d.number = none := by
  refine Option.eq_none_iff_forall_ne_some.mpr fun d' standing => ?_
  cases (errand?_of_delivering standing).symm.trans ended.unburdened

theorem ended_of_next {time : Duration}
    (call : t.calls[d.number]? = some (.ofNext time (d.purpose.next r))) : t.Ended d r where
  known := (List.getElem?_eq_some_iff.mp call).1
  unburdened := unburdened_of_next call
  answered a returns := answer?_eq_some.mpr ⟨time, by rw [call, returns]; rfl⟩

/-- What has come of the postings of a run: each has ended once, or its call stands in line with it,
and nobody else stands in line. -/
structure Forwards (s : State) (acts : List Act) : Prop where
  known : ∀ d ∈ s.begun acts, d.number < (s.run acts).calls.length
  distinct : ((s.begun acts).map (·.number)).Nodup
  standing (n : Nat) (d : Delivery) : (s.run acts).delivering? n = some d → d ∈ s.begun acts
  course : ∀ d ∈ s.begun acts,
    (s.run acts).delivering? d.number = some d ∨ ∃ r, (d, r) ∈ s.endings acts
  ended : ∀ p ∈ s.endings acts, p.1 ∈ s.begun acts ∧ (s.run acts).Ended p.1 p.2
  once : ((s.endings acts).map (·.1.number)).Nodup

theorem begun_concat : d ∈ s.begun (acts ++ [v]) ↔
    d ∈ s.begun acts ∨ (s.run acts).begins? v = some d := by
  rw [begun, along_concat, List.mem_append, Option.mem_toList]
  rfl

theorem endings_concat {p : Delivery × Except PostError Unit} : p ∈ s.endings (acts ++ [v]) ↔
    p ∈ s.endings acts ∨ (s.run acts).ending? v = some p := by
  rw [endings, along_concat, List.mem_append, Option.mem_toList]
  rfl

theorem course_of_attempt (attempts : (s.run acts).delivery? v = some d) :
    ((s.run acts).after v).delivering? d.number = some d ∨
      ∃ r, (d, r) ∈ s.endings (acts ++ [v]) := by
  cases after_attempts attempts with
  | waits _ call => exact .inl call
  | ends result =>
    exact .inr ⟨_, endings_concat.mpr (.inr (ending?_eq_some.mpr ⟨attempts, result⟩))⟩

namespace Forwards

variable (forwards : s.Forwards acts)

include forwards

theorem eq_of_number {d d' : Delivery} (mem : d ∈ s.begun acts) (mem' : d' ∈ s.begun acts)
    (same : d.number = d'.number) : d = d' :=
  List.inj_on_of_nodup_map forwards.distinct mem mem' same

theorem attempted (attempts : (s.run acts).delivery? v = some d) :
    ((s.run acts).begins? v = some d ∨ (s.run acts).delivering? d.number = some d) ∧
      ∀ p ∈ s.endings acts, p.1.number ≠ d.number := by
  have came : (s.run acts).begins? v = some d ∨ (s.run acts).delivering? d.number = some d := by
    cases v with
    | move m =>
      cases m with
      | call n =>
        obtain ⟨_, _, own, _⟩ := delivering?_eq_some.mp attempts
        exact .inr (own ▸ attempts)
      | _ => cases attempts
    | _ => exact .inl attempts
  refine ⟨came, fun p mem same => ?_⟩
  have ended := (forwards.ended p mem).2
  obtain begins | standing := came
  · have known := ended.known
    rw [same, number_of_begins begins] at known
    exact Nat.lt_irrefl _ known
  · rw [← same, ended.delivering] at standing
    cases standing

theorem course_concat (mem : d ∈ s.begun (acts ++ [v])) :
    ((s.run acts).after v).delivering? d.number = some d ∨
      ∃ r, (d, r) ∈ s.endings (acts ++ [v]) := by
  obtain old | begins := begun_concat.mp mem
  · obtain standing | ⟨r, ended⟩ := forwards.course d old
    · by_cases own : v = .move (.call d.number)
      · exact course_of_attempt (by rw [own]; exact standing)
      · rw [delivering?_of_other (forwards.known d old) own]
        exact .inl standing
    · exact .inr ⟨r, endings_concat.mpr (.inl ended)⟩
  · exact course_of_attempt (delivery?_of_begins begins)

theorem ended_concat {p : Delivery × Except PostError Unit} (mem : p ∈ s.endings (acts ++ [v])) :
    p.1 ∈ s.begun (acts ++ [v]) ∧ ((s.run acts).after v).Ended p.1 p.2 := by
  obtain old | ends := endings_concat.mp mem
  · obtain ⟨begun, ended⟩ := forwards.ended p old
    exact ⟨begun_concat.mpr (.inl begun), ended.after v⟩
  · obtain ⟨attempts, result⟩ := ending?_eq_some.mp ends
    constructor
    · refine begun_concat.mpr ?_
      exact (forwards.attempted attempts).1.symm.imp_left (forwards.standing _ _)
    · cases after_attempts attempts with
      | waits stays => cases stays.symm.trans result
      | ends result' call =>
        cases result'.symm.trans result
        exact ended_of_next call

theorem concat (v : Act) : s.Forwards (acts ++ [v]) where
  known d mem := by
    rw [run_concat]
    obtain old | begins := begun_concat.mp mem
    · exact Nat.lt_of_lt_of_le (forwards.known d old) (calls_length_after _ v)
    · exact (after_attempts (delivery?_of_begins begins)).known
  distinct := by
    rw [begun, along_concat, List.map_append]
    refine List.Nodup.append forwards.distinct ?_ ?_
    · cases (s.run acts).begins? v <;> simp
    · intro n old new
      obtain ⟨d, mem, rfl⟩ := List.mem_map.mp old
      obtain ⟨d', begins, same⟩ := List.mem_map.mp new
      have known := forwards.known d mem
      rw [← same, number_of_begins (Option.mem_toList.mp begins)] at known
      exact Nat.lt_irrefl _ known
  standing n d there := by
    rw [run_concat] at there
    exact begun_concat.mpr ((delivering?_after there).imp_left (forwards.standing n d))
  course d mem := by
    rw [run_concat]
    exact forwards.course_concat mem
  ended p mem := by
    rw [run_concat]
    exact forwards.ended_concat mem
  once := by
    rw [endings, along_concat, List.map_append]
    refine List.Nodup.append forwards.once ?_ ?_
    · cases (s.run acts).ending? v <;> simp
    · intro n old new
      obtain ⟨p, mem, rfl⟩ := List.mem_map.mp old
      obtain ⟨p', ends, same⟩ := List.mem_map.mp new
      obtain ⟨attempts, _⟩ := ending?_eq_some.mp (Option.mem_toList.mp ends)
      exact (forwards.attempted attempts).2 p mem same.symm

theorem ended_iff (mem : d ∈ s.begun acts) :
    (s.run acts).delivering? d.number = none ↔ ∃ r, (d, r) ∈ s.endings acts := by
  constructor
  · intro gone
    refine (forwards.course d mem).resolve_left fun standing => ?_
    cases gone.symm.trans standing
  · rintro ⟨r, ended⟩
    exact (forwards.ended _ ended).2.delivering

theorem answered_iff (mem : d ∈ s.begun acts)
    (plain : ∀ r, d.purpose.next r = .inr (.posted r)) :
    (s.run acts).answer? d.number = some (.posted r) ↔ (d, r) ∈ s.endings acts := by
  constructor
  · intro answered
    obtain standing | ⟨r', ended⟩ := forwards.course d mem
    · obtain ⟨_, _, _, here⟩ := delivering?_eq_some.mp standing
      obtain ⟨_, there⟩ := answer?_eq_some.mp answered
      cases here.symm.trans there
    · cases answered.symm.trans ((forwards.ended _ ended).2.answered _ (plain r'))
      exact ended
  · exact fun ended => (forwards.ended _ ended).2.answered _ (plain r)

end Forwards

theorem routed_of_ended (ended : (d, .ok ()) ∈ s.endings acts) : ∃ box, d.box? = some box := by
  obtain ⟨before, v, _, _, ends⟩ := mem_along.mp ended
  obtain ⟨_, result⟩ := ending?_eq_some.mp ends
  cases route : d.box? with
  | some box => exact ⟨box, rfl⟩
  | none =>
    rw [Delivery.result?_unrouted route] at result
    cases result

theorem forwards_run (config : HostConfig) (engine : Engine) (acts : List Act) :
    (fresh config engine).Forwards acts := by
  refine history_induction (P := (fresh config engine).Forwards) ?_ fun _ v _ forwards =>
    forwards.concat v
  exact {
    known := fun _ mem => nomatch mem
    distinct := List.nodup_nil
    standing := fun _ _ there => nomatch there
    course := fun _ mem => nomatch mem
    ended := fun _ mem => nomatch mem
    once := List.nodup_nil }

end Course

section Intake

variable {acts : List Act} {e : Entrant}

theorem admits?_eq_some : s.admits? v = some e ↔ s.offers? v = some (e.box, e.sender, e.mail) ∧
    (s.post.offer e.box e.sender e.mail).1 = .accepted := by
  rw [admits?, Option.bind_eq_some_iff]
  constructor
  · rintro ⟨⟨box, sender, mail⟩, offered, let_in⟩
    obtain ⟨accepted, same⟩ := Option.ite_none_right_eq_some.mp let_in
    cases same
    exact ⟨offered, accepted⟩
  · rintro ⟨offered, accepted⟩
    exact ⟨_, offered, if_pos accepted⟩

theorem lt_of_offers {box sender : Nat} {mail : Mail}
    (offered : s.offers? v = some (box, sender, mail)) : sender < (s.after v).calls.length := by
  have entered : ∀ {errand}, s.Enters errand (s.after v) →
      s.calls.length < (s.after v).calls.length := by
    rintro _ ⟨_, same, _⟩
    rw [same, List.length_append]
    exact Nat.lt_succ_self _
  cases attempts : s.delivery? v with
  | some d =>
    rw [offers?_of_delivery attempts] at offered
    obtain ⟨_, _, same⟩ := Option.map_eq_some_iff.mp offered
    cases same
    exact (after_attempts attempts).known
  | none =>
    cases v with
    | move m =>
      cases m with
      | call n =>
        refine Nat.lt_of_lt_of_le ?_ (s.calls_length_after _)
        rw [offers?] at offered
        split at offered
        case h_4 => cases offered
        all_goals
          cases offered
          exact (List.getElem?_eq_some_iff.mp ‹s.calls[sender]? = _›).1
      | _ => cases offered
    | tell a mail =>
      cases offered
      exact entered (s.tell_enters a mail)
    | invoke a function args =>
      cases offered
      exact entered (s.invoke_enters a function args none)
    | execute id function args =>
      have entered := entered (s.execute_enters id function args)
      rw [offers?] at offered
      split at offered
      · obtain ⟨_, _, same⟩ := Option.map_eq_some_iff.mp offered
        cases same
        exact entered
      · cases offered
    | post | sendMessage | sendRequest => cases attempts
    | _ => cases offered

theorem sender_known (mem : e ∈ s.intake acts) : e.sender < (s.run acts).calls.length := by
  revert e
  refine history_induction (P := fun acts => ∀ {e}, e ∈ s.intake acts →
    e.sender < (s.run acts).calls.length) (fun mem => nomatch mem) ?_
  intro acts v _ ih e mem
  rw [intake, along_concat, List.mem_append, Option.mem_toList] at mem
  rw [run_concat]
  obtain old | let_in := mem
  · exact Nat.lt_of_lt_of_le (ih old) (calls_length_after _ v)
  · exact lt_of_offers (admits?_eq_some.mp let_in).1

theorem Forwards.foreign (forwards : s.Forwards acts) {box sender : Nat} {mail : Mail}
    (offered : (s.run acts).offers? v = some (box, sender, mail))
    (apart : (s.run acts).delivery? v = none) : ∀ d ∈ s.begun acts, d.number ≠ sender := by
  rintro d mem same
  obtain rfl | last := sender_of_offers offered
  · obtain standing | ⟨r, ended⟩ := forwards.course d mem
    · rw [same] at standing
      cases apart.symm.trans standing
    · obtain ⟨box?, brings, _⟩ := errandOf?_of_offers offered
      have unburdened := (forwards.ended _ ended).2.unburdened
      rw [same] at unburdened
      cases unburdened.symm.trans brings
  · have known := forwards.known d mem
    rw [same, last] at known
    exact Nat.lt_irrefl _ known

theorem number_of_begun_concat {n : Nat} : n ∈ (s.begun (acts ++ [v])).map (·.number) ↔
    n ∈ (s.begun acts).map (·.number) ∨ ∃ d, (s.run acts).begins? v = some d ∧ d.number = n := by
  simp [begun_concat, or_and_right, exists_or]

theorem Forwards.foreign_of_admits (forwards : s.Forwards acts)
    (attempts : (s.run acts).delivery? v = none) (admits : (s.run acts).admits? v = some e) :
    e.sender ∉ (s.begun (acts ++ [v])).map (·.number) := by
  rw [number_of_begun_concat]
  rintro (old | ⟨d, begins, _⟩)
  · obtain ⟨d, mem, same⟩ := List.mem_map.mp old
    exact forwards.foreign (admits?_eq_some.mp admits).1 attempts d mem same
  · cases (delivery?_of_begins begins).symm.trans attempts

theorem intake_of_begun (config : HostConfig) (engine : Engine) (acts : List Act) :
    let s := fresh config engine
    (s.intake acts).filter (fun e => e.sender ∈ (s.begun acts).map (·.number)) =
      (s.endings acts).filterMap fun p => p.1.entrant? p.2 := by
  intro s
  refine history_induction (P := fun acts =>
    (s.intake acts).filter (fun e => e.sender ∈ (s.begun acts).map (·.number)) =
      (s.endings acts).filterMap fun p => p.1.entrant? p.2) rfl fun acts v _ ih => ?_
  have forwards : s.Forwards acts := forwards_run config engine acts
  rw [intake, endings, along_concat, along_concat, List.filter_append, List.filterMap_append]
  congr 1
  · refine Eq.trans (List.filter_congr fun e mem => ?_) ih
    refine decide_eq_decide.mpr (number_of_begun_concat.trans (or_iff_left ?_))
    rintro ⟨d, begins, same⟩
    have known : e.sender < (s.run acts).calls.length := sender_known mem
    rw [← same, number_of_begins begins] at known
    exact Nat.lt_irrefl _ known
  · cases attempts : (s.run acts).delivery? v with
    | some d =>
      have own : d.number ∈ (s.begun (acts ++ [v])).map (·.number) :=
        List.mem_map_of_mem ((forwards.attempted attempts).1.elim
          (fun begins => begun_concat.mpr (.inr begins))
          fun standing => begun_concat.mpr (.inl (forwards.standing _ _ standing)))
      rw [admits?_of_delivery attempts, ending?, attempts, Option.bind_some]
      cases d.result? (s.run acts).post with
      | none => rfl
      | some r =>
        cases r with
        | error => rfl
        | ok => cases route : d.box? <;> simp [Delivery.entrant?, route, own, -List.mem_map]
    | none =>
      rw [ending?, attempts]
      cases admits : (s.run acts).admits? v with
      | none => rfl
      | some e => simp [forwards.foreign_of_admits attempts admits, -List.mem_map]

end Intake

end ComponentHost.State
