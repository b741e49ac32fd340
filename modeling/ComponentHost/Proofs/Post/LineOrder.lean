import ComponentHost.Proofs.Post.Mailbox
import Mathlib.Data.List.Nodup

/-! The order in which a mailbox lets its senders in. Slots become theirs in the order in which they
came, so whoever is let in, followed by whoever waits, stands in that order, as long as slots are
used in the order in which they were granted and nobody comes past those who wait. -/

namespace ComponentHost.Mailbox

variable {μ : Type} {b b' : Mailbox μ} {sender n : Nat} {mail : μ} {o : Offer} {left : List Nat}

def waiting (b : Mailbox μ) : List Nat := b.granted ++ b.line

theorem mem_waiting : n ∈ b.waiting ↔ b.Waits n := by
  rw [waiting, List.mem_append, or_comm, Waits]

theorem Drawn.waiting (drawn : b.Drawn b') : b'.waiting = b.waiting := by
  cases drawn with
  | closed | discarded => rfl
  | taken taken =>
    unfold take? at taken
    split at taken
    · cases taken
    · cases taken
      cases line : b.line <;> simp [Mailbox.waiting, free, line]

inductive Answers (b : Mailbox μ) (sender : Nat) : Offer → List Nat → Prop
  | refuses (closed : b.isOpen = false) :
    Answers b sender .refused (b.granted.erase sender ++ b.line.erase sender)
  | redeems (isOpen : b.isOpen = true) (granted : sender ∈ b.granted) :
    Answers b sender .accepted (b.granted.erase sender ++ b.line)
  | keeps (waits : sender ∈ b.waiting) : Answers b sender .waiting b.waiting
  | admits (new : sender ∉ b.waiting) (isOpen : b.isOpen = true) (room : b.hasRoom = true) :
    Answers b sender .accepted b.waiting
  | lines (new : sender ∉ b.waiting) : Answers b sender .waiting (b.waiting ++ [sender])

theorem offer_answers (b : Mailbox μ) (sender : Nat) (mail : μ) :
    b.Answers sender (b.offer sender mail).1 (b.offer sender mail).2.waiting := by
  unfold offer
  split
  case isTrue closed => exact .refuses (by simpa using closed)
  case isFalse isOpen =>
    have isOpen : b.isOpen = true := by simpa using isOpen
    split
    case isTrue granted => exact .redeems isOpen granted
    case isFalse notGranted =>
      split
      case isTrue inLine => exact .keeps (List.mem_append_right _ inLine)
      case isFalse notInLine =>
        have new : sender ∉ b.waiting := fun waits =>
          (List.mem_append.mp waits).elim notGranted notInLine
        split
        case isTrue room => exact .admits new isOpen room
        case isFalse =>
          have joined := Answers.lines new
          rwa [waiting, List.append_assoc] at joined

namespace Answers

theorem sublist (answers : b.Answers sender o left) (settled : o ≠ .waiting) :
    left.Sublist b.waiting := by
  cases answers with
  | refuses => exact .append List.erase_sublist List.erase_sublist
  | redeems => exact List.erase_sublist.append (.refl _)
  | admits => exact .refl _
  | keeps | lines => exact absurd rfl settled

theorem nodup (answers : b.Answers sender o left) (nodup : b.waiting.Nodup) : left.Nodup := by
  cases answers with
  | refuses closed => exact nodup.sublist ((refuses closed).sublist nofun)
  | redeems isOpen granted => exact nodup.sublist ((redeems isOpen granted).sublist nofun)
  | keeps | admits => exact nodup
  | lines new => exact nodup.append (List.nodup_singleton sender) (by simpa using new)

theorem kept (answers : b.Answers sender .waiting left) (waits : sender ∈ b.waiting) :
    left = b.waiting := by
  cases answers with
  | keeps => rfl
  | lines new => exact absurd waits new

theorem mem_iff (answers : b.Answers sender o left) (nodup : b.waiting.Nodup) :
    n ∈ left ↔ if n = sender then o = .waiting else n ∈ b.waiting := by
  obtain ⟨granted, line, apart⟩ := List.nodup_append.mp nodup
  by_cases own : n = sender
  · subst own
    rw [if_pos rfl]
    cases answers with
    | refuses =>
      simp [granted.not_mem_erase, line.not_mem_erase]
    | redeems _ mem =>
      simp only [List.mem_append, granted.not_mem_erase, false_or, reduceCtorEq, iff_false]
      exact fun inLine => apart n mem n inLine rfl
    | keeps waits => simpa using waits
    | admits new => simpa using new
    | lines => simp
  · rw [if_neg own]
    cases answers with
    | refuses | redeems => simp [waiting, List.mem_erase_of_ne own]
    | keeps | admits => rfl
    | lines => simp [own]

/-- An order in which senders have been let in and wait is kept by an offer, if a slot is used by
whom it was granted first, and if whoever is new may come last, and before those who wait if there
is room. -/
theorem pairwise {R : Nat → Nat → Prop} {past : List Nat} (answers : b.Answers sender o left)
    (ordered : (past ++ b.waiting).Pairwise R)
    (turn : b.isOpen = true → sender ∈ b.granted → b.granted.head? = some sender)
    (last : sender ∉ b.waiting → ∀ m ∈ past ++ b.waiting, R m sender)
    (first : sender ∉ b.waiting → b.isOpen = true → b.hasRoom = true →
      ∀ m ∈ b.waiting, R sender m) :
    ((past ++ if o = .accepted then [sender] else []) ++ left).Pairwise R := by
  cases answers with
  | refuses closed =>
    rw [if_neg nofun, List.append_nil]
    exact ordered.sublist (.append (.refl _) ((refuses closed).sublist nofun))
  | redeems isOpen granted =>
    obtain ⟨others, slots⟩ := List.head?_eq_some_iff.mp (turn isOpen granted)
    rw [waiting, slots] at ordered
    rw [slots, if_pos rfl, List.erase_cons_head]
    simpa using ordered
  | keeps =>
    rw [if_neg nofun, List.append_nil]
    exact ordered
  | admits new isOpen room =>
    obtain ⟨before, behind, across⟩ := List.pairwise_append.mp ordered
    rw [if_pos rfl, List.append_assoc]
    refine List.pairwise_append.mpr ⟨before, behind.cons (first new isOpen room), ?_⟩
    rintro m early k late
    obtain rfl | late := List.mem_cons.mp late
    · exact last new m (List.mem_append_left _ early)
    · exact across m early k late
  | lines new =>
    rw [if_neg nofun, List.append_nil, ← List.append_assoc]
    refine List.pairwise_append.mpr ⟨ordered, List.pairwise_singleton R sender, ?_⟩
    rintro m early k late
    rw [List.mem_singleton.mp late]
    exact last new m early

end Answers

theorem Drawn.queue_suffix (drawn : b.Drawn b') : b'.queue <:+ b.queue := by
  cases drawn with
  | taken taken =>
    rw [take?_eq_some taken]
    exact List.suffix_cons _ _
  | closed => exact List.suffix_rfl
  | discarded => exact List.nil_suffix

end ComponentHost.Mailbox
