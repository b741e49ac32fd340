import ComponentHost.Post.Mailbox

/-! Waiting at a mailbox. Nobody stands in line while there is room, and a sender that stands in
line stays there until it is granted a slot; only its own next attempt ends its wait. -/

namespace ComponentHost

inductive Mailbox.Drawn {μ : Type} (b : Mailbox μ) : Mailbox μ → Prop
  | taken {mail : μ} {b' : Mailbox μ} (taken : b.take? = some (mail, b')) : Drawn b b'
  | closed : Drawn b b.close
  | discarded : Drawn b b.discard

namespace Mailbox

variable {μ : Type} {b b' : Mailbox μ} {sender : Nat} {mail : μ}

/-- A sender waits in line, or has been granted a slot that it has yet to use. -/
def Waits (b : Mailbox μ) (sender : Nat) : Prop := sender ∈ b.line ∨ sender ∈ b.granted

/-- All slots are taken or granted as long as someone stands in line. -/
def Tight (b : Mailbox μ) : Prop :=
  b.isOpen = true → b.line ≠ [] → b.capacity ≤ b.queue.length + b.granted.length

theorem tight_of_empty (nobody : b.line = []) : b.Tight := fun _ someone => absurd nobody someone

theorem Tight.offer (tight : b.Tight) (sender : Nat) (mail : μ) :
    (b.offer sender mail).2.Tight := by
  unfold Mailbox.offer
  split
  case isTrue closed =>
    intro isOpen
    have isOpen : b.isOpen = true := isOpen
    simp [isOpen] at closed
  case isFalse =>
    split
    case isTrue granted =>
      intro isOpen someone
      have slots := tight isOpen someone
      have used := List.length_erase_of_mem granted
      have nonempty := List.length_pos_of_mem granted
      simp only [put, List.length_append, List.length_singleton]
      omega
    case isFalse =>
      split
      · exact tight
      · split
        case isTrue room =>
          intro isOpen someone
          have slots := tight isOpen someone
          have room : b.queue.length + b.granted.length < b.capacity := by
            simpa [hasRoom] using room
          simp only [put, List.length_append, List.length_singleton]
          omega
        case isFalse full =>
          intro _ _
          simpa [hasRoom] using full

theorem Tight.drawn (tight : b.Tight) (drawn : b.Drawn b') : b'.Tight := by
  cases drawn with
  | closed | discarded => intro isOpen; cases isOpen
  | taken taken =>
    unfold take? at taken
    split at taken
    · cases taken
    · rename_i queue
      cases taken
      cases line : b.line with
      | nil =>
        exact tight_of_empty (by simp [free])
      | cons first others =>
        intro isOpen _
        have isOpen : b.isOpen = true := by simpa using isOpen
        have slots := tight isOpen (by simp [line])
        simp only [free, queue, List.length_cons, List.length_append] at slots ⊢
        omega

theorem Waits.offer (waits : b.Waits sender) {other : Nat} (apart : other ≠ sender) (mail : μ) :
    (b.offer other mail).2.Waits sender := by
  unfold Mailbox.offer
  split
  · exact waits.imp (List.mem_erase_of_ne apart.symm).mpr (List.mem_erase_of_ne apart.symm).mpr
  · split
    · exact waits.imp_right (List.mem_erase_of_ne apart.symm).mpr
    · split
      · exact waits
      · split
        · exact waits
        · exact waits.imp_left (List.mem_append_left _)

theorem Waits.drawn (waits : b.Waits sender) (drawn : b.Drawn b') : b'.Waits sender := by
  cases drawn with
  | closed | discarded => exact waits
  | taken taken =>
    unfold take? at taken
    split at taken
    · cases taken
    · cases taken
      unfold free
      cases line : b.line with
      | nil => simpa [Waits, line] using waits
      | cons first others =>
        rw [Waits, line] at waits
        obtain inLine | granted := waits
        · obtain rfl | behind := List.mem_cons.mp inLine
          · exact .inr (by simp)
          · exact .inl behind
        · exact .inr (List.mem_append_left _ granted)

theorem mem_queue_offer {m : μ} (queued : m ∈ (b.offer sender mail).2.queue) :
    m ∈ b.queue ∨ m = mail := by
  generalize result : b.offer sender mail = offered at queued
  obtain ⟨offer, b'⟩ := offered
  by_cases accepted : offer = .accepted
  · rw [accepted] at result
    rw [(offer_accepted result).2] at queued
    exact (List.mem_append.mp queued).imp_right List.mem_singleton.mp
  · rw [offer_not_accepted result accepted] at queued
    exact .inl queued

theorem Drawn.queue_subset (drawn : b.Drawn b') : b'.queue ⊆ b.queue := by
  cases drawn with
  | taken taken =>
    rw [take?_eq_some taken]
    exact List.subset_cons_self _ _
  | closed => exact List.Subset.refl _
  | discarded => exact List.nil_subset _

theorem isOpen_offer (b : Mailbox μ) (sender : Nat) (mail : μ) :
    (b.offer sender mail).2.isOpen = b.isOpen := by
  unfold Mailbox.offer
  split
  · rfl
  · split
    · rfl
    · split
      · rfl
      · split <;> rfl

theorem Drawn.isOpen (drawn : b.Drawn b') (closed : b.isOpen = false) : b'.isOpen = false := by
  cases drawn with
  | taken taken =>
    unfold take? at taken
    split at taken
    · cases taken
    · cases taken
      rw [isOpen_free]
      exact closed
  | closed | discarded => rfl

theorem Waits.inLine (waits : b.Waits sender) (kept : (b.offer sender mail).1 = .waiting) :
    b.isOpen = true ∧ sender ∈ b.line := by
  unfold Mailbox.offer at kept
  split at kept
  · cases kept
  · rename_i isOpen
    split at kept
    · cases kept
    · rename_i notGranted
      exact ⟨by simpa using isOpen, waits.resolve_right notGranted⟩

theorem waits_of_waiting (kept : (b.offer sender mail).1 = .waiting) :
    (b.offer sender mail).2.Waits sender := by
  unfold Mailbox.offer at kept ⊢
  split at kept
  · cases kept
  · rename_i isOpen
    rw [if_neg isOpen]
    split at kept
    · cases kept
    · rename_i notGranted
      rw [if_neg notGranted]
      split at kept
      · rename_i inLine
        rw [if_pos inLine]
        exact .inl inLine
      · rename_i notInLine
        rw [if_neg notInLine]
        split at kept
        · cases kept
        · rename_i full
          rw [if_neg full]
          exact .inl (List.mem_append_right _ List.mem_cons_self)

end Mailbox

end ComponentHost
