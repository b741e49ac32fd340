/-! Bounded mailboxes. A sender that finds no room stands in line; each slot that becomes free
is granted to the sender that has waited longest, and it is that sender's until it puts its
mail in. A closed mailbox refuses every sender, also one that was granted a slot. -/

namespace ComponentHost

structure Mailbox (μ : Type) where
  capacity : Nat
  isOpen : Bool := true
  queue : List μ := []
  line : List Nat := []
  granted : List Nat := []

inductive Offer
  | accepted
  | refused
  | waiting
deriving DecidableEq

namespace Mailbox

variable {μ : Type}

def hasRoom (b : Mailbox μ) : Bool := b.queue.length + b.granted.length < b.capacity

def put (b : Mailbox μ) (mail : μ) : Mailbox μ := { b with queue := b.queue ++ [mail] }

/-- One attempt of a sender to put its mail in; a sender in line repeats it until it is let in. -/
def offer (b : Mailbox μ) (sender : Nat) (mail : μ) : Offer × Mailbox μ :=
  if !b.isOpen then
    (.refused, { b with line := b.line.erase sender, granted := b.granted.erase sender })
  else if sender ∈ b.granted then
    (.accepted, { b with granted := b.granted.erase sender }.put mail)
  else if sender ∈ b.line then (.waiting, b)
  else if b.hasRoom then (.accepted, b.put mail)
  else (.waiting, { b with line := b.line ++ [sender] })

def free (b : Mailbox μ) : Mailbox μ :=
  match b.line with
  | [] => b
  | sender :: rest => { b with line := rest, granted := b.granted ++ [sender] }

def take? (b : Mailbox μ) : Option (μ × Mailbox μ) :=
  match b.queue with
  | [] => none
  | mail :: rest => some (mail, { b with queue := rest }.free)

def close (b : Mailbox μ) : Mailbox μ := { b with isOpen := false }

def discard (b : Mailbox μ) : Mailbox μ := { b with isOpen := false, queue := [] }

@[simp] theorem queue_free (b : Mailbox μ) : b.free.queue = b.queue := by
  unfold free; split <;> rfl

@[simp] theorem isOpen_free (b : Mailbox μ) : b.free.isOpen = b.isOpen := by
  unfold free; split <;> rfl

@[simp] theorem capacity_free (b : Mailbox μ) : b.free.capacity = b.capacity := by
  unfold free; split <;> rfl

theorem take?_eq_some {b b' : Mailbox μ} {mail : μ} (h : b.take? = some (mail, b')) :
    b.queue = mail :: b'.queue := by
  unfold take? at h
  split at h
  · cases h
  · rename_i queue
    cases h
    rw [queue_free, queue]

theorem offer_accepted {b b' : Mailbox μ} {sender : Nat} {mail : μ}
    (h : b.offer sender mail = (.accepted, b')) :
    b.isOpen = true ∧ b'.queue = b.queue ++ [mail] := by
  unfold offer at h
  split at h
  · cases h
  · rename_i isOpen
    have isOpen : b.isOpen = true := by simpa using isOpen
    split at h
    · cases h; exact ⟨isOpen, rfl⟩
    · split at h
      · cases h
      · split at h
        · cases h; exact ⟨isOpen, rfl⟩
        · cases h

theorem offer_not_accepted {b b' : Mailbox μ} {sender : Nat} {mail : μ} {o : Offer}
    (h : b.offer sender mail = (o, b')) (ho : o ≠ .accepted) : b'.queue = b.queue := by
  unfold offer at h
  split at h
  · cases h; rfl
  · split at h
    · cases h; exact absurd rfl ho
    · split at h
      · cases h; rfl
      · split at h
        · cases h; exact absurd rfl ho
        · cases h; rfl

theorem offer_refused_iff {b : Mailbox μ} {sender : Nat} {mail : μ} :
    (b.offer sender mail).1 = .refused ↔ b.isOpen = false := by
  unfold offer
  split
  · simp_all
  · split
    · simp_all
    · split
      · simp_all
      · split <;> simp_all

end Mailbox

end ComponentHost
