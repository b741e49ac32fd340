import ComponentHost.Post.Mail
import ComponentHost.Post.Mailbox
import ComponentHost.Table

/-! Mailboxes by number, and the route of each component to the mailbox it is reached at. -/

namespace ComponentHost

structure PostOffice where
  boxes : List (Mailbox Mail) := []
  routes : Table ComponentId Nat := .empty

namespace PostOffice

instance : Inhabited PostOffice := ⟨{}⟩

def install (p : PostOffice) (capacity : Nat) : Nat × PostOffice :=
  (p.boxes.length, { p with boxes := p.boxes ++ [{ capacity }] })

def route (p : PostOffice) (c : ComponentId) (box : Nat) : PostOffice :=
  { p with routes := p.routes.insert c box }

def unroute (p : PostOffice) (c : ComponentId) : PostOffice :=
  { p with routes := p.routes.erase c }

/-- Removes a route only while it still leads to the given mailbox. -/
def unrouteFrom (p : PostOffice) (c : ComponentId) (box : Nat) : Bool × PostOffice :=
  if p.routes.get? c = some box then (true, p.unroute c) else (false, p)

def hasRoute (p : PostOffice) (c : ComponentId) : Bool := p.routes.contains c

def offer (p : PostOffice) (box sender : Nat) (mail : Mail) : Offer × PostOffice :=
  match p.boxes[box]? with
  | none => (.refused, p)
  | some b => let (o, b) := b.offer sender mail; (o, { p with boxes := p.boxes.set box b })

def take? (p : PostOffice) (box : Nat) : Option (Mail × PostOffice) := do
  let b ← p.boxes[box]?
  let (mail, b) ← b.take?
  some (mail, { p with boxes := p.boxes.set box b })

def isOpen (p : PostOffice) (box : Nat) : Bool := p.boxes[box]?.any (·.isOpen)

def queued (p : PostOffice) (box : Nat) : List Mail :=
  match p.boxes[box]? with
  | some b => b.queue
  | none => []

def close (p : PostOffice) (box : Nat) : PostOffice :=
  { p with boxes := p.boxes.modify box Mailbox.close }

def discard (p : PostOffice) (box : Nat) : PostOffice :=
  { p with boxes := p.boxes.modify box Mailbox.discard }

end PostOffice

end ComponentHost
