import TimedCache.Entry

/-!
# Timelines

A timeline keeps entries in the order of their deadlines. It is a circular list with two links per
slot, laid out in an array of slots; slot 0 is the root, which never holds an entry and closes the
circle. Following `next` from the root leads from the earliest deadline to the latest.

A slot may hold an entry without being on the circle, and vacated slots are used again, the last
one vacated first. The operations accept any slot number: one that does not apply changes nothing.
-/
namespace TimedCache

/-- The number of a slot. -/
abbrev SlotId := Nat

structure Slot (κ ν : Type) where
  entry : Option (Entry κ ν)
  prev : SlotId
  next : SlotId
  deriving DecidableEq

@[ext] structure Timeline (κ ν : Type) where
  slots : Array (Slot κ ν)
  /-- The vacated slots, the last one vacated first. -/
  free : List SlotId
  /-- The number of entries held, on the circle or not. -/
  count : Nat
  deriving DecidableEq

namespace Timeline

variable {κ ν : Type}

def root : SlotId := 0

/-- A timeline without entries: the root alone. -/
def empty : Timeline κ ν := ⟨#[⟨none, root, root⟩], [], 0⟩

instance : Inhabited (Timeline κ ν) := ⟨empty⟩

/-! ### Reading a slot -/

def entry? (t : Timeline κ ν) (i : SlotId) : Option (Entry κ ν) := t.slots[i]?.bind Slot.entry

def prev (t : Timeline κ ν) (i : SlotId) : SlotId := (t.slots[i]?.map Slot.prev).getD root
def next (t : Timeline κ ν) (i : SlotId) : SlotId := (t.slots[i]?.map Slot.next).getD root

/-- The slot on the circle with the earliest deadline. -/
def first? (t : Timeline κ ν) : Option SlotId := if t.next root = root then none else t.next root

/-- The slot on the circle with the latest deadline. -/
def last? (t : Timeline κ ν) : Option SlotId := if t.prev root = root then none else t.prev root

/-- Whether no slot is on the circle. -/
def isEmpty (t : Timeline κ ν) : Bool := t.next root == root

/-- At most `n` entries met along `next` from a slot on, up to the root or a slot without entry. -/
def entriesFrom (t : Timeline κ ν) : Nat → SlotId → List (Entry κ ν)
  | 0, _ => []
  | n + 1, i =>
    if i = root then [] else
      match t.entry? i with
      | none => []
      | some e => e :: t.entriesFrom n (t.next i)

/-- The first `n` entries on the circle. -/
def take (t : Timeline κ ν) (n : Nat) : List (Entry κ ν) := t.entriesFrom n (t.next root)

/-- The entries on the circle. -/
def toList (t : Timeline κ ν) : List (Entry κ ν) := t.take t.slots.size

/-! ### Writing a slot -/

def modifySlot (t : Timeline κ ν) (i : SlotId) (f : Slot κ ν → Slot κ ν) : Timeline κ ν :=
  { t with slots := t.slots.modify i f }

def setPrev (t : Timeline κ ν) (i j : SlotId) : Timeline κ ν :=
  t.modifySlot i fun s => { s with prev := j }

def setNext (t : Timeline κ ν) (i j : SlotId) : Timeline κ ν :=
  t.modifySlot i fun s => { s with next := j }

/-- Changes the entry of a slot where it is, without moving the slot on the circle. -/
def update (t : Timeline κ ν) (i : SlotId) (f : Entry κ ν → Entry κ ν) : Timeline κ ν :=
  t.modifySlot i fun s => { s with entry := s.entry.map f }

/-! ### Holding an entry -/

/-- Puts an entry into a slot that is linked to itself only, and tells which slot. -/
def store (t : Timeline κ ν) (e : Entry κ ν) : SlotId × Timeline κ ν :=
  match t.free with
  | i :: free =>
    (i, { slots := t.slots.modify i fun _ => ⟨some e, i, i⟩, free, count := t.count + 1 })
  | [] =>
    (t.slots.size,
      { t with slots := t.slots.push ⟨some e, t.slots.size, t.slots.size⟩, count := t.count + 1 })

/-- Takes the entry out of a slot and frees the slot. The links stay as they are. -/
def vacate? (t : Timeline κ ν) (i : SlotId) : Option (Entry κ ν × Timeline κ ν) :=
  if i = root then none else
    (t.entry? i).map fun e =>
      (e, { slots := t.slots.modify i fun s => { s with entry := none }
            free := i :: t.free
            count := t.count - 1 })

/-! ### The circle -/

/-- Takes a slot off the circle; afterwards it is linked to itself only. -/
def detach (t : Timeline κ ν) (i : SlotId) : Timeline κ ν :=
  if i = root ∨ t.entry? i = none then t else
    let p := t.prev i
    let n := t.next i
    (((t.setNext p n).setPrev n p).setPrev i i).setNext i i

/-- Puts a slot on the circle right behind another. -/
def link (t : Timeline κ ν) (behind i : SlotId) : Timeline κ ν :=
  let n := t.next behind
  (((t.setPrev i behind).setNext i n).setNext behind i).setPrev n i

/-- Goes back along `prev` to the first slot after which a deadline fits: the root, a slot without
entry, or one whose deadline is no later. There is none if more steps than given would be needed. -/
def predecessor? (t : Timeline κ ν) (deadline : Moment) : Nat → SlotId → Option SlotId
  | 0, _ => none
  | n + 1, i =>
    if i = root then some i else
      match t.entry? i with
      | none => some i
      | some e => if deadline < e.deadline then t.predecessor? deadline n (t.prev i) else some i

/-- Puts a detached slot in its place, behind all deadlines that are no later than its own. Going
back meets each slot at most once unless it never ends; then there is no answer. -/
def place? (t : Timeline κ ν) (i : SlotId) : Option (Timeline κ ν) :=
  match t.entry? i with
  | none => some t
  | some e => (t.predecessor? e.deadline t.slots.size (t.prev root)).map (t.link · i)

/-- Puts a detached slot in its place if there is one. -/
def place (t : Timeline κ ν) (i : SlotId) : Timeline κ ν := (t.place? i).getD t

/-- Moves a slot to the place of its present deadline. -/
def relocate (t : Timeline κ ν) (i : SlotId) : Timeline κ ν := (t.detach i).place i

end Timeline
end TimedCache
