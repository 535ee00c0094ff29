import TimedCache.Timeline.Edit

/-!
# Guarded edits

The operations of a timeline once more, with all that could go wrong in them: a slot number that
leads out of the slots, a count that goes below zero, a search for a place that never ends. A guarded
operation ends at the first fault.
-/
namespace TimedCache.Timeline

inductive Fault where
  /-- A slot is read or written that is none of the slots. -/
  | outside
  /-- An entry is taken off a count of zero. -/
  | overdrawn
  /-- Going back for a place never ends. -/
  | endless
  deriving DecidableEq, Repr

variable {κ ν : Type}

def readSlot (t : Timeline κ ν) (i : SlotId) : Except Fault (Slot κ ν) :=
  match t.slots[i]? with
  | some s => .ok s
  | none => .error .outside

def writeSlot (t : Timeline κ ν) (i : SlotId) (f : Slot κ ν → Slot κ ν) :
    Except Fault (Timeline κ ν) :=
  if i < t.slots.size then .ok (t.modifySlot i f) else .error .outside

def storeGuarded (t : Timeline κ ν) (e : Entry κ ν) : Except Fault (SlotId × Timeline κ ν) :=
  match t.free with
  | i :: free => do
    let u ← t.writeSlot i fun _ => ⟨some e, i, i⟩
    return (i, { u with free, count := t.count + 1 })
  | [] => return t.store e

/-- A slot that does not exist or holds no entry is left alone and needs no guard. -/
def vacateGuarded (t : Timeline κ ν) (i : SlotId) : Except Fault (Timeline κ ν) :=
  match t.vacate? i with
  | none => return t
  | some (_, u) => if t.count = 0 then .error .overdrawn else return u

def detachGuarded (t : Timeline κ ν) (i : SlotId) : Except Fault (Timeline κ ν) :=
  if i = root ∨ t.entry? i = none then return t else do
    let s ← t.readSlot i
    let t ← t.writeSlot s.prev fun p => { p with next := s.next }
    let t ← t.writeSlot s.next fun n => { n with prev := s.prev }
    let t ← t.writeSlot i fun s => { s with prev := i }
    t.writeSlot i fun s => { s with next := i }

def linkGuarded (t : Timeline κ ν) (behind i : SlotId) : Except Fault (Timeline κ ν) := do
  let s ← t.readSlot behind
  let t ← t.writeSlot i fun s => { s with prev := behind }
  let t ← t.writeSlot i fun r => { r with next := s.next }
  let t ← t.writeSlot behind fun s => { s with next := i }
  t.writeSlot s.next fun n => { n with prev := i }

def predecessorGuarded (t : Timeline κ ν) (deadline : Moment) : Nat → SlotId → Except Fault SlotId
  | 0, _ => .error .endless
  | n + 1, i =>
    if i = root then return i else
      match t.entry? i with
      | none => return i
      | some e =>
        if deadline < e.deadline then do
          let s ← t.readSlot i
          t.predecessorGuarded deadline n s.prev
        else return i

def placeGuarded (t : Timeline κ ν) (i : SlotId) : Except Fault (Timeline κ ν) :=
  match t.entry? i with
  | none => return t
  | some e => do
    let s ← t.readSlot root
    let behind ← t.predecessorGuarded e.deadline t.slots.size s.prev
    t.linkGuarded behind i

def editGuarded (t : Timeline κ ν) : Edit κ ν → Except Fault (Timeline κ ν)
  | .store e => Prod.snd <$> t.storeGuarded e
  | .vacate i => t.vacateGuarded i
  | .detach i => t.detachGuarded i
  | .place i => t.placeGuarded i
  | .update i f => return t.update i f

end TimedCache.Timeline
