import TimedCache.Timeline

/-!
# Circles

What it means that a timeline is in order: the links of the root and of the slots of a list form one
circle in both directions, the deadlines on it do not decrease, and each other slot is free.
-/
namespace TimedCache.Timeline

variable {κ ν : Type}

/-- Each slot of a list is linked with the one after it, in both directions. -/
def Linked (t : Timeline κ ν) : List SlotId → Prop
  | i :: j :: rest => t.next i = j ∧ t.prev j = i ∧ t.Linked (j :: rest)
  | _ => True

/-- Leaving the root along `next`, one meets the slots of a list, which are distinct and hold
entries, and comes back to the root; along `prev` one meets them the other way round. -/
structure Circle (t : Timeline κ ν) (is : List SlotId) : Prop where
  distinct : (root :: is).Nodup
  held : ∀ i ∈ is, (t.entry? i).isSome
  linked : t.Linked (root :: is ++ [root])

/-- The deadlines of the slots of a list do not decrease. -/
def Sorted (t : Timeline κ ν) (is : List SlotId) : Prop :=
  (is.filterMap t.entry?).Pairwise fun a b => a.deadline ≤ b.deadline

/-- The vacated slots are those without an entry, apart from the root, which has none either; the
entries are counted; and no link leads out of the slots. -/
structure Accounted (t : Timeline κ ν) : Prop where
  distinct : t.free.Nodup
  vacant : ∀ i, i ∈ t.free ↔ i ≠ root ∧ i < t.slots.size ∧ t.entry? i = none
  rooted : root < t.slots.size ∧ t.entry? root = none
  counted : t.count = (t.slots.toList.filter fun s => s.entry.isSome).length
  inside : ∀ i < t.slots.size, t.next i < t.slots.size ∧ t.prev i < t.slots.size

end TimedCache.Timeline
