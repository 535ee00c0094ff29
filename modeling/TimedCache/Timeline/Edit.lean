import TimedCache.Timeline

/-!
# Edits of a timeline

The operations on a timeline as data, with any slot numbers and in any order. An edit has no outcome
where placing a slot would never end.
-/
namespace TimedCache.Timeline

inductive Edit (κ ν : Type) where
  | store (e : Entry κ ν)
  | vacate (i : SlotId)
  | detach (i : SlotId)
  | place (i : SlotId)
  | update (i : SlotId) (f : Entry κ ν → Entry κ ν)

variable {κ ν : Type}

/-- The timeline after an edit; vacating a slot that holds no entry changes nothing. -/
def edit? (t : Timeline κ ν) : Edit κ ν → Option (Timeline κ ν)
  | .store e => some (t.store e).2
  | .vacate i => some (((t.vacate? i).map Prod.snd).getD t)
  | .detach i => some (t.detach i)
  | .place i => t.place? i
  | .update i f => some (t.update i f)

/-- The timeline after edits in order. -/
def editAll? (t : Timeline κ ν) (es : List (Edit κ ν)) : Option (Timeline κ ν) := es.foldlM edit? t

end TimedCache.Timeline
