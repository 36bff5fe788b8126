import SuiteBridge.Calendar.Timestamp
import SuiteBridge.Entity.Channel
import SuiteBridge.Entity.Post
import SuiteBridge.Log

/-!
# Recent entities

Lists of entities can be cut down to those updated after a cutoff some calendar months ago. An
entity whose timestamp is missing or cannot be read is left out, whatever the cutoff.
-/

namespace SuiteBridge

open Calendar (DateTime)

/-- An entity with an identifier and perhaps a timestamp. -/
class Dated (ε : Type) where
  id : ε → String
  timestamp : ε → Option String

instance : Dated Channel := ⟨Channel.id, Channel.updatedAt⟩

instance : Dated Post := ⟨Post.id, Post.updatedAt⟩

namespace Recency

/-- The time of an entity, if its timestamp can be read. -/
def time? {ε : Type} [Dated ε] (entity : ε) : Option DateTime :=
  (Dated.timestamp entity).bind Calendar.parseTimestamp

/-- The date-time after which an entity is recent: some months before `now`, or the earliest
date-time when there is none so early. -/
def cutoff (now : DateTime) (months : Nat) : DateTime :=
  (now.minusMonths? months).getD .earliest

/-- An entity is recent when its time is after the cutoff. -/
def isRecent {ε : Type} [Dated ε] (now : DateTime) (months : Nat) (entity : ε) : Bool :=
  match time? entity with
  | some time => cutoff now months < time
  | none => false

/-- The recent ones of some entities. -/
def filter {ε : Type} [Dated ε] (now : DateTime) (months : Nat) (entities : List ε) : List ε :=
  entities.filter (isRecent now months)

/-- What is reported while the recent ones of some entities are picked: each entity that cannot be
dated, and then how many are left. -/
def events {ε : Type} [Dated ε] (now : DateTime) (months : Nat) (entities : List ε) : List Event :=
  (entities.filter fun entity => (time? entity).isNone).map
    (fun entity => Event.unusableTimestamp (Dated.id entity) (Dated.timestamp entity))
  ++ [.recencyApplied months (cutoff now months) entities.length
      (filter now months entities).length]

end Recency

end SuiteBridge
