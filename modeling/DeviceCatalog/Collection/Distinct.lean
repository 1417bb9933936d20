/-!
Repetitions in lists.
-/

namespace DeviceCatalog

/-- Keeps the first item of each key. -/
def distinctOn {Item Key : Type} [DecidableEq Key] (key : Item → Key) : List Item → List Item
  | [] => []
  | item :: rest => item :: (distinctOn key rest).filter fun other => key other ≠ key item

/-- The first id that occurs again, at its second place, counting the earlier ones. -/
def firstRepeated? (earlier : List String) : List String → Option String
  | [] => none
  | id :: rest => if earlier.contains id then some id else firstRepeated? (id :: earlier) rest

end DeviceCatalog
