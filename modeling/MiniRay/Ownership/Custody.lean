import MiniRay.Ownership.Records
import MiniRay.Ownership.Tombstones

/-! Three records of a table decide what becomes of a contained pin: the released holds, the
preparations and the promotions. Four calls write them. -/

namespace MiniRay

namespace ObjectOwnerTable

variable {ε : Type} {s s' : ObjectOwnerTable ε}

/-- The call leaves the records of contained pins alone. -/
def SameContained (s s' : ObjectOwnerTable ε) : Prop :=
  s'.containedRecords = s.containedRecords

namespace SameContained

theorem released (h : SameContained s s') :
    s'.releasedContainedHolds = s.releasedContainedHolds := congrArg Prod.fst h

theorem preparations (h : SameContained s s') :
    s'.storedContainedPreparations = s.storedContainedPreparations :=
  congrArg (fun records => records.2.1) h

theorem promotions (h : SameContained s s') :
    s'.storedContainedPromotions = s.storedContainedPromotions :=
  congrArg (fun records => records.2.2) h

end SameContained

variable [BEq ε]

theorem step_sameContained (s : ObjectOwnerTable ε) (op : Op ε) (hop : ¬ Op.MovesContained op) :
    SameContained s (s.step op) := by
  by_cases hpublishes : Op.Publishes op
  · exact congrArg ReferenceHistory.containedRecords (step_references s op hpublishes)
  · exact (step_sameRecords s op hop hpublishes).contained

end ObjectOwnerTable

end MiniRay
