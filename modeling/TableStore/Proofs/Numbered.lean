/-
This file numbers the items of lists by their positions.
-/

import Mathlib.Data.List.Basic

namespace TableStore

variable {α : Type}

/-- The positions of numbered items ascend. -/
theorem pairwise_zipIdx (items : List α) :
    items.zipIdx.Pairwise fun early late => early.2 < late.2 := by
  have positions : (items.zipIdx.map Prod.snd).Pairwise (· < ·) := by
    rw [List.zipIdx_map_snd]
    exact List.pairwise_lt_range'
  exact List.pairwise_map.mp positions

/-- Items may be filtered before or after they are numbered. -/
theorem filter_zipIdx (items : List α) (holds : α → Bool) :
    (items.zipIdx.filter fun entry => holds entry.1).map Prod.fst = items.filter holds := by
  have numbered := List.filter_map (f := Prod.fst) (p := holds) (l := items.zipIdx)
  rw [List.zipIdx_map_fst] at numbered
  exact numbered.symm

/-- All positions together bring all items. -/
theorem filterMap_range (items : List α) :
    (List.range items.length).filterMap (items[·]?) = items := by
  have positions : List.range items.length = items.zipIdx.map Prod.snd := by
    rw [List.zipIdx_map_snd, List.range_eq_range']
  calc (List.range items.length).filterMap (items[·]?)
      = items.zipIdx.filterMap fun entry => items[entry.2]? := by
        rw [positions, List.filterMap_map]
        rfl
    _ = items.zipIdx.filterMap fun entry => some entry.1 :=
        List.filterMap_congr fun entry present => List.mem_zipIdx_iff_getElem?.mp present
    _ = items := by
        rw [List.filterMap_eq_map', List.zipIdx_map_fst]

end TableStore
