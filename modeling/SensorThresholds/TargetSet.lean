import Std.Data.HashSet

/-!
References to metric properties, and the set of paths to look up. A reference may end in a
`#Fragment`; paths never do, and the set keeps them in the order in which they were first named.
-/

namespace SensorThresholds

/-- The reference up to its first `#`. -/
def stripFragment (reference : String) : String :=
  .ofList (reference.toList.takeWhile (· ≠ '#'))

theorem toList_stripFragment (reference : String) :
    (stripFragment reference).toList = reference.toList.takeWhile (· ≠ '#') := by
  simp [stripFragment]

theorem hash_not_mem_stripFragment (reference : String) :
    '#' ∉ (stripFragment reference).toList := by
  rw [toList_stripFragment]
  intro member
  have kept : (reference.toList.takeWhile (· ≠ '#')).all (· ≠ '#') = true := List.all_takeWhile
  simpa using List.all_eq_true.1 kept _ member

theorem stripFragment_of_no_hash {path : String} (absent : '#' ∉ path.toList) :
    stripFragment path = path := by
  apply String.toList_injective
  have plain : ∀ c ∈ path.toList, decide (c ≠ '#') = true := by
    intro c member
    have : c ≠ '#' := fun same => absent (same ▸ member)
    simpa using this
  have kept : (path.toList ++ []).takeWhile (fun c => decide (c ≠ '#')) = path.toList ++ [] :=
    List.takeWhile_append_of_pos plain
  simpa [toList_stripFragment] using kept

theorem stripFragment_stripFragment (reference : String) :
    stripFragment (stripFragment reference) = stripFragment reference :=
  stripFragment_of_no_hash (hash_not_mem_stripFragment reference)

def hasFragment (reference : String) : Bool := reference.toList.contains '#'

structure TargetSet where
  order : Array String
  seen : Std.HashSet String
  mem_seen (path : String) : path ∈ seen ↔ path ∈ order
  nodup : order.toList.Nodup

namespace TargetSet

def empty : TargetSet := ⟨#[], ∅, by simp, by simp⟩

def toList (s : TargetSet) : List String := s.order.toList

def size (s : TargetSet) : Nat := s.order.size

def isEmpty (s : TargetSet) : Bool := s.order.isEmpty

/-- Adds a path at the end; for a path that is not there yet. -/
def push (s : TargetSet) (path : String) (new : path ∉ s.seen) : TargetSet where
  order := s.order.push path
  seen := s.seen.insert path
  mem_seen p := by
    have := s.mem_seen p
    simp only [Std.HashSet.mem_insert, beq_iff_eq, Array.mem_push, this]
    exact or_comm.trans (or_congr Iff.rfl eq_comm)
  nodup := by
    have := fun there => new ((s.mem_seen path).2 there)
    simp only [Array.toList_push, List.nodup_append, List.mem_singleton, Array.mem_toList_iff]
    refine ⟨s.nodup, by simp, ?_⟩
    rintro a member _ rfl rfl
    exact this member

/-- Inserts the path of a reference, and tells whether it is new. -/
def insert (s : TargetSet) (reference : String) : Bool × TargetSet :=
  if h : stripFragment reference ∈ s.seen then (false, s)
  else (true, s.push (stripFragment reference) h)

theorem mem_seen_iff (s : TargetSet) (path : String) : path ∈ s.seen ↔ path ∈ s.toList := by
  rw [s.mem_seen, toList, Array.mem_toList_iff]

theorem nodup_toList (s : TargetSet) : s.toList.Nodup := s.nodup

theorem length_toList (s : TargetSet) : s.toList.length = s.size := s.order.length_toList

theorem toList_empty : empty.toList = [] := rfl

theorem insert_fst (s : TargetSet) (reference : String) :
    (s.insert reference).1 = decide (stripFragment reference ∉ s.toList) := by
  have same := s.mem_seen_iff (stripFragment reference)
  unfold insert
  by_cases there : stripFragment reference ∈ s.toList <;> simp [same, there]

/-- A path that is there already changes nothing, and a new one goes to the end. -/
theorem toList_insert (s : TargetSet) (reference : String) :
    (s.insert reference).2.toList =
      if stripFragment reference ∈ s.toList then s.toList
      else s.toList ++ [stripFragment reference] := by
  have same := s.mem_seen_iff (stripFragment reference)
  unfold insert
  by_cases there : stripFragment reference ∈ s.toList
  · simp [same, there]
  · simp only [same, there, ↓reduceDIte, ↓reduceIte]
    exact Array.toList_push ..

end TargetSet
end SensorThresholds
