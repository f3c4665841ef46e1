import SensorThresholds.TargetSet
import Mathlib.Data.List.Forall2

/-!
Sequences of references put into a target set. A reference is a path, or a path with a fragment
behind it. The paths come out in the order in which they were first named, each of them once, and a
reference is new exactly if none before it has its path.
-/

namespace SensorThresholds

/-- A reference is its path, which has no `#`, or goes on behind that with a fragment. -/
inductive RefersTo : String → String → Prop where
  | path {path : String} (plain : '#' ∉ path.toList) : RefersTo path path
  | fragment {path : String} (plain : '#' ∉ path.toList) (fragment : String) :
      RefersTo (path ++ "#" ++ fragment) path

theorem stripFragment_fragment {path : String} (plain : '#' ∉ path.toList) (fragment : String) :
    stripFragment (path ++ "#" ++ fragment) = path := by
  apply String.toList_injective
  have kept : ∀ c ∈ path.toList, decide (c ≠ '#') = true := by
    intro c member
    exact decide_eq_true fun same => plain (same ▸ member)
  rw [toList_stripFragment, String.toList_append, String.toList_append, List.append_assoc,
    List.takeWhile_append_of_pos kept]
  simp

theorem refersTo_stripFragment (reference : String) :
    RefersTo reference (stripFragment reference) := by
  have plain := hash_not_mem_stripFragment reference
  have parts : (stripFragment reference).toList ++ reference.toList.dropWhile (· ≠ '#') =
      reference.toList := by
    rw [toList_stripFragment, List.takeWhile_append_dropWhile]
  generalize stripFragment reference = path at plain parts
  cases rest : reference.toList.dropWhile (· ≠ '#') with
  | nil =>
      rw [rest, List.append_nil] at parts
      obtain rfl : path = reference := String.toList_injective parts
      exact .path plain
  | cons c fragment =>
      -- What the path ends at is the first `#`.
      obtain rfl : c = '#' := by
        have stop := List.head?_dropWhile_not (· ≠ '#') reference.toList
        rw [rest] at stop
        simpa using stop
      obtain rfl : path ++ "#" ++ .ofList fragment = reference := by
        rw [rest] at parts
        apply String.toList_injective
        simpa using parts
      exact .fragment plain _

theorem refersTo_iff {reference path : String} :
    RefersTo reference path ↔ stripFragment reference = path := by
  constructor
  · intro refers
    cases refers with
    | path plain => exact stripFragment_of_no_hash plain
    | fragment plain fragment => exact stripFragment_fragment plain fragment
  · rintro rfl
    exact refersTo_stripFragment reference

theorem forall₂_refersTo_iff {references paths : List String} :
    List.Forall₂ RefersTo references paths ↔ references.map stripFragment = paths := by
  have each : RefersTo = fun reference path => stripFragment reference = path := by
    funext reference path
    exact propext refersTo_iff
  rw [← List.forall₂_eq_eq_eq, List.forall₂_map_left_iff, each]

namespace TargetSet

def insertAll (s : TargetSet) : List String → TargetSet
  | [] => s
  | reference :: rest => insertAll (s.insert reference).2 rest

theorem removeAll_append_singleton (paths known : List String) (path : String) :
    paths.removeAll (known ++ [path]) =
      (paths.removeAll known).filter fun other => !other == path := by
  simp only [List.removeAll, List.filter_filter]
  congr 1
  funext other
  by_cases same : other = path <;> simp [same]

/-- What is new goes behind what is known, without repetitions. -/
theorem toList_insertAll (s : TargetSet) (references : List String) :
    (s.insertAll references).toList =
      s.toList ++ ((references.map stripFragment).removeAll s.toList).eraseDups := by
  induction references generalizing s with
  | nil => simp [insertAll]
  | cons reference rest ih =>
      rw [insertAll, ih, toList_insert, List.map_cons, List.cons_removeAll]
      by_cases there : stripFragment reference ∈ s.toList
      · simp [there]
      · rw [if_neg there, removeAll_append_singleton]
        simp [there, List.eraseDups_cons]

theorem toList_insertAll_empty (references : List String) :
    (empty.insertAll references).toList = (references.map stripFragment).eraseDups := by
  simp [toList_insertAll, toList_empty]

theorem mem_insertAll_empty (references : List String) (path : String) :
    path ∈ (empty.insertAll references).toList ↔
      ∃ reference ∈ references, stripFragment reference = path := by
  rw [toList_insertAll_empty, List.mem_eraseDups, List.mem_map]

theorem insertAll_append (s : TargetSet) (references : List String) (next : String) :
    s.insertAll (references ++ [next]) = ((s.insertAll references).insert next).2 := by
  induction references generalizing s with
  | nil => rfl
  | cons reference rest ih => exact ih _

theorem insert_of_mem {s : TargetSet} {reference : String}
    (there : stripFragment reference ∈ s.toList) : s.insert reference = (false, s) := by
  rw [insert, dif_pos ((s.mem_seen_iff _).mpr there)]

theorem insert_of_not_mem {s : TargetSet} {reference : String}
    (new : stripFragment reference ∉ s.toList) :
    (s.insert reference).1 = true ∧
      (s.insert reference).2.toList = s.toList ++ [stripFragment reference] ∧
      ∀ path, path ∈ (s.insert reference).2.seen ↔
        path ∈ s.seen ∨ path = stripFragment reference := by
  have appended : (s.insert reference).2.toList = s.toList ++ [stripFragment reference] := by
    rw [toList_insert, if_neg new]
  refine ⟨by simp [insert_fst, new], appended, ?_⟩
  intro path
  rw [mem_seen_iff, appended, List.mem_append, List.mem_singleton, mem_seen_iff]

/-- What each insertion of a sequence answers. -/
def answers (s : TargetSet) : List String → List Bool
  | [] => []
  | reference :: rest => (s.insert reference).1 :: answers (s.insert reference).2 rest

theorem answers_append (s : TargetSet) (references : List String) (next : String) :
    s.answers (references ++ [next]) =
      s.answers references ++ [((s.insertAll references).insert next).1] := by
  induction references generalizing s with
  | nil => rfl
  | cons reference rest ih => exact congrArg _ (ih _)

theorem size_insert (s : TargetSet) (reference : String) :
    (s.insert reference).2.size = s.size + [(s.insert reference).1].count true := by
  by_cases there : stripFragment reference ∈ s.toList
  · simp [insert_of_mem there]
  · obtain ⟨accepted, appended, -⟩ := insert_of_not_mem there
    rw [← length_toList, appended, List.length_append, length_toList, accepted]
    rfl

theorem size_insertAll (s : TargetSet) (references : List String) :
    (s.insertAll references).size = s.size + (s.answers references).count true := by
  induction references generalizing s with
  | nil => rfl
  | cons reference rest ih =>
      rw [insertAll, ih, size_insert, Nat.add_assoc, ← List.count_append]
      rfl

theorem isEmpty_iff (s : TargetSet) : s.isEmpty = true ↔ s.toList = [] := by
  rw [isEmpty, toList, Array.isEmpty_iff, Array.toList_eq_nil_iff]

theorem isEmpty_insertAll_empty (references : List String) :
    (empty.insertAll references).isEmpty = true ↔ references = [] := by
  rw [isEmpty_iff, List.eq_nil_iff_forall_not_mem]
  constructor
  · intro none
    cases references with
    | nil => rfl
    | cons reference rest =>
        exact absurd ((mem_insertAll_empty _ _).mpr ⟨reference, List.mem_cons_self, rfl⟩) (none _)
  · rintro rfl
    simp [insertAll, toList_empty]

/-- After every sequence of insertions the set holds the paths of the references, each at its first
place. Another reference is new exactly if none before has its path: then that goes to the end, and
else nothing changes. -/
theorem insertAll_first_seen (references : List String) :
    let set := empty.insertAll references
    ∃ paths, List.Forall₂ RefersTo references paths ∧
      set.toList = paths.eraseDups ∧ set.toList.Nodup ∧
      (∀ path, path ∈ set.seen ↔ path ∈ set.toList) ∧
      (∀ path ∈ set.toList, '#' ∉ path.toList) ∧
      set.size = (empty.answers references).count true ∧
      (set.isEmpty = true ↔ references = []) ∧
      ∀ next, ∃ path, RefersTo next path ∧
        let result := set.insert next
        empty.insertAll (references ++ [next]) = result.2 ∧
        empty.answers (references ++ [next]) = empty.answers references ++ [result.1] ∧
        (result.1 = true ↔ path ∉ paths) ∧
        (result.1 = true → result.2.toList = set.toList ++ [path] ∧
          ∀ other, other ∈ result.2.seen ↔ other ∈ set.seen ∨ other = path) ∧
        (result.1 = false → result.2 = set) := by
  intro set
  have listed (path : String) : path ∈ set.toList ↔ path ∈ references.map stripFragment := by
    rw [toList_insertAll_empty, List.mem_eraseDups]
  refine ⟨references.map stripFragment, forall₂_refersTo_iff.mpr rfl,
    toList_insertAll_empty references, nodup_toList _, mem_seen_iff _, ?_, ?_,
    isEmpty_insertAll_empty references, ?_⟩
  · intro path member
    obtain ⟨reference, -, rfl⟩ := List.mem_map.mp ((listed path).mp member)
    exact hash_not_mem_stripFragment reference
  · rw [size_insertAll, ← length_toList, toList_empty, List.length_nil, Nat.zero_add]
  · intro next
    refine ⟨stripFragment next, refersTo_stripFragment next, insertAll_append _ _ _,
      answers_append _ _ _, ?_, ?_, ?_⟩
    · rw [insert_fst, decide_eq_true_iff, listed]
    · intro accepted
      rw [insert_fst, decide_eq_true_iff] at accepted
      exact (insert_of_not_mem accepted).2
    · intro refused
      rw [insert_fst, decide_eq_false_iff_not, Decidable.not_not] at refused
      rw [insert_of_mem refused]

/-- References that differ in their fragments only, and one that is nothing but a fragment. -/
theorem insertAll_first_seen_fragments :
    let set := empty.insertAll ["/a#x", "#y", "/a"]
    set.toList = ["/a", ""] ∧
      (set.insert "/a#y#z").1 = false ∧ (set.insert "/a#y#z").2 = set ∧
      (set.insert "/b#x").1 = true ∧ (set.insert "/b#x").2.toList = ["/a", "", "/b"] := by
  intro set
  obtain ⟨paths, refer, listed, -, -, -, -, -, step⟩ :=
    insertAll_first_seen ["/a#x", "#y", "/a"]
  obtain rfl : ["/a", "", "/a"] = paths := forall₂_refersTo_iff.mp refer
  have known : set.toList = ["/a", ""] := listed
  obtain ⟨path, refers, -, -, new, -, unchanged⟩ := step "/a#y#z"
  obtain rfl : "/a" = path := refersTo_iff.mp refers
  have old : (set.insert "/a#y#z").1 = false := Bool.eq_false_iff.mpr fun new' =>
    new.mp new' List.mem_cons_self
  obtain ⟨other, refers', -, -, new', grown, -⟩ := step "/b#x"
  obtain rfl : "/b" = other := refersTo_iff.mp refers'
  have accepted : (set.insert "/b#x").1 = true := new'.mpr (by decide)
  refine ⟨known, old, unchanged old, accepted, ?_⟩
  rw [(grown accepted).1, listed]
  rfl

end TargetSet
end SensorThresholds
