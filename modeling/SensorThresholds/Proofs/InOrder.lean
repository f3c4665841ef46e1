import SensorThresholds.Threshold

/-!
Going through a list in order up to the first fault. Either every element is good, or there is a
first one that is not, and what comes after that one does not matter.
-/

namespace SensorThresholds

variable {α β ε : Type}

theorem forall_or_first_not (good : α → Prop) (list : List α) :
    (∀ a ∈ list, good a) ∨
      ∃ before a after, list = before ++ a :: after ∧ (∀ b ∈ before, good b) ∧ ¬ good a := by
  induction list with
  | nil => exact .inl (by simp)
  | cons a rest ih =>
      by_cases first : good a
      · rcases ih with all | ⟨before, bad, after, rfl, earlier, fault⟩
        · exact .inl (List.forall_mem_cons.mpr ⟨first, all⟩)
        · exact .inr ⟨a :: before, bad, after, rfl, List.forall_mem_cons.mpr ⟨first, earlier⟩,
            fault⟩
      · exact .inr ⟨[], a, rest, rfl, by simp, first⟩

/-- An element of two lists after each other stands in the first one or in the second one. -/
theorem split_append {first second before after : List α} {a : α}
    (parts : first ++ second = before ++ a :: after) :
    (∃ rest, first = before ++ a :: rest) ∨
      ∃ rest, before = first ++ rest ∧ second = rest ++ a :: after := by
  rcases List.append_eq_append_iff.mp parts with ⟨rest, early, late⟩ | ⟨rest, early, late⟩
  · exact .inr ⟨rest, early, late⟩
  · cases rest with
    | nil => exact .inr ⟨[], by simpa using early.symm, late.symm⟩
    | cons head rest =>
        obtain ⟨rfl, -⟩ := List.cons.inj late
        exact .inl ⟨rest, early⟩

theorem mapM_ok {f : α → Except ε β} {g : α → β} {list : List α}
    (good : ∀ a ∈ list, f a = .ok (g a)) : list.mapM f = .ok (list.map g) := by
  induction list with
  | nil => rfl
  | cons a rest ih =>
      obtain ⟨first, others⟩ := List.forall_mem_cons.mp good
      rw [List.mapM_cons, first, ih others]
      rfl

theorem mapM_error {f : α → Except ε β} {before after : List α} {a : α} {fault : ε}
    (good : ∀ b ∈ before, ∃ c, f b = .ok c) (bad : f a = .error fault) :
    (before ++ a :: after).mapM f = .error fault := by
  induction before with
  | nil =>
      rw [List.nil_append, List.mapM_cons, bad]
      rfl
  | cons b before ih =>
      obtain ⟨⟨c, first⟩, others⟩ := List.forall_mem_cons.mp good
      rw [List.cons_append, List.mapM_cons, first, ih others]
      rfl

/-- What ends a traversal is what one of the elements fails with. -/
theorem exists_of_mapM_error {f : α → Except ε β} {list : List α} {fault : ε}
    (failed : list.mapM f = .error fault) : ∃ a ∈ list, f a = .error fault := by
  induction list with
  | nil => cases failed
  | cons a rest ih =>
      rw [List.mapM_cons] at failed
      cases first : f a with
      | error other =>
          rw [first] at failed
          cases failed
          exact ⟨a, List.mem_cons_self, first⟩
      | ok b =>
          rw [first] at failed
          cases later : rest.mapM f with
          | error other =>
              rw [later] at failed
              cases failed
              obtain ⟨c, member, bad⟩ := ih later
              exact ⟨c, List.mem_cons_of_mem a member, bad⟩
          | ok values =>
              rw [later] at failed
              cases failed

theorem Threshold.mem_all (t : Threshold) : t ∈ all := by cases t <;> decide

namespace PerThreshold

def ofFn (f : Threshold → α) : PerThreshold α :=
  ⟨f .lowerCritical, f .lowerWarning, f .upperCritical, f .upperWarning⟩

theorem get_ofFn (f : Threshold → α) (t : Threshold) : (ofFn f).get t = f t := by
  cases t <;> rfl

/-- Tabulating goes through the thresholds in their order. -/
theorem tabulate?_map (f : Threshold → Except ε α) :
    (tabulate? f).map (fun values => Threshold.all.map values.get) = Threshold.all.mapM f := by
  simp only [tabulate?, Threshold.all, List.mapM_cons, List.mapM_nil]
  cases f .lowerCritical with
  | error _ => rfl
  | ok _ =>
      cases f .lowerWarning with
      | error _ => rfl
      | ok _ =>
          cases f .upperCritical with
          | error _ => rfl
          | ok _ => cases f .upperWarning <;> rfl

theorem exists_of_tabulate?_error {f : Threshold → Except ε α} {fault : ε}
    (failed : tabulate? f = .error fault) : ∃ t, f t = .error fault := by
  have mapped := tabulate?_map f
  rw [failed] at mapped
  obtain ⟨t, -, bad⟩ := exists_of_mapM_error mapped.symm
  exact ⟨t, bad⟩

theorem tabulate?_ok {f : Threshold → Except ε α} {g : Threshold → α}
    (good : ∀ t, f t = .ok (g t)) : tabulate? f = .ok (ofFn g) := by
  simp only [tabulate?, good]
  rfl

theorem tabulate?_error {f : Threshold → Except ε α} {before after : List Threshold}
    {t : Threshold} {fault : ε} (order : Threshold.all = before ++ t :: after)
    (good : ∀ u ∈ before, ∃ a, f u = .ok a) (bad : f t = .error fault) :
    tabulate? f = .error fault := by
  have mapped := tabulate?_map f
  rw [order, mapM_error good bad] at mapped
  cases tabulated : tabulate? f with
  | ok values =>
      rw [tabulated] at mapped
      cases mapped
  | error other =>
      rw [tabulated] at mapped
      cases mapped
      rfl

end PerThreshold
end SensorThresholds
