import SensorThresholds.Session
import SensorThresholds.Proofs.InOrder

/-!
Two lookups side by side. A relation that holds between their calls of sink and source, and goes over
from parts to what is built of them, holds between their runs.
-/

namespace SensorThresholds

variable {σ τ : Type}

/-- A failure over what a document holds. The other ones come from a source or from a sink. -/
def Failure.isOfDocument : Failure → Bool
  | .status .. | .request .. | .notJson .. | .output _ => false
  | _ => true

theorem Attributes.isOfDocument_of_error {document : Document} {failure : Failure}
    (failed : Attributes.ofDocument document = .error failure) :
    failure.isOfDocument = true := by
  have modifier {failure : Failure} (failed : readModifier document = .error failure) :
      failure.isOfDocument = true := by
    unfold readModifier at failed
    split at failed
    · cases failed; rfl
    · cases failed; rfl
    · split at failed
      · cases failed
      · cases failed; rfl
  have threshold {t : Threshold} {failure : Failure}
      (failed : readThreshold document t = .error failure) : failure.isOfDocument = true := by
    unfold readThreshold at failed
    split at failed
    · cases failed; rfl
    · cases failed
    · cases failed
    · cases failed; rfl
  unfold ofDocument at failed
  cases read : readModifier document with
  | error other =>
      rw [read] at failed
      cases failed
      exact modifier read
  | ok m =>
      rw [read] at failed
      cases raw : PerThreshold.tabulate? (readThreshold document) with
      | error other =>
          obtain ⟨t, bad⟩ := PerThreshold.exists_of_tabulate?_error raw
          simp only [raw, bind, Except.bind] at failed
          cases failed
          exact threshold bad
      | ok values =>
          simp only [raw, bind, Except.bind] at failed
          cases failed

theorem Report.isOfDocument_of_error {path : String} {attributes : Attributes} {failure : Failure}
    (failed : Report.ofAttributes path attributes = .error failure) :
    failure.isOfDocument = true := by
  unfold ofAttributes at failed
  cases scaled : Threshold.all.mapM (scaleThreshold attributes) with
  | error other =>
      obtain ⟨t, -, bad⟩ := exists_of_mapM_error scaled
      simp only [scaled, bind, Except.bind] at failed
      cases failed
      unfold scaleThreshold at bad
      split at bad
      · cases bad
      · split at bad
        · cases bad
        · cases bad; rfl
  | ok values =>
      simp only [scaled, bind, Except.bind] at failed
      cases failed

/-- The relation holds between the calls that two lookups make, and goes from parts to wholes. -/
structure Lookup.Related (l : Lookup σ) (l' : Lookup τ)
    (R : {α : Type} → Action σ α → Action τ α → Prop) : Prop where
  reportBase : l.reportBase = l'.reportBase
  pure {α : Type} (a : α) : R (pure a : Action σ α) (pure a)
  fail {α : Type} (failure : Failure) (own : failure.isOfDocument = true) :
    R (Traced.fail failure : Action σ α) (Traced.fail failure)
  bind {α β : Type} {x : Action σ α} {y : Action τ α} {f : α → Action σ β} {g : α → Action τ β} :
    R x y → (∀ a, R (f a) (g a)) → R (x >>= f) (y >>= g)
  within {α : Type} (target : String) {x : Action σ α} {y : Action τ α} :
    R x y → R (x.relabel (Event.within target) id) (y.relabel (Event.within target) id)
  log (level : Level) (text : String) : R (log level text) (log level text)
  note (line : String) : R (l.note line) (l'.note line)
  report (r : Report) : R (l.report r) (l'.report r)
  fetch (path : String) (resource : Resource) : R (l.fetch path resource) (l'.fetch path resource)

namespace Lookup.Related

variable {l : Lookup σ} {l' : Lookup τ} {R : {α : Type} → Action σ α → Action τ α → Prop}

theorem ofExcept (related : l.Related l' R) {α : Type} {result : Except Failure α}
    (own : ∀ failure, result = .error failure → failure.isOfDocument = true) :
    R (Traced.ofExcept result : Action σ α) (Traced.ofExcept result) := by
  cases result with
  | ok a => exact related.pure a
  | error failure => exact related.fail failure (own failure rfl)

theorem collect (related : l.Related l' R) (targets : TargetSet) (index : Nat)
    (entries : List Document) :
    R (collect targets index entries) (Lookup.collect targets index entries) := by
  induction entries generalizing targets index with
  | nil => exact related.pure targets
  | cons entry rest ih =>
      simp only [Lookup.collect]
      split
      · exact related.fail _ rfl
      · exact related.fail _ rfl
      · split
        · exact ih _ _
        · exact related.bind (related.log .debug _) fun _ => ih _ _
      · exact related.fail _ rfl

theorem targetsOf (related : l.Related l' R) (document : Document) :
    R (targetsOf document) (Lookup.targetsOf document) := by
  simp only [Lookup.targetsOf]
  split
  · split
    · exact related.pure _
    · exact related.pure _
    · exact related.collect _ _ _
    · exact related.fail _ rfl
  · exact related.fail _ rfl

theorem reportPath (related : l.Related l' R) (input : String) :
    l.reportPath input = l'.reportPath input := by
  simp only [Lookup.reportPath, related.reportBase]

theorem resolve (related : l.Related l' R) (input : String) :
    R (l.resolve input) (l'.resolve input) := by
  simp only [Lookup.resolve, related.reportPath]
  split
  · exact related.pure _
  · apply related.bind (related.note _)
    intro _
    apply related.bind (related.fetch _ _)
    intro document
    exact related.bind (related.log .debug _) fun _ => related.targetsOf document

theorem reportOf (related : l.Related l' R) (path : String) (document : Document) :
    R (reportOf path document) (Lookup.reportOf path document) := by
  have warned : R (warnOfState document) (warnOfState document) := by
    simp only [warnOfState]
    split
    · exact related.log .warn _
    · exact related.pure ()
  simp only [Lookup.reportOf]
  split
  · apply related.bind warned
    intro _
    apply related.bind (related.ofExcept fun _ => Attributes.isOfDocument_of_error)
    intro attributes
    apply related.bind (related.log .debug _)
    intro _
    exact related.ofExcept fun _ => Report.isOfDocument_of_error
  · exact related.fail _ rfl

theorem fetchAndReport (related : l.Related l' R) (reference : String) :
    R (l.fetchAndReport reference) (l'.fetchAndReport reference) := by
  apply related.within
  apply related.bind (related.note _)
  intro _
  apply related.bind (related.fetch _ _)
  intro document
  apply related.bind (related.reportOf _ document)
  intro r
  exact related.bind (related.report r) fun _ => related.pure r

theorem fetchAll (related : l.Related l' R) (targets : List String) :
    R (l.fetchAll targets) (l'.fetchAll targets) := by
  induction targets with
  | nil => exact related.pure ()
  | cons target rest ih => exact related.bind (related.fetchAndReport target) fun _ => ih

theorem run (related : l.Related l' R) (input : String) : R (l.run input) (l'.run input) := by
  apply related.bind (related.resolve input)
  intro targets
  apply related.bind (related.log .debug _)
  intro _
  have warned : R (warnOfNone input targets) (warnOfNone input targets) := by
    simp only [warnOfNone]
    split
    · exact related.log .warn _
    · exact related.pure ()
  apply related.bind warned
  intro _
  exact related.bind (related.fetchAll _) fun _ => related.note _

theorem perform (related : l.Related l' R) (call : Call) : R (l.perform call) (l'.perform call) := by
  cases call with
  | run input => exact related.bind (related.run input) fun _ => related.pure _
  | resolve input =>
      simp only [Lookup.perform, map_eq_pure_bind]
      exact related.bind (related.resolve input) fun _ => related.pure _
  | report reference =>
      simp only [Lookup.perform, map_eq_pure_bind]
      exact related.bind (related.fetchAndReport reference) fun _ => related.pure _

end Lookup.Related
end SensorThresholds
