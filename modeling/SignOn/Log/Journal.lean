import SignOn.Log.Level
import SignOn.Failure.Trouble

/-!
Whether records are written, and from which level on. The first known threshold counts for good; an unknown one leaves
a journal that writes nothing until a known one comes.
-/

namespace SignOn

inductive Journal where
  | unconfigured
  | silent
  | writing (threshold : Nat)
  deriving DecidableEq

namespace Journal

/-- Sets the threshold by name. -/
def configure (j : Journal) (name : String) : Journal × Except Trouble Unit :=
  match Level.threshold? name, j with
  | some _, .writing t => (.writing t, .ok ())
  | some t, _ => (.writing t, .ok ())
  | none, .unconfigured => (.silent, .error (.broken .missingAttribute "unknown level"))
  | none, j => (j, .error (.broken .missingAttribute "unknown level"))

def writes : Journal → Level → Bool
  | .writing threshold, level => threshold ≤ level.weight
  | _, _ => false

/-- Whether a record of a level is worked on at all. A silent journal goes by the weight of a warning. -/
def works : Journal → Level → Bool
  | .unconfigured, _ => true
  | .silent, level => Level.warning.weight ≤ level.weight
  | .writing threshold, level => threshold ≤ level.weight

theorem works_of_writes {j : Journal} {l : Level} (h : j.writes l) : j.works l := by
  cases j <;> simp_all [writes, works]

/-- A threshold once set stays. -/
@[simp] theorem configure_writing (t : Nat) (name : String) : ((writing t).configure name).1 = .writing t := by
  unfold configure; split <;> simp_all

end Journal

end SignOn
