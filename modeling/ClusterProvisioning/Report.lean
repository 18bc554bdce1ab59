import ClusterProvisioning.Error

/-!
# Reports

An error with its history. Each layer that passes an error on puts its own error on top of it and
may pin notes to it; several failures of one operation are combined into one report.
-/

namespace ClusterProvisioning

/-- One entry of a report. -/
inductive Frame where
  | provision (error : ProvisionError)
  | gateway (error : GatewayError)
  | quantity (error : QuantityError)
  | shape (error : ShapeError)
  | number (error : NumberError)
  | note (text : String)
  deriving DecidableEq, Repr

def Frame.text : Frame → String
  | .provision e => e.message
  | .gateway e => e.message
  | .quantity e => e.message
  | .shape e => e.message
  | .number e => e.message
  | .note text => s!"@ {text}"

/-- An error that can stand in a report, with the entries that it makes there by itself. -/
class Reportable (ε : Type) where
  frames : ε → List Frame

instance : Reportable ProvisionError := ⟨fun e => [.provision e]⟩
instance : Reportable GatewayError := ⟨fun e => [.gateway e]⟩
instance : Reportable ShapeError := ⟨fun e => [.shape e]⟩

/-- A quantity whose decimal part is no number is reported above the reason why. -/
instance : Reportable QuantityError where
  frames e := match e.fault with
    | .notNumeric cause => [.quantity e, .number cause]
    | _ => [.quantity e]

/-- An error, the notes pinned above it, the latest first, and the entries below it. -/
structure Report (ε : Type) where
  notes : List String
  cause : ε
  below : List Frame
  deriving DecidableEq, Repr

namespace Report

variable {ε δ : Type}

/-- The report of an error that nothing led to. -/
def of (cause : ε) : Report ε := ⟨[], cause, []⟩

/-- The whole report, from the outermost entry to the first cause. -/
def frames [Reportable ε] (r : Report ε) : List Frame :=
  r.notes.map .note ++ Reportable.frames r.cause ++ r.below

/-- The report of an error that another report led to. -/
def above [Reportable ε] (cause : δ) (r : Report ε) : Report δ := ⟨[], cause, r.frames⟩

/-- Pins a note above a report. -/
def withNote (r : Report ε) (text : String) : Report ε := { r with notes := text :: r.notes }

/-- Combines two reports: all of the first, then all of the second. -/
def combine [Reportable ε] (r s : Report ε) : Report ε := { r with below := r.below ++ s.frames }

theorem frames_combine [Reportable ε] (r s : Report ε) :
    (r.combine s).frames = r.frames ++ s.frames := by
  simp [combine, frames]

theorem frames_withNote [Reportable ε] (r : Report ε) (text : String) :
    (r.withNote text).frames = .note text :: r.frames := by
  simp [withNote, frames]

end Report

/-- A way to write reports out, over as many lines as they take. -/
structure Rendering where
  text {ε : Type} [Reportable ε] (r : Report ε) : String

/-- Writes out nothing but the error on top. -/
def Rendering.brief : Rendering where
  text r := ((Reportable.frames r.cause).head?.map Frame.text).getD ""

/-- The answer of an operation of the provisioner that can fail. -/
abbrev Outcome (α : Type) := Except (Report ProvisionError) α

end ClusterProvisioning
