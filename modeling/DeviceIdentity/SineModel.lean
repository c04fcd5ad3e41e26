import DeviceIdentity.SignedValue.Encode

/-!
# Sine models

Two models approximate the sine on one period, the range they were trained on: one answers in steps
of 1/127, the other in single precision.  What a model answers is the kind of value that a device
signs.
-/

namespace DeviceIdentity

/-- A model of the sine. -/
inductive SineModel where
  /-- Answers in steps of 1/127. -/
  | quantized
  /-- Answers in single precision. -/
  | exact
  deriving DecidableEq, Repr

namespace SineModel

/-- What the models call themselves in log records. -/
def logTarget : String := "huk_identity_core::infer"

/-- All models. -/
def all : List SineModel := [quantized, exact]

/-- The name of a model. -/
def name : SineModel → String
  | quantized => "tflm"
  | exact => "utvm"

/-- The model of a name. -/
def ofName? (name : String) : Option SineModel :=
  all.find? (·.name = name)

/-- The end of the input range: one period. -/
def range : Single := ⟨0x40C90FDB⟩

/-- The number of steps from zero to one of the quantized model. -/
def steps : Float32 := 127

/-- What a model answers to an input of the range. -/
def output (model : SineModel) (x : Single) : Single :=
  let sine := x.value.sin
  match model with
  | quantized => .ofValue ((sine * steps).round / steps)
  | exact => .ofValue sine

/-- Whether an input lies in the range. -/
def accepts (x : Single) : Bool :=
  0 ≤ x.value && x.value ≤ range.value

/-- Runs a model. -/
def infer {σ : Type} (model : SineModel) (x : Single) : Action σ Single := do
  if accepts x then
    let y := model.output x
    Action.log .debug logTarget
      (model.name ++ " inference: sin(" ++ x.text ++ ") ~ " ++ y.text)
    return y
  else
    Action.fail (.invalidInput
      ("model input " ++ x.text ++ " outside [0, " ++ range.text ++ "]"))

/-- Runs a model and has the service encode the answer into the buffer beside its state.  Returns
the answer and the number of octets written. -/
def inferInto {σ : Type} (model : SineModel) (service : SecureService σ) (x : Single)
    (format : EncodeFormat) : Action (σ × Bytes) (Single × Nat) := do
  let y ← model.infer x
  let length ← SignedValue.encodeInto service KeyId.coseSign y format
  return (y, length)

end SineModel

end DeviceIdentity
