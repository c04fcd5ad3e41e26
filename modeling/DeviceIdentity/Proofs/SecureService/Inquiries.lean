import DeviceIdentity.Proofs.SecureService.Alike

/-!
# What a service is asked

A service can be put behind a clerk who notes every question it is asked, and the answer.  What is
done with the service is the same with and without the clerk, so the notes tell which questions a
step asks, in which order, and what it made of the answers.

* `Question`, `Inquiry` — a call of the service, and how it was answered.
* `SecureService.noting` — the service with the notes beside its state.
* `alike_noting` — noting changes nothing else.
* `SecureService.usual` — the service, deriving keys in the usual way.
-/

namespace DeviceIdentity

/-! ## Questions and answers -/

/-- A call of a service, with all that the service is given. -/
inductive Question where
  | deriveOctets (label : Bytes) (length : Nat)
  | importKey (id : KeyId) (usage : KeyUsage) (scalar : Bytes)
  | exportKey (id : KeyId)
  | sign (id : KeyId) (message : Bytes)
  | encodeValue (id : KeyId) (value : Single) (format : EncodeFormat)
  | deviceUuid
  | deriveKey (id : KeyId) (purpose : String) (usage : KeyUsage)
  deriving DecidableEq

namespace Question

/-- What a question is answered with, unless it fails. -/
def Reply : Question → Type
  | deriveOctets _ _ | exportKey _ | sign _ _ | encodeValue _ _ _ => Bytes
  | importKey _ _ _ | deriveKey _ _ _ => Unit
  | deviceUuid => String

/-- Whether a signature is asked for. -/
def asksSignature : Question → Bool
  | sign _ _ => true
  | _ => false

/-- Whether a key is to be imported. -/
def asksImport : Question → Bool
  | importKey _ _ _ => true
  | _ => false

end Question

/-- A question and its answer. -/
structure Inquiry where
  /-- The question. -/
  question : Question
  /-- The answer. -/
  answer : Except Failure question.Reply

namespace SecureService

variable {σ : Type} (service : SecureService σ)

/-- Asks a question. -/
def ask : (question : Question) → Action σ question.Reply
  | .deriveOctets label length => service.deriveOctets label length
  | .importKey id usage scalar => service.importKey id usage scalar
  | .exportKey id => service.exportKey id
  | .sign id message => service.sign id message
  | .encodeValue id value format => service.encodeValue id value format
  | .deviceUuid => service.deviceUuid
  | .deriveKey id purpose usage => service.deriveKey id purpose usage

/-- Asks a question, and notes it with its answer. -/
def askNoting (question : Question) : Action (σ × List Inquiry) question.Reply :=
  fun (s, inquiries) =>
    let outcome := (service.ask question).run s
    ⟨outcome.result, (outcome.state, inquiries ++ [⟨question, outcome.result⟩]), outcome.log⟩

/-- The service with a clerk who notes what it is asked and what it answers, in order. -/
def noting : SecureService (σ × List Inquiry) where
  labelSuffix p := service.labelSuffix p.1
  setLabelSuffix suffix p := (service.setLabelSuffix suffix p.1, p.2)
  deriveOctets label length := service.askNoting (.deriveOctets label length)
  importKey id usage scalar := service.askNoting (.importKey id usage scalar)
  exportKey id := service.askNoting (.exportKey id)
  sign id message := service.askNoting (.sign id message)
  encodeValue id value format := service.askNoting (.encodeValue id value format)
  deviceUuid := service.askNoting .deviceUuid
  deriveKey id purpose usage := service.askNoting (.deriveKey id purpose usage)

/-- The service, deriving keys in the usual way even if it has a way of its own. -/
def usual : SecureService σ where
  toDeriver := service.toDeriver
  setLabelSuffix := service.setLabelSuffix
  importKey := service.importKey
  exportKey := service.exportKey
  sign := service.sign
  encodeValue := service.encodeValue
  deviceUuid := service.deviceUuid

/-! ## What noting adds -/

/-- The state of a service, and the same state with notes. -/
def Noted (s : σ) (p : σ × List Inquiry) : Prop := p.1 = s

lemma relates_askNoting (question : Question) :
    (service.ask question).Relates Noted (fun _ => true) Eq Failure.SeenAlike
      (service.askNoting question) := by
  rintro s ⟨_, inquiries⟩ rfl
  exact ⟨Action.ends_self fun {e} _ => e.seenAlike_self, rfl, rfl⟩

/-- Noting changes nothing else. -/
lemma alike_noting : service.Alike Noted (fun _ => true) service.noting where
  exportKey id := service.relates_askNoting (.exportKey id)
  sign id message := service.relates_askNoting (.sign id message)
  encodeValue id value format := service.relates_askNoting (.encodeValue id value format)

end SecureService

end DeviceIdentity
