import Courier.Gateway.Reply

/-!
# How faults are answered

`faultReply` makes an HTTP reply of every fault. A service's own error object is passed on as it
came, under the service's status when that is a valid status code and 502 when not. Every other
fault is answered by its kind (404, 400, 503 or 500) in the envelope
`{success: false, error: {kind}, message}`, whose message is the fault's text when the fault is
operational and a fixed generic text when not.

The main statement (`faultReply_cases`) says this of every fault and adds what it means for the
faults of the pipeline's own parts (the broker, the status store, a provider, anything else
inside): they are exactly the faults that are not operational, and all of them get one and the
same reply, so none of their text reaches a client. A `downstream` fault is operational whatever
its status, also when the status makes its kind internal.
-/

namespace Courier

open Json

/-- Faults of the pipeline's own parts: the broker, the status store, a provider, or anything
else inside. Their text is not for clients. -/
def Fault.Confidential : Fault → Prop
  | .broker _ | .store _ | .delivery _ | .internal _ => True
  | _ => False

namespace Gateway

/-- The one reply of every confidential fault. -/
def confidentialReply : Reply :=
  { status := 500,
    body := .json (errorEnvelope (some (.object [("kind", .str "internal")])) genericMessage) }

/-- The reply of a fault that carries no error object: its kind's status, and the envelope with
the kind's name and the text a client may see. -/
def envelopeReply (f : Fault) : Reply :=
  { status := kindStatus f.kind,
    body := .json (errorEnvelope (some (.object [("kind", .str f.kind.name)]))
      (if f.isOperational then f.message else genericMessage)) }

theorem isOperational_downstream (service : String) (status : Nat) (body : Value) :
    (Fault.downstream service status body).isOperational = true := by
  unfold Fault.isOperational
  split <;> rfl

theorem isOperational_eq_false_iff (f : Fault) : f.isOperational = false ↔ f.Confidential := by
  cases f with
  | downstream service status body => simp [isOperational_downstream, Fault.Confidential]
  | _ => simp [Fault.isOperational, Fault.kind, Fault.Confidential]

theorem faultReply_downstream_obj (service : String) (status : Nat)
    (entries : List (String × Value)) :
    faultReply (.downstream service status (.obj entries)) =
      { status := if 100 ≤ status ∧ status ≤ 999 then status else 502,
        body := .json (.obj entries) } := by
  simp [faultReply, isStatusCode]

theorem faultReply_of_not_object {f : Fault}
    (h : ∀ service status entries, f ≠ .downstream service status (.obj entries)) :
    faultReply f = envelopeReply f := by
  unfold faultReply
  split
  · exact absurd rfl (h _ _ _)
  · rfl

theorem faultReply_downstream_plain (service : String) (status : Nat) (body : Value)
    (hbody : body.isObject = false) :
    faultReply (.downstream service status body) =
      { status := if status = 404 then 404
          else if status = 400 ∨ status = 422 then 400
          else if 500 ≤ status then 503 else 500,
        body := .json (errorEnvelope
          (some (.object [("kind", .str (Fault.downstream service status body).kind.name)]))
          (Fault.downstream service status body).message) } := by
  have hne : ∀ s st es, Fault.downstream service status body ≠ .downstream s st (.obj es) := by
    rintro s st es ⟨-, -, rfl⟩
    simp [Value.isObject] at hbody
  rw [faultReply_of_not_object hne, envelopeReply, isOperational_downstream, if_pos rfl]
  congr 1
  -- the kind follows the status through the same four ranges
  by_cases h404 : status = 404
  · simp [h404, Fault.kind, kindStatus]
  by_cases h4xx : status = 400 ∨ status = 422
  · rcases h4xx with rfl | rfl <;> simp [Fault.kind, kindStatus]
  by_cases h5xx : 500 ≤ status <;> simp [h404, h4xx, h5xx, Fault.kind, kindStatus]

theorem faultReply_confidential {f : Fault} (h : f.Confidential) : faultReply f = confidentialReply := by
  cases f <;> simp only [Fault.Confidential] at h
  all_goals rfl

/-- How every fault is answered. A service's error object is passed on as it came, under the
service's status when that is a status code and 502 otherwise. Any other fault is answered by its
kind in the error envelope, with its own text when it is operational and the generic text when
not. The faults that are not operational are exactly those of the pipeline's own parts, and they
all get one reply, which holds nothing of their text. -/
theorem faultReply_cases (f : Fault) :
    (∀ service status entries, f = .downstream service status (.obj entries) →
      faultReply f = { status := if 100 ≤ status ∧ status ≤ 999 then status else 502,
                       body := .json (.obj entries) }) ∧
    ((∀ service status entries, f ≠ .downstream service status (.obj entries)) →
      faultReply f =
        { status := kindStatus f.kind,
          body := .json (errorEnvelope (some (.object [("kind", .str f.kind.name)]))
            (if f.isOperational then f.message else genericMessage)) }) ∧
    (f.isOperational = false ↔ f.Confidential) ∧
    (f.Confidential → faultReply f = confidentialReply) := by
  refine ⟨?_, faultReply_of_not_object, isOperational_eq_false_iff f, faultReply_confidential⟩
  rintro service status entries rfl
  exact faultReply_downstream_obj service status entries

example : (faultReply (.downstream "users" 999 (.obj []))).status = 999 := rfl
example : (faultReply (.downstream "users" 1000 (.obj []))).status = 502 := rfl
example : (faultReply (.downstream "users" 404 (.str "gone"))).status = 404 := rfl
example : (faultReply (.downstream "users" 418 .null)).status = 500 := rfl

end Gateway

end Courier
