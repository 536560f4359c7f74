/-
This file models what a send helper reports for its request (`src/outcome.rs`
and `settle_on_bind` / `settle_on_esme` of `src/sends.rs`): the response, or
the reason there was none. The codec gives a timeout, a session that closed and
a failed write the same error, and `classify` tells them apart from how long
the request was out and whether its session is still registered.
-/

import Mathlib.Algebra.Order.Floor.Semiring
import SiphonSmpp.Registry

namespace SiphonSmpp

/-! ### Why there was no response -/

inductive SendFailure where
  | nack (status : SmppError)
  | timeout (timer : Duration)
  | closed
  | unanswered
  deriving DecidableEq, Repr

/-- The `reason` attribute a script reads off the exception. -/
def SendFailure.reason : SendFailure → String
  | .nack _ => "nack"
  | .timeout _ => "timeout"
  | .closed => "closed"
  | .unanswered => "unanswered"

/-- The `{:?}` rendering of a status: the name of its variant. -/
def SmppError.name (status : SmppError) : String :=
  ((smppStatusNames.find? fun entry => entry.2 == status).map Prod.fst).getD ""

/-- `Duration::as_millis`. -/
def asMillis (duration : Duration) : Nat := (duration * 1000).floor.toNat

def SendFailure.describe : SendFailure → String
  | .nack status => "peer answered generic_nack " ++ status.name ++
      " (0x" ++ hexText 8 status.code.toNat ++ ")"
  | .timeout timer => "no response within " ++ toString (asMillis timer) ++ " ms"
  | .closed => "session closed before a response arrived"
  | .unanswered => "failed without a response (the session reported " ++
      "ESME_RSYSERR: a generic_nack carrying it, a response of another type, " ++
      "or a failed write)"

/-- An `SmppSendError` with the attributes it is raised with. -/
structure SendErrorValue where
  message : String
  reason : String
  command : String
  status : Option (String × UInt32)
  deriving DecidableEq, Repr

def SendFailure.intoPyErr (failure : SendFailure) (command target : String) : SendErrorValue where
  message := target ++ " " ++ command ++ ": " ++ failure.describe
  reason := failure.reason
  command := command
  status := match failure with
    | .nack status => some (status.name, status.code)
    | _ => none

/-! ### Settling a request -/

/-- What an error from the codec means. -/
def classify (error : SmppError) (waited responseTimer : Duration) (sessionGone : Bool) :
    SendFailure :=
  if error ≠ .esmeRsyserr then .nack error
  else if responseTimer ≤ waited then .timeout responseTimer
  else if sessionGone then .closed
  else .unanswered

section Settling

variable {Response : Type}

/-- Report what came back for a request: the response, or the reason there was none. -/
def settle (sent : Except SmppError Response) (waited responseTimer : Duration)
    (sessionGone : Bool) : Except SendFailure Response :=
  match sent with
  | .ok response => .ok response
  | .error error => .error (classify error waited responseTimer sessionGone)

def settleOnBind (state : State) (target : BindTarget) (bind command : String)
    (sent : Except SmppError Response) (waited : Duration) : Except SendErrorValue Response :=
  (settle sent waited target.responseTimer (bindGone state.binds target.smsc)).mapError
    fun failure => failure.intoPyErr command ("bind " ++ debugText bind)

def settleOnEsme (state : State) (esme : Arc Esme) (responseTimer : Duration)
    (sessionId command : String) (sent : Except SmppError Response) (waited : Duration) :
    Except SendErrorValue Response :=
  (settle sent waited responseTimer (esmeGone state.esmes esme)).mapError
    fun failure => failure.intoPyErr command ("session " ++ debugText sessionId)

end Settling

/-! ### What a classification says -/

/-- An `ESME_RSYSERR` after the response timer is a timeout. -/
theorem classify_of_elapsed (waited responseTimer : Duration) (sessionGone : Bool)
    (elapsed : responseTimer ≤ waited) :
    classify .esmeRsyserr waited responseTimer sessionGone = .timeout responseTimer := by
  rw [classify, if_neg (not_not.mpr rfl), if_pos elapsed]

/-- An `ESME_RSYSERR` on a session that is gone is a close or a timeout. -/
theorem classify_of_gone (waited responseTimer : Duration) :
    classify .esmeRsyserr waited responseTimer true = .closed ∨
      classify .esmeRsyserr waited responseTimer true = .timeout responseTimer := by
  by_cases elapsed : responseTimer ≤ waited
  · exact Or.inr (classify_of_elapsed waited responseTimer true elapsed)
  · refine Or.inl ?_
    rw [classify, if_neg (not_not.mpr rfl), if_neg elapsed, if_pos rfl]

theorem SendFailure.reason_eq_unanswered_iff (failure : SendFailure) :
    failure.reason = "unanswered" ↔ failure = .unanswered := by
  cases failure with
  | nack status => simp [SendFailure.reason]
  | timeout timer => simp [SendFailure.reason]
  | closed => simp [SendFailure.reason]
  | unanswered => simp [SendFailure.reason]

/-- A failure is unanswered only before the timer and on a session that is still registered. -/
theorem classify_unanswered (error : SmppError) (waited responseTimer : Duration)
    (sessionGone : Bool)
    (unanswered : classify error waited responseTimer sessionGone = .unanswered) :
    error = .esmeRsyserr ∧ waited < responseTimer ∧ sessionGone = false := by
  unfold classify at unanswered
  split at unanswered
  · cases unanswered
  · rename_i system
    split at unanswered
    · cases unanswered
    · rename_i early
      split at unanswered
      · cases unanswered
      · rename_i present
        exact ⟨not_not.mp system, not_le.mp early, Bool.eq_false_iff.mpr present⟩

end SiphonSmpp
