import CommandLink.Proofs.Connection.Exchange
import CommandLink.Proofs.Connection.Lasting

/-!
# What a failure leaves behind

An operation that fails has either not begun, and the state is as it was, or it has closed the
connection. Here this is said of sending and receiving; commands and opening build on it.
-/

namespace CommandLink

variable {σ α : Type}

namespace Connection

variable {connection : Connection σ} {state next : ConnectionStatus σ} {error : LinkError}

/-- **Sending bytes** fails without having begun, or closes the connection. -/
theorem error_of_send {mode : Mode} {bytes : Bytes} {requestId : UInt32}
    (h : connection.send mode bytes requestId state = .error error next) :
    next = state ∨ next.phase = .closed := by
  rcases error_of_requireStream_bind h with hsame | ⟨-, h⟩
  · exact .inl hsame
  · exact .inr (error_of_closingOnFailure h)

/-- **Receiving a message** fails without having begun, or closes the connection. -/
theorem error_of_receive {mode : Mode} {responseTo : UInt32}
    (h : connection.receive mode responseTo state = .error error next) :
    next = state ∨ next.phase = .closed := by
  rcases error_of_requireStream_bind h with hsame | ⟨-, h⟩
  · exact .inl hsame
  · exact .inr (error_of_closingOnFailure h)

end Connection

end CommandLink
