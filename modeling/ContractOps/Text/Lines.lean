/-!
# Line ends

Texts come with the line ends of several systems, and each of them counts as one line feed.
-/

namespace ContractOps.Text

/-- Every line end as a single line feed. -/
def unifyLines : List Char → List Char
  | [] => []
  | '\r' :: '\n' :: cs => '\n' :: unifyLines cs
  | '\r' :: cs => '\n' :: unifyLines cs
  | c :: cs => c :: unifyLines cs

end ContractOps.Text
