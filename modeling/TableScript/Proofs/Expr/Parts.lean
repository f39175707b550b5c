import TableScript.Expr.Basic

set_option autoImplicit false

namespace TableScript.Expr

/-- The expressions that stand directly in an expression. -/
def parts : Expr → List Expr
  | .array items => items
  | .dict _ entries => entries.map (·.2)
  | .unary _ operand => [operand]
  | .binary _ left right => [left, right]
  | .index target subscript _ => [target, subscript]
  | .slice target start stop => target :: (start.toList ++ stop.toList)
  | .field target _ => [target]
  | .call callee args => callee :: args
  | .method receiver _ args => receiver :: args
  | .lambda _ _ body => [body]
  | .declare _ value _ _ => [value]
  | .assign _ value => [value]
  | .block items => items
  | .cond test thenBranch elseBranch => test :: thenBranch :: elseBranch.toList
  | _ => []

/-- No dictionary literal stands anywhere in the expression. -/
inductive DictFree : Expr → Prop
  | intro {expr : Expr} (other : ∀ site entries, expr ≠ .dict site entries)
      (each : ∀ part ∈ expr.parts, DictFree part) : DictFree expr

namespace DictFree

variable {expr : Expr}

theorem part (free : expr.DictFree) : ∀ part ∈ expr.parts, part.DictFree := by
  obtain ⟨-, each⟩ := free
  exact each

theorem leaf (other : ∀ site entries, expr ≠ .dict site entries) (none : expr.parts = []) : expr.DictFree :=
  ⟨other, by simp [none]⟩

theorem not_dict {site : Site} {entries : List (String × Expr)} : ¬ (Expr.dict site entries).DictFree := by
  rintro ⟨other, -⟩
  exact other site entries rfl

end DictFree

end TableScript.Expr
