import TableScript.Value.Basic

set_option autoImplicit false

namespace TableScript

/-- Equal amounts of one family, the right one converted to the system of the left one. -/
def Quantity.same (a b : Quantity) : Bool :=
  a.family == b.family && a.amount == b.amountIn a.system

def Function.same (f g : Function) : Bool := f.site == g.site && f.scope == g.scope

def Schema.same {ν : Type} (s t : Schema ν) : Bool := s.id == t.id

/-- Both absent, or both the same schema. -/
def Schema.sameOption {ν : Type} : Option (Schema ν) → Option (Schema ν) → Bool
  | none, none => true
  | some s, some t => s.same t
  | _, _ => false

namespace Value

mutual

def same : Value → Value → Bool
  | .null, .null => true
  | .bool a, .bool b => a == b
  | .int a, .int b => a == b
  | .float a, .float b => a.equals b
  | .quantity a, .quantity b => a.same b
  | .text a, .text b => a == b
  | .money a, .money b => a == b
  | .array i a, .array j b => i.shared j || sameAll a b
  | .dict i ⟨a⟩, .dict j ⟨b⟩ => i.shared j || sameEntries a b
  | .table i ⟨columns, rows, binding, fromDatabase⟩, .table j other =>
    i.shared j || Schema.sameOption binding other.schema && fromDatabase == other.fromDatabase
      && columns == other.columns && sameRows rows other.rows
  | .record i ⟨binding, ⟨data⟩, errors, validated⟩, .record j other =>
    i.shared j || binding.same other.schema && validated == other.validated
      && sameRow data other.data.entries && errors.entries == other.errors.entries
  | .schema a, .schema b => a.same b
  | .function f, .function g => f.same g
  | .error a, .error b => a == b
  | _, _ => false
termination_by structural x => x

def sameAll : List Value → List Value → Bool
  | [], [] => true
  | a :: restA, b :: restB => same a b && sameAll restA restB
  | _, _ => false
termination_by structural x => x

def sameEntries : List (String × Entry Value) → List (String × Entry Value) → Bool
  | [], [] => true
  | (keyA, .ready a) :: restA, (keyB, .ready b) :: restB =>
    keyA == keyB && same a b && sameEntries restA restB
  | (keyA, .deferred a _ scopeA) :: restA, (keyB, .deferred b _ scopeB) :: restB =>
    keyA == keyB && a == b && scopeA == scopeB && sameEntries restA restB
  | _, _ => false
termination_by structural x => x

def sameRow : List (String × Value) → List (String × Value) → Bool
  | [], [] => true
  | (keyA, a) :: restA, (keyB, b) :: restB => keyA == keyB && same a b && sameRow restA restB
  | _, _ => false
termination_by structural x => x

def sameRows : List (Dictionary Value) → List (Dictionary Value) → Bool
  | [], [] => true
  | ⟨a⟩ :: restA, ⟨b⟩ :: restB => sameRow a b && sameRows restA restB
  | _, _ => false
termination_by structural x => x

end

end Value

/-- Rows with the same keys in the same order and the same values. -/
def Row.same (a b : Row) : Bool := Value.sameRow a.entries b.entries

end TableScript
