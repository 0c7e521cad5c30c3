import AsmCheck.Text.Basic

/-! Names bound to values, in the order in which the names were first bound. Binding a name again
changes its value and keeps its place. -/

set_option autoImplicit false

namespace AsmCheck

abbrev Bindings (α : Type) := List (Text × α)

namespace Bindings

variable {α : Type}

def get? (bindings : Bindings α) (name : Text) : Option α := bindings.lookup name

def names (bindings : Bindings α) : List Text := bindings.map Prod.fst

/-- Bind a name to a value made from the one it has. -/
def alter (name : Text) (change : Option α → α) : Bindings α → Bindings α
  | [] => [(name, change none)]
  | (n, a) :: rest => if n = name then (n, change (some a)) :: rest else (n, a) :: alter name change rest

def set (bindings : Bindings α) (name : Text) (value : α) : Bindings α :=
  bindings.alter name fun _ => value

def ofPairs (pairs : List (Text × α)) : Bindings α := pairs.foldl (fun b p => b.set p.1 p.2) []

end Bindings

end AsmCheck
