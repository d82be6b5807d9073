import Stencil.Table

set_option autoImplicit false

namespace Stencil

/-- Bodies under the text of their directives, and how often they were asked for and stored. -/
structure Cache where
  bodies : Table Text := ∅
  asked : Nat := 0
  hits : Nat := 0
  stored : Nat := 0
deriving DecidableEq

namespace Cache

def empty : Cache where

instance : Inhabited Cache := ⟨empty⟩

def ask (cache : Cache) (key : Text) : Option Text × Cache :=
  match cache.bodies.get? key with
  | some body => (some body, { cache with asked := cache.asked + 1, hits := cache.hits + 1 })
  | none => (none, { cache with asked := cache.asked + 1 })

def store (cache : Cache) (key body : Text) : Cache :=
  { cache with bodies := cache.bodies.insert key body, stored := cache.stored + 1 }

/-- Drops every body and keeps the counts. -/
def clear (cache : Cache) : Cache := { cache with bodies := ∅ }

def size (cache : Cache) : Nat := cache.bodies.size

@[simp] theorem ask_bodies (cache : Cache) (key : Text) :
    (cache.ask key).2.bodies = cache.bodies := by
  unfold ask
  split <;> rfl

@[simp] theorem store_bodies (cache : Cache) (key body : Text) :
    (cache.store key body).bodies = cache.bodies.insert key body := rfl

end Cache

end Stencil
