import HintSchema.Handle.Identity
import HintSchema.Schema.Basic

/-!
The types that a derivation has come across: object types under their names, each with the identity
of the type it stands for, and scalars.
-/

namespace HintSchema

open Schema

structure RegisteredType where
  identity : Identity
  type : ObjectType

structure Registry where
  objects : List (String × RegisteredType) := []
  scalars : List String := []

namespace Registry

def objectNames (r : Registry) : List String := r.objects.map (·.1)

def object? (r : Registry) (name : String) : Option RegisteredType := r.objects.lookup name

def putObject (r : Registry) (name : String) (entry : RegisteredType) : Registry :=
  { r with objects := Pairs.put r.objects name entry }

def keepObjects (r : Registry) (names : List String) : Registry :=
  { r with objects := r.objects.filter fun p => names.contains p.1 }

def addScalar (r : Registry) (name : String) : Registry :=
  if r.scalars.contains name then r else { r with scalars := r.scalars ++ [name] }

def objectTypes (r : Registry) : List (String × ObjectType) :=
  r.objects.map fun (name, entry) => (name, entry.type)

end Registry

end HintSchema
